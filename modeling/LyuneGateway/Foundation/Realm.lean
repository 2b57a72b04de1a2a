import LyuneGateway.Lib.Slab
import LyuneGateway.Protocol.Frame

/-!
# Realms

The name that a client asks for decides the realm of its connection. Names are
compared without regard to case. The table of names only grows while the gateway
runs.
-/

namespace LyuneGateway.Foundation

def defaultRealm : RealmId := 0

def toLower (byte : UInt8) : UInt8 := if 65 ≤ byte ∧ byte ≤ 90 then byte + 32 else byte

def eqlIgnoreCase (name other : Bytes) : Bool := name.map toLower = other.map toLower

inductive RealmError where
  | tableFull
  | duplicateName
  | singleRealmDeployment
  deriving DecidableEq, Repr

structure RealmEntry where
  sni : Bytes := []
  realm : RealmId := 0
  deriving DecidableEq, Repr

/-- `fallback` is the realm of every name that is not registered; without one they are refused. -/
structure RealmTable where
  slab : Slab RealmEntry
  fallback : Option RealmId := some defaultRealm

namespace RealmTable

def entries (table : RealmTable) : List RealmEntry := table.slab.entries

/-- The realm that a name is registered for. -/
def findRealm (table : RealmTable) (name : Bytes) : Option RealmId :=
  (table.entries.find? fun entry => eqlIgnoreCase entry.sni name).map RealmEntry.realm

def resolve (table : RealmTable) (sni : Option Bytes) : Option RealmId :=
  match sni with
  | none => table.fallback
  | some name => (table.findRealm name).or table.fallback

/-- The states that the table is in while an entry is stored: its name, its realm, the length. -/
def stores (table : RealmTable) (sni : Bytes) (realm : RealmId) : List RealmTable :=
  let slot := table.slab.slots.getD table.slab.len {}
  [{ table with slab := table.slab.write { slot with sni := sni } },
    { table with slab := table.slab.write { sni := sni, realm := realm } },
    { table with slab := table.slab.push { sni := sni, realm := realm } }]

/-- Add a name; a gateway that was started for a single realm takes none. -/
def register (table : RealmTable) (sni : Bytes) (realm : RealmId) : Except RealmError RealmTable :=
  if table.fallback.isSome then .error .singleRealmDeployment
  else if table.entries.any fun entry => eqlIgnoreCase entry.sni sni then .error .duplicateName
  else if table.slab.full then .error .tableFull
  else .ok { table with slab := table.slab.push { sni := sni, realm := realm } }

end RealmTable

end LyuneGateway.Foundation
