import LyuneGateway.Foundation.Realm

/-!
# The HTTP request that opens a WebSocket

The head of the request is read line by line. It must ask for the one path and
the one subprotocol of the gateway, and headers that matter may not come twice.
-/

namespace LyuneGateway.Wss

open Foundation

/-- The bytes of a text. -/
def ascii (message : String) : Bytes := message.toUTF8.toList

def path : Bytes := ascii "/lyune/v2"
def subprotocol : Bytes := ascii "lyune.v2"
def maxHttpHeadSize : Nat := 8 * 1024
def websocketGuid : Bytes := ascii "258EAFA5-E914-47DA-95CA-C5AB0DC85B11"

structure UpgradeRequest where
  key : Bytes
  origin : Option Bytes
  host : Bytes
  consumed : Nat
  deriving DecidableEq, Repr

structure OriginPolicy where
  allowed : List Bytes
  allowMissing : Bool := false

def OriginPolicy.allows (policy : OriginPolicy) (origin : Option Bytes) : Bool :=
  match origin with
  | none => policy.allowMissing
  | some value => policy.allowed.any (· = value)

inductive UpgradeError where
  | needMore
  | headerTooLarge
  | malformedRequest
  | wrongMethodOrVersion
  | wrongPath
  | missingHost
  | duplicateHost
  | missingUpgrade
  | missingConnectionUpgrade
  | missingWebSocketKey
  | duplicateWebSocketKey
  | invalidWebSocketKey
  | wrongWebSocketVersion
  | duplicateWebSocketVersion
  | missingSubprotocol
  | duplicateOrigin
  deriving DecidableEq, Repr

/-- Where an empty line ends the head. -/
def headEnd : Bytes → Option Nat
  | 13 :: 10 :: 13 :: 10 :: _ => some 0
  | [] => none
  | _ :: rest => (headEnd rest).map (· + 1)

/-- The lines between the line ends. -/
def splitLines : Bytes → List Bytes
  | [] => [[]]
  | 13 :: 10 :: rest => [] :: splitLines rest
  | byte :: rest =>
      match splitLines rest with
      | [] => [[byte]]
      | line :: lines => (byte :: line) :: lines

def isSpace (byte : UInt8) : Bool := byte = 32 || byte = 9

def trimOws (value : Bytes) : Bytes :=
  ((value.dropWhile isSpace).reverse.dropWhile isSpace).reverse

def containsToken (value expected : Bytes) : Bool :=
  (value.splitOn 44).any fun token => eqlIgnoreCase (trimOws token) expected

def isDigit (byte : UInt8) : Bool := 48 ≤ byte && byte ≤ 57

def isAlphanumeric (byte : UInt8) : Bool :=
  isDigit byte || (65 ≤ byte && byte ≤ 90) || (97 ≤ byte && byte ≤ 122)

/-- The marks that a header name may have besides letters and digits. -/
def headerMarks : Bytes := [33, 35, 36, 37, 38, 39, 42, 43, 45, 46, 94, 95, 96, 124, 126]

def validHeaderName (name : Bytes) : Bool :=
  name ≠ [] && name.all fun byte => isAlphanumeric byte || headerMarks.contains byte

def validHeaderValue (value : Bytes) : Bool :=
  value.all fun byte => !(byte = 0 || byte = 13 || byte = 10 || (byte < 32 && byte ≠ 9))

/-- The number that a character of a base64 text stands for. -/
def base64Index (byte : UInt8) : Option Nat :=
  if 65 ≤ byte ∧ byte ≤ 90 then some (byte.toNat - 65)
  else if 97 ≤ byte ∧ byte ≤ 122 then some (byte.toNat - 97 + 26)
  else if 48 ≤ byte ∧ byte ≤ 57 then some (byte.toNat - 48 + 52)
  else if byte = 43 then some 62
  else if byte = 47 then some 63
  else none

/-- The text stands for sixteen bytes: 22 characters, of the last of which only the two upper
bits count, and two signs that fill it up. -/
def validKey (key : Bytes) : Bool :=
  key.length = 24 && (key.take 22).all (fun byte => (base64Index byte).isSome) &&
    (base64Index (key.getD 21 0)).any (· % 16 = 0) && key.drop 22 = [61, 61]

/-- What the header lines have said so far. -/
structure Headers where
  host : Option Bytes := none
  key : Option Bytes := none
  origin : Option Bytes := none
  upgrade : Bool := false
  connectionUpgrade : Bool := false
  version13 : Bool := false
  versionSeen : Bool := false
  protocolMatch : Bool := false
  deriving DecidableEq, Repr

namespace Headers

def readField (headers : Headers) (name value : Bytes) : Except UpgradeError Headers :=
  if eqlIgnoreCase name (ascii "host") then
    if headers.host.isSome then .error .duplicateHost
    else .ok { headers with host := some value }
  else if eqlIgnoreCase name (ascii "upgrade") then
    .ok { headers with upgrade := headers.upgrade || containsToken value (ascii "websocket") }
  else if eqlIgnoreCase name (ascii "connection") then
    .ok { headers with
      connectionUpgrade := headers.connectionUpgrade || containsToken value (ascii "upgrade") }
  else if eqlIgnoreCase name (ascii "sec-websocket-key") then
    if headers.key.isSome then .error .duplicateWebSocketKey
    else .ok { headers with key := some value }
  else if eqlIgnoreCase name (ascii "sec-websocket-version") then
    if headers.versionSeen then .error .duplicateWebSocketVersion
    else .ok { headers with versionSeen := true, version13 := value = ascii "13" }
  else if eqlIgnoreCase name (ascii "sec-websocket-protocol") then
    .ok { headers with
      protocolMatch := headers.protocolMatch || containsToken value subprotocol }
  else if eqlIgnoreCase name (ascii "origin") then
    if headers.origin.isSome then .error .duplicateOrigin
    else .ok { headers with origin := some value }
  else .ok headers

def readLine (headers : Headers) (line : Bytes) : Except UpgradeError Headers :=
  if line = [] ∨ line.head?.any isSpace then .error .malformedRequest
  else
    match line.idxOf? 58 with
    | none => .error .malformedRequest
    | some colon =>
        let name := line.take colon
        let value := trimOws (line.drop (colon + 1))
        if validHeaderName name ∧ validHeaderValue value then headers.readField name value
        else .error .malformedRequest

/-- The request that the headers make, if they say all that it needs. -/
def request (headers : Headers) (consumed : Nat) : Except UpgradeError UpgradeRequest :=
  match headers.host with
  | none => .error .missingHost
  | some host =>
      if host = [] then .error .missingHost
      else if headers.upgrade = false then .error .missingUpgrade
      else if headers.connectionUpgrade = false then .error .missingConnectionUpgrade
      else
        match headers.key with
        | none => .error .missingWebSocketKey
        | some key =>
            if validKey key = false then .error .invalidWebSocketKey
            else if headers.version13 = false then .error .wrongWebSocketVersion
            else if headers.protocolMatch = false then .error .missingSubprotocol
            else .ok { key := key, origin := headers.origin, host := host, consumed := consumed }

end Headers

/-- The first line of the request. -/
def readRequestLine (line : Bytes) : Except UpgradeError Unit :=
  match line.splitOn 32 with
  | [method, target, httpVersion] =>
      if method ≠ ascii "GET" ∨ httpVersion ≠ ascii "HTTP/1.1" then .error .wrongMethodOrVersion
      else if target ≠ path then .error .wrongPath
      else .ok ()
  | _ => .error .malformedRequest

/-- The request at the start of what a client has sent. -/
def parseUpgrade (input : Bytes) : Except UpgradeError UpgradeRequest :=
  match headEnd input with
  | none => if maxHttpHeadSize < input.length then .error .headerTooLarge else .error .needMore
  | some finish =>
      if maxHttpHeadSize < finish + 4 then .error .headerTooLarge
      else
        match splitLines (input.take finish) with
        | requestLine :: line :: lines => do
            readRequestLine requestLine
            let headers ← (line :: lines).foldlM Headers.readLine {}
            headers.request (finish + 4)
        | _ => .error .malformedRequest

/-- The characters of a base64 text, four for every three bytes. -/
def base64Char (index : Nat) : UInt8 :=
  if index < 26 then UInt8.ofNat (65 + index)
  else if index < 52 then UInt8.ofNat (97 + (index - 26))
  else if index < 62 then UInt8.ofNat (48 + (index - 52))
  else if index = 62 then 43
  else 47

def encodeBase64 : Bytes → Bytes
  | first :: second :: third :: rest =>
      let bits := BigEndian.read [first, second, third]
      base64Char (bits / 2 ^ 18) :: base64Char (bits / 2 ^ 12 % 64) ::
        base64Char (bits / 2 ^ 6 % 64) :: base64Char (bits % 64) :: encodeBase64 rest
  | [first, second] =>
      let bits := BigEndian.read [first, second, 0]
      [base64Char (bits / 2 ^ 18), base64Char (bits / 2 ^ 12 % 64),
        base64Char (bits / 2 ^ 6 % 64), 61]
  | [first] =>
      let bits := BigEndian.read [first, 0, 0]
      [base64Char (bits / 2 ^ 18), base64Char (bits / 2 ^ 12 % 64), 61, 61]
  | [] => []

/-- The answer to a request; `sha1` is the hash function. -/
def buildUpgradeResponse (sha1 : Bytes → Bytes) (key : Bytes) : Except UpgradeError Bytes :=
  if validKey key = false then .error .invalidWebSocketKey
  else .ok (ascii "HTTP/1.1 101 Switching Protocols\r\nUpgrade: websocket\r\n" ++
    ascii "Connection: Upgrade\r\nSec-WebSocket-Accept: " ++
    encodeBase64 (sha1 (key ++ websocketGuid)) ++
    ascii "\r\nSec-WebSocket-Protocol: lyune.v2\r\n\r\n")

/-- The decimal number that digits stand for, if it fits sixteen bits. -/
def parsePort (digits : Bytes) : Option Nat :=
  if digits = [] then none
  else
    let port := digits.foldl (fun value digit => 10 * value + (digit.toNat - 48)) 0
    if port < 65536 then some port else none

/-- The host that was asked for over HTTP is the one that was asked for over TLS. -/
def hostMatchesServerName (host : Bytes) (serverName : Option Bytes) : Bool :=
  match serverName with
  | none => false
  | some expected =>
      if eqlIgnoreCase host expected then true
      else if host.length ≤ expected.length + 1 ∨ host.getD expected.length 0 ≠ 58 then false
      else if eqlIgnoreCase (host.take expected.length) expected = false then false
      else
        let portText := host.drop (expected.length + 1)
        portText.all isDigit && (parsePort portText).any (· ≠ 0)

end LyuneGateway.Wss
