import Mathlib.Data.List.Nodup
import Mathlib.Data.Set.Basic

/-!
# Spreading without meeting twice

Something is spread over places by tokens, each of which is meant for a region.
A token is taken up at one place of its region, and whoever takes it up may send
on further tokens for parts of the rest. Tokens that share out an area between
them then reach no place twice, whatever order they are taken up in and whichever
of them get lost.
-/

namespace Spreading

variable {Place Token : Type} {region : Token → Set Place}

variable (region) in
/-- The tokens are meant for separate parts of an area. -/
structure Shares (area : Set Place) (tokens : List Token) : Prop where
  within : ∀ token ∈ tokens, region token ⊆ area
  apart : tokens.Pairwise fun token other => ∀ place ∈ region token, place ∉ region other

namespace Shares

variable {area other : Set Place} {tokens more : List Token}

theorem nil : Shares region area [] := ⟨by simp, .nil⟩

theorem mono (shares : Shares region area tokens) (wider : area ⊆ other) :
    Shares region other tokens :=
  ⟨fun token listed => (shares.within token listed).trans wider, shares.apart⟩

theorem sublist (shares : Shares region area tokens) (fewer : more.Sublist tokens) :
    Shares region area more :=
  ⟨fun token listed => shares.within token (fewer.subset listed), shares.apart.sublist fewer⟩

theorem append (shares : Shares region area tokens) (also : Shares region other more)
    (separate : ∀ place ∈ area, place ∉ other) : Shares region (area ∪ other) (tokens ++ more) where
  within token listed := by
    obtain first | second := List.mem_append.mp listed
    · exact (shares.within token first).trans Set.subset_union_left
    · exact (also.within token second).trans Set.subset_union_right
  apart := by
    refine List.pairwise_append.mpr ⟨shares.apart, also.apart, fun token first other second => ?_⟩
    exact fun place inside outside => separate place (shares.within token first inside)
      (also.within other second outside)

/-- One token for each of several items, whose regions are separate. -/
theorem map {Item : Type} {items : List Item} {token : Item → Token} (once : items.Nodup)
    (within : ∀ item ∈ items, region (token item) ⊆ area)
    (separate : ∀ item other, item ≠ other →
      ∀ place ∈ region (token item), place ∉ region (token other)) :
    Shares region area (items.map token) where
  within _ listed := by
    obtain ⟨item, chosen, rfl⟩ := List.mem_map.mp listed
    exact within item chosen
  apart := List.pairwise_map.mpr (once.imp fun distinct => separate _ _ distinct)

/-- The other tokens have nothing to do in the region of one of them. -/
theorem erase [DecidableEq Token] (shares : Shares region area tokens) {token : Token}
    (listed : token ∈ tokens) : Shares region (area \ region token) (tokens.erase token) where
  within other left := by
    have symmetric {token other : Token} (apart : ∀ place ∈ region token, place ∉ region other) :
        ∀ place ∈ region other, place ∉ region token :=
      fun place inside also => apart place also inside
    have apart : (token :: tokens.erase token).Pairwise fun token other =>
        ∀ place ∈ region token, place ∉ region other :=
      ((List.perm_cons_erase listed).pairwise_iff symmetric).mp shares.apart
    intro place inside
    exact ⟨shares.within other (List.mem_of_mem_erase left) inside,
      fun also => (List.pairwise_cons.mp apart).1 other left place also inside⟩
  apart := shares.apart.sublist List.erase_sublist

end Shares

variable (region) in
/-- No place has been reached twice, and no token is still meant for one that has. -/
structure Once (underway : List Token) (reached : List Place) : Prop where
  ahead : Shares region {place | place ∉ reached} underway
  once : reached.Nodup

namespace Once

variable {underway more : List Token} {reached : List Place}

theorem start {origin : Place} (shares : Shares region {place | place ≠ origin} underway) :
    Once region underway [origin] where
  ahead := shares.mono fun place other => by simpa using other
  once := List.nodup_singleton origin

theorem lose [DecidableEq Token] (once : Once region underway reached) (token : Token) :
    Once region (underway.erase token) reached :=
  ⟨once.ahead.sublist List.erase_sublist, once.once⟩

/-- A token is taken up at a place, which sends on tokens for the rest of the region. -/
theorem take [DecidableEq Token] (once : Once region underway reached) {token : Token}
    {place : Place} (listed : token ∈ underway) (meant : place ∈ region token)
    (shares : Shares region (region token \ {place}) more) :
    Once region (underway.erase token ++ more) (reached ++ [place]) where
  ahead := by
    refine ((once.ahead.erase listed).append shares ?_).mono ?_
    · exact fun _ outside inside => outside.2 inside.1
    · rintro other (⟨unreached, outside⟩ | ⟨inside, elsewhere⟩) reaches
      · obtain earlier | here := List.mem_append.mp reaches
        · exact unreached earlier
        · exact outside (List.mem_singleton.mp here ▸ meant)
      · obtain earlier | here := List.mem_append.mp reaches
        · exact once.ahead.within token listed inside earlier
        · exact elsewhere (List.mem_singleton.mp here)
  once := by
    refine List.nodup_append.mpr ⟨once.once, List.nodup_singleton place, ?_⟩
    rintro earlier listed_ _ here rfl
    obtain rfl := List.mem_singleton.mp here
    exact once.ahead.within token listed meant listed_

end Once

end Spreading
