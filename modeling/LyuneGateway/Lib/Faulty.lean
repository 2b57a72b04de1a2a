import Mathlib.Data.List.Basic

/-!
# Computations that may fail or trap

A computation on a state ends with a value, with an error that leaves the state
as it has become, or in a trap, which ends everything. What a computation keeps
follows from the way it is put together.
-/

inductive Outcome (ε σ α : Type) where
  | done (value : α) (state : σ)
  | failed (state : σ)
  | trapped (fault : ε)

/-- The state that a computation leaves behind. -/
def Outcome.state? {ε σ α : Type} : Outcome ε σ α → Option σ
  | .done _ state => some state
  | .failed state => some state
  | .trapped _ => none

/-- The outcome is a value and a state of which `after` holds, an error and a state of which `error`
holds, or a trap whose fault `trap` holds of. -/
def Outcome.Meets {ε σ α : Type} (trap : ε → Prop) (after : α → σ → Prop) (error : σ → Prop) :
    Outcome ε σ α → Prop
  | .done value state => after value state
  | .failed state => error state
  | .trapped fault => trap fault

/-- The fault that a computation has trapped with. -/
def Outcome.fault? {ε σ α : Type} : Outcome ε σ α → Option ε
  | .trapped fault => some fault
  | _ => none

/-- What holds after a value and after an error holds of the state that is left behind. -/
theorem Outcome.Meets.leaves {ε σ α : Type} {trap : ε → Prop} {holds : σ → Prop}
    {result : Outcome ε σ α} {state : σ} (meets : result.Meets trap (fun _ => holds) holds)
    (ends : result.state? = some state) : holds state := by
  cases result with
  | done value next =>
      cases ends
      exact meets
  | failed next =>
      cases ends
      exact meets
  | trapped fault => cases ends

def Faulty (ε σ α : Type) : Type := σ → Outcome ε σ α

namespace Faulty

variable {ε σ τ α β ι : Type}

instance : Monad (Faulty ε σ) where
  pure value := fun state => .done value state
  bind act next := fun state =>
    match act state with
    | .done value state => next value state
    | .failed state => .failed state
    | .trapped fault => .trapped fault

/-- The whole state. -/
def self : Faulty ε σ σ := fun state => .done state state

/-- What the state holds. -/
def read (view : σ → α) : Faulty ε σ α := fun state => .done (view state) state

def modify (change : σ → σ) : Faulty ε σ Unit := fun state => .done () (change state)

def fail : Faulty ε σ α := fun state => .failed state

/-- Go on only if the condition holds, and trap otherwise. -/
def require (fault : ε) (fits : Prop) [Decidable fits] : Faulty ε σ Unit := fun state =>
  if fits then .done () state else .trapped fault

def trap (fault : ε) : Faulty ε σ α := fun _ => .trapped fault

/-- Do something only if the condition holds. -/
def when (test : Prop) [Decidable test] (act : Faulty ε σ Unit) : Faulty ε σ Unit :=
  if test then act else pure ()

/-- Do something to a part of the state. -/
def zoom (view : σ → τ) (put : τ → σ → σ) (act : Faulty ε τ α) : Faulty ε σ α := fun state =>
  match act (view state) with
  | .done value part => .done value (put part state)
  | .failed part => .failed (put part state)
  | .trapped fault => .trapped fault

/-- Do something for every item of a list, until it fails. -/
def each (act : ι → Faulty ε σ Unit) : List ι → Faulty ε σ Unit
  | [] => pure ()
  | item :: items => do
      act item
      each act items

section Evaluation

variable {act other : Faulty ε σ α} {next : α → Faulty ε σ β} {state middle : σ}

theorem bind_done {value : α} (answer : act state = .done value middle) :
    (act >>= next) state = next value middle := by
  simp only [bind, answer]

/-- What is done in two parts is done in the first and then in the second. -/
theorem of_bind_done {value : β} {after : σ} (answer : (act >>= next) state = .done value after) :
    ∃ first middle, act state = .done first middle ∧ next first middle = .done value after := by
  simp only [bind] at answer
  cases begins : act state with
  | done first middle => exact ⟨first, middle, rfl, by rwa [begins] at answer⟩
  | failed middle =>
      rw [begins] at answer
      cases answer
  | trapped fault =>
      rw [begins] at answer
      cases answer

theorem pure_apply {value : α} : (pure value : Faulty ε σ α) state = .done value state := rfl

theorem self_bind {next : σ → Faulty ε σ β} : (self >>= next) state = next state state := rfl

theorem read_bind {view : σ → α} : (read view >>= next) state = next (view state) state := rfl

theorem modify_bind {change : σ → σ} {next : Unit → Faulty ε σ β} :
    (modify change >>= next) state = next () (change state) := rfl

theorem modify_apply {change : σ → σ} :
    (modify change : Faulty ε σ Unit) state = .done () (change state) := rfl

theorem require_bind {fault : ε} {fits : Prop} [Decidable fits] {next : Unit → Faulty ε σ β}
    (holds : fits) : (require fault fits >>= next) state = next () state :=
  bind_done (if_pos holds)

theorem ite_pos {test : Prop} [Decidable test] (holds : test) :
    (if test then act else other) state = act state := by
  rw [if_pos holds]

theorem ite_neg {test : Prop} [Decidable test] (fails : ¬ test) :
    (if test then act else other) state = other state := by
  rw [if_neg fails]

theorem when_bind {test : Prop} [Decidable test] {act : Faulty ε σ Unit}
    {next : Unit → Faulty ε σ β} (middle : σ) (yes : test → act state = .done () middle)
    (no : ¬ test → middle = state) : (when test act >>= next) state = next () middle := by
  by_cases holds : test
  · exact bind_done ((ite_pos holds).trans (yes holds))
  · rw [no holds]
    exact bind_done (ite_neg holds)

end Evaluation

section Meets

variable {trap : ε → Prop} {act other : Faulty ε σ α} {state : σ} {after middle : α → σ → Prop}
  {error : σ → Prop}

/-- The second computation may rely on what the first one has answered. -/
theorem meets_then {next : α → Faulty ε σ β} {last : β → σ → Prop}
    (first : (act state).Meets trap middle error)
    (then_ : ∀ value after, act state = .done value after → middle value after →
      (next value after).Meets trap last error) :
    ((act >>= next) state).Meets trap last error := by
  simp only [Bind.bind]
  cases answer : act state with
  | done value after =>
      rw [answer] at first
      exact then_ value after answer first
  | failed after => rwa [answer] at first
  | trapped fault => rwa [answer] at first

theorem meets_bind {next : α → Faulty ε σ β} {last : β → σ → Prop}
    (first : (act state).Meets trap middle error)
    (then_ : ∀ value state, middle value state → (next value state).Meets trap last error) :
    ((act >>= next) state).Meets trap last error :=
  meets_then first fun value after _ => then_ value after

theorem meets_mono {after' : α → σ → Prop} {error' : σ → Prop} {trap' : ε → Prop}
    (first : (act state).Meets trap after error)
    (ends : ∀ value state, after value state → after' value state)
    (fails : ∀ state, error state → error' state) (traps : ∀ fault, trap fault → trap' fault) :
    (act state).Meets trap' after' error' := by
  cases answer : act state with
  | done value state =>
      rw [answer] at first
      exact ends value state first
  | failed state =>
      rw [answer] at first
      exact fails state first
  | trapped fault =>
      rw [answer] at first
      exact traps fault first

/-- What does not fail meets any condition on failures. -/
theorem meets_sure (first : (act state).Meets trap after fun _ => False) :
    (act state).Meets trap after error :=
  meets_mono first (fun _ _ => id) (fun _ => False.elim) fun _ => id

/-- What a computation meets in two respects, it meets in both. -/
theorem meets_and {after' : α → σ → Prop} {error' : σ → Prop} {trap' : ε → Prop}
    (one : (act state).Meets trap after error) (two : (act state).Meets trap' after' error') :
    (act state).Meets trap (fun value state => after value state ∧ after' value state)
      fun state => error state ∧ error' state := by
  cases answer : act state with
  | done value state =>
      rw [answer] at one two
      exact ⟨one, two⟩
  | failed state =>
      rw [answer] at one two
      exact ⟨one, two⟩
  | trapped fault =>
      rw [answer] at one
      exact one

theorem meets_require {fault : ε} {fits : Prop} [Decidable fits] {next : Unit → Faulty ε σ β}
    {last : β → σ → Prop} (safe : trap fault ∨ fits)
    (then_ : fits → (next () state).Meets trap last error) :
    ((require fault fits >>= next) state).Meets trap last error := by
  by_cases holds : fits
  · rw [require_bind holds]
    exact then_ holds
  · have stops : (require fault fits : Faulty ε σ Unit) state = .trapped fault := if_neg holds
    simp only [Bind.bind, stops]
    exact safe.resolve_right holds

theorem meets_ite {test : Prop} [Decidable test]
    (yes : test → (act state).Meets trap after error)
    (no : ¬ test → (other state).Meets trap after error) :
    ((if test then act else other) state).Meets trap after error := by
  split
  · exact yes ‹_›
  · exact no ‹_›

theorem meets_when {test : Prop} [Decidable test] {act : Faulty ε σ Unit}
    {after : Unit → σ → Prop} (yes : test → (act state).Meets trap after error)
    (no : ¬ test → after () state) : ((when test act) state).Meets trap after error :=
  meets_ite yes no

end Meets

/-- The computation keeps a condition however it ends. -/
def Keeps (trap : ε → Prop) (holds : σ → Prop) (act : Faulty ε σ α) : Prop :=
  ∀ state, holds state → (act state).Meets trap (fun _ => holds) holds

namespace Keeps

variable {trap : ε → Prop} {holds : σ → Prop} {act other : Faulty ε σ α}

theorem of_done {value : α} {state after : σ} (keeps : Keeps trap holds act) (start : holds state)
    (answer : act state = .done value after) : holds after := by
  have kept := keeps state start
  rwa [answer] at kept

theorem pure {value : α} : Keeps trap holds (Pure.pure value : Faulty ε σ α) :=
  fun _ start => start

theorem self : Keeps trap holds (Faulty.self : Faulty ε σ σ) := fun _ start => start

theorem read {view : σ → α} : Keeps trap holds (Faulty.read view : Faulty ε σ α) :=
  fun _ start => start

theorem fail : Keeps trap holds (Faulty.fail : Faulty ε σ α) := fun _ start => start

theorem modify {change : σ → σ} (kept : ∀ state, holds state → holds (change state)) :
    Keeps trap holds (Faulty.modify change : Faulty ε σ Unit) := kept

theorem bind {next : α → Faulty ε σ β} (first : Keeps trap holds act)
    (then_ : ∀ value, Keeps trap holds (next value)) : Keeps trap holds (act >>= next) :=
  fun state start => meets_bind (first state start) then_

theorem require {fault : ε} {fits : Prop} [Decidable fits] (safe : trap fault ∨ fits) :
    Keeps trap holds (Faulty.require fault fits : Faulty ε σ Unit) := by
  intro state start
  unfold Faulty.require
  by_cases fit : fits
  · rw [if_pos fit]
    exact start
  · rw [if_neg fit]
    exact safe.resolve_right fit

theorem ite {test : Prop} [Decidable test] (yes : test → Keeps trap holds act)
    (no : ¬ test → Keeps trap holds other) : Keeps trap holds (if test then act else other) :=
  fun state start => meets_ite (fun test => yes test state start) (fun test => no test state start)

theorem when {test : Prop} [Decidable test] {act : Faulty ε σ Unit}
    (yes : test → Keeps trap holds act) : Keeps trap holds (Faulty.when test act) :=
  ite yes fun _ => pure

/-- What every round of a loop keeps, the loop keeps. -/
theorem each {act : ι → Faulty ε σ Unit} {items : List ι}
    (round : ∀ item ∈ items, Keeps trap holds (act item)) :
    Keeps trap holds (Faulty.each act items) := by
  induction items with
  | nil => exact pure
  | cons item items ih =>
      apply bind (round item List.mem_cons_self)
      intro _
      exact ih fun other listed => round other (List.mem_cons_of_mem item listed)

end Keeps

/-- In the state where its turn comes, every item of a loop meets a condition. -/
def Turns (needs : ι → σ → Prop) (act : ι → Faulty ε σ Unit) : List ι → σ → Prop
  | [], _ => True
  | item :: items, state =>
      needs item state ∧ ∀ next, act item state = .done () next → Turns needs act items next

theorem Turns.and {needs others : ι → σ → Prop} {act : ι → Faulty ε σ Unit} {items : List ι}
    {state : σ} (one : Turns needs act items state) (two : Turns others act items state) :
    Turns (fun item state => needs item state ∧ others item state) act items state := by
  induction items generalizing state with
  | nil => trivial
  | cons item items ih =>
      exact ⟨⟨one.1, two.1⟩, fun next answer => ih (one.2 next answer) (two.2 next answer)⟩

theorem Turns.mono {needs weaker : ι → σ → Prop} {act : ι → Faulty ε σ Unit} {items : List ι}
    {state : σ} (turns : Turns needs act items state)
    (implies : ∀ item state, needs item state → weaker item state) :
    Turns weaker act items state := by
  induction items generalizing state with
  | nil => trivial
  | cons item items ih =>
      exact ⟨implies item state turns.1, fun next answer => ih (turns.2 next answer)⟩

/-- A loop keeps what its rounds keep under the condition that they meet in their turn. -/
theorem each_meets {trap : ε → Prop} {holds : σ → Prop} {needs : ι → σ → Prop}
    {act : ι → Faulty ε σ Unit} {items : List ι}
    (round : ∀ item ∈ items, ∀ state, holds state → needs item state →
      (act item state).Meets trap (fun _ => holds) holds)
    {state : σ} (start : holds state) (turns : Turns needs act items state) :
    (each act items state).Meets trap (fun _ => holds) holds := by
  induction items generalizing state with
  | nil => exact start
  | cons item items ih =>
      have first := round item List.mem_cons_self state start turns.1
      simp only [each, bind]
      cases answer : act item state with
      | done value next =>
          rw [answer] at first
          apply ih
          · intro other listed
            exact round other (List.mem_cons_of_mem item listed)
          · exact first
          · exact turns.2 next answer
      | failed next => rwa [answer] at first
      | trapped fault => rwa [answer] at first

/-- What follows from a computation being done is checked on its value and state. -/
instance decidableDone {result : Outcome ε σ α} {needs : α → σ → Prop}
    [∀ value state, Decidable (needs value state)] :
    Decidable (∀ value next, result = .done value next → needs value next) :=
  match result with
  | .done value state =>
      decidable_of_iff (needs value state) ⟨fun yes => by rintro _ _ ⟨⟩; exact yes,
        fun all => all value state rfl⟩
  | .failed _ => isTrue fun _ _ answer => by cases answer
  | .trapped _ => isTrue fun _ _ answer => by cases answer

instance decidableDoneUnit {result : Outcome ε σ Unit} {needs : σ → Prop}
    [∀ state, Decidable (needs state)] :
    Decidable (∀ next, result = .done () next → needs next) :=
  decidable_of_iff (∀ value next, result = .done value next → needs next)
    ⟨fun all next => all () next, fun all _ => all⟩

instance decidableTurns {needs : ι → σ → Prop} {act : ι → Faulty ε σ Unit}
    [∀ item state, Decidable (needs item state)] :
    ∀ (items : List ι) (state : σ), Decidable (Turns needs act items state)
  | [], _ => isTrue trivial
  | item :: items, state =>
      have : ∀ state, Decidable (Turns needs act items state) := decidableTurns items
      inferInstanceAs (Decidable (needs item state ∧ ∀ next, act item state = .done () next →
        Turns needs act items next))

/-- As `decidableDone`, where nothing needs to follow if no value is found. -/
instance decidableFound {result : Outcome ε σ (Option α)} {needs : α → σ → Prop}
    [∀ value state, Decidable (needs value state)] :
    Decidable (∀ value next, result = .done (some value) next → needs value next) :=
  decidable_of_iff (∀ found next, result = .done found next → ∀ value ∈ found, needs value next)
    ⟨fun all value next answer => all (some value) next answer value rfl,
      fun all _ next answer value found => all value next (found ▸ answer)⟩

end Faulty
