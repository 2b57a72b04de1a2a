import Mathlib.Data.List.Basic

/-!
# Runs of an event-driven system

A system is a step function on states and events. A run is a list of events;
`Meets` says that every event of it satisfies a condition on the state it is
applied to. What each step preserves under the condition, a run preserves.
-/

namespace Run

variable {State Event : Type} (step : State → Event → State) (allowed : State → Event → Prop)

/-- The state after a list of events. -/
def final (start : State) (events : List Event) : State := events.foldl step start

/-- Every event is allowed in the state it is applied to. -/
def Meets : State → List Event → Prop
  | _, [] => True
  | state, event :: events => allowed state event ∧ Meets (step state event) events

instance decidableMeets [∀ state event, Decidable (allowed state event)] :
    ∀ (events : List Event) (state : State), Decidable (Meets step allowed state events)
  | [], _ => isTrue trivial
  | event :: events, state =>
      have := decidableMeets events (step state event)
      inferInstanceAs (Decidable (allowed state event ∧ Meets step allowed (step state event) events))

variable {step allowed}

@[simp] theorem final_nil (start : State) : final step start [] = start := rfl

@[simp] theorem final_cons (start : State) (event : Event) (events : List Event) :
    final step start (event :: events) = final step (step start event) events := rfl

theorem final_append (start : State) (first second : List Event) :
    final step start (first ++ second) = final step (final step start first) second := by
  simp [final]

theorem Meets.mono {stronger : State → Event → Prop}
    (implies : ∀ state event, stronger state event → allowed state event) {events : List Event}
    {start : State} (meets : Meets step stronger start events) :
    Meets step allowed start events := by
  induction events generalizing start with
  | nil => trivial
  | cons event events ih => exact ⟨implies _ _ meets.1, ih meets.2⟩

theorem meets_append {start : State} {first second : List Event} :
    Meets step allowed start (first ++ second) ↔
      Meets step allowed start first ∧ Meets step allowed (final step start first) second := by
  induction first generalizing start with
  | nil => simp [Meets]
  | cons event first ih => simp [Meets, ih, and_assoc]

theorem meets_of_forall {events : List Event}
    (each : ∀ event ∈ events, ∀ state, allowed state event) (start : State) :
    Meets step allowed start events := by
  induction events generalizing start with
  | nil => trivial
  | cons event events ih =>
      exact ⟨each event List.mem_cons_self start,
        ih (fun other listed => each other (List.mem_cons_of_mem event listed)) _⟩

/-- What holds at the start and is preserved by every allowed step holds after a run. -/
theorem invariant {Inv : State → Prop}
    (preserved : ∀ state event, Inv state → allowed state event → Inv (step state event))
    {events : List Event} {start : State} (initial : Inv start)
    (meets : Meets step allowed start events) : Inv (final step start events) := by
  induction events generalizing start with
  | nil => exact initial
  | cons event events ih => exact ih (preserved _ _ initial meets.1) meets.2

/-- Every event is allowed where an invariant allows all events. -/
theorem meets_of_invariant {Inv : State → Prop} {events : List Event} {start : State}
    (initial : Inv start)
    (preserved : ∀ state event, Inv state → allowed state event → Inv (step state event))
    (allows : ∀ state event, Inv state → allowed state event) : Meets step allowed start events := by
  induction events generalizing start with
  | nil => trivial
  | cons event events ih =>
      have may := allows start event initial
      exact ⟨may, ih (preserved start event initial may)⟩

/-- What an invariant makes the same condition for every step is the same condition for runs. -/
theorem meets_iff_of_invariant {other : State → Event → Prop} (Inv : State → Prop)
    {events : List Event} {start : State} (initial : Inv start)
    (preserved : ∀ state event, Inv state → allowed state event → Inv (step state event))
    (same : ∀ state event, Inv state → (allowed state event ↔ other state event)) :
    Meets step allowed start events ↔ Meets step other start events := by
  induction events generalizing start with
  | nil => exact Iff.rfl
  | cons event events ih =>
      refine (and_congr_right fun may => ?_).trans (and_congr_left' (same start event initial))
      exact ih (preserved start event initial may)

variable (step allowed) in
/-- One state leads to another by events that are all allowed. -/
def Reaches (start after : State) : Prop :=
  ∃ events, Meets step allowed start events ∧ final step start events = after

namespace Reaches

variable {start middle after : State}

theorem refl : Reaches step allowed start start := ⟨[], trivial, rfl⟩

theorem single {event : Event} (may : allowed start event) (leads : step start event = after) :
    Reaches step allowed start after :=
  ⟨[event], ⟨may, trivial⟩, leads⟩

theorem trans (first : Reaches step allowed start middle)
    (second : Reaches step allowed middle after) : Reaches step allowed start after := by
  obtain ⟨events, meets, rfl⟩ := first
  obtain ⟨more, continues, rfl⟩ := second
  exact ⟨events ++ more, meets_append.mpr ⟨meets, continues⟩, final_append _ _ _⟩

theorem mono {weaker : State → Event → Prop} (reaches : Reaches step allowed start after)
    (implies : ∀ state event, allowed state event → weaker state event) :
    Reaches step weaker start after := by
  obtain ⟨events, meets, leads⟩ := reaches
  exact ⟨events, meets.mono implies, leads⟩

/-- A loop whose rounds are made of allowed events is made of them, whatever else it keeps. -/
theorem foldl {Acc Item : Type} (view : Acc → State) {change : Acc → Item → Acc}
    {items : List Item} (each : ∀ item ∈ items, ∀ acc,
      Reaches step allowed (view acc) (view (change acc item))) (acc : Acc) :
    Reaches step allowed (view acc) (view (items.foldl change acc)) := by
  induction items generalizing acc with
  | nil => exact refl
  | cons item items ih =>
      exact (each item List.mem_cons_self acc).trans
        (ih (fun other listed => each other (List.mem_cons_of_mem item listed)) _)

theorem invariant {Inv : State → Prop}
    (preserved : ∀ state event, Inv state → allowed state event → Inv (step state event))
    (reaches : Reaches step allowed start after) (initial : Inv start) : Inv after := by
  obtain ⟨events, meets, rfl⟩ := reaches
  exact Run.invariant preserved initial meets

/-- What no allowed event changes is the same after them. -/
theorem preserves {Value : Type*} (value : State → Value)
    (kept : ∀ state event, allowed state event → value (step state event) = value state)
    (reaches : Reaches step allowed start after) : value after = value start :=
  @invariant _ _ _ _ _ _ (fun state => value state = value start)
    (fun state event same may => (kept state event may).trans same) reaches rfl

end Reaches

end Run
