import Mathlib.Data.List.Basic

/-!
# Event machines

A component that handles one event after another is given by its initial
state and by the state each event leads to.  The two rules below turn a fact
about one event into a fact about every run.
-/

namespace DpService.Foundations

universe u v

structure Machine (State : Type u) (Event : Type v) where
  init : State
  step : State → Event → State

namespace Machine

variable {State : Type u} {Event : Type v}
variable (machine : Machine State Event)

/-- The state after handling `events` one after another from `state`. -/
def runFrom (state : State) (events : List Event) : State :=
  events.foldl machine.step state

def run (events : List Event) : State :=
  machine.runFrom machine.init events

@[simp]
theorem runFrom_nil (state : State) : machine.runFrom state [] = state :=
  rfl

@[simp]
theorem runFrom_cons (state : State) (event : Event) (events : List Event) :
    machine.runFrom state (event :: events) = machine.runFrom (machine.step state event) events :=
  rfl

theorem runFrom_append (state : State) (first second : List Event) :
    machine.runFrom state (first ++ second) =
      machine.runFrom (machine.runFrom state first) second :=
  List.foldl_append

theorem run_append_singleton (events : List Event) (event : Event) :
    machine.run (events ++ [event]) = machine.step (machine.run events) event := by
  rw [run, runFrom_append]
  rfl

/-- Every event of the run is allowed in the state it is handled in. -/
def Along (Allowed : State → Event → Prop) (state : State) : List Event → Prop
  | [] => True
  | event :: events => Allowed state event ∧ Along Allowed (machine.step state event) events

def checkAlong (check : State → Event → Bool) (state : State) : List Event → Bool
  | [] => true
  | event :: events => check state event && checkAlong check (machine.step state event) events

variable {machine}

theorem along_of_check {Allowed : State → Event → Prop} {check : State → Event → Bool}
    (sound : ∀ state event, check state event = true → Allowed state event) {state : State}
    {events : List Event} (checked : machine.checkAlong check state events = true) :
    machine.Along Allowed state events := by
  induction events generalizing state with
  | nil => trivial
  | cons event rest ih =>
    rw [checkAlong, Bool.and_eq_true] at checked
    exact ⟨sound state event checked.1, ih checked.2⟩

theorem along_append {Allowed : State → Event → Prop} {state : State}
    {first second : List Event} (before : machine.Along Allowed state first)
    (after : machine.Along Allowed (machine.runFrom state first) second) :
    machine.Along Allowed state (first ++ second) := by
  induction first generalizing state with
  | nil => exact after
  | cons event rest ih =>
    exact ⟨before.1, ih before.2 after⟩

/-- What every event preserves in the states that allow it is preserved by
every run of such events. -/
theorem runFrom_invariant_along {Invariant : State → Prop} {Allowed : State → Event → Prop}
    (preserved : ∀ state event,
      Allowed state event → Invariant state → Invariant (machine.step state event))
    {state : State} (events : List Event)
    (allowed : machine.Along Allowed state events)
    (holds : Invariant state) :
    Invariant (machine.runFrom state events) := by
  induction events generalizing state with
  | nil => exact holds
  | cons event rest ih =>
    exact ih allowed.2 (preserved state event allowed.1 holds)

/-- What every event allowed by `Allowed` preserves is preserved by every run
of such events. -/
theorem runFrom_invariant_of {Invariant : State → Prop} {Allowed : Event → Prop}
    (preserved : ∀ state event,
      Allowed event → Invariant state → Invariant (machine.step state event))
    {state : State} (events : List Event)
    (allowed : ∀ event ∈ events, Allowed event)
    (holds : Invariant state) :
    Invariant (machine.runFrom state events) := by
  induction events generalizing state with
  | nil => exact holds
  | cons event rest ih =>
    have restAllowed : ∀ later ∈ rest, Allowed later :=
      fun later member => allowed later (List.mem_cons_of_mem _ member)
    exact ih restAllowed (preserved state event (allowed event List.mem_cons_self) holds)

/-- What holds initially and is preserved by every event holds after every
run. -/
theorem run_invariant {Invariant : State → Prop} (initially : Invariant machine.init)
    (preserved : ∀ state event, Invariant state → Invariant (machine.step state event))
    (events : List Event) :
    Invariant (machine.run events) := by
  have always : ∀ state event, True → Invariant state → Invariant (machine.step state event) :=
    fun state event _ => preserved state event
  exact runFrom_invariant_of always events (fun _ _ => trivial) initially

end Machine

end DpService.Foundations
