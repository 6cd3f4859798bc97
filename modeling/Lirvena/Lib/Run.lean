import Mathlib.Data.List.Infix

/-!
# Runs of a deterministic machine with outputs

A `Machine` takes one input at a time, moves to a new state and answers with an
output.  A *run* is the state after a list of inputs, a *trace* is the list of
inputs paired with the answers they received.  This file supplies the
inductions that every run result of the development goes through:

* `invariant_run` — a predicate kept by every step holds after every run;
* `history_run` — a relation between the trace so far and the current state;
* `invariant_guarded_run`, `history_guarded_run` — the same, when only the steps
  that satisfy a guard are known to keep them;
* `log_run` — the same, where the answers are lists that make up a log;
* `run_filterMap` — a machine that works by another machine's operations;
* `guarded_congr` — two guards that agree under an invariant;
* `forall_trace_iff_guarded` — a property of the answers that the guard decides;
* `property_trace_iff_guarded` — a property of the trace that each step keeps exactly if it
  is guarded;
* `exists_first_violation` — a run that is not guarded breaks the guard first
  somewhere;
* `forall_reached_iff_guarded` — a property of the states that the guard decides;
* `EachStep.concat` — a log that grows by events that are as they should be.
-/

namespace Lirvena
namespace Lib

/-- A deterministic machine: the step function returns the next state and the
answer to the input. -/
structure Machine (State Input Output : Type*) where
  step : State → Input → State × Output

namespace Machine

variable {State Input Output : Type*} (machine : Machine State Input Output)

/-- The state after a list of inputs. -/
def run (start : State) : List Input → State
  | [] => start
  | input :: rest => run (machine.step start input).1 rest

/-- The inputs of a run paired with the answers they received, oldest first. -/
def trace (start : State) : List Input → List (Input × Output)
  | [] => []
  | input :: rest =>
      (input, (machine.step start input).2) :: trace (machine.step start input).1 rest

/-- Every step of the run satisfies the guard in the state it is taken from. -/
def Guarded (guard : State → Input → Prop) (start : State) : List Input → Prop
  | [] => True
  | input :: rest =>
      guard start input ∧ Guarded guard (machine.step start input).1 rest

@[simp] theorem run_nil (start : State) : machine.run start [] = start := rfl

@[simp] theorem run_cons (start : State) (input : Input) (rest : List Input) :
    machine.run start (input :: rest) =
      machine.run (machine.step start input).1 rest := rfl

@[simp] theorem trace_nil (start : State) : machine.trace start [] = [] := rfl

@[simp] theorem trace_cons (start : State) (input : Input) (rest : List Input) :
    machine.trace start (input :: rest) =
      (input, (machine.step start input).2) ::
        machine.trace (machine.step start input).1 rest := rfl

theorem run_append (start : State) (first second : List Input) :
    machine.run start (first ++ second) =
      machine.run (machine.run start first) second := by
  induction first generalizing start with
  | nil => rfl
  | cons input rest ih => simp [ih]

theorem trace_append (start : State) (first second : List Input) :
    machine.trace start (first ++ second) =
      machine.trace start first ++
        machine.trace (machine.run start first) second := by
  induction first generalizing start with
  | nil => rfl
  | cons input rest ih => simp [ih]

/-- A machine whose inputs are operations of another machine, or change nothing, runs where
the other one does. -/
theorem run_filterMap {Op Answer : Type*} {other : Machine State Op Answer}
    {operation : Input → Option Op}
    (hstep : ∀ state input, (machine.step state input).1 =
      (operation input).elim state fun op => (other.step state op).1)
    (start : State) (inputs : List Input) :
    machine.run start inputs = other.run start (inputs.filterMap operation) := by
  induction inputs generalizing start with
  | nil => rfl
  | cons input rest ih =>
      rw [run_cons, ih, hstep]
      cases hop : operation input with
      | none =>
          rw [List.filterMap_cons_none hop]
          rfl
      | some op =>
          rw [List.filterMap_cons_some hop]
          rfl

/-- A guarded run can be cut at any prefix. -/
theorem Guarded.of_append {guard : State → Input → Prop} {start : State}
    {first second : List Input}
    (hguarded : machine.Guarded guard start (first ++ second)) :
    machine.Guarded guard start first := by
  induction first generalizing start with
  | nil => trivial
  | cons input rest ih => exact ⟨hguarded.1, ih hguarded.2⟩

theorem guarded_append_singleton {guard : State → Input → Prop} {start : State}
    {inputs : List Input} {input : Input} :
    machine.Guarded guard start (inputs ++ [input]) ↔
      machine.Guarded guard start inputs ∧ guard (machine.run start inputs) input := by
  induction inputs generalizing start with
  | nil => simp [Guarded]
  | cons head rest ih => simp [Guarded, ih, and_assoc]

/-- A predicate that every step keeps holds after every run. -/
theorem invariant_run {invariant : State → Prop} {start : State}
    (hstart : invariant start)
    (hstep : ∀ state input, invariant state → invariant (machine.step state input).1)
    (inputs : List Input) :
    invariant (machine.run start inputs) := by
  induction inputs generalizing start with
  | nil => exact hstart
  | cons input rest ih => exact ih (hstep start input hstart)

/-- A predicate that every guarded step keeps holds in every state that a
guarded run reaches. -/
theorem invariant_guarded_run {invariant : State → Prop}
    {guard : State → Input → Prop} {start : State}
    (hstart : invariant start)
    (hstep : ∀ state input, invariant state → guard state input →
      invariant (machine.step state input).1)
    {inputs : List Input} (hguarded : machine.Guarded guard start inputs)
    {reached : List Input} (hreached : reached <+: inputs) :
    invariant (machine.run start reached) := by
  obtain ⟨rest, rfl⟩ := hreached
  have hcut := Guarded.of_append machine hguarded
  clear hguarded
  induction reached generalizing start with
  | nil => exact hstart
  | cons input tail ih =>
      exact ih (hstep start input hstart hcut.1) hcut.2

/-- A relation between the trace so far and the state, kept by every step,
holds after every run. -/
theorem history_run (relation : List (Input × Output) → State → Prop)
    {start : State} (hstart : relation [] start)
    (hstep : ∀ history state input, relation history state →
      relation (history ++ [(input, (machine.step state input).2)])
        (machine.step state input).1)
    (inputs : List Input) :
    relation (machine.trace start inputs) (machine.run start inputs) := by
  induction inputs using List.reverseRecOn with
  | nil => exact hstart
  | append_singleton inputs input ih =>
      rw [trace_append, run_append]
      exact hstep _ _ input ih

/-- The answers of a run one behind the other, where each is a list. -/
def log {Event : Type*} (machine : Machine State Input (List Event)) (start : State)
    (inputs : List Input) : List Event :=
  (machine.trace start inputs).flatMap Prod.snd

theorem log_concat {Event : Type*} (machine : Machine State Input (List Event)) (start : State)
    (inputs : List Input) (input : Input) :
    machine.log start (inputs ++ [input]) =
      machine.log start inputs ++ (machine.step (machine.run start inputs) input).2 := by
  rw [log, trace_append, List.flatMap_append]
  exact congrArg (machine.log start inputs ++ ·) (List.append_nil _)

/-- A relation of the inputs and the log so far to the state, kept by every step, holds
after every run. -/
theorem log_run {Event : Type*} {machine : Machine State Input (List Event)}
    (relation : List Input → List Event → State → Prop) {start : State}
    (hstart : relation [] [] start)
    (hstep : ∀ before log state input, relation before log state →
      relation (before ++ [input]) (log ++ (machine.step state input).2)
        (machine.step state input).1)
    (inputs : List Input) :
    relation inputs (machine.log start inputs) (machine.run start inputs) := by
  induction inputs using List.reverseRecOn with
  | nil => exact hstart
  | append_singleton inputs input ih =>
      rw [log_concat, run_append]
      exact hstep inputs _ _ input ih

/-- A relation between the trace so far and the state, kept by every guarded
step, holds after every guarded run. -/
theorem history_guarded_run (relation : List (Input × Output) → State → Prop)
    {guard : State → Input → Prop} {start : State} (hstart : relation [] start)
    (hstep : ∀ history state input, relation history state → guard state input →
      relation (history ++ [(input, (machine.step state input).2)])
        (machine.step state input).1)
    {inputs : List Input} (hguarded : machine.Guarded guard start inputs) :
    relation (machine.trace start inputs) (machine.run start inputs) := by
  induction inputs using List.reverseRecOn with
  | nil => exact hstart
  | append_singleton inputs input ih =>
      have hlast := (machine.guarded_append_singleton.mp hguarded).2
      rw [trace_append, run_append]
      exact hstep _ _ input (ih (Guarded.of_append machine hguarded)) hlast

/-- Two guards that agree wherever an invariant holds guard the same runs. -/
theorem guarded_congr {invariant : State → Prop} {first second : State → Input → Prop}
    {start : State} (hstart : invariant start)
    (hstep : ∀ state input, invariant state → invariant (machine.step state input).1)
    (hagree : ∀ state input, invariant state → (first state input ↔ second state input))
    (inputs : List Input) :
    machine.Guarded first start inputs ↔ machine.Guarded second start inputs := by
  induction inputs generalizing start with
  | nil => exact Iff.rfl
  | cons input rest ih =>
      exact and_congr (hagree start input hstart) (ih (hstep start input hstart))

/-- What every answer of a run has, when an answer has it exactly if its step is guarded. -/
theorem forall_trace_iff_guarded {invariant : State → Prop} {guard : State → Input → Prop}
    {property : Input → Output → Prop} {start : State} (hstart : invariant start)
    (hstep : ∀ state input, invariant state → invariant (machine.step state input).1)
    (hagree : ∀ state input, invariant state →
      (property input (machine.step state input).2 ↔ guard state input))
    (inputs : List Input) :
    (∀ entry ∈ machine.trace start inputs, property entry.1 entry.2) ↔
      machine.Guarded guard start inputs := by
  induction inputs generalizing start with
  | nil => simp [Guarded]
  | cons input rest ih =>
      rw [trace_cons, List.forall_mem_cons]
      exact and_congr (hagree start input hstart) (ih (hstep start input hstart))

/-- A property of the trace holds exactly of the guarded runs, when one more step keeps it
exactly if the step is guarded. -/
theorem property_trace_iff_guarded (relation : List (Input × Output) → State → Prop)
    (property : List (Input × Output) → Prop) {guard : State → Input → Prop} {start : State}
    (hstart : relation [] start) (hempty : property [])
    (hkeep : ∀ history state input, relation history state →
      relation (history ++ [(input, (machine.step state input).2)])
        (machine.step state input).1)
    (hstep : ∀ history state input, relation history state →
      (property (history ++ [(input, (machine.step state input).2)]) ↔
        property history ∧ guard state input))
    (inputs : List Input) :
    property (machine.trace start inputs) ↔ machine.Guarded guard start inputs := by
  induction inputs using List.reverseRecOn with
  | nil => exact iff_of_true hempty trivial
  | append_singleton inputs input ih =>
      rw [trace_append, guarded_append_singleton, ← ih]
      exact hstep _ _ input (machine.history_run relation hstart hkeep inputs)

/-- A run that is not guarded has a first step that breaks the guard. -/
theorem exists_first_violation {guard : State → Input → Prop} {start : State}
    {inputs : List Input} (hbroken : ¬ machine.Guarded guard start inputs) :
    ∃ before input after, inputs = before ++ input :: after ∧
      machine.Guarded guard start before ∧ ¬ guard (machine.run start before) input := by
  induction inputs using List.reverseRecOn with
  | nil => exact absurd trivial hbroken
  | append_singleton inputs input ih =>
      by_cases hbefore : machine.Guarded guard start inputs
      · refine ⟨inputs, input, [], rfl, hbefore, ?_⟩
        intro hlast
        exact hbroken (machine.guarded_append_singleton.mpr ⟨hbefore, hlast⟩)
      · obtain ⟨before, first, after, rfl, hguarded, hviolation⟩ := ih hbefore
        exact ⟨before, first, after ++ [input], by simp, hguarded, hviolation⟩

/-- A property holds in every state that a run reaches exactly if the run is guarded, when
guarded steps keep an invariant that implies it and any other step breaks it.  Every step of
the run may be assumed to be one of some kind. -/
theorem forall_reached_iff_guarded_of {invariant property : State → Prop}
    {assumed guard : State → Input → Prop} {start : State} (hstart : invariant start)
    (hkeep : ∀ state input, invariant state → assumed state input → guard state input →
      invariant (machine.step state input).1)
    (hsound : ∀ state, invariant state → property state)
    (hbreak : ∀ state input, invariant state → assumed state input → ¬ guard state input →
      ¬ property (machine.step state input).1)
    {inputs : List Input} (hassumed : machine.Guarded assumed start inputs) :
    (∀ reached, reached <+: inputs → property (machine.run start reached)) ↔
      machine.Guarded guard start inputs := by
  have hboth : ∀ {before : List Input}, machine.Guarded assumed start before →
      machine.Guarded guard start before → invariant (machine.run start before) := by
    intro before hfirst hsecond
    induction before using List.reverseRecOn with
    | nil => exact hstart
    | append_singleton before input ih =>
        obtain ⟨hfirst, hinput⟩ := machine.guarded_append_singleton.mp hfirst
        obtain ⟨hsecond, hguard⟩ := machine.guarded_append_singleton.mp hsecond
        rw [run_append]
        exact hkeep _ input (ih hfirst hsecond) hinput hguard
  constructor
  · intro hproperty
    by_contra hbroken
    obtain ⟨before, input, after, rfl, hguarded, hviolation⟩ :=
      machine.exists_first_violation hbroken
    rw [List.append_cons] at hassumed
    obtain ⟨hbefore, hinput⟩ :=
      machine.guarded_append_singleton.mp (Guarded.of_append machine hassumed)
    have hafter := hproperty (before ++ [input]) ⟨after, by simp⟩
    rw [run_append] at hafter
    exact hbreak _ input (hboth hbefore hguarded) hinput hviolation hafter
  · rintro hguarded reached ⟨rest, rfl⟩
    exact hsound _ (hboth (Guarded.of_append machine hassumed)
      (Guarded.of_append machine hguarded))

/-- A property holds in every state that a run reaches exactly if the run is guarded, when
guarded steps keep an invariant that implies it and any other step breaks it. -/
theorem forall_reached_iff_guarded {invariant property : State → Prop}
    {guard : State → Input → Prop} {start : State} (hstart : invariant start)
    (hkeep : ∀ state input, invariant state → guard state input →
      invariant (machine.step state input).1)
    (hsound : ∀ state, invariant state → property state)
    (hbreak : ∀ state input, invariant state → ¬ guard state input →
      ¬ property (machine.step state input).1)
    (inputs : List Input) :
    (∀ reached, reached <+: inputs → property (machine.run start reached)) ↔
      machine.Guarded guard start inputs := by
  have hassumed : machine.Guarded (fun _ _ => True) start inputs := by
    induction inputs using List.reverseRecOn with
    | nil => trivial
    | append_singleton inputs input ih =>
        exact machine.guarded_append_singleton.mpr ⟨ih, trivial⟩
  exact machine.forall_reached_iff_guarded_of hstart
    (fun state input hkept _ => hkeep state input hkept) hsound
    (fun state input hkept _ => hbreak state input hkept) hassumed

end Machine

/-- Every event of a log is as it should be behind the events before it. -/
def EachStep {Event : Type*} (proper : List Event → Event → Prop) (log : List Event) : Prop :=
  ∀ before event after, log = before ++ event :: after → proper before event

section EachStep

variable {Event : Type*} {proper : List Event → Event → Prop} {log : List Event}

theorem eachStep_nil : EachStep proper [] := by
  intro before event after heq
  exact absurd heq.symm (List.append_ne_nil_of_right_ne_nil _ (List.cons_ne_nil _ _))

theorem EachStep.concat (hlog : EachStep proper log) {event : Event}
    (hevent : proper log event) : EachStep proper (log ++ [event]) := by
  intro before found after heq
  induction after using List.reverseRecOn with
  | nil =>
      obtain ⟨rfl, hlast⟩ := List.append_inj' heq rfl
      obtain rfl := (List.cons.inj hlast).1
      exact hevent
  | append_singleton after last ih =>
      rw [← List.cons_append, ← List.append_assoc] at heq
      obtain ⟨hfront, -⟩ := List.append_inj' heq rfl
      exact hlog before found after hfront

theorem EachStep.of_prefix (hlog : EachStep proper log) {front : List Event}
    (hfront : front <+: log) : EachStep proper front := by
  obtain ⟨rest, rfl⟩ := hfront
  rintro before event after rfl
  exact hlog before event (after ++ rest) (by simp)

/-- One more event is as it should be behind the others, and leaves them as they are. -/
theorem eachStep_concat_iff {event : Event} :
    EachStep proper (log ++ [event]) ↔ EachStep proper log ∧ proper log event := by
  constructor
  · intro hlog
    refine ⟨?_, hlog log event [] rfl⟩
    rintro before found after rfl
    exact hlog before found (after ++ [event]) (by simp)
  · rintro ⟨hlog, hevent⟩
    exact hlog.concat hevent

end EachStep

end Lib
end Lirvena
