import Lirvena.Dispatch.DispatcherRun

/-!
# Dispatches come to an end

A dispatch that goes on, or whose backend answers, has less left to do; and as long as one
has something left, one can go on or its backend can answer.  So no dispatch waits for ever
for the lock of the rate-limited lane while the backends answer.
-/

namespace Lirvena
namespace Dispatch

open Lib
open OneBot (Routes)

variable {Handle : Type}

/-- How far an action is from its end. -/
def Stage.left : Stage Handle → Nat
  | .selecting => 4
  | .unselected => 1
  | .selected _ => 3
  | .locking _ => 2
  | .calling _ => 1

/-- How far a dispatch is from its end. -/
def Phase.left : Phase Handle → Nat
  | .acting stage _ rest => stage.left + 4 * rest.length
  | .answered _ => 0
  | .dropped => 0

def tasksLeft (tasks : List (Task Handle)) : Nat :=
  (tasks.map fun task => task.phase.left).sum

theorem Stage.left_pos (stage : Stage Handle) : 0 < stage.left := by
  cases stage <;> exact Nat.succ_pos _

theorem left_proceed (request : ActionRequest) (rest : List ActionRequest) :
    (proceed request rest : Phase Handle).left = 4 * rest.length := by
  cases rest with
  | nil => rfl
  | cons action rest =>
      show 4 + 4 * rest.length = 4 * (rest.length + 1)
      omega

theorem left_conclude_le (request : ActionRequest) (rest : List ActionRequest)
    (response : ActionResponse) :
    (conclude request rest response : Phase Handle).left ≤ 4 * rest.length := by
  unfold conclude
  split
  · split
    · exact (left_proceed request rest).le
    · exact Nat.zero_le _
  · exact Nat.zero_le _

theorem tasksLeft_set {tasks : List (Task Handle)} {index : Nat} {old new : Task Handle}
    (htask : tasks[index]? = some old) :
    tasksLeft (tasks.set index new) + old.phase.left = tasksLeft tasks + new.phase.left := by
  induction tasks generalizing index with
  | nil => cases htask
  | cons first rest ih =>
      cases index with
      | zero =>
          obtain rfl := Option.some.inj htask
          simp only [tasksLeft, List.set_cons_zero, List.map_cons, List.sum_cons]
          omega
      | succ index =>
          have hrest := ih htask
          simp only [tasksLeft, List.set_cons_succ, List.map_cons, List.sum_cons] at hrest ⊢
          omega

/-- A dispatch goes on, or the backend of its call answers, with whatever result. -/
def Going (input : DispatcherInput Handle) : Prop :=
  ∃ index, input = .advance index ∨ ∃ result, input = .answer index result

def DispatcherOutput.isIdle : DispatcherOutput Handle → Bool
  | .idle => true
  | _ => false

/-- A turn that takes a dispatch on. -/
structure Moves (config : DispatcherConfig) (dispatcher : Dispatcher Handle)
    (input : DispatcherInput Handle) : Prop where
  going : Going input
  moved : (Dispatcher.step config dispatcher input).2.isIdle = false

section Step

variable {config : DispatcherConfig} {dispatcher : Dispatcher Handle}
variable {input : DispatcherInput Handle}

theorem Quiet.left_lt {request action : ActionRequest} {rest : List ActionRequest}
    {stage : Stage Handle} {phase : Phase Handle}
    (hquiet : Quiet config dispatcher request action rest stage phase) :
    phase.left < stage.left + 4 * rest.length := by
  cases hquiet with
  | selected _ => exact Nat.add_lt_add_right (by decide : 3 < 4) _
  | unselected _ => exact Nat.add_lt_add_right (by decide : 1 < 4) _
  | explained =>
      exact (left_conclude_le request rest _).trans_lt (Nat.lt_add_of_pos_left (Stage.left_pos _))
  | overloaded _ _ =>
      exact (left_conclude_le request rest _).trans_lt (Nat.lt_add_of_pos_left (Stage.left_pos _))
  | limited _ => exact Nat.add_lt_add_right (by decide : 2 < 3) _

theorem tasksLeft_set_lt {tasks : List (Task Handle)} {index : Nat} {old new : Task Handle}
    (htask : tasks[index]? = some old) (hless : new.phase.left < old.phase.left) :
    tasksLeft (tasks.set index new) < tasksLeft tasks := by
  have hset : tasksLeft (tasks.set index new) + old.phase.left =
      tasksLeft tasks + new.phase.left := tasksLeft_set htask
  omega

/-- A dispatch that goes on has less left to do. -/
theorem Turn.left_lt {result : Dispatcher Handle × DispatcherOutput Handle}
    (hturn : Turn config dispatcher input result) (hgoing : Going input)
    (hmoved : result.2.isIdle = false) : tasksLeft result.1.tasks < tasksLeft dispatcher.tasks := by
  obtain ⟨index, rfl | ⟨answer, rfl⟩⟩ := hgoing
  · cases hturn with
    | idle _ => cases hmoved
    | quiet htask hquiet => exact tasksLeft_set_lt htask hquiet.left_lt
    | called htask _ =>
        exact tasksLeft_set_lt htask (Nat.add_lt_add_right (by decide : 1 < 3) _)
    | queued htask _ _ =>
        exact tasksLeft_set_lt htask
          ((left_conclude_le _ _ _).trans_lt (Nat.lt_add_of_pos_left (Stage.left_pos _)))
    | locked htask _ =>
        exact tasksLeft_set_lt htask (Nat.add_lt_add_right (by decide : 1 < 2) _)
  · cases hturn with
    | idle _ => cases hmoved
    | returned htask _ =>
        show tasksLeft ((dispatcher.release index).tasks.set index _) < _
        rw [release_tasks]
        exact tasksLeft_set_lt htask
          ((left_conclude_le _ _ _).trans_lt (Nat.lt_add_of_pos_left (Stage.left_pos _)))

/-- Every turn that takes a dispatch on is paid for with a step that was left. -/
theorem moves_le_tasksLeft {further : List (DispatcherInput Handle)}
    (hmoves : (Dispatch.dispatcher config).Guarded (Moves config) dispatcher further) :
    further.length + tasksLeft ((Dispatch.dispatcher config).run dispatcher further).tasks ≤
      tasksLeft dispatcher.tasks := by
  induction further generalizing dispatcher with
  | nil => simp
  | cons input rest ih =>
      obtain ⟨⟨hgoing, hmoved⟩, hrest⟩ := hmoves
      have hless := (Dispatcher.step_turn config dispatcher input).left_lt hgoing hmoved
      have hbound := ih hrest
      rw [List.length_cons, Lib.Machine.run_cons]
      change tasksLeft ((Dispatch.dispatcher config).step dispatcher input).1.tasks < _ at hless
      omega

/-- The backend of a call is waited for, whatever it will answer. -/
theorem answer_moves {index : Nat} {request action : ActionRequest} {rest : List ActionRequest}
    {backend : Handle}
    (htask : dispatcher.tasks[index]? = some ⟨request, .acting (.calling backend) action rest⟩)
    (result : Except BackendError Json) : Moves config dispatcher (.answer index result) where
  going := ⟨index, .inr ⟨result, rfl⟩⟩
  moved := by
    rw [Dispatcher.step, htask]
    rfl

theorem exists_limited {task : Task Handle} (hlimited : isLimited task = true) :
    ∃ backend action rest, task.phase = .acting (.calling backend) action rest := by
  unfold isLimited at hlimited
  split at hlimited
  · next backend action rest hphase => exact ⟨backend, action, rest, hphase⟩
  · cases hlimited

/-- A dispatch that can go on, or that waits for the answer of its backend. -/
def CanMove (config : DispatcherConfig) (dispatcher : Dispatcher Handle) (index : Nat) : Prop :=
  Moves config dispatcher (.advance index) ∨
    ∀ result, Moves config dispatcher (.answer index result)

/-- While a dispatch is not at its end, one of them can go on. -/
theorem exists_moving (hlocked : Locked dispatcher.tasks dispatcher.limiter) {index : Nat}
    {request action : ActionRequest} {rest : List ActionRequest} {stage : Stage Handle}
    (htask : dispatcher.tasks[index]? = some ⟨request, .acting stage action rest⟩) :
    ∃ moving, CanMove config dispatcher moving := by
  have hadvance : Dispatcher.step config dispatcher (.advance index) =
      Dispatcher.advance config dispatcher index ⟨request, .acting stage action rest⟩ action rest
        stage := by
    rw [Dispatcher.step, htask]
  have hmoves (hmoved : (Dispatcher.advance config dispatcher index
      ⟨request, .acting stage action rest⟩ action rest stage).2.isIdle = false) :
      ∃ moving, CanMove config dispatcher moving :=
    ⟨index, .inl ⟨⟨index, .inl rfl⟩, hadvance ▸ hmoved⟩⟩
  cases stage with
  | selecting =>
      refine hmoves ?_
      rw [Dispatcher.advance]
      split <;> rfl
  | unselected =>
      refine hmoves ?_
      rw [Dispatcher.advance]
      rfl
  | selected backend =>
      refine hmoves ?_
      rw [Dispatcher.advance]
      split
      · rfl
      · split <;> rfl
      · rfl
  | calling backend => exact ⟨index, .inr (answer_moves htask)⟩
  | locking backend =>
      cases hlimiter : dispatcher.limiter with
      | none =>
          refine hmoves ?_
          rw [Dispatcher.advance, hlimiter]
          rfl
      | some holder =>
          -- The lock is with a dispatch whose backend can answer.
          obtain ⟨⟨held, phase⟩, hholder, hlimited⟩ := (hlocked holder).mp hlimiter
          obtain ⟨other, heldAction, heldRest, rfl⟩ := exists_limited hlimited
          exact ⟨holder, .inr (answer_moves hholder)⟩

/-- The end of a dispatch. -/
def Phase.Ended (phase : Phase Handle) : Prop :=
  ∀ stage action rest, phase ≠ .acting stage action rest

theorem ended_or_moving (hlocked : Locked dispatcher.tasks dispatcher.limiter) :
    (∀ task ∈ dispatcher.tasks, task.phase.Ended) ∨
      ∃ index, CanMove config dispatcher index := by
  by_cases hended : ∀ task ∈ dispatcher.tasks, task.phase.Ended
  · exact .inl hended
  · obtain ⟨⟨request, phase⟩, hmem, hacting⟩ := by
      simpa only [not_forall] using hended
    obtain ⟨stage, action, rest, hphase⟩ := by
      simpa only [Phase.Ended, not_forall, not_not] using hacting
    obtain rfl : phase = .acting stage action rest := hphase
    obtain ⟨index, htask⟩ := List.getElem?_of_mem hmem
    exact .inr (exists_moving hlocked htask)

end Step

/-- From wherever a run leads, the turns that take dispatches on are no more than the steps
these have left, in whatever order they come and whatever each call is answered with; and
behind them either all the dispatches are at their ends, or there is one that can go on or
whose backend is waited for. -/
theorem dispatches_complete (config : DispatcherConfig) (initial : Routes Handle)
    (inputs further : List (DispatcherInput Handle))
    (hmoves : (dispatcher config).Guarded (Moves config)
      ((dispatcher config).run (Dispatcher.opened initial) inputs) further) :
    let reached := (dispatcher config).run (Dispatcher.opened initial) inputs
    let after := (dispatcher config).run reached further
    further.length + tasksLeft after.tasks ≤ tasksLeft reached.tasks ∧
      ((∀ task ∈ after.tasks, task.phase.Ended) ∨ ∃ index, CanMove config after index) := by
  intro reached after
  have hlocked : Locked after.tasks after.limiter := by
    have haccounted := accounted_run config initial (inputs ++ further)
    rw [Lib.Machine.run_append] at haccounted
    exact haccounted.locked
  exact ⟨moves_le_tasksLeft hmoves, ended_or_moving hlocked⟩

/-- A call on the rate-limited lane. -/
def limitedCall : ActionRequest where
  action := "get_status"
  params := []
  echo := none
  selfId := none
  mode := .rateLimited

def limitedConfig : DispatcherConfig where
  boundSelfId := none
  queueCapacity := 1
  idFormat := .string

/-- Two calls of one account, of which the second waits for the lock until the first is
answered. -/
def limitedTurns : List (DispatcherInput Nat) :=
  [.advance 0, .advance 1, .advance 0, .advance 1, .advance 0, .answer 0 (.ok .null),
    .advance 1, .answer 1 (.error .overloaded)]

theorem dispatches_complete_limitedTurns :
    let reached := (dispatcher limitedConfig).run
      (Dispatcher.opened ((∅ : Routes Nat).insert 10001 0))
      [.dispatch limitedCall, .dispatch limitedCall]
    tasksLeft reached.tasks = 8 ∧
      tasksLeft ((dispatcher limitedConfig).run reached limitedTurns).tasks = 0 := by
  intro reached
  have hadvance (state : Dispatcher Nat) (index : Nat)
      (hmoved : (Dispatcher.step limitedConfig state (.advance index)).2.isIdle = false) :
      Moves limitedConfig state (.advance index) :=
    ⟨⟨index, .inl rfl⟩, hmoved⟩
  have hanswer (state : Dispatcher Nat) (index : Nat) (result : Except BackendError Json)
      (hmoved : (Dispatcher.step limitedConfig state (.answer index result)).2.isIdle = false) :
      Moves limitedConfig state (.answer index result) :=
    ⟨⟨index, .inr ⟨result, rfl⟩⟩, hmoved⟩
  have hmoves : (dispatcher limitedConfig).Guarded (Moves limitedConfig) reached
      limitedTurns := by
    refine ⟨hadvance _ _ ?_, hadvance _ _ ?_, hadvance _ _ ?_, hadvance _ _ ?_, hadvance _ _ ?_,
      hanswer _ _ _ ?_, hadvance _ _ ?_, hanswer _ _ _ ?_, trivial⟩
    all_goals decide +kernel
  have hleft : tasksLeft reached.tasks = 8 := by decide
  have hbound : 8 + tasksLeft ((dispatcher limitedConfig).run reached limitedTurns).tasks ≤
      tasksLeft reached.tasks :=
    (dispatches_complete limitedConfig _ _ limitedTurns hmoves).1
  rw [hleft] at hbound
  exact ⟨hleft, by omega⟩

end Dispatch
end Lirvena
