import Mathlib.Data.List.Basic
import Mathlib.Tactic.Common

/-!
# A bounded broadcast channel

Every receiver sees the values in the order in which they are sent.  The channel holds the
last of them only: a receiver that is further behind is told how many values it has missed,
and goes on with the oldest one held.

A receiver is its cursor, which is the position of the next value.  `Reads` is what the
answers to one receiver say of the values that were sent, and it is kept by every send and
every receive.
-/

namespace Lirvena
namespace Lib

structure Channel (Value : Type*) where
  /-- How many values were sent. -/
  tail : Nat
  /-- The last of them, oldest first. -/
  held : List Value
  /-- How many receivers there are. -/
  receivers : Nat
  /-- No sender is left. -/
  closed : Bool

/-- What a receiver is answered. -/
inductive Received (Value : Type*) where
  | value (value : Value)
  | lagged (skipped : Nat)
  | closed
  /-- Nothing yet. -/
  | waiting

namespace Channel

variable {Value : Type*}

def opened : Channel Value where
  tail := 0
  held := []
  receivers := 0
  closed := false

/-- A value that is sent to nobody is dropped. -/
def send (capacity : Nat) (channel : Channel Value) (value : Value) : Channel Value × Bool :=
  if channel.receivers = 0 then (channel, false)
  else
    ({ channel with
        tail := channel.tail + 1
        held := (channel.held ++ [value]).drop (channel.held.length + 1 - capacity) }, true)

/-- A new receiver, behind the values sent so far. -/
def subscribe (channel : Channel Value) : Channel Value × Nat :=
  ({ channel with receivers := channel.receivers + 1 }, channel.tail)

def unsubscribe (channel : Channel Value) : Channel Value :=
  { channel with receivers := channel.receivers - 1 }

/-- The position of the oldest value held. -/
def oldest (channel : Channel Value) : Nat :=
  channel.tail - channel.held.length

def receive (channel : Channel Value) (cursor : Nat) : Nat × Received Value :=
  if cursor < channel.oldest then (channel.oldest, .lagged (channel.oldest - cursor))
  else
    match channel.held[cursor - channel.oldest]? with
    | some value => (cursor + 1, .value value)
    | none => (cursor, if channel.closed then .closed else .waiting)

/-- The channel holds the end of the values that were sent. -/
structure Holds (capacity : Nat) (sent : List Value) (channel : Channel Value) : Prop where
  tail : channel.tail = sent.length
  held : channel.held = sent.drop (sent.length - capacity)

variable {capacity : Nat} {sent : List Value} {channel : Channel Value}

theorem opened_holds : (opened : Channel Value).Holds capacity [] where
  tail := rfl
  held := (List.drop_nil ..).symm

theorem Holds.length_held (hholds : channel.Holds capacity sent) :
    channel.held.length = min sent.length capacity := by
  rw [hholds.held, List.length_drop]
  omega

theorem Holds.oldest (hholds : channel.Holds capacity sent) :
    channel.oldest = sent.length - capacity := by
  rw [Channel.oldest, hholds.length_held, hholds.tail]
  omega

theorem Holds.send (hholds : channel.Holds capacity sent) (hreceivers : 0 < channel.receivers)
    (value : Value) : (channel.send capacity value).1.Holds capacity (sent ++ [value]) := by
  have hheld := hholds.length_held
  rw [Channel.send, if_neg (Nat.ne_of_gt hreceivers)]
  constructor
  · rw [List.length_append]
    exact congrArg (· + 1) hholds.tail
  · show (channel.held ++ [value]).drop (channel.held.length + 1 - capacity) = _
    rw [List.length_append, List.length_singleton]
    by_cases hroom : sent.length < capacity
    · have hall : sent.length - capacity = 0 := by omega
      rw [hholds.held, hall, List.drop_zero]
    · -- a full channel drops its oldest value
      have hsplit : sent.length + 1 - capacity =
          (sent.length - capacity) + (channel.held.length + 1 - capacity) := by omega
      rw [hsplit, ← List.drop_drop, List.drop_append_of_le_length (Nat.sub_le ..),
        ← hholds.held]

@[simp] theorem send_receivers (channel : Channel Value) (value : Value) :
    (channel.send capacity value).1.receivers = channel.receivers := by
  unfold send
  split <;> rfl

/-- What a receive comes to, in terms of the values that were sent. -/
inductive Answers (capacity : Nat) (sent : List Value) (closed : Bool) (cursor : Nat) :
    Nat × Received Value → Prop where
  | value (value : Value) (hvalue : sent[cursor]? = some value) :
      Answers capacity sent closed cursor (cursor + 1, .value value)
  /-- More values were sent than the channel holds. -/
  | lagged (skipped : Nat) (hskipped : 0 < skipped)
      (hfull : cursor + skipped + capacity = sent.length) :
      Answers capacity sent closed cursor (cursor + skipped, .lagged skipped)
  | drained (hdrained : sent.length ≤ cursor) :
      Answers capacity sent closed cursor (cursor, if closed then .closed else .waiting)

theorem Holds.receive (hholds : channel.Holds capacity sent) (cursor : Nat) :
    Answers capacity sent channel.closed cursor (channel.receive cursor) := by
  have holdest := hholds.oldest
  unfold Channel.receive
  split
  · next hbehind =>
      have hcursor : channel.oldest = cursor + (channel.oldest - cursor) := by omega
      rw [hcursor, Nat.add_sub_cancel_left]
      exact .lagged _ (by omega) (by omega)
  · next hnear =>
      have hindex : channel.oldest + (cursor - channel.oldest) = cursor := by omega
      have hsame : channel.held[cursor - channel.oldest]? = sent[cursor]? := by
        rw [hholds.held, List.getElem?_drop, ← holdest, hindex]
      rw [hsame]
      cases hvalue : sent[cursor]? with
      | some value => exact .value value hvalue
      | none => exact .drained (List.getElem?_eq_none_iff.mp hvalue)

end Channel

section Reads

variable {Value : Type*} {capacity : Nat} {sent : List Value} {start cursor : Nat}
  {answers : List (Received Value)}

/-- What a receiver was answered, from its first position to its cursor: the values one after
the other, and where some are left out, how many.  Those left out are out of the reach of the
channel. -/
inductive Reads (capacity : Nat) (sent : List Value) (start : Nat) :
    List (Received Value) → Nat → Prop where
  | nil : Reads capacity sent start [] start
  | value {answers : List (Received Value)} {cursor : Nat} (value : Value)
      (hreads : Reads capacity sent start answers cursor)
      (hvalue : sent[cursor]? = some value) :
      Reads capacity sent start (answers ++ [.value value]) (cursor + 1)
  | lagged {answers : List (Received Value)} {cursor : Nat} (skipped : Nat)
      (hreads : Reads capacity sent start answers cursor) (hskipped : 0 < skipped)
      (hfar : cursor + skipped + capacity ≤ sent.length) :
      Reads capacity sent start (answers ++ [.lagged skipped]) (cursor + skipped)
  | drained {answers : List (Received Value)} {cursor : Nat} (closed : Bool)
      (hreads : Reads capacity sent start answers cursor) :
      Reads capacity sent start (answers ++ [if closed then .closed else .waiting]) cursor

/-- A receive adds its answer.  The receiver need not have been there from the first value
on: its positions are those of the values that were sent since. -/
theorem Reads.receive {channel : Channel Value} {before : List Value}
    (hreads : Reads capacity sent start answers cursor)
    (hholds : channel.Holds capacity (before ++ sent)) :
    ∃ next, (channel.receive (before.length + cursor)).1 = before.length + next ∧
      Reads capacity sent start
        (answers ++ [(channel.receive (before.length + cursor)).2]) next := by
  have hanswers := hholds.receive (before.length + cursor)
  generalize channel.receive (before.length + cursor) = result at hanswers ⊢
  cases hanswers with
  | value value hvalue =>
      rw [List.getElem?_append_right (Nat.le_add_right ..), Nat.add_sub_cancel_left] at hvalue
      exact ⟨cursor + 1, Nat.add_assoc .., .value value hreads hvalue⟩
  | lagged skipped hskipped hfull =>
      rw [List.length_append] at hfull
      exact ⟨cursor + skipped, Nat.add_assoc .., .lagged skipped hreads hskipped (by omega)⟩
  | drained _ => exact ⟨cursor, rfl, .drained _ hreads⟩

/-- Values that are sent later change nothing. -/
theorem Reads.append (hreads : Reads capacity sent start answers cursor) (later : List Value) :
    Reads capacity (sent ++ later) start answers cursor := by
  induction hreads with
  | nil => exact .nil
  | value value _ hvalue ih =>
      refine .value value ih ?_
      obtain ⟨hlt, -⟩ := List.getElem?_eq_some_iff.mp hvalue
      rw [List.getElem?_append_left hlt]
      exact hvalue
  | lagged skipped _ hskipped hfar ih =>
      refine .lagged skipped ih hskipped ?_
      rw [List.length_append]
      omega
  | drained closed _ ih => exact .drained closed ih

/-- Values that are sent before the receiver is there move its positions. -/
theorem Reads.prepend (hreads : Reads capacity sent start answers cursor)
    (earlier : List Value) :
    Reads capacity (earlier ++ sent) (earlier.length + start) answers
      (earlier.length + cursor) := by
  induction hreads with
  | nil => exact .nil
  | value value _ hvalue ih =>
      refine .value value ih ?_
      show (earlier ++ sent)[earlier.length + _]? = some value
      rw [List.getElem?_append_right (Nat.le_add_right ..), Nat.add_sub_cancel_left]
      exact hvalue
  | lagged skipped _ hskipped hfar ih =>
      rw [← Nat.add_assoc]
      refine .lagged skipped ih hskipped ?_
      rw [List.length_append]
      omega
  | drained closed _ ih => exact .drained closed ih

/-- The values among the answers. -/
def receivedValues (answers : List (Received Value)) : List Value :=
  answers.filterMap fun
    | .value value => some value
    | _ => none

/-- An answer that tells of missed values. -/
def Received.IsLagged : Received Value → Prop
  | .lagged _ => True
  | _ => False

theorem Reads.start_le (hreads : Reads capacity sent start answers cursor) : start ≤ cursor := by
  induction hreads with
  | nil => exact Nat.le_refl _
  | value _ _ _ ih => exact Nat.le_succ_of_le ih
  | lagged skipped _ _ _ ih => exact Nat.le_trans ih (Nat.le_add_right ..)
  | drained _ _ ih => exact ih

/-- A receiver that was never told of missed values has received all of them. -/
theorem Reads.complete (hreads : Reads capacity sent start answers cursor)
    (hnear : ∀ answer ∈ answers, ¬ answer.IsLagged) :
    receivedValues answers = (sent.take cursor).drop start := by
  induction hreads with
  | nil => exact (List.drop_eq_nil_of_le (List.length_take_le ..)).symm
  | @value answers cursor value hreads hvalue ih =>
      obtain ⟨hlt, hsame⟩ := List.getElem?_eq_some_iff.mp hvalue
      have hstart := hreads.start_le
      rw [receivedValues, List.filterMap_append]
      show receivedValues answers ++ [value] = _
      rw [ih fun answer hanswer => hnear answer (List.mem_append_left _ hanswer),
        List.take_succ_eq_append_getElem hlt, hsame, List.drop_append_of_le_length]
      rw [List.length_take]
      omega
  | lagged skipped _ _ _ _ =>
      exact absurd trivial (hnear _ (List.mem_append_right _ (List.mem_singleton_self _)))
  | @drained answers cursor closed _ ih =>
      rw [receivedValues, List.filterMap_append, ← ih fun answer hanswer =>
        hnear answer (List.mem_append_left _ hanswer)]
      cases closed <;> exact List.append_nil _

/-- One that was told so with its last answer has received all of them up to there. -/
theorem Reads.complete_front (hreads : Reads capacity sent start answers cursor)
    (hnear : ∀ answer ∈ answers.dropLast, ¬ answer.IsLagged) :
    ∃ stop, receivedValues answers = (sent.take stop).drop start := by
  have hall := hreads.complete
  cases hreads with
  | nil => exact ⟨start, hall fun _ hanswer => absurd hanswer List.not_mem_nil⟩
  | lagged skipped hreads _ _ =>
      rw [List.dropLast_concat] at hnear
      refine ⟨_, Eq.trans ?_ (hreads.complete hnear)⟩
      rw [receivedValues, List.filterMap_append]
      exact List.append_nil _
  | value value hreads hvalue =>
      rw [List.dropLast_concat] at hnear
      refine ⟨_, hall fun answer hanswer => ?_⟩
      rcases List.mem_append.mp hanswer with hanswer | hanswer
      · exact hnear answer hanswer
      · rw [List.mem_singleton.mp hanswer]
        exact id
  | drained closed hreads =>
      rw [List.dropLast_concat] at hnear
      refine ⟨_, hall fun answer hanswer => ?_⟩
      rcases List.mem_append.mp hanswer with hanswer | hanswer
      · exact hnear answer hanswer
      · rw [List.mem_singleton.mp hanswer]
        cases closed <;> exact id

end Reads

end Lib
end Lirvena
