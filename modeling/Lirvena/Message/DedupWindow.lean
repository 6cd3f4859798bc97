import Lirvena.Lib.RecentKeys
import Lirvena.Message.Duplicates

/-!
# The duplicate window over a run

The decoder keeps its keys twice, in a set and in a queue.  Over every run the set is
that of the queue, and the queue holds the last keys that were answered as new: a push
is suppressed exactly when its key is one of these.
-/

namespace Lirvena
namespace Message

open Lib

/-- The key of a push that passes the checks before the window. -/
def keyOf (wire : MessageWire) (push : MessagePush) : Option DedupKey :=
  match push.body wire with
  | .error _ => none
  | .ok body =>
      match readEnvelope wire body with
      | .error _ => none
      | .ok (key, _) => some key

/-- The key of a push that was answered as new. -/
def acceptedKey (wire : MessageWire) :
    MessagePush × Except MessageDecodeError MessageDisposition → Option DedupKey
  | (push, .ok (.new _)) => keyOf wire push
  | _ => none

/-- The keys of the pushes that were answered as new, oldest first. -/
def acceptedKeys (wire : MessageWire)
    (trace : List (MessagePush × Except MessageDecodeError MessageDisposition)) :
    List DedupKey :=
  trace.filterMap (acceptedKey wire)

theorem acceptedKeys_append_singleton (wire : MessageWire)
    (trace : List (MessagePush × Except MessageDecodeError MessageDisposition))
    (entry : MessagePush × Except MessageDecodeError MessageDisposition) :
    acceptedKeys wire (trace ++ [entry]) =
      acceptedKeys wire trace ++ (acceptedKey wire entry).toList := by
  rw [acceptedKeys, List.filterMap_append]
  cases hentry : acceptedKey wire entry <;> simp [acceptedKeys, hentry]

namespace MessageDecoder

variable {wire : MessageWire}

/-- The set and the queue hold the same keys, the last ones accepted. -/
structure Windowed (wire : MessageWire)
    (trace : List (MessagePush × Except MessageDecodeError MessageDisposition))
    (decoder : MessageDecoder) : Prop where
  seen_eq : decoder.seen = decoder.order.toFinset
  window : IsWindow maxDedupEntries decoder.order (acceptedKeys wire trace)

/-- The set and the queue of the decoder against the keys accepted so far. -/
structure ExactWindow (wire : MessageWire) (accepted : List DedupKey)
    (decoder : MessageDecoder) : Prop where
  seen_eq : decoder.seen = decoder.order.toFinset
  nodup : decoder.order.Nodup
  length_le : decoder.order.length ≤ maxDedupEntries
  suppressed_iff : ∀ push, (decoder.apply wire push).2 = .ok .duplicate ↔
    ∃ key, keyOf wire push = some key ∧ key ∈ recentDistinct maxDedupEntries accepted

/-! ## One push -/

/-- A push without a key is an error and changes nothing. -/
theorem apply_of_keyOf_none (decoder : MessageDecoder) {push : MessagePush}
    (hkey : keyOf wire push = none) :
    ∃ error, decoder.apply wire push = (decoder, .error error) := by
  unfold keyOf at hkey
  rw [apply_eq]
  cases hbody : push.body wire with
  | error error => exact ⟨error, rfl⟩
  | ok body =>
      simp only [hbody] at hkey
      cases hread : readEnvelope wire body with
      | error error => exact ⟨error, by simp only [admitBody, hread]⟩
      | ok read =>
          simp only [hread] at hkey
          cases hkey

/-- A push with a key is a duplicate or enters its key. -/
theorem apply_of_keyOf_some (decoder : MessageDecoder) {push : MessagePush} {key : DedupKey}
    (hkey : keyOf wire push = some key) :
    (key ∈ decoder.seen ∧ decoder.apply wire push = (decoder, .ok .duplicate)) ∨
      (key ∉ decoder.seen ∧ ∃ next envelope, decoder.remember key = .ok next ∧
        decoder.apply wire push = (next, .ok (.new envelope))) := by
  unfold keyOf at hkey
  rw [apply_eq]
  cases hbody : push.body wire with
  | error error =>
      simp only [hbody] at hkey
      cases hkey
  | ok body =>
      simp only [hbody] at hkey
      cases hread : readEnvelope wire body with
      | error error =>
          simp only [hread] at hkey
          cases hkey
      | ok read =>
          simp only [hread] at hkey
          cases hkey
          by_cases hseen : read.1 ∈ decoder.seen
          · exact .inl ⟨hseen, by simp only [admitBody, hread, if_pos hseen]⟩
          · obtain ⟨next, hnext, -, -⟩ := decoder.remember_eq_ok read.1
            refine .inr ⟨hseen, next, read.2, hnext, ?_⟩
            simp only [admitBody, hread, if_neg hseen, hnext]

/-- Entering a new key keeps the set and the queue together. -/
theorem remember_windowed {decoder next : MessageDecoder} {key : DedupKey} {keys : List DedupKey}
    (hseen : decoder.seen = decoder.order.toFinset)
    (hwindow : IsWindow maxDedupEntries decoder.order keys) (hkey : key ∉ decoder.seen)
    (hremember : decoder.remember key = .ok next) :
    next.seen = next.order.toFinset ∧ IsWindow maxDedupEntries next.order (keys ++ [key]) := by
  have hfresh : key ∉ decoder.order := by
    rw [hseen, List.mem_toFinset] at hkey
    exact hkey
  have hset : insert key decoder.seen = (decoder.order ++ [key]).toFinset := by
    rw [hseen]
    ext other
    simp
  unfold remember at hremember
  dsimp only at hremember
  split at hremember
  · next hfull =>
      split at hremember
      · cases hremember
      · next expired rest horder =>
          cases hremember
          have hnext := hwindow.push_full hfresh hfull horder
          refine ⟨?_, hnext⟩
          -- the expired key stood in the queue only once
          have hnodup := nodup_append_singleton hwindow.nodup hfresh
          rw [horder, List.nodup_cons, ← List.mem_toFinset] at hnodup
          show (insert key decoder.seen).erase expired = rest.toFinset
          rw [hset, horder, List.toFinset_cons, Finset.erase_insert hnodup.1]
  · next hroom =>
      cases hremember
      exact ⟨hset, hwindow.push hfresh (Nat.not_lt.mp hroom)⟩

/-! ## Runs -/

theorem windowed_step
    {trace : List (MessagePush × Except MessageDecodeError MessageDisposition)}
    {decoder : MessageDecoder} (hwindowed : Windowed wire trace decoder) (push : MessagePush) :
    Windowed wire (trace ++ [(push, (decoder.apply wire push).2)])
      (decoder.apply wire push).1 := by
  -- an answer that accepts no key leaves the decoder and the accepted keys alone
  have hquiet : ∀ answer, acceptedKey wire (push, answer) = none →
      decoder.apply wire push = (decoder, answer) →
        Windowed wire (trace ++ [(push, (decoder.apply wire push).2)])
          (decoder.apply wire push).1 := by
    intro answer hanswer hsame
    rw [hsame]
    refine ⟨hwindowed.seen_eq, ?_⟩
    rw [acceptedKeys_append_singleton, hanswer, Option.toList_none, List.append_nil]
    exact hwindowed.window
  cases hkey : keyOf wire push with
  | none =>
      obtain ⟨error, hsame⟩ := decoder.apply_of_keyOf_none hkey
      exact hquiet _ rfl hsame
  | some key =>
      rcases decoder.apply_of_keyOf_some hkey with
        ⟨-, hsame⟩ | ⟨hfresh, next, envelope, hnext, hnew⟩
      · exact hquiet _ rfl hsame
      · obtain ⟨hseen, hwindow⟩ :=
          remember_windowed hwindowed.seen_eq hwindowed.window hfresh hnext
        rw [hnew]
        refine ⟨hseen, ?_⟩
        have haccepted : acceptedKey wire (push, .ok (.new envelope)) = some key := hkey
        rw [acceptedKeys_append_singleton, haccepted]
        exact hwindow

theorem windowed_run (wire : MessageWire) (pushes : List MessagePush) :
    Windowed wire ((machine wire).trace .new pushes) ((machine wire).run .new pushes) :=
  (machine wire).history_run (Windowed wire) ⟨rfl, isWindow_nil maxDedupEntries⟩
    (fun _ _ push hwindowed => windowed_step hwindowed push) pushes

theorem Windowed.suppressed_iff
    {trace : List (MessagePush × Except MessageDecodeError MessageDisposition)}
    {decoder : MessageDecoder} (hwindowed : Windowed wire trace decoder) (push : MessagePush) :
    (decoder.apply wire push).2 = .ok .duplicate ↔ ∃ key, keyOf wire push = some key ∧
      key ∈ recentDistinct maxDedupEntries (acceptedKeys wire trace) := by
  rw [← hwindowed.window.eq_recentDistinct]
  cases hkey : keyOf wire push with
  | none =>
      obtain ⟨error, hsame⟩ := decoder.apply_of_keyOf_none hkey
      simp [hsame]
  | some key =>
      have hmem : key ∈ decoder.order ↔ key ∈ decoder.seen := by
        rw [hwindowed.seen_eq, List.mem_toFinset]
      rcases decoder.apply_of_keyOf_some hkey with
        ⟨hseen, hsame⟩ | ⟨hfresh, next, envelope, -, hnew⟩
      · simp [hsame, hmem, hseen]
      · simp [hnew, hmem, hfresh]

/-- After every run of pushes the set of the window is that of its queue, the queue has no
repetition and at most 2048 keys, and the next push is suppressed exactly when its key is
among the last 2048 distinct keys accepted. -/
theorem window_exact (wire : MessageWire) (pushes : List MessagePush) :
    ExactWindow wire (acceptedKeys wire ((machine wire).trace .new pushes))
      ((machine wire).run .new pushes) := by
  have hwindowed := windowed_run wire pushes
  exact ⟨hwindowed.seen_eq, hwindowed.window.nodup, hwindowed.window.length_le,
    hwindowed.suppressed_iff⟩

end MessageDecoder
end Message
end Lirvena
