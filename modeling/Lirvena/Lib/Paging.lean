import Lirvena.Lib.Result

/-!
# Loops over pages

A server answers with pages, and a page names where the next one begins.  A loop over
them takes in the entries of each page and decides whether to follow what it names, for
a bounded number of turns.  It ends well exactly on a finished chain of pages that it
takes in whole and follows throughout.
-/

namespace Lirvena
namespace Lib

variable {Page Cursor Trail Store Request ε : Type}

/-- Pages asked for one behind another, from a request and a cursor on: each next one
where the page before says, and the last says nothing. -/
inductive PageChain (ask : Nat → Option Cursor → Except ε Page) (next : Page → Option Cursor) :
    Nat → Option Cursor → List Page → Prop where
  | last {turn : Nat} {cursor : Option Cursor} {page : Page}
      (hpage : ask turn cursor = .ok page) (hend : next page = none) :
      PageChain ask next turn cursor [page]
  | more {turn : Nat} {cursor : Option Cursor} {page : Page} {value : Cursor} {rest : List Page}
      (hpage : ask turn cursor = .ok page) (hnext : next page = some value)
      (hrest : PageChain ask next (turn + 1) (some value) rest) :
      PageChain ask next turn cursor (page :: rest)

/-- A loop: the request at a cursor, how a page is taken in, and whether the cursor that
a page names is followed, given the trail so far. -/
structure PageLoop (Page Cursor Trail Store Request ε : Type) where
  request : Option Cursor → Except ε Request
  cursor : Trail → Option Cursor
  collect : Store → Page → Except ε Store
  next : Page → Option Cursor
  follow : Trail → Cursor → Except ε Trail
  cursor_follow : ∀ {trail after value}, follow trail value = .ok after → cursor after = some value
  exhausted : ε

namespace PageLoop

variable (loop : PageLoop Page Cursor Trail Store Request ε) (fetch : Nat → Request → Except ε Page)

/-- What one page does, with the trail behind it where the loop goes on. -/
def turn (trail : Trail) (store : Store) (answer : Except ε Page) :
    Except ε (Store × Option Trail) := do
  let page ← answer
  let store ← loop.collect store page
  match loop.next page with
  | none => return (store, none)
  | some value => do
      let trail ← loop.follow trail value
      return (store, some trail)

/-- The loop, for at most so many turns: the number of requests sent, and how it ends. -/
def run : Nat → Nat → Trail → Store → Nat × Except ε Store
  | 0, sent, _, _ => (sent, .error loop.exhausted)
  | turns + 1, sent, trail, store =>
      match loop.request (loop.cursor trail) with
      | .error error => (sent, .error error)
      | .ok request =>
          match loop.turn trail store (fetch sent request) with
          | .error error => (sent + 1, .error error)
          | .ok (store, none) => (sent + 1, .ok store)
          | .ok (store, some trail) => run turns (sent + 1) trail store

/-- A request and its answer. -/
def ask (sent : Nat) (cursor : Option Cursor) : Except ε Page := do
  let request ← loop.request cursor
  fetch sent request

theorem run_sent_le (turns sent : Nat) (trail : Trail) (store : Store) :
    (loop.run fetch turns sent trail store).1 ≤ sent + turns := by
  induction turns generalizing sent trail store with
  | zero => exact Nat.le_refl sent
  | succ turns ih =>
      unfold run
      split
      · exact Nat.le_add_right sent (turns + 1)
      · split
        · simp only
          omega
        · simp only
          omega
        · next store trail _ =>
            have hrest := ih (sent + 1) trail store
            omega

variable {loop fetch} {turns sent : Nat} {trail : Trail} {store result : Store}

theorem turn_eq_ok_iff {answer : Except ε Page} {after : Option Trail} :
    loop.turn trail store answer = .ok (result, after) ↔
      ∃ page, answer = .ok page ∧ loop.collect store page = .ok result ∧
        (loop.next page = none ∧ after = none ∨ ∃ value next,
          loop.next page = some value ∧ loop.follow trail value = .ok next ∧
            after = some next) := by
  unfold turn
  rw [bind_eq_ok_iff]
  refine exists_congr fun page => and_congr_right fun _ => ?_
  rw [bind_eq_ok_iff]
  constructor
  · rintro ⟨collected, hcollected, hnext⟩
    cases hpage : loop.next page with
    | none =>
        rw [hpage] at hnext
        cases hnext
        exact ⟨hcollected, .inl ⟨rfl, rfl⟩⟩
    | some value =>
        rw [hpage] at hnext
        obtain ⟨next, hfollow, hnext⟩ := bind_eq_ok_iff.mp hnext
        cases hnext
        exact ⟨hcollected, .inr ⟨value, next, rfl, hfollow, rfl⟩⟩
  · rintro ⟨hcollected, (⟨hpage, rfl⟩ | ⟨value, next, hpage, hfollow, rfl⟩)⟩
    · exact ⟨result, hcollected, by rw [hpage]; rfl⟩
    · refine ⟨result, hcollected, ?_⟩
      rw [hpage]
      exact bind_eq_ok_iff.mpr ⟨next, hfollow, rfl⟩

/-- What a loop that ends well did in its first turn. -/
theorem run_succ_eq_ok_iff :
    (loop.run fetch (turns + 1) sent trail store).2 = .ok result ↔
      ∃ page collected, loop.ask fetch sent (loop.cursor trail) = .ok page ∧
        loop.collect store page = .ok collected ∧
        (loop.next page = none ∧ collected = result ∨ ∃ value next,
          loop.next page = some value ∧ loop.follow trail value = .ok next ∧
            (loop.run fetch turns (sent + 1) next collected).2 = .ok result) := by
  rw [run]
  constructor
  · intro hrun
    split at hrun
    · cases hrun
    · next request hrequest =>
        have hask : ∀ page, fetch sent request = .ok page →
            loop.ask fetch sent (loop.cursor trail) = .ok page :=
          fun page hpage => bind_eq_ok_iff.mpr ⟨request, hrequest, hpage⟩
        split at hrun
        · cases hrun
        · next collected hturn =>
            obtain ⟨page, hpage, hcollect, ⟨hend, -⟩ | ⟨_, _, _, _, ⟨⟩⟩⟩ := turn_eq_ok_iff.mp hturn
            exact ⟨page, collected, hask page hpage, hcollect, .inl ⟨hend, Except.ok.inj hrun⟩⟩
        · next collected after hturn =>
            obtain ⟨page, hpage, hcollect, ⟨_, ⟨⟩⟩ | ⟨value, next, hnext, hfollow, hafter⟩⟩ :=
              turn_eq_ok_iff.mp hturn
            obtain rfl := Option.some.inj hafter
            exact ⟨page, collected, hask page hpage, hcollect,
              .inr ⟨value, after, hnext, hfollow, hrun⟩⟩
  · rintro ⟨page, collected, hask, hcollect, hrest⟩
    obtain ⟨request, hrequest, hpage⟩ := bind_eq_ok_iff.mp hask
    rw [hrequest]
    dsimp only
    rcases hrest with ⟨hend, rfl⟩ | ⟨value, next, hnext, hfollow, hrun⟩
    · rw [turn_eq_ok_iff.mpr ⟨page, hpage, hcollect, .inl ⟨hend, rfl⟩⟩]
    · rw [turn_eq_ok_iff.mpr ⟨page, hpage, hcollect, .inr ⟨value, next, hnext, hfollow, rfl⟩⟩]
      exact hrun

/-- A loop ends well exactly on a finished chain, no longer than its bound, of pages that
can all be taken in and followed. -/
theorem run_eq_ok_iff :
    (loop.run fetch turns sent trail store).2 = .ok result ↔
      ∃ pages, PageChain (loop.ask fetch) loop.next sent (loop.cursor trail) pages ∧
        pages.length ≤ turns ∧ pages.foldlM loop.collect store = .ok result ∧
        ∃ last, (pages.filterMap loop.next).foldlM loop.follow trail = .ok last := by
  induction turns generalizing sent trail store with
  | zero =>
      constructor
      · intro hrun
        cases hrun
      · rintro ⟨pages, hchain, hlength, -⟩
        cases hchain <;> cases hlength
  | succ turns ih =>
      rw [run_succ_eq_ok_iff]
      constructor
      · rintro ⟨page, collected, hpage, hcollect, ⟨hend, rfl⟩ | ⟨value, next, hnext, hfollow, hrun⟩⟩
        · refine ⟨[page], .last hpage hend, Nat.le_add_left 1 turns, ?_, trail, ?_⟩
          · rw [List.foldlM_cons, hcollect]
            rfl
          · rw [List.filterMap_cons_none hend]
            rfl
        · obtain ⟨rest, hchain, hlength, hstore, last, hlast⟩ := ih.mp hrun
          rw [loop.cursor_follow hfollow] at hchain
          refine ⟨page :: rest, .more hpage hnext hchain, Nat.succ_le_succ hlength, ?_, last, ?_⟩
          · rw [List.foldlM_cons, hcollect]
            exact hstore
          · rw [List.filterMap_cons_some hnext, List.foldlM_cons, hfollow]
            exact hlast
      · rintro ⟨pages, hchain, hlength, hstore, last, hlast⟩
        cases hchain with
        | @last _ _ page hpage hend =>
            obtain ⟨collected, hcollect, hstore⟩ := bind_eq_ok_iff.mp hstore
            exact ⟨page, collected, hpage, hcollect, .inl ⟨hend, Except.ok.inj hstore⟩⟩
        | @more _ _ page value rest hpage hnext hchain =>
            obtain ⟨collected, hcollect, hstore⟩ := bind_eq_ok_iff.mp hstore
            rw [List.filterMap_cons_some hnext] at hlast
            obtain ⟨next, hfollow, hlast⟩ := bind_eq_ok_iff.mp hlast
            rw [← loop.cursor_follow hfollow] at hchain
            refine ⟨page, collected, hpage, hcollect, .inr ⟨value, next, hnext, hfollow, ?_⟩⟩
            exact ih.mpr ⟨rest, hchain, Nat.le_of_succ_le_succ hlength, hstore, last, hlast⟩

end PageLoop

end Lib
end Lirvena
