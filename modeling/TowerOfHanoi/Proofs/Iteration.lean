/-
TowerOfHanoi/Proofs/Iteration.lean

Iteration over the moves of a puzzle.  A cursor keeps a stack of frames and,
beside it, a counter that no frame looks at.  What ties them together is

    c.Before ms,

the stack stands for the moves `ms` and the counter for their number.  Asking
for the next move goes from `m :: ms` to `ms`, and at `[]` it goes nowhere
(`Before.next?_cons`, `Before.next?_nil`); so after `k` calls a cursor stands
before the moves that are left when `k` have been dropped (`Before.after`).

Whatever else is done with a cursor is a number of calls in disguise:

    u.run c = (u.answer ms, c.after (u.calls ms.length))

(`Before.run_eq`), and a clone is a cursor like any other.

Main result: `iteration_refines_solution`, after any history of uses and
clones a cursor is a place in the list that the recursive strategy emits.
-/
import TowerOfHanoi.Proofs.Emission

namespace TowerOfHanoi.Cursor

variable {c : Cursor} {m : Move} {ms : List Move}

/-! ### One call -/

/-- The cursor stands before the moves `ms`, and its counter says how many they are. -/
structure Before (c : Cursor) (ms : List Move) : Prop where
  proper : c.Proper
  moves : c.moves = ms
  counted : c.remaining.toNat = ms.length

theorem before_start (p : Puzzle) : (start p).Before p.solution where
  proper := proper_start p
  moves := moves_start p
  counted := by
    show p.disks.moveCount.toNat = _
    rw [DiskCount.toNat_moveCount, Puzzle.length_solution, towerMoves_eq]

theorem Before.next?_nil (h : c.Before []) : c.next? = none :=
  next?_of_moves_nil h.proper h.moves

/-- The next move is the head of the list, and the counter, which is not zero, goes down by one. -/
theorem Before.next?_cons (h : c.Before (m :: ms)) :
    ∃ c', c.next? = some (m, c') ∧ c'.Before ms := by
  have hspec := next?_spec h.proper
  rcases hn : c.next? with - | ⟨m', c'⟩ <;> rw [hn, h.moves] at hspec
  · cases hspec
  · obtain ⟨hcons, hproper, hremaining⟩ := hspec
    obtain ⟨rfl, rfl⟩ := List.cons.inj hcons
    have hcounted := h.counted
    rw [List.length_cons] at hcounted
    have hone : (1 : UInt64) ≤ c.remaining := by
      rw [UInt64.le_iff_toNat_le, hcounted, UInt64.toNat_one]
      omega
    refine ⟨c', rfl, hproper, rfl, ?_⟩
    rw [hremaining, UInt64.toNat_sub_of_le _ _ hone, hcounted, UInt64.toNat_one]
    omega

/-- One call for the next move: the answer, and the cursor it leaves. -/
def call (c : Cursor) : Option Move × Cursor :=
  match c.next? with
  | none => (none, c)
  | some (m, c') => (some m, c')

/-- The cursor after `k` calls, whatever they answer. -/
def after : Nat → Cursor → Cursor
  | 0, c => c
  | k + 1, c => after k c.call.2

theorem call_of_none (h : c.next? = none) : c.call = (none, c) := by
  rw [call, h]

theorem call_of_some {c' : Cursor} (h : c.next? = some (m, c')) : c.call = (some m, c') := by
  rw [call, h]

theorem after_succ_of_some {c' : Cursor} (h : c.next? = some (m, c')) (k : Nat) :
    c.after (k + 1) = c'.after k := by
  rw [after, call_of_some h]

theorem after_one_of_none (h : c.next? = none) : c.after 1 = c := by
  rw [after, call_of_none h]
  rfl

/-- A call answers with the head of the list and leaves its tail. -/
theorem Before.call (h : c.Before ms) : c.call.1 = ms.head? ∧ c.call.2.Before ms.tail := by
  cases ms with
  | nil =>
    rw [call_of_none h.next?_nil]
    exact ⟨rfl, h⟩
  | cons m ms =>
    obtain ⟨c', hn, h'⟩ := h.next?_cons
    rw [call_of_some hn]
    exact ⟨rfl, h'⟩

theorem Before.after (h : c.Before ms) (k : Nat) : (c.after k).Before (ms.drop k) := by
  induction k generalizing c ms with
  | zero => exact h
  | succ k ih =>
    have hdrop : ms.drop (k + 1) = ms.tail.drop k := by simp
    rw [hdrop]
    exact ih h.call.2

theorem after_add (j k : Nat) (c : Cursor) : c.after (j + k) = (c.after j).after k := by
  induction j generalizing c with
  | zero =>
    rw [Nat.zero_add]
    rfl
  | succ j ih =>
    rw [Nat.add_right_comm]
    exact ih c.call.2

/-- The number of moves that follow always fits in a machine word. -/
theorem sizeHint_eq (c : Cursor) : c.sizeHint = (c.remaining.toNat, some c.remaining.toNat) :=
  if_pos c.remaining.toNat_lt

/-! ### Many calls -/

theorem Before.take_eq (h : c.Before ms) (k : Nat) :
    c.take k = (ms.take k, c.after (min k (ms.length + 1))) := by
  induction k generalizing c ms with
  | zero =>
    rw [Nat.zero_min]
    rfl
  | succ k ih =>
    cases ms with
    | nil =>
      -- one call was enough to find out that there is nothing to take
      have hn := h.next?_nil
      have hone : min (k + 1) (0 + 1) = 1 := by omega
      rw [List.length_nil, hone, after_one_of_none hn, Cursor.take, hn]
      rfl
    | cons m ms =>
      obtain ⟨c', hn, h'⟩ := h.next?_cons
      rw [List.length_cons, Nat.succ_min_succ, after_succ_of_some hn, Cursor.take, hn]
      simp only [ih h', List.take_succ_cons]

theorem Before.nth?_eq (h : c.Before ms) (k : Nat) :
    c.nth? k = (ms[k]?, c.after (min (k + 1) (ms.length + 1))) := by
  induction k generalizing c ms with
  | zero =>
    have hone : min (0 + 1) (ms.length + 1) = 1 := by omega
    have hcall : c.nth? 0 = c.call := by
      unfold nth? Cursor.call
      rfl
    rw [hone, hcall, ← List.head?_eq_getElem?, ← h.call.1]
    rfl
  | succ k ih =>
    cases ms with
    | nil =>
      have hn := h.next?_nil
      have hone : min (k + 1 + 1) (0 + 1) = 1 := by omega
      rw [List.length_nil, hone, after_one_of_none hn, nth?, hn]
      rfl
    | cons m ms =>
      obtain ⟨c', hn, h'⟩ := h.next?_cons
      rw [List.length_cons, Nat.succ_min_succ, after_succ_of_some hn, nth?, hn]
      exact ih h'

/-- A fold goes on until a call has no answer. -/
theorem Before.fold_eq {α : Type} (f : α → Move → α) (a : α) (h : c.Before ms) :
    c.fold f a = (ms.foldl f a, c.after (ms.length + 1)) := by
  induction ms generalizing c a with
  | nil =>
    have hn := h.next?_nil
    rw [fold_of_none f a hn, List.length_nil, after_one_of_none hn]
    rfl
  | cons m ms ih =>
    obtain ⟨c', hn, h'⟩ := h.next?_cons
    rw [fold_of_some f a hn, ih (f a m) h', List.length_cons, after_succ_of_some hn]
    rfl

/-! ### Uses -/

/-- What can be done with a cursor. -/
inductive Use where
  | next
  | take (k : Nat)
  | nth (k : Nat)
  | count
  | last
deriving DecidableEq

/-- What a use of a cursor answers. -/
inductive Answer where
  | move (m : Option Move)
  | moves (ms : List Move)
  | number (n : Nat)
deriving DecidableEq

namespace Use

/-- Makes use of a cursor. -/
def run (c : Cursor) : Use → Answer × Cursor
  | .next => (.move c.call.1, c.call.2)
  | .take k => (.moves (c.take k).1, (c.take k).2)
  | .nth k => (.move (c.nth? k).1, (c.nth? k).2)
  | .count => (.number c.count.1, c.count.2)
  | .last => (.move c.last?.1, c.last?.2)

/-- What the same use of a list answers. -/
def answer (ms : List Move) : Use → Answer
  | .next => .move ms.head?
  | .take k => .moves (ms.take k)
  | .nth k => .move ms[k]?
  | .count => .number ms.length
  | .last => .move ms.getLast?

/-- How many calls for the next move a use comes to, when `left` moves are left: it ends as soon as
it has what it wants, or is told that there is nothing. -/
def calls (left : Nat) : Use → Nat
  | .next => 1
  | .take k => min k (left + 1)
  | .nth k => min (k + 1) (left + 1)
  | .count => left + 1
  | .last => left + 1

end Use

/-- **Every use of a cursor is a number of calls**, and answers as the list does. -/
theorem Before.run_eq (h : c.Before ms) (u : Use) :
    u.run c = (u.answer ms, c.after (u.calls ms.length)) := by
  cases u with
  | next =>
    show (Answer.move c.call.1, c.call.2) = _
    rw [h.call.1]
    rfl
  | take k =>
    show (Answer.moves (c.take k).1, (c.take k).2) = _
    rw [h.take_eq]
    rfl
  | nth k =>
    show (Answer.move (c.nth? k).1, (c.nth? k).2) = _
    rw [h.nth?_eq]
    rfl
  | count =>
    have hlength : ms.foldl (fun n _ => n + 1) 0 = ms.length := by simp
    show (Answer.number c.count.1, c.count.2) = _
    rw [count, h.fold_eq, hlength]
    rfl
  | last =>
    have hlast : ms.foldl (fun _ m => some m) none = ms.getLast? := by
      rcases List.eq_nil_or_concat ms with rfl | ⟨ms, m, rfl⟩ <;> simp
    show (Answer.move c.last?.1, c.last?.2) = _
    rw [last?, h.fold_eq, hlast]
    rfl

/-! ### Histories -/

/-- A cursor with the number of calls made so far, on it or on the cursor that it is a clone of. -/
structure Tracked where
  cursor : Cursor
  calls : Nat
deriving DecidableEq

/-- What happens to one of several cursors, given by its place among them: it is used, or cloned. -/
inductive Act where
  | use (i : Nat) (u : Use)
  | clone (i : Nat)

/-- The cursors after an act.  A clone is added at the end, and an act on a cursor that does not
exist changes nothing. -/
def act (ts : List Tracked) : Act → List Tracked
  | .use i u =>
    ts.modify i fun t => ⟨(u.run t.cursor).2, t.calls + u.calls t.cursor.moves.length⟩
  | .clone i => ts ++ ts[i]?.toList

/-- The cursors after some acts, which begin with one cursor before the first move. -/
def history (p : Puzzle) (acts : List Act) : List Tracked :=
  acts.foldl act [⟨start p, 0⟩]

/-- The cursor is where so many calls have brought it. -/
def Tracked.Honest (p : Puzzle) (t : Tracked) : Prop :=
  t.cursor = (start p).after t.calls

theorem Tracked.Honest.before {p : Puzzle} {t : Tracked} (h : t.Honest p) :
    t.cursor.Before (p.solution.drop t.calls) := by
  rw [h]
  exact (before_start p).after t.calls

/-- Uses and clones leave every cursor where its calls have brought it. -/
theorem honest_act {p : Puzzle} {ts : List Tracked} (h : ∀ t ∈ ts, t.Honest p) (a : Act) :
    ∀ t ∈ act ts a, t.Honest p := by
  cases a with
  | use i u =>
    intro t ht
    obtain ⟨j, hj⟩ := List.mem_iff_getElem?.1 ht
    rw [act, List.getElem?_modify] at hj
    obtain ⟨t₀, hj₀, ht₀⟩ := Option.map_eq_some_iff.1 hj
    have hhonest := h t₀ (List.mem_iff_getElem?.2 ⟨j, hj₀⟩)
    split at ht₀
    · -- the cursor that is used: its own calls, and those of the use after them
      have hbefore := hhonest.before
      rw [← ht₀, Tracked.Honest, hbefore.run_eq, hbefore.moves, after_add]
      rw [← show t₀.cursor = _ from hhonest]
    · rwa [← ht₀]
  | clone i =>
    rw [act, List.forall_mem_append]
    refine ⟨h, fun t ht => ?_⟩
    exact h t (List.mem_of_getElem? (Option.mem_toList.1 ht))

theorem honest_history (p : Puzzle) (acts : List Act) : ∀ t ∈ history p acts, t.Honest p := by
  have hstart : ∀ t ∈ [(⟨start p, 0⟩ : Tracked)], t.Honest p := by
    intro t ht
    obtain rfl := List.mem_singleton.1 ht
    rfl
  exact List.foldlRecOn (motive := fun ts => ∀ t ∈ ts, t.Honest p) acts act hstart
    fun ts hts a _ => honest_act hts a

/-- **A cursor is a place in the list that the recursive strategy emits.**  After any history of
uses and clones, a cursor on which `k` calls for the next move have been made has `2 ^ n - 1 - k`
moves left, or none if `k` is larger, and its counter and its bounds say so.  The next call answers
with the move at place `k` of the list, if there is one.  Once a call has no answer, no later call
has one.  The counter goes down by one for each answer, and never below zero.  The other uses answer
as the rest of the list does. -/
theorem iteration_refines_solution (p : Puzzle) (acts : List Act) :
    let emitted := (solvePuzzle Sink.collect .recursive p #[]).2.toList
    let total := 2 ^ p.disks.count - 1
    emitted.length = total ∧
      ∀ t ∈ history p acts,
        let left := total - min t.calls total
        t.cursor = (start p).after t.calls ∧
          t.cursor.remaining.toNat = left ∧
          t.cursor.sizeHint = (left, some left) ∧
          t.cursor.call.1 = emitted[t.calls]? ∧
          (t.cursor.call.1 = none → ∀ k, (t.cursor.after k).call.1 = none) ∧
          (∀ m c, t.cursor.next? = some (m, c) → c.remaining.toNat + 1 = t.cursor.remaining.toNat) ∧
          ∀ u : Use, (u.run t.cursor).1 = u.answer (emitted.drop t.calls) := by
  intro emitted total
  have hemitted : emitted = p.solution := by
    show (solvePuzzle Sink.collect .recursive p #[]).2.toList = _
    rw [solvePuzzle_collect]
  have htotal : p.solution.length = total := by
    rw [Puzzle.length_solution, towerMoves_eq]
  rw [hemitted]
  refine ⟨htotal, ?_⟩
  intro t ht left
  have hbefore := (honest_history p acts t ht).before
  have hleft : (p.solution.drop t.calls).length = left := by
    rw [List.length_drop, htotal]
    omega
  have hremaining : t.cursor.remaining.toNat = left := by
    rw [hbefore.counted, hleft]
  refine ⟨honest_history p acts t ht, hremaining, ?_, ?_, ?_, ?_, ?_⟩
  · rw [sizeHint_eq, hremaining]
  · rw [hbefore.call.1, List.head?_drop]
  · -- an answer is missing only at the end of the list, and there is nothing behind the end
    intro hnone k
    rw [hbefore.call.1, List.head?_eq_none_iff] at hnone
    rw [(hbefore.after k).call.1, hnone, List.drop_nil, List.head?_nil]
  · intro m c hn
    rcases hms : p.solution.drop t.calls with - | ⟨m', ms⟩ <;> rw [hms] at hbefore
    · rw [hbefore.next?_nil] at hn
      cases hn
    · obtain ⟨c', hn', hbefore'⟩ := hbefore.next?_cons
      rw [hn] at hn'
      obtain ⟨rfl, rfl⟩ := Prod.mk.inj (Option.some.inj hn')
      rw [hbefore.counted, hbefore'.counted, List.length_cons]
  · intro u
    rw [hbefore.run_eq]

/-- Two disks: a clone made after the first call goes its own way. -/
theorem iteration_refines_solution_two :
    let p : Puzzle := ⟨⟨2, by decide⟩, .classic⟩
    let acts : List Act := [.use 0 .next, .clone 0, .use 0 (.nth 5), .use 1 (.take 1)]
    ∃ t ∈ history p acts, t.calls = 2 ∧ t.cursor.remaining.toNat = 1 ∧
      t.cursor.call.1 = some ⟨1, .b, .c⟩ := by
  intro p acts
  let t : Tracked := ⟨⟨[.transfer 1 .b .c .a], 1⟩, 2⟩
  have ht : t ∈ history p acts := by decide
  obtain ⟨-, hremaining, -, hcall, -⟩ := (iteration_refines_solution p acts).2 t ht
  refine ⟨t, ht, rfl, hremaining, hcall.trans ?_⟩
  rfl

end TowerOfHanoi.Cursor
