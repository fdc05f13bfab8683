/-
TowerOfHanoi/Proofs/StackBounds.lean

How far the stack of a cursor grows.  A call for the next move is a loop: as
long as there is a frame, it is taken off the stack, and either that gives the
move, or three frames are put in its place, one by one.  `Rounds` is this loop
without fuel, with the stacks that its rounds begin on, and `PassesThrough`
adds the stacks in the middle of a round.

A frame about `k` disks takes `k` rounds to come to a move, and each of them
but the last leaves the stack higher by two.  There is room for that among
`2 * n - 1` frames if

    below + 2 * k ≤ 2 * n

where `below` is the number of frames under it.  This holds of every frame on
the stack (`HasRoom`), and it goes on to hold when the top frame is split
(`HasRoom.split`): what ends on top takes one round less, and stands higher by
two.

Main result: `stack_bounded`.
-/
import TowerOfHanoi.Proofs.Iteration

namespace TowerOfHanoi

variable {n : Nat} {stack stack' rest s : List Frame} {m : Move} {answer : Option Move}
  {heads : List (List Frame)}

/-! ### The loop of a call -/

/-- `Rounds stack heads answer rest`: begun on `stack`, the loop makes one round of work on each of
the stacks `heads`, in this order, and ends with an answer and with `rest` on the stack. -/
inductive Rounds : List Frame → List (List Frame) → Option Move → List Frame → Prop
  | exhausted {stack : List Frame} : round stack = .exhausted → Rounds stack [] none stack
  | yield {stack rest : List Frame} {m : Move} :
    round stack = .yield m rest → Rounds stack [stack] (some m) rest
  | split {stack stack' rest : List Frame} {heads : List (List Frame)} {answer : Option Move} :
    round stack = .split stack' → Rounds stack' heads answer rest →
      Rounds stack (stack :: heads) answer rest

/-- The stacks that a round passes through: the one that it begins on and, once the frame on top has
been taken off, those that come about while frames are put on the rest one by one. -/
inductive PassesThrough (stack : List Frame) : List Frame → Prop
  | head : PassesThrough stack stack
  | yield {rest : List Frame} {m : Move} : round stack = .yield m rest → PassesThrough stack rest
  | split {stack' s : List Frame} :
    round stack = .split stack' → stack.tail <:+ s → s <:+ stack' → PassesThrough stack s

/-- The fuel does not matter as long as there is enough for the rounds that are made. -/
theorem Rounds.runRounds_eq (h : Rounds stack heads answer rest) {fuel : Nat}
    (hf : heads.length ≤ fuel) : runRounds fuel stack = answer.map fun m => (m, rest) := by
  induction h generalizing fuel with
  | exhausted hr =>
    cases fuel with
    | zero => rfl
    | succ fuel =>
      rw [runRounds, hr]
      rfl
  | yield hr =>
    obtain _ | fuel := fuel
    · cases hf
    · rw [runRounds, hr]
      rfl
  | split hr _ ih =>
    obtain _ | fuel := fuel
    · cases hf
    · rw [runRounds, hr]
      exact ih (Nat.le_of_succ_le_succ hf)

/-- The rounds that it takes to come to the first move of a frame. -/
def Frame.rounds : Frame → Nat
  | .transfer k _ _ _ => k
  | .move _ => 1

theorem Frame.Proper.one_le_rounds {f : Frame} (hf : f.Proper) : 1 ≤ f.rounds := by
  cases f with
  | move m => exact Nat.le_refl 1
  | transfer k x y z => exact hf

/-- A frame that stands for moves takes exactly its rounds, and before the last of them the stack is
as high as it gets. -/
theorem Frame.Proper.exists_rounds {f : Frame} (hf : f.Proper) (rest : List Frame) :
    ∃ heads m rest', Rounds (f :: rest) heads (some m) rest' ∧ heads.length = f.rounds ∧
      ∃ s ∈ heads, s.length + 1 = rest.length + 2 * f.rounds := by
  cases f with
  | move m => exact ⟨[.move m :: rest], m, rest, .yield rfl, rfl, _, List.mem_singleton_self _, rfl⟩
  | transfer k x y z =>
    obtain _ | k := k
    · cases hf
    clear hf
    induction k generalizing x y z rest with
    | zero =>
      exact ⟨[.transfer 1 x y z :: rest], _, rest, .yield rfl, rfl, _, List.mem_singleton_self _, rfl⟩
    | succ k ih =>
      obtain ⟨heads, m, rest', hrounds, hlength, s, hs, hheight⟩ :=
        ih (.move ⟨k + 2, x, y⟩ :: .transfer (k + 1) z y x :: rest) x z y
      refine ⟨_, m, rest', .split rfl hrounds, ?_, s, List.mem_cons_of_mem _ hs, ?_⟩
      · rw [List.length_cons, hlength]
        rfl
      · simp only [List.length_cons, rounds] at hheight ⊢
        omega

/-! ### Room for growth -/

/-- No frame is about an empty tower, and each may grow as far as its rounds take it without the
stack getting higher than `2 * n - 1`. -/
def HasRoom (n : Nat) : List Frame → Prop
  | [] => True
  | f :: rest => f.Proper ∧ rest.length + 2 * f.rounds ≤ 2 * n ∧ HasRoom n rest

theorem HasRoom.of_suffix (h : HasRoom n stack) (hs : s <:+ stack) : HasRoom n s := by
  induction stack with
  | nil =>
    rw [List.suffix_nil.1 hs]
    trivial
  | cons f rest ih =>
    rcases List.suffix_cons_iff.1 hs with rfl | hs
    · exact h
    · exact ih h.2.2 hs

theorem HasRoom.split (h : HasRoom n stack) (hr : round stack = .split stack') :
    HasRoom n stack' := by
  rcases stack with - | ⟨f, rest⟩
  · cases hr
  cases f with
  | move m => cases hr
  | transfer k x y z =>
    obtain ⟨hpos, hroom, hrest⟩ := h
    obtain _ | _ | k := k
    · cases hpos
    · cases hr
    · -- from the top: one round less on two frames more, the move, and one round less on as many
      cases hr
      simp only [Frame.rounds] at hroom
      refine ⟨?_, ?_, ?_, ?_, ?_, ?_, hrest⟩ <;>
        simp only [Frame.Proper, Frame.rounds, List.length_cons] <;> omega

theorem HasRoom.yield (h : HasRoom n stack) (hr : round stack = .yield m rest) :
    HasRoom n rest := by
  refine h.of_suffix ?_
  unfold round at hr
  split at hr <;> cases hr <;> exact List.suffix_cons _ _

/-- A round keeps the room at every moment. -/
theorem HasRoom.passesThrough (h : HasRoom n stack) (hs : PassesThrough stack s) : HasRoom n s := by
  cases hs with
  | head => exact h
  | yield hr => exact h.yield hr
  | split hr _ hs => exact (h.split hr).of_suffix hs

/-- A whole loop keeps the room, from each of its rounds to the next. -/
theorem HasRoom.rounds (h : HasRoom n stack) (hr : Rounds stack heads answer rest) :
    (∀ s ∈ heads, HasRoom n s) ∧ HasRoom n rest := by
  induction hr with
  | exhausted => exact ⟨by simp, h⟩
  | yield hr => exact ⟨by simpa using h, h.yield hr⟩
  | split hr _ ih =>
    obtain ⟨hheads, hrest⟩ := ih (h.split hr)
    exact ⟨List.forall_mem_cons.2 ⟨h, hheads⟩, hrest⟩

/-- A stack of at most `2 * n - 1` frames, on which all sub-towers have between `1` and `n` disks. -/
structure Bounded (n : Nat) (stack : List Frame) : Prop where
  length_le : stack.length ≤ 2 * n - 1
  disks : ∀ k x y z, .transfer k x y z ∈ stack → 1 ≤ k ∧ k ≤ n

theorem HasRoom.bounded (h : HasRoom n stack) : Bounded n stack where
  length_le := by
    rcases stack with - | ⟨f, rest⟩
    · exact Nat.zero_le _
    · obtain ⟨hproper, hroom, -⟩ := h
      have hpos := hproper.one_le_rounds
      rw [List.length_cons]
      omega
  disks k x y z hmem := by
    obtain ⟨above, below, rfl⟩ := List.append_of_mem hmem
    obtain ⟨hpos, hroom, -⟩ := h.of_suffix (List.suffix_append above _)
    simp only [Frame.Proper, Frame.rounds] at hpos hroom
    omega

/-! ### Calls -/

namespace Cursor

variable {c : Cursor}

/-- A call is the loop on the stack of its cursor, and the frame on top tells how long it is. -/
theorem exists_rounds_of_cons {f : Frame} (hstack : c.stack = f :: rest) (hf : f.Proper) :
    ∃ heads, Rounds c.stack heads c.call.1 c.call.2.stack ∧ heads.length = f.rounds ∧
      ∃ s ∈ heads, s.length + 1 = rest.length + 2 * f.rounds := by
  obtain ⟨heads, m, rest', hrounds, hlength, hhighest⟩ := hf.exists_rounds rest
  have hfuel : heads.length ≤ topHeight (f :: rest) + 1 := by
    rw [hlength]
    cases f <;> simp [Frame.rounds, topHeight]
  have hn : c.next? = some (m, ⟨rest', c.remaining - 1⟩) := by
    rw [next?, hstack, hrounds.runRounds_eq hfuel]
    rfl
  rw [call_of_some hn, hstack]
  exact ⟨heads, hrounds, hlength, hhighest⟩

/-- A call makes at most `n` rounds. -/
theorem exists_rounds_call (h : HasRoom n c.stack) :
    ∃ heads, Rounds c.stack heads c.call.1 c.call.2.stack ∧ heads.length ≤ n := by
  rcases hstack : c.stack with - | ⟨f, rest⟩ <;> rw [hstack] at h
  · have hn : c.next? = none := by
      rw [next?, hstack]
      rfl
    rw [call_of_none hn, hstack]
    exact ⟨[], .exhausted rfl, Nat.zero_le n⟩
  · obtain ⟨hproper, hroom, -⟩ := h
    obtain ⟨heads, hrounds, hlength, -⟩ := exists_rounds_of_cons hstack hproper
    exact ⟨heads, hstack ▸ hrounds, by omega⟩

theorem hasRoom_after (h : HasRoom n c.stack) (k : Nat) : HasRoom n (c.after k).stack := by
  induction k generalizing c with
  | zero => exact h
  | succ k ih =>
    obtain ⟨heads, hrounds, -⟩ := exists_rounds_call h
    exact ih (h.rounds hrounds).2

/-- **The stack of a cursor is bounded.**  Let a puzzle have `n` disks, at least one, and let any
number of calls have been made on its cursor.  Then there are at most `2 * n - 1` frames on the stack,
so that room for `2 * n + 1` is always enough, and every sub-tower on it has between `1` and `n` disks.
The next call is a loop of at most `n` rounds, and in the middle of each of them, after the frame on
top has been taken off and after each of those that are put in its place, the same is true of the
stack.  The first call reaches both bounds. -/
theorem stack_bounded (p : Puzzle) (hn : 1 ≤ p.disks.count) :
    let n := p.disks.count
    (∀ k, let c := (start p).after k
      Bounded n c.stack ∧
        ∃ heads, Rounds c.stack heads c.call.1 c.call.2.stack ∧ heads.length ≤ n ∧
          ∀ stack ∈ heads, ∀ s, PassesThrough stack s → Bounded n s) ∧
      ∃ heads, Rounds (start p).stack heads (start p).call.1 (start p).call.2.stack ∧
        heads.length = n ∧ ∃ s ∈ heads, s.length = 2 * n - 1 := by
  intro n
  have hstart : (start p).stack = [.transfer n p.rods.source p.rods.target p.rods.spare] :=
    if_neg (Nat.one_le_iff_ne_zero.1 hn)
  constructor
  · intro k c
    have hroom : HasRoom n c.stack := by
      refine hasRoom_after ?_ k
      rw [hstart]
      exact ⟨hn, by simp [Frame.rounds], trivial⟩
    obtain ⟨heads, hrounds, hlength⟩ := exists_rounds_call hroom
    refine ⟨hroom.bounded, heads, hrounds, hlength, fun stack hstack s hs => ?_⟩
    exact (((hroom.rounds hrounds).1 stack hstack).passesThrough hs).bounded
  · obtain ⟨heads, hrounds, hlength, s, hs, hheight⟩ := exists_rounds_of_cons hstart hn
    refine ⟨heads, hrounds, hlength, s, hs, ?_⟩
    simp only [List.length_nil, Frame.rounds] at hheight
    omega

/-- Three disks: at most five frames in any of the rounds of any call, and five in the first. -/
theorem stack_bounded_three :
    let p : Puzzle := ⟨⟨3, by decide⟩, .classic⟩
    1 ≤ p.disks.count ∧ (∀ k, ((start p).after k).stack.length ≤ 5) ∧
      ∃ heads, Rounds (start p).stack heads (some ⟨1, .a, .c⟩)
          [.move ⟨2, .a, .b⟩, .transfer 1 .c .b .a, .move ⟨3, .a, .c⟩, .transfer 2 .b .c .a] ∧
        heads.length = 3 ∧ ∃ s ∈ heads, s.length = 5 := by
  intro p
  obtain ⟨hall, hfirst⟩ := stack_bounded p (by decide)
  exact ⟨by decide, fun k => (hall k).1.length_le, hfirst⟩

end Cursor

end TowerOfHanoi
