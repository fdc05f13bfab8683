/-
TowerOfHanoi/Proofs/Reliable.lean

Sinks that take everything.  Such a sink takes a move in every state that it can
come to and can be finished there, so that it is known of each state which moves
it has taken:

    sink.Takes Holds,

where `Holds s ms` says that these are the moves `ms`.  A list of moves then adds
to what is held (`Takes.emitAll`), and a run adds the solution of its puzzle
(`Takes.run`).

The sink of a format is one of them over a store that never fails
(`Writer.takes`).  It fails for want of room or because its store cannot be
flushed, and over a reliable store neither happens; when it is given up the
store is left with the encoding of what was taken, all of it.
-/
import TowerOfHanoi.Proofs.Delivery

namespace TowerOfHanoi

/-! ### Sinks -/

namespace Sink

variable {σ : Type}

/-- A sink that takes every move and can be finished at any time; `Holds s ms` says that in the state
`s` it has taken the moves `ms`. -/
structure Takes (sink : Sink σ) (Holds : σ → List Move → Prop) : Prop where
  emit : ∀ {s ms}, Holds s ms → ∀ m, ∃ s', sink.emit s m = (.ok (), s') ∧ Holds s' (ms ++ [m])
  finish : ∀ {s ms}, Holds s ms → ∃ s', sink.finish s = (.ok (), s') ∧ Holds s' ms

variable {sink : Sink σ} {Holds : σ → List Move → Prop} {s : σ} {ms : List Move}

theorem Takes.emitAll (h : sink.Takes Holds) (hs : Holds s ms) (ms' : List Move) :
    ∃ s', sink.emitAll s ms' = (.ok (), s') ∧ Holds s' (ms ++ ms') := by
  induction ms' generalizing s ms with
  | nil =>
    rw [List.append_nil]
    exact ⟨s, rfl, hs⟩
  | cons m ms' ih =>
    obtain ⟨s₁, hemit, hs₁⟩ := h.emit hs m
    rw [Sink.emitAll, hemit, List.append_cons]
    exact ih hs₁

/-- A run succeeds and adds the solution of its puzzle to what is held. -/
theorem Takes.run (h : sink.Takes Holds) (hs : Holds s ms) (strategy : Strategy) (p : Puzzle) :
    ∃ s', Engine.run sink strategy p s = (.ok ⟨p, strategy, p.disks.moveCount⟩, s') ∧
      Holds s' (ms ++ p.solution) := by
  obtain ⟨s₁, hemit, hs₁⟩ := h.emitAll hs p.solution
  obtain ⟨s₂, hfinish, hs₂⟩ := h.finish hs₁
  rw [Engine.run_eq, hemit]
  simp only [hfinish]
  exact ⟨s₂, rfl, hs₂⟩

end Sink

/-! ### Stores -/

namespace Output

/-- A store that is empty at first and never fails. -/
structure Store.Reliable (s : Store) : Prop where
  empty : s.bytes = .empty
  unlimited : s.limit = none
  flushes : s.flushFault = none

theorem Store.visible_of_unlimited {s : Store} (h : s.limit = none) (w : ByteArray) :
    s.visible w = w := by
  rw [Store.visible, h]

namespace Writer

variable {base : Store} {f : Format} {s : Writer f} {ms : List Move}

/-- A store without a limit does not run out of room. -/
theorem not_cut (hbase : base.limit = none) {ms : List Move} : ¬ Cut base f s ms := by
  intro hcut
  obtain ⟨limit, hlimit, -⟩ := hcut.limit_lt
  rw [hbase] at hlimit
  cases hlimit

/-- **Over a reliable store every format takes everything.** -/
theorem takes (hbase : base.Reliable) (f : Format) : (sink f).Takes (Holds base f) where
  emit {s _} h m := by
    have hemit := h.emit m
    generalize (sink f).emit s m = r at hemit ⊢
    cases hemit with
    | error hcut => exact absurd hcut.1 (not_cut hbase.unlimited)
    | ok hs => exact ⟨_, rfl, hs⟩
  -- finishing hands over what waits, so it too could only fail for want of room
  finish {s _} h := by
    have hfinish := h.finish_of_flushes hbase.flushes
    generalize (sink f).finish s = r at hfinish ⊢
    cases hfinish with
    | error hcut => exact absurd hcut.1 (not_cut hbase.unlimited)
    | ok hs => exact ⟨_, rfl, hs.1⟩

theorem Holds.emitAll_of_reliable (h : Holds base f s ms) (hbase : base.Reliable)
    (ms' : List Move) :
    ∃ s', (sink f).emitAll s ms' = (.ok (), s') ∧ Holds base f s' (ms ++ ms') :=
  (takes hbase f).emitAll h ms'

theorem Holds.finish_of_reliable (h : Holds base f s ms) (hbase : base.Reliable) :
    ∃ s', (sink f).finish s = (.ok (), s') ∧ Holds base f s' ms :=
  (takes hbase f).finish h

theorem Holds.close_of_reliable (h : Holds base f s ms) (hbase : base.Reliable) :
    (Writer.close f s).bytes = encode f ms := by
  rw [h.close, Store.visible_of_unlimited hbase.unlimited]

end Writer

end Output

end TowerOfHanoi
