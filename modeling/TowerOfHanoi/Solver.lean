/-
TowerOfHanoi/Solver.lean

Solving a puzzle into a port, and so into a sink.  The recursive strategy emits
moves depth first; the iterative one takes them from a cursor.  Both stop at
the first move that is refused and count the moves that were taken, in 64-bit
arithmetic.
-/
import TowerOfHanoi.Choice
import TowerOfHanoi.Cursor
import TowerOfHanoi.Sink

namespace TowerOfHanoi

/-! ### Into a port -/

namespace Port

variable {μ : Type → Type} [Monad μ]

/-- Emits the moves that carry the `n` smallest disks from `source` to `target`, depth first. -/
def emitRecursive (port : Port μ) : Nat → Peg → Peg → Peg → ExceptT Error μ UInt64
  | 0, _, _, _ => return 0
  | 1, source, target, _ => do
    port.emit ⟨1, source, target⟩
    return 1
  | n + 2, source, target, spare => do
    let before ← port.emitRecursive (n + 1) source spare target
    port.emit ⟨n + 2, source, target⟩
    let after ← port.emitRecursive (n + 1) spare target source
    return before + 1 + after

/-- Emits the moves that follow a cursor, counting on from `emitted`. -/
def emitIterative (port : Port μ) (c : Cursor) (emitted : UInt64) : ExceptT Error μ UInt64 :=
  match _h : c.next? with
  | none => return emitted
  | some (m, c') => do
    port.emit m
    port.emitIterative c' (emitted + 1)
termination_by pendingMoves c.stack
decreasing_by exact Cursor.pending_lt_of_next? _h

/-- Emits the solution of a puzzle and counts its moves. -/
def solve (port : Port μ) (strategy : Strategy) (p : Puzzle) : ExceptT Error μ UInt64 :=
  match strategy with
  | .recursive => port.emitRecursive p.disks.count p.rods.source p.rods.target p.rods.spare
  | .iterative => port.emitIterative (Cursor.start p) 0

end Port

/-! ### Into a sink -/

variable {σ : Type}

/-- Emits the moves that carry the `n` smallest disks from `source` to `target` into a sink. -/
def emitRecursive (sink : Sink σ) (n : Nat) (source target spare : Peg) (s : σ) :
    Except Error UInt64 × σ :=
  (sink.port.emitRecursive n source target spare).run s

/-- Emits the moves that follow a cursor into a sink, counting on from `emitted`. -/
def emitIterative (sink : Sink σ) (c : Cursor) (emitted : UInt64) (s : σ) :
    Except Error UInt64 × σ :=
  (sink.port.emitIterative c emitted).run s

/-- Emits the solution of a puzzle into a sink and counts its moves. -/
def solvePuzzle (sink : Sink σ) (strategy : Strategy) (p : Puzzle) (s : σ) :
    Except Error UInt64 × σ :=
  (sink.port.solve strategy p).run s

/-- Builds a puzzle from its parts and solves it depth first; a puzzle that is refused leaves the
sink alone. -/
def solve (sink : Sink σ) (disks : Int) (source target spare : Peg) (s : σ) :
    Except Error UInt64 × σ :=
  match Puzzle.ofParts disks source target spare with
  | .error e => (.error e, s)
  | .ok p => solvePuzzle sink .recursive p s

end TowerOfHanoi
