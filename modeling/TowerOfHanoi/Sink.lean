/-
TowerOfHanoi/Sink.lean

Sinks: where moves go.  A sink is a state machine with two operations, one
that takes a move and one that finishes what has been taken; each may fail,
and the state goes on after a failure as the machine says.  Nothing else is
assumed, so what holds of a run over an arbitrary sink holds of every
destination.

What is done with a sink is written once for ports, whose operations are
actions of any monad.  A sink is a port whose actions change a state; a port of
another monad may have effects of its own.
-/
import TowerOfHanoi.Move

namespace TowerOfHanoi

/-- A destination for moves, as a machine with states `σ`. -/
structure Sink (σ : Type) where
  emit : σ → Move → Except Error Unit × σ
  finish : σ → Except Error Unit × σ

/-- A destination for moves whose operations are actions of a monad. -/
structure Port (μ : Type → Type) where
  emit : Move → ExceptT Error μ Unit
  finish : ExceptT Error μ Unit

namespace Sink

variable {σ : Type}

/-- A sink as a port over its states. -/
def port (sink : Sink σ) : Port (StateM σ) where
  emit m := ExceptT.mk fun s => sink.emit s m
  finish := ExceptT.mk sink.finish

/-- The sink that keeps every move, in order. -/
def collect : Sink (Array Move) where
  emit ms m := (.ok (), ms.push m)
  finish ms := (.ok (), ms)

/-- A sink behind a gate, with the number of moves that the gate still lets through. -/
structure Gated (σ : Type) where
  allowance : Nat
  inner : σ

/-- Lets a number of moves through to a sink and refuses the rest; `finish` always passes. -/
def gated (sink : Sink σ) : Sink (Gated σ) where
  emit s m :=
    match s.allowance with
    | 0 => (.error (.io "closed"), s)
    | k + 1 =>
      let (result, inner) := sink.emit s.inner m
      (result, ⟨k, inner⟩)
  finish s :=
    let (result, inner) := sink.finish s.inner
    (result, ⟨s.allowance, inner⟩)

end Sink

end TowerOfHanoi
