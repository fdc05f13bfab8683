/-
TowerOfHanoi/Output/Outlet.lean

Outlets: where the bytes that a sink stores leave the program.  Each operation
of the sink is a step of a machine; after it the bytes that it has stored are
sent, and the store is empty again.  How bytes are sent is left open: sending
is an action of any monad, which ends with the text of a fault if there was
one.
-/
import TowerOfHanoi.Output.Writer
import TowerOfHanoi.Verify

namespace TowerOfHanoi.Output

/-- How the store behind a sink is reached through the states of the sink. -/
structure Outlet (σ : Type) where
  store : σ → Store
  withStore : Store → σ → σ

namespace Outlet

variable {σ : Type}

/-- The store behind the sink of a format. -/
def ofFormat (f : Format) : Outlet (Writer f) where
  store w := (Writer.channel f w).store
  withStore := Writer.withStore f

/-- The store behind a sink, reached through a board. -/
def verified (o : Outlet σ) : Outlet (Verified σ) where
  store s := o.store s.inner
  withStore store s := { s with inner := o.withStore store s.inner }

variable {μ : Type → Type} [Monad μ]

/-- Carries out an operation of a sink and sends what it stored.  If that cannot be sent, the
operation is carried out again over a store that is full. -/
def deliver (o : Outlet σ) (send : ByteArray → μ (Option String))
    (operate : σ → Except Error Unit × σ) (s : σ) : μ (Except Error Unit × σ) := do
  let (result, after) := operate s
  let bytes := (o.store after).bytes
  if bytes.isEmpty then
    return (result, after)
  match ← send bytes with
  | none => return (result, o.withStore {} after)
  | some fault => return operate (o.withStore { limit := some 0, limitFault := fault } s)

/-- A sink as a port that sends what the sink stores. -/
def port (o : Outlet σ) (send : ByteArray → μ (Option String)) (sink : Sink σ) :
    Port (StateT σ μ) where
  emit m := ExceptT.mk (o.deliver send (sink.emit · m))
  finish := ExceptT.mk (o.deliver send sink.finish)

end Outlet

end TowerOfHanoi.Output
