/-
TowerOfHanoi/Output/Store.lean

Byte stores.  A store keeps the bytes written to it up to a limit: a write
that goes past the limit is cut short there, and what did not fit is handed
back.  A store may also refuse to be flushed, which touches no byte.
-/

namespace TowerOfHanoi.Output

/-- A place where bytes end up, with the texts of the faults that it reports. -/
structure Store where
  bytes : ByteArray := .empty
  limit : Option Nat := none
  limitFault : String := "limit reached"
  flushFault : Option String := none

namespace Store

/-- How many of `n` further bytes fit. -/
def room (s : Store) (n : Nat) : Nat :=
  match s.limit with
  | none => n
  | some limit => min n (limit - s.bytes.size)

/-- Stores what fits of a chunk and hands back what does not. -/
def write (s : Store) (chunk : ByteArray) : ByteArray × Store :=
  let fitting := s.room chunk.size
  (chunk.extract fitting chunk.size, { s with bytes := s.bytes ++ chunk.extract 0 fitting })

/-- Stores a chunk, or fails with the store's own fault if not all of it fits. -/
def writeAll (s : Store) (chunk : ByteArray) : Except String Unit × Store :=
  let (rest, s) := s.write chunk
  (if rest.isEmpty then .ok () else .error s.limitFault, s)

/-- Flushes the store. -/
def flush (s : Store) : Except String Unit :=
  match s.flushFault with
  | none => .ok ()
  | some fault => .error fault

end Store

end TowerOfHanoi.Output
