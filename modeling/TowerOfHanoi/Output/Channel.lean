/-
TowerOfHanoi/Output/Channel.lean

Channels: a byte store, with or without a buffer in front of it.  A chunk
that does not fit in the free part of the buffer first makes room by draining
the buffer into the store; a chunk as large as the buffer then goes straight
to the store.  Draining that is cut short keeps the bytes that were not
stored.
-/
import TowerOfHanoi.Output.Store

namespace TowerOfHanoi.Output

/-- The size of a buffer in bytes. -/
def bufferCapacity : Nat := 8192

/-- A store with the bytes that wait in front of it. -/
structure Channel where
  store : Store
  buffered : Bool
  waiting : ByteArray := .empty

namespace Channel

/-- A channel that hands every chunk to its store at once. -/
def direct (store : Store) : Channel :=
  { store, buffered := false }

/-- A channel with an empty buffer. -/
def withBuffer (store : Store) : Channel :=
  { store, buffered := true }

/-- Moves the waiting bytes into the store; those that do not fit keep waiting. -/
def drain (c : Channel) : Except String Unit × Channel :=
  let (rest, store) := c.store.write c.waiting
  (if rest.isEmpty then .ok () else .error store.limitFault, { c with store, waiting := rest })

/-- Hands a chunk to the store. -/
def writeThrough (c : Channel) (chunk : ByteArray) : Except String Unit × Channel :=
  let (result, store) := c.store.writeAll chunk
  (result, { c with store })

/-- Takes a chunk that fits in the free part of the buffer, or is too large for any buffer. -/
def accept (c : Channel) (chunk : ByteArray) : Except String Unit × Channel :=
  if bufferCapacity ≤ chunk.size then c.writeThrough chunk
  else (.ok (), { c with waiting := c.waiting ++ chunk })

/-- Writes a chunk. -/
def write (c : Channel) (chunk : ByteArray) : Except String Unit × Channel :=
  if !c.buffered then c.writeThrough chunk
  else if bufferCapacity - c.waiting.size < chunk.size then
    match c.drain with
    | (.error fault, c) => (.error fault, c)
    | (.ok (), c) => c.accept chunk
  else c.accept chunk

/-- Moves the waiting bytes into the store and flushes it. -/
def flush (c : Channel) : Except String Unit × Channel :=
  match c.drain with
  | (.error fault, c) => (.error fault, c)
  | (.ok (), c) => (c.store.flush, c)

/-- Gives up the channel: the waiting bytes are stored as far as they fit. -/
def close (c : Channel) : Store :=
  c.drain.2.store

/-- Writes chunks in order, up to the first fault. -/
def writeEach (c : Channel) : List ByteArray → Except String Unit × Channel
  | [] => (.ok (), c)
  | chunk :: chunks =>
    match c.write chunk with
    | (.error fault, c) => (.error fault, c)
    | (.ok (), c) => c.writeEach chunks

end Channel

end TowerOfHanoi.Output
