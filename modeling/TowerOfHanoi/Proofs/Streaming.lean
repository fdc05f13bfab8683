/-
TowerOfHanoi/Proofs/Streaming.lean

Streaming is playing into a store.  A command that streams sends the bytes that
each operation of a sink has stored and goes on with an empty store, while a
play leaves them where they are.  The two states differ by the bytes sent so
far, which stand in front of those in the store:

    s = o.after sent t.

No operation of a sink looks at the bytes in front of those it stores
(`Keeps`); this is shown for stores, channels and tables, and then for the sink
of every format, with or without a board before it (`Outlet.Local`).  So the
two states stay together when an operation is delivered (`InStep.deliver`), and
with that in everything that is made of emitting and finishing (`Tracks`), a
whole run included (`tracks_drive`).

Main result: `stream_eq_play`, over a device that takes all bytes a stream ends
with the result of the play, and the device has what the play leaves in its
store.
-/
import TowerOfHanoi.Program
import TowerOfHanoi.Proofs.Conservation

namespace TowerOfHanoi

/-! ### Operations that keep a view -/

/-- An operation does the same seen through `view`, and keeps the view. -/
def Keeps {S α : Type} (view : S → S) (operate : S → α × S) : Prop :=
  ∀ s, operate (view s) = ((operate s).1, view (operate s).2)

theorem Keeps.ioResult {S : Type} {view : S → S} {operate : S → Except String Unit × S}
    (h : Keeps view operate) : Keeps view fun s => Output.ioResult (operate s) := by
  intro s
  simp only [h s]
  rcases operate s with ⟨fault | ⟨⟨⟩⟩, s'⟩ <;> rfl

namespace Output

variable {sent : ByteArray}

/-! ### Stores and channels -/

/-- The store as it would be with some bytes before its own. -/
def Store.after (sent : ByteArray) (s : Store) : Store :=
  { s with bytes := sent ++ s.bytes, limit := s.limit.map (sent.size + ·) }

theorem Store.room_after (s : Store) (n : Nat) : (s.after sent).room n = s.room n := by
  rcases s with ⟨bytes, - | limit, limitFault, flushFault⟩
  · rfl
  · simp only [room, after, Option.map_some, ByteArray.size_append]
    congr 1
    omega

theorem Store.keeps_write (chunk : ByteArray) : Keeps (Store.after sent) (·.write chunk) := by
  intro s
  simp only [write, room_after]
  simp [after, ByteArray.append_assoc]

theorem Store.keeps_writeAll (chunk : ByteArray) : Keeps (Store.after sent) (·.writeAll chunk) := by
  intro s
  have hwrite : (s.after sent).write chunk = _ := keeps_write chunk s
  simp only [writeAll, hwrite]
  rfl

namespace Channel

/-- The channel with some bytes before those of its store. -/
def after (sent : ByteArray) (c : Channel) : Channel :=
  { c with store := c.store.after sent }

theorem keeps_drain : Keeps (after sent) drain := by
  intro c
  have hwrite : (c.store.after sent).write c.waiting = _ := Store.keeps_write c.waiting c.store
  simp only [drain, after, hwrite]
  rfl

theorem keeps_writeThrough (chunk : ByteArray) : Keeps (after sent) (·.writeThrough chunk) := by
  intro c
  have hwrite : (c.store.after sent).writeAll chunk = _ := Store.keeps_writeAll chunk c.store
  simp only [writeThrough, after, hwrite]

theorem keeps_accept (chunk : ByteArray) : Keeps (after sent) (·.accept chunk) := by
  intro c
  simp only [accept]
  split
  · exact keeps_writeThrough chunk c
  · rfl

theorem keeps_write (chunk : ByteArray) : Keeps (after sent) (·.write chunk) := by
  intro c
  have hbuffered : (c.after sent).buffered = c.buffered := rfl
  have hwaiting : (c.after sent).waiting = c.waiting := rfl
  simp only [write, hbuffered, hwaiting]
  split
  · exact keeps_writeThrough chunk c
  · split
    · rw [keeps_drain c]
      rcases c.drain with ⟨fault | ⟨⟨⟩⟩, c'⟩
      · rfl
      · exact keeps_accept chunk c'
    · exact keeps_accept chunk c

theorem keeps_flush : Keeps (after sent) flush := by
  intro c
  rw [flush, flush, keeps_drain c]
  rcases c.drain with ⟨fault | ⟨⟨⟩⟩, c'⟩ <;> rfl

theorem keeps_writeEach (chunks : List ByteArray) : Keeps (after sent) (·.writeEach chunks) := by
  induction chunks with
  | nil => exact fun _ => rfl
  | cons chunk chunks ih =>
    intro c
    have hwrite : (c.after sent).write chunk = _ := keeps_write chunk c
    simp only [writeEach, hwrite]
    rcases c.write chunk with ⟨fault | ⟨⟨⟩⟩, c'⟩
    · rfl
    · exact ih c'

theorem close_after (c : Channel) : (c.after sent).close = c.close.after sent := by
  rw [close, keeps_drain c]
  rfl

end Channel

/-! ### Tables -/

namespace Csv

/-- The sink of a table with some bytes before those of its store. -/
def after (sent : ByteArray) (s : Csv) : Csv :=
  { s with channel := s.channel.after sent }

theorem keeps_drain : Keeps (after sent) drain := by
  intro s
  have hwrite : (s.channel.after sent).write s.rows = _ := Channel.keeps_write s.rows s.channel
  simp only [drain, after, hwrite]
  rcases s.channel.write s.rows with ⟨fault | ⟨⟨⟩⟩, channel⟩ <;> rfl

theorem keeps_put (piece : ByteArray) : Keeps (after sent) (·.put piece) := by
  intro s
  have hrows : (s.after sent).rows = s.rows := rfl
  simp only [put, hrows]
  split
  · rw [keeps_drain s]
    rcases s.drain with ⟨fault | ⟨⟨⟩⟩, s'⟩ <;> rfl
  · rfl

theorem keeps_putAll (pieces : List ByteArray) : Keeps (after sent) (·.putAll pieces) := by
  induction pieces with
  | nil => exact fun _ => rfl
  | cons piece pieces ih =>
    intro s
    have hput : (s.after sent).put piece = _ := keeps_put piece s
    simp only [putAll, hput]
    rcases s.put piece with ⟨fault | ⟨⟨⟩⟩, s'⟩
    · rfl
    · exact ih s'

theorem keeps_writeHeader : Keeps (after sent) writeHeader := by
  intro s
  have hheaded : (s.after sent).headed = s.headed := rfl
  have hput : (s.after sent).putAll (rowPieces csvHeader) = _ := keeps_putAll _ s
  simp only [writeHeader, hheaded, hput]
  split
  · rfl
  · rcases s.putAll (rowPieces csvHeader) with ⟨fault | ⟨⟨⟩⟩, s'⟩ <;> rfl

theorem keeps_writeMove (m : Move) : Keeps (after sent) (·.writeMove m) := by
  intro s
  simp only [writeMove]
  rw [keeps_writeHeader s]
  rcases s.writeHeader with ⟨fault | ⟨⟨⟩⟩, s'⟩
  · rfl
  · exact keeps_putAll _ s'

theorem keeps_flush : Keeps (after sent) flush := by
  intro s
  rw [flush, flush, keeps_drain s]
  rcases s.drain with ⟨fault | ⟨⟨⟩⟩, s'⟩
  · rfl
  · have hflush : (s'.channel.after sent).flush = _ := Channel.keeps_flush s'.channel
    simp only [after, hflush]

theorem close_after (s : Csv) : (s.after sent).close = s.close.after sent := by
  rw [close, keeps_flush s]
  exact Channel.close_after _

end Csv

/-! ### Outlets -/

namespace Outlet

variable {σ : Type}

/-- An outlet reaches one store, and nothing else. -/
structure Lawful (o : Outlet σ) : Prop where
  store_withStore : ∀ store s, o.store (o.withStore store s) = store
  withStore_store : ∀ s, o.withStore (o.store s) s = s
  withStore_withStore : ∀ store store' s,
    o.withStore store (o.withStore store' s) = o.withStore store s

/-- The state with some bytes before those of its store. -/
def after (o : Outlet σ) (sent : ByteArray) (s : σ) : σ :=
  o.withStore ((o.store s).after sent) s

/-- An operation neither looks at bytes stored before nor does anything to the store but store
more. -/
structure Local (o : Outlet σ) (operate : σ → Except Error Unit × σ) : Prop where
  keeps : ∀ sent, Keeps (o.after sent) operate
  grows : ∀ s, (o.store s).Grows (o.store (operate s).2)

theorem lawful_ofFormat (f : Format) : (ofFormat f).Lawful := by
  cases f <;> exact ⟨fun _ _ => rfl, fun _ => rfl, fun _ _ _ => rfl⟩

theorem Lawful.verified {o : Outlet σ} (ho : o.Lawful) : o.verified.Lawful where
  store_withStore store s := ho.store_withStore store s.inner
  withStore_store s := by
    rcases s with ⟨board, inner, completed⟩
    simp only [Outlet.verified, ho.withStore_store]
  withStore_withStore store store' s := by
    simp only [Outlet.verified, ho.withStore_withStore]

theorem local_emit (f : Format) (m : Move) : (ofFormat f).Local ((Writer.sink f).emit · m) := by
  refine ⟨fun sent => ?_, fun s => Writer.grows_emit f s m⟩
  cases f with
  | text =>
    show Keeps (Channel.after sent) (Printer.console.printAll · (movePrints m))
    simp only [printAll_console]
    exact (Channel.keeps_writeEach _).ioResult
  | json =>
    show Keeps (Channel.after sent) (jsonSink.emit · m)
    intro c
    have hwrite : (c.after sent).writeEach (m.jsonTokens.map String.toUTF8) = _ :=
      Channel.keeps_writeEach _ c
    simp only [jsonSink, hwrite]
    rcases c.writeEach (m.jsonTokens.map String.toUTF8) with ⟨fault | ⟨⟨⟩⟩, c'⟩
    · rfl
    · exact (Channel.keeps_write _).ioResult c'
  | csv =>
    show Keeps (Csv.after sent) (csvSink.emit · m)
    intro s
    have hwrite : (s.after sent).writeMove m = _ := Csv.keeps_writeMove m s
    simp only [csvSink, hwrite]
    rcases s.writeMove m with ⟨fault | ⟨⟨⟩⟩, s'⟩ <;> rfl

theorem local_finish (f : Format) : (ofFormat f).Local (Writer.sink f).finish := by
  refine ⟨fun sent => ?_, fun s => Writer.grows_finish f s⟩
  cases f with
  | text =>
    simp only [Writer.sink, textSink, Printer.console]
    exact Channel.keeps_flush.ioResult
  | json =>
    simp only [Writer.sink, jsonSink]
    exact Channel.keeps_flush.ioResult
  | csv =>
    simp only [Writer.sink, csvSink]
    exact Csv.keeps_flush.ioResult

theorem close_after (sent : ByteArray) (f : Format) (s : Writer f) :
    Writer.close f ((ofFormat f).after sent s) = (Writer.close f s).after sent := by
  cases f with
  | text => exact Channel.close_after s
  | json => exact Channel.close_after s
  | csv => exact Csv.close_after s

/-- Behind a board a move is emitted as before, if it is. -/
theorem Local.verified_emit {o : Outlet σ} {sink : Sink σ} {m : Move}
    (h : o.Local (sink.emit · m)) : o.verified.Local (sink.verified.emit · m) where
  keeps sent s := by
    have hemit : sink.emit (o.after sent s.inner) m = _ := h.keeps sent s.inner
    simp only [after, verified] at hemit ⊢
    simp only [Sink.verified, hemit]
    rcases s.board.perform m with ⟨e | ⟨⟨⟩⟩, board⟩ <;> rfl
  grows s := by
    simp only [verified, Sink.verified]
    rcases s.board.perform m with ⟨e | ⟨⟨⟩⟩, board⟩
    · exact .refl _
    · exact h.grows s.inner

theorem Local.verified_finish {o : Outlet σ} {sink : Sink σ} (h : o.Local sink.finish) :
    o.verified.Local sink.verified.finish where
  keeps sent s := by
    have hfinish : sink.finish (o.after sent s.inner) = _ := h.keeps sent s.inner
    simp only [after, verified] at hfinish ⊢
    simp only [Sink.verified, hfinish]
    rcases s.board.ensureSolved with e | ⟨⟨⟩⟩ <;> rfl
  grows s := by
    simp only [verified, Sink.verified]
    rcases s.board.ensureSolved with e | ⟨⟨⟩⟩
    · exact .refl _
    · exact h.grows s.inner

/-! ### One delivery -/

/-- The device that takes all bytes. -/
def takeAll (bytes : ByteArray) : StateM ByteArray (Option String) := do
  modify (· ++ bytes)
  return none

/-- The state `t` of a stream that has sent some bytes stands for the state `s` of a play. -/
structure InStep (o : Outlet σ) (sent : ByteArray) (t s : σ) : Prop where
  store_eq : o.store t = {}
  eq_after : s = o.after sent t

variable {o : Outlet σ} {t s : σ}

theorem Lawful.inStep_empty (ho : o.Lawful) (h : o.store s = {}) : o.InStep .empty s s := by
  refine ⟨h, ?_⟩
  have hafter : (o.store s).after .empty = o.store s := by
    rw [h]
    rfl
  rw [after, hafter, ho.withStore_store]

/-- **An operation is delivered as it is played**: with the same result, and what it stores follows
what has been sent. -/
theorem InStep.deliver (ho : o.Lawful) {operate : σ → Except Error Unit × σ}
    (hoperate : o.Local operate) (h : o.InStep sent t s) :
    ∃ sent' t', (o.deliver takeAll operate t).run sent = (((operate s).1, t'), sent') ∧
      o.InStep sent' t' (operate s).2 := by
  obtain ⟨more, hmore⟩ := (hoperate.grows t).more
  rw [h.store_eq] at hmore
  have hempty : ({} : Store).bytes ++ more = more := ByteArray.empty_append
  rw [hempty] at hmore
  -- what the play has stored is what was sent and what the operation has stored now
  have hplay : operate s
      = ((operate t).1, o.after (sent ++ more) (o.withStore {} (operate t).2)) := by
    rw [h.eq_after, hoperate.keeps sent t, after, after, hmore, ho.store_withStore,
      ho.withStore_withStore]
    simp [Store.after]
  rw [hplay]
  refine ⟨sent ++ more, o.withStore {} (operate t).2, ?_, ho.store_withStore .., rfl⟩
  simp only [Outlet.deliver, hmore]
  split
  · -- nothing has been stored, so the store is empty as it is
    rename_i hnone
    obtain rfl := isEmpty_iff.1 hnone
    have hstore : o.withStore {} (operate t).2 = (operate t).2 := by
      rw [← hmore, ho.withStore_store]
    rw [hstore, ByteArray.append_empty]
    rfl
  · rfl

/-! ### A run -/

/-- An action of a stream comes to what a change of the state of a play comes to. -/
def Tracks {α : Type} (o : Outlet σ) (action : ExceptT Error (StateT σ (StateM ByteArray)) α)
    (change : ExceptT Error (StateM σ) α) : Prop :=
  ∀ sent t s, o.InStep sent t s →
    ∃ sent' t', (action.run t).run sent = (((change.run s).1, t'), sent') ∧
      o.InStep sent' t' (change.run s).2

theorem tracks_pure {α : Type} (a : α) : o.Tracks (pure a) (pure a) :=
  fun sent t _ h => ⟨sent, t, rfl, h⟩

theorem Tracks.bind {α β : Type} {action : ExceptT Error (StateT σ (StateM ByteArray)) α}
    {change : ExceptT Error (StateM σ) α}
    {next : α → ExceptT Error (StateT σ (StateM ByteArray)) β}
    {next' : α → ExceptT Error (StateM σ) β} (h : o.Tracks action change)
    (hnext : ∀ a, o.Tracks (next a) (next' a)) : o.Tracks (action >>= next) (change >>= next') := by
  intro sent t s hstep
  obtain ⟨sent', t', haction, hstep'⟩ := h sent t s hstep
  rw [run_run_bind, run_bind, haction]
  rcases hchange : change.run s with ⟨e | a, s'⟩ <;> rw [hchange] at hstep'
  · exact ⟨sent', t', rfl, hstep'⟩
  · exact hnext a sent' t' s' hstep'

/-- The operations of a sink are local. -/
structure Serves (o : Outlet σ) (sink : Sink σ) : Prop where
  lawful : o.Lawful
  emit : ∀ m, o.Local (sink.emit · m)
  finish : o.Local sink.finish

theorem serves_ofFormat (f : Format) : (ofFormat f).Serves (Writer.sink f) :=
  ⟨lawful_ofFormat f, local_emit f, local_finish f⟩

variable {sink : Sink σ}

theorem Serves.verified (h : o.Serves sink) : o.verified.Serves sink.verified :=
  ⟨h.lawful.verified, fun m => (h.emit m).verified_emit, h.finish.verified_finish⟩

theorem Serves.tracks_emitAll (h : o.Serves sink) (ms : List Move) :
    o.Tracks ((o.port takeAll sink).emitAll ms) (sink.port.emitAll ms) := by
  induction ms with
  | nil => exact tracks_pure ()
  | cons m ms ih =>
    refine Tracks.bind ?_ fun _ => ih
    exact fun sent t s hstep => hstep.deliver h.lawful (h.emit m)

/-- **A run is streamed as it is played.** -/
theorem Serves.tracks_drive (h : o.Serves sink) (strategy : Strategy) (p : Puzzle) :
    o.Tracks (Engine.drive (o.port takeAll sink) strategy p)
      (Engine.drive sink.port strategy p) := by
  rw [Engine.drive, Engine.drive, Port.solve_eq, Port.solve_eq]
  refine ((h.tracks_emitAll p.solution).bind fun _ => tracks_pure _).bind fun moves => ?_
  refine Tracks.bind ?_ fun _ => tracks_pure _
  exact fun sent t s hstep => hstep.deliver h.lawful h.finish

/-- What a run from an empty store has sent, and what is left to be sent. -/
theorem Serves.exists_drive (h : o.Serves sink) (strategy : Strategy) (p : Puzzle)
    (hs : o.store s = {}) :
    ∃ sent t, ((Engine.drive (o.port takeAll sink) strategy p).run s).run .empty
        = (((Engine.run sink strategy p s).1, t), sent) ∧
      (Engine.run sink strategy p s).2 = o.after sent t := by
  obtain ⟨sent, t, hrun, hstep⟩ :=
    h.tracks_drive strategy p .empty s s (h.lawful.inStep_empty hs)
  exact ⟨sent, t, hrun, hstep.eq_after⟩

end Outlet

end Output

namespace Program

open Output (Channel Writer Outlet)

/-- **Streaming is playing.**  Over a device that takes all bytes, a puzzle is streamed with the
result of the play and with the same plays found complete, and the device ends up with the bytes that
the play leaves on standard output. -/
theorem stream_eq_play (s : Settings) (p : Puzzle) :
    (stream Outlet.takeAll s p).run .empty
      = (((play s p {}).result, (play s p {}).completed), (play s p {}).stdout.bytes) := by
  have hserves := Outlet.serves_ofFormat s.format
  have hstart : (Outlet.ofFormat s.format).store
      (Writer.start s.format (Channel.withBuffer {})) = {} := by
    rcases s.format with _ | _ | _ <;> rfl
  rw [stream, play]
  split
  · obtain ⟨sent, t, hrun, hplay⟩ := hserves.verified.exists_drive s.strategy p
      (s := Verified.start p (Writer.start s.format (Channel.withBuffer {}))) hstart
    rw [StateT.run_bind, hrun]
    generalize Engine.run (Writer.sink s.format).verified s.strategy p _ = r at hplay ⊢
    obtain ⟨result, final⟩ := r
    obtain rfl : final = _ := hplay
    show ((result, t.completed), sent ++ (Writer.close s.format t.inner).bytes)
      = ((result, t.completed),
          (Writer.close s.format ((Outlet.ofFormat s.format).after sent t.inner)).bytes)
    rw [Outlet.close_after]
    rfl
  · obtain ⟨sent, t, hrun, hplay⟩ := hserves.exists_drive s.strategy p hstart
    rw [StateT.run_bind, hrun]
    generalize Engine.run (Writer.sink s.format) s.strategy p _ = r at hplay ⊢
    obtain ⟨result, final⟩ := r
    obtain rfl : final = _ := hplay
    show ((result, []), sent ++ (Writer.close s.format t).bytes)
      = ((result, []), (Writer.close s.format ((Outlet.ofFormat s.format).after sent t)).bytes)
    rw [Outlet.close_after]
    rfl

end Program

end TowerOfHanoi
