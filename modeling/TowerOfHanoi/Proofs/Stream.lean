/-
TowerOfHanoi/Proofs/Stream.lean

Streams of bytes on their way to a store.  Up to two buffers stand between a
sink and its store, and they are drained at places that have nothing to do
with the moves.  What can be said at every moment is where the stream is, the
stream being all bytes that have been handed over so far:

* `Carries`: all of the stream is in the store or waits in front of it;
* `Overflows`: the store is full, and holds the beginning of a longer stream.

Every operation that succeeds goes from the first to the first, with the
stream grown by the bytes that it was given, and every operation that fails
for want of room goes to the second, however many buffers were drained on the
way (`Channel.Carries.write`, `Csv.Carries.put`); a flush that the store refuses
moves no byte and stays at the first (`Channel.Carries.flush`).  Whatever is done,
a store only grows, and a full one not even that (`Store.Grows`).  Giving up a sink
therefore leaves in the store as much of the stream as the limit allows, in both
cases (`Channel.Carries.close`, `Csv.Carries.close`).
-/
import TowerOfHanoi.Output.Csv

namespace TowerOfHanoi.Output

/-! ### Outcomes -/

/-- `Ends P Q r`: an operation that succeeded has left a state in `P`, one that failed in `Q`. -/
inductive Ends {ε α S : Type} (P : S → Prop) (Q : ε → S → Prop) : Except ε α × S → Prop
  | ok {a : α} {s : S} : P s → Ends P Q (.ok a, s)
  | error {e : ε} {s : S} : Q e s → Ends P Q (.error e, s)

theorem Ends.imp {ε α S : Type} {P P' : S → Prop} {Q Q' : ε → S → Prop} {r : Except ε α × S}
    (h : Ends P Q r) (hP : ∀ s, P s → P' s) (hQ : ∀ e s, Q e s → Q' e s) : Ends P' Q' r := by
  cases h with
  | ok h => exact .ok (hP _ h)
  | error h => exact .error (hQ _ _ h)

/-- What follows from either outcome holds of the state that was left. -/
theorem Ends.either {ε α S : Type} {P R : S → Prop} {Q : ε → S → Prop} {r : Except ε α × S}
    (h : Ends P Q r) (hP : ∀ s, P s → R s) (hQ : ∀ e s, Q e s → R s) : R r.2 := by
  cases h with
  | ok h => exact hP _ h
  | error h => exact hQ _ _ h

/-! ### Pieces -/

/-- Pieces put together. -/
def joinPieces (pieces : List ByteArray) : ByteArray :=
  pieces.foldl (· ++ ·) .empty

@[simp] theorem joinPieces_nil : joinPieces [] = .empty := rfl

private theorem foldl_pieces (w : ByteArray) (pieces : List ByteArray) :
    pieces.foldl (· ++ ·) w = w ++ joinPieces pieces := by
  induction pieces generalizing w with
  | nil => simp [joinPieces]
  | cons piece pieces ih =>
    simp only [joinPieces, List.foldl_cons, ByteArray.empty_append]
    rw [ih, ih piece, ByteArray.append_assoc]

@[simp] theorem joinPieces_cons (piece : ByteArray) (pieces : List ByteArray) :
    joinPieces (piece :: pieces) = piece ++ joinPieces pieces := by
  rw [joinPieces, List.foldl_cons, ByteArray.empty_append, foldl_pieces]

@[simp] theorem joinPieces_append (pieces pieces' : List ByteArray) :
    joinPieces (pieces ++ pieces') = joinPieces pieces ++ joinPieces pieces' := by
  rw [joinPieces, List.foldl_append, foldl_pieces]
  rfl

theorem isEmpty_iff {w : ByteArray} : w.isEmpty = true ↔ w = .empty := by
  rw [ByteArray.isEmpty, beq_iff_eq, ByteArray.size_eq_zero_iff]

/-! ### Stores -/

namespace Store

/-- Not a byte more fits. -/
def Full (s : Store) : Prop :=
  s.limit = some s.bytes.size

/-- As much of a stream as the limit of a store allows. -/
def visible (s : Store) (w : ByteArray) : ByteArray :=
  match s.limit with
  | none => w
  | some limit => w.extract 0 (min limit w.size)

/-- `Carries base s pending w`: the store `s`, which differs from `base` in its bytes alone, holds
the beginning of the stream `w`, and `pending` is the rest. -/
structure Carries (base s : Store) (pending w : ByteArray) : Prop where
  same : s = { base with bytes := s.bytes }
  within : ∀ limit ∈ base.limit, s.bytes.size ≤ limit
  whole : s.bytes ++ pending = w

/-- `Overflows base s w`: the store `s`, which differs from `base` in its bytes alone, is full of
the beginning of the stream `w`, and some of `w` is left over. -/
structure Overflows (base s : Store) (w : ByteArray) : Prop where
  same : s = { base with bytes := s.bytes }
  full : s.Full
  part : ∃ lost, lost ≠ .empty ∧ s.bytes ++ lost = w

variable {base s : Store} {pending w : ByteArray}

/-- A store that overflows does so all the more with a longer stream. -/
theorem Overflows.append (h : Overflows base s w) (more : ByteArray) :
    Overflows base s (w ++ more) := by
  obtain ⟨lost, hne, hw⟩ := h.part
  refine ⟨h.same, h.full, lost ++ more, ?_, ?_⟩
  · simp [ByteArray.append_eq_empty_iff, hne]
  · rw [← ByteArray.append_assoc, hw]

theorem Overflows.limit_eq (h : Overflows base s w) : base.limit = some s.bytes.size := by
  have hlimit : s.limit = base.limit := by rw [h.same]
  rw [← hlimit]
  exact h.full

theorem Overflows.size_lt (h : Overflows base s w) : s.bytes.size < w.size := by
  obtain ⟨lost, hne, hw⟩ := h.part
  have hpos : lost.size ≠ 0 := fun h0 => hne (ByteArray.size_eq_zero_iff.1 h0)
  rw [← hw, ByteArray.size_append]
  omega

/-- `Grows s s'`: the store `s'` is `s` with more bytes behind its own, or just `s` if no more
fit. -/
structure Grows (s s' : Store) : Prop where
  more : ∃ more, s' = { s with bytes := s.bytes ++ more }
  full : s.Full → s' = s

theorem Grows.refl (s : Store) : Grows s s :=
  ⟨⟨.empty, by rw [ByteArray.append_empty]⟩, fun _ => rfl⟩

theorem Grows.trans {s s' s'' : Store} (h : Grows s s') (h' : Grows s' s'') : Grows s s'' := by
  refine ⟨?_, fun hfull => ?_⟩
  · obtain ⟨more, rfl⟩ := h.more
    obtain ⟨more', rfl⟩ := h'.more
    exact ⟨more ++ more', by rw [ByteArray.append_assoc]⟩
  · obtain rfl := h.full hfull
    exact h'.full hfull

theorem grows_write (s : Store) (chunk : ByteArray) : Grows s (s.write chunk).2 := by
  refine ⟨⟨_, rfl⟩, fun hfull => ?_⟩
  have hroom : s.room chunk.size = 0 := by
    rw [room, hfull]
    simp
  rw [write, hroom]
  simp

/-- Writing brings the bytes that were pending into the store, up to its limit. -/
theorem Carries.write (h : Carries base s pending w) :
    Carries base (s.write pending).2 (s.write pending).1 w ∧
      ((s.write pending).1 = .empty ∨ (s.write pending).2.Full) := by
  obtain ⟨hsame, hwithin, hwhole⟩ := h
  have hlimit : s.limit = base.limit := by rw [hsame]
  have hroom : s.room pending.size ≤ pending.size := by
    unfold room
    split
    · exact Nat.le_refl _
    · exact Nat.min_le_left ..
  refine ⟨⟨?_, ?_, ?_⟩, ?_⟩
  · rw [Store.write, hsame]
  · intro limit hl
    have hle := hwithin limit hl
    simp only [Store.write, room, hlimit, Option.mem_def.1 hl, ByteArray.size_append,
      ByteArray.size_extract]
    omega
  · simp only [Store.write]
    rw [ByteArray.append_assoc, ByteArray.extract_append_extract, Nat.zero_min,
      Nat.max_eq_right hroom, ByteArray.extract_zero_size, hwhole]
  · rcases hl : base.limit with - | limit
    · left
      simp [Store.write, room, hlimit, hl]
    · have hle := hwithin limit hl
      simp only [Store.write, Full, room, hlimit, hl, ByteArray.extract_eq_empty_iff,
        ByteArray.size_append, ByteArray.size_extract, Option.some.injEq]
      omega

/-- After a write nothing is pending, or the store overflows. -/
theorem Carries.write_cases (h : Carries base s pending w) :
    ((s.write pending).1.isEmpty = true ∧ Carries base (s.write pending).2 .empty w) ∨
      ((s.write pending).1.isEmpty = false ∧ Overflows base (s.write pending).2 w) := by
  obtain ⟨hcarries, hfull⟩ := h.write
  rcases hrest : (s.write pending).1.isEmpty with - | -
  · have hne : (s.write pending).1 ≠ .empty := by
      intro hempty
      rw [isEmpty_iff.2 hempty] at hrest
      cases hrest
    exact .inr ⟨rfl, hcarries.same, hfull.resolve_left hne, _, hne, hcarries.whole⟩
  · rw [isEmpty_iff.1 hrest] at hcarries
    exact .inl ⟨rfl, hcarries⟩

/-- A stream that is stored to the last byte keeps to the limit. -/
theorem Carries.size_le (h : Carries base s .empty w) : ∀ limit ∈ base.limit, w.size ≤ limit := by
  intro limit hl
  rw [← h.whole, ByteArray.append_empty]
  exact h.within limit hl

/-- More bytes behind the pending ones make the stream longer. -/
theorem Carries.append (h : Carries base s pending w) (more : ByteArray) :
    Carries base s (pending ++ more) (w ++ more) :=
  ⟨h.same, h.within, by rw [← ByteArray.append_assoc, h.whole]⟩

/-- What the store holds in the end, when nothing is pending or nothing fits any more. -/
theorem Carries.visible (h : Carries base s .empty w) : s.bytes = base.visible w := by
  obtain ⟨-, hwithin, hwhole⟩ := h
  rw [ByteArray.append_empty] at hwhole
  subst hwhole
  unfold Store.visible
  split
  · rfl
  · rename_i limit hl
    rw [Nat.min_eq_right (hwithin limit hl), ByteArray.extract_zero_size]

theorem Overflows.visible (h : Overflows base s w) : s.bytes = base.visible w := by
  obtain ⟨lost, -, hw⟩ := h.part
  rw [Store.visible, h.limit_eq]
  simp only
  rw [Nat.min_eq_left (Nat.le_of_lt h.size_lt), ← hw]
  exact (ByteArray.extract_append_eq_left rfl).symm

end Store

open Store (Overflows)

/-! ### Channels -/

namespace Channel

/-- All of a stream is in the store of a channel or waits in its buffer, if it has one. -/
structure Carries (base : Store) (c : Channel) (w : ByteArray) : Prop where
  stored : Store.Carries base c.store c.waiting w
  direct : c.buffered = false → c.waiting = .empty

/-- The outcome of an operation that was to bring the stream to `w`. -/
abbrev Delivers (base : Store) (w : ByteArray) : Except String Unit × Channel → Prop :=
  Ends (Carries base · w) fun _ c => Overflows base c.store w

variable {base : Store} {c : Channel} {w : ByteArray}

/-- Draining stores what waits. -/
theorem Carries.drain (h : Carries base c w) :
    Ends (fun c' => Carries base c' w ∧ c'.waiting = .empty ∧ c'.buffered = c.buffered)
      (fun _ c' => Overflows base c'.store w) c.drain := by
  rw [Channel.drain]
  rcases h.stored.write_cases with ⟨hrest, hcarries⟩ | ⟨hrest, hover⟩
  · simp only [isEmpty_iff.1 hrest]
    exact .ok ⟨⟨hcarries, fun _ => rfl⟩, rfl, rfl⟩
  · simp only [hrest]
    exact .error hover

theorem Carries.writeThrough (h : Carries base c w) (hempty : c.waiting = .empty)
    (chunk : ByteArray) : Delivers base (w ++ chunk) (c.writeThrough chunk) := by
  have hchunk := h.stored.append chunk
  rw [hempty, ByteArray.empty_append] at hchunk
  rw [Channel.writeThrough, Store.writeAll]
  rcases hchunk.write_cases with ⟨hrest, hcarries⟩ | ⟨hrest, hover⟩ <;> simp only [hrest]
  · exact .ok ⟨by rwa [hempty], fun _ => hempty⟩
  · exact .error hover

theorem Carries.accept (h : Carries base c w) (hbuffered : c.buffered = true) (chunk : ByteArray)
    (hempty : bufferCapacity ≤ chunk.size → c.waiting = .empty) :
    Delivers base (w ++ chunk) (c.accept chunk) := by
  rw [Channel.accept]
  split
  · rename_i hlarge
    exact h.writeThrough (hempty hlarge) chunk
  · refine .ok ⟨h.stored.append chunk, fun hdirect => ?_⟩
    rw [show c.buffered = false from hdirect] at hbuffered
    cases hbuffered

/-- **Writing to a channel loses nothing**: the stream grows by the chunk, or overflows with it. -/
theorem Carries.write (h : Carries base c w) (chunk : ByteArray) :
    Delivers base (w ++ chunk) (c.write chunk) := by
  rw [Channel.write]
  rcases hb : c.buffered with - | -
  · exact h.writeThrough (h.direct hb) chunk
  · simp only [Bool.not_true, Bool.false_eq_true, if_false]
    split
    · have hdrain := h.drain
      generalize c.drain = r at hdrain ⊢
      cases hdrain with
      | error hover => exact .error (hover.append chunk)
      | ok hc =>
        obtain ⟨hcarries, hempty, hkept⟩ := hc
        exact hcarries.accept (hkept.trans hb) chunk fun _ => hempty
    · rename_i hfits
      -- a chunk as large as the buffer fits only in an empty one
      refine h.accept hb chunk fun hlarge => ByteArray.size_eq_zero_iff.1 ?_
      have : 0 < bufferCapacity := by decide
      omega

/-- Chunks written one after another are a stream. -/
theorem Carries.writeEach (h : Carries base c w) (chunks : List ByteArray) :
    Delivers base (w ++ joinPieces chunks) (c.writeEach chunks) := by
  induction chunks generalizing c w with
  | nil =>
    rw [joinPieces_nil, ByteArray.append_empty]
    exact .ok h
  | cons chunk chunks ih =>
    have hwrite := h.write chunk
    rw [Channel.writeEach, joinPieces_cons, ← ByteArray.append_assoc]
    generalize c.write chunk = r at hwrite ⊢
    cases hwrite with
    | error hover => exact .error (hover.append _)
    | ok hc => exact ih hc

/-- A flush that succeeds leaves nothing waiting; one that the store refuses has still moved what
waited. -/
theorem Carries.flush (h : Carries base c w) :
    Ends (fun c' => Carries base c' w ∧ c'.waiting = .empty)
      (fun _ c' => Overflows base c'.store w ∨ base.flushFault ≠ none ∧ Carries base c' w)
      c.flush := by
  have hdrain := h.drain
  rw [Channel.flush]
  generalize c.drain = r at hdrain ⊢
  cases hdrain with
  | error hover => exact .error (.inl hover)
  | @ok _ c' hc =>
    have hfault : c'.store.flushFault = base.flushFault := by rw [hc.1.stored.same]
    simp only [Store.flush, hfault]
    rcases hflush : base.flushFault with - | fault
    · exact .ok ⟨hc.1, hc.2.1⟩
    · exact .error (.inr ⟨nofun, hc.1⟩)

/-- A channel in which nothing waits has stored its stream. -/
theorem Carries.size_le (h : Carries base c w) (hempty : c.waiting = .empty) :
    ∀ limit ∈ base.limit, w.size ≤ limit := by
  have hstored := h.stored
  rw [hempty] at hstored
  exact hstored.size_le

/-! ### Growth behind a channel -/

section Growth

variable (c : Channel)

theorem grows_drain : c.store.Grows c.drain.2.store :=
  c.store.grows_write c.waiting

theorem grows_writeThrough (chunk : ByteArray) : c.store.Grows (c.writeThrough chunk).2.store :=
  c.store.grows_write chunk

theorem grows_accept (chunk : ByteArray) : c.store.Grows (c.accept chunk).2.store := by
  rw [accept]
  split
  · exact c.grows_writeThrough chunk
  · exact .refl _

theorem grows_write (chunk : ByteArray) : c.store.Grows (c.write chunk).2.store := by
  rw [write]
  split
  · exact c.grows_writeThrough chunk
  · split
    · have hdrain := c.grows_drain
      generalize c.drain = r at hdrain ⊢
      obtain ⟨fault | ⟨⟨⟩⟩, c'⟩ := r
      · exact hdrain
      · exact hdrain.trans (c'.grows_accept chunk)
    · exact c.grows_accept chunk

theorem grows_flush : c.store.Grows c.flush.2.store := by
  have hdrain := c.grows_drain
  rw [flush]
  generalize c.drain = r at hdrain ⊢
  obtain ⟨fault | ⟨⟨⟩⟩, c'⟩ := r <;> exact hdrain

theorem grows_writeEach (chunks : List ByteArray) :
    c.store.Grows (c.writeEach chunks).2.store := by
  induction chunks generalizing c with
  | nil => exact .refl _
  | cons chunk chunks ih =>
    have hwrite := c.grows_write chunk
    rw [writeEach]
    generalize c.write chunk = r at hwrite ⊢
    obtain ⟨fault | ⟨⟨⟩⟩, c'⟩ := r
    · exact hwrite
    · exact hwrite.trans (ih c')

end Growth

/-! ### Closing a channel -/

theorem close_of_overflows (h : Overflows base c.store w) : c.close.bytes = base.visible w := by
  rw [close, c.grows_drain.full h.full]
  exact h.visible

/-- A closed channel has stored as much of its stream as the limit allows. -/
theorem Carries.close (h : Carries base c w) : c.close.bytes = base.visible w := by
  have hdrain := h.drain
  rw [Channel.close]
  generalize c.drain = r at hdrain ⊢
  cases hdrain with
  | error hover => exact hover.visible
  | ok hc =>
    obtain ⟨⟨hstored, -⟩, hempty, -⟩ := hc
    rw [hempty] at hstored
    exact hstored.visible

/-- A flush before the end makes no difference, whether it succeeds or not. -/
theorem Carries.close_flush (h : Carries base c w) : c.flush.2.close.bytes = base.visible w := by
  refine h.flush.either (R := (·.close.bytes = base.visible w)) (fun _ hc => hc.1.close) ?_
  rintro _ c' (hover | ⟨-, hc⟩)
  · exact close_of_overflows hover
  · exact hc.close

end Channel

/-! ### Rows -/

namespace Csv

/-- All of a stream has gone to the channel or waits among the rows. -/
structure Carries (base : Store) (headed : Bool) (s : Csv) (w : ByteArray) : Prop where
  sent : ∃ before, Channel.Carries base s.channel before ∧ before ++ s.rows = w
  header : s.headed = headed

/-- The outcome of an operation that was to bring the stream to `w`. -/
abbrev Delivers (base : Store) (headed : Bool) (w : ByteArray) : Except String Unit × Csv → Prop :=
  Ends (Carries base headed · w) fun _ s => Overflows base s.channel.store w

variable {base : Store} {headed : Bool} {s : Csv} {w : ByteArray}

/-- Draining hands all rows to the channel. -/
theorem Carries.drain (h : Carries base headed s w) :
    Ends (fun s' => Carries base headed s' w ∧ s'.rows = .empty)
      (fun _ s' => Overflows base s'.channel.store w) s.drain := by
  obtain ⟨⟨before, hchannel, rfl⟩, hheader⟩ := h
  have hwrite := hchannel.write s.rows
  rw [Csv.drain]
  generalize s.channel.write s.rows = r at hwrite ⊢
  cases hwrite with
  | error hover => exact .error hover
  | ok hc => exact .ok ⟨⟨⟨_, hc, ByteArray.append_empty⟩, hheader⟩, rfl⟩

/-- A piece in the buffer makes the stream longer. -/
theorem Carries.append (h : Carries base headed s w) (piece : ByteArray) :
    Carries base headed { s with rows := s.rows ++ piece } (w ++ piece) := by
  obtain ⟨⟨before, hchannel, rfl⟩, hheader⟩ := h
  exact ⟨⟨before, hchannel, ByteArray.append_assoc.symm⟩, hheader⟩

/-- **Putting a piece in the buffer loses nothing.** -/
theorem Carries.put (h : Carries base headed s w) (piece : ByteArray) :
    Delivers base headed (w ++ piece) (s.put piece) := by
  rw [Csv.put]
  split
  · have hdrain := h.drain
    generalize s.drain = r at hdrain ⊢
    cases hdrain with
    | error hover => exact .error (hover.append piece)
    | ok hs => exact .ok (hs.1.append piece)
  · exact .ok (h.append piece)

theorem Carries.putAll (h : Carries base headed s w) (pieces : List ByteArray) :
    Delivers base headed (w ++ joinPieces pieces) (s.putAll pieces) := by
  induction pieces generalizing s w with
  | nil =>
    rw [joinPieces_nil, ByteArray.append_empty]
    exact .ok h
  | cons piece pieces ih =>
    have hput := h.put piece
    rw [Csv.putAll, joinPieces_cons, ← ByteArray.append_assoc]
    generalize s.put piece = r at hput ⊢
    cases hput with
    | error hover => exact .error (hover.append _)
    | ok hs => exact ih hs

/-- The header goes before the first row. -/
theorem Carries.writeHeader (h : Carries base headed s w) :
    Delivers base true (w ++ joinPieces (if headed then [] else rowPieces csvHeader))
      s.writeHeader := by
  rw [Csv.writeHeader, h.header]
  cases headed with
  | true =>
    simp only [if_true, joinPieces_nil, ByteArray.append_empty]
    exact .ok h
  | false =>
    have hput := h.putAll (rowPieces csvHeader)
    simp only [Bool.false_eq_true, if_false]
    generalize s.putAll (rowPieces csvHeader) = r at hput ⊢
    cases hput with
    | error hover => exact .error hover
    | ok hs => exact .ok ⟨hs.sent, rfl⟩

theorem Carries.writeMove (h : Carries base headed s w) (m : Move) :
    Delivers base true (w ++ joinPieces (if headed then [] else rowPieces csvHeader) ++
      joinPieces (rowPieces (moveFields m))) (s.writeMove m) := by
  have hheader := h.writeHeader
  rw [Csv.writeMove]
  generalize s.writeHeader = r at hheader ⊢
  cases hheader with
  | error hover => exact .error (hover.append _)
  | ok hs => exact hs.putAll _

/-- A flush that succeeds leaves nothing behind, among the rows or in the channel; one that the
store refuses loses nothing. -/
theorem Carries.flush (h : Carries base headed s w) :
    Ends (fun s' => Carries base headed s' w ∧ s'.rows = .empty ∧ s'.channel.waiting = .empty)
      (fun _ s' =>
        Overflows base s'.channel.store w ∨ base.flushFault ≠ none ∧ Carries base headed s' w)
      s.flush := by
  have hdrain := h.drain
  rw [Csv.flush]
  generalize s.drain = r at hdrain ⊢
  cases hdrain with
  | error hover => exact .error (.inl hover)
  | @ok _ s' hs =>
    obtain ⟨⟨⟨before, hchannel, rfl⟩, hheader⟩, hrows⟩ := hs
    have hflushed := hchannel.flush
    simp only
    generalize s'.channel.flush = r at hflushed ⊢
    cases hflushed with
    | ok hc => exact .ok ⟨⟨⟨_, hc.1, rfl⟩, hheader⟩, hrows, hc.2⟩
    | error hc =>
      rcases hc with hover | ⟨hfault, hc⟩
      · exact .error (.inl (hover.append _))
      · exact .error (.inr ⟨hfault, ⟨_, hc, rfl⟩, hheader⟩)

theorem Carries.size_le (h : Carries base headed s w) (hrows : s.rows = .empty)
    (hempty : s.channel.waiting = .empty) : ∀ limit ∈ base.limit, w.size ≤ limit := by
  obtain ⟨⟨before, hchannel, rfl⟩, -⟩ := h
  rw [hrows, ByteArray.append_empty]
  exact hchannel.size_le hempty

/-! ### Growth behind the rows -/

section Growth

variable (s : Csv)

theorem grows_drain : s.channel.store.Grows s.drain.2.channel.store := by
  have hwrite := s.channel.grows_write s.rows
  rw [drain]
  generalize s.channel.write s.rows = r at hwrite ⊢
  obtain ⟨fault | ⟨⟨⟩⟩, channel⟩ := r <;> exact hwrite

theorem grows_put (piece : ByteArray) : s.channel.store.Grows (s.put piece).2.channel.store := by
  rw [put]
  split
  · have hdrain := s.grows_drain
    generalize s.drain = r at hdrain ⊢
    obtain ⟨fault | ⟨⟨⟩⟩, s'⟩ := r <;> exact hdrain
  · exact .refl _

theorem grows_putAll (pieces : List ByteArray) :
    s.channel.store.Grows (s.putAll pieces).2.channel.store := by
  induction pieces generalizing s with
  | nil => exact .refl _
  | cons piece pieces ih =>
    have hput := s.grows_put piece
    rw [putAll]
    generalize s.put piece = r at hput ⊢
    obtain ⟨fault | ⟨⟨⟩⟩, s'⟩ := r
    · exact hput
    · exact hput.trans (ih s')

theorem grows_writeHeader : s.channel.store.Grows s.writeHeader.2.channel.store := by
  rw [writeHeader]
  split
  · exact .refl _
  · have hput := s.grows_putAll (rowPieces csvHeader)
    generalize s.putAll (rowPieces csvHeader) = r at hput ⊢
    obtain ⟨fault | ⟨⟨⟩⟩, s'⟩ := r <;> exact hput

theorem grows_writeMove (m : Move) :
    s.channel.store.Grows (s.writeMove m).2.channel.store := by
  have hheader := s.grows_writeHeader
  rw [writeMove]
  generalize s.writeHeader = r at hheader ⊢
  obtain ⟨fault | ⟨⟨⟩⟩, s'⟩ := r
  · exact hheader
  · simp only
    exact hheader.trans (s'.grows_putAll _)

theorem grows_flush : s.channel.store.Grows s.flush.2.channel.store := by
  have hdrain := s.grows_drain
  rw [flush]
  generalize s.drain = r at hdrain ⊢
  obtain ⟨fault | ⟨⟨⟩⟩, s'⟩ := r
  · exact hdrain
  · simp only
    exact hdrain.trans s'.channel.grows_flush

end Growth

/-! ### Giving up the rows -/

theorem close_of_overflows (h : Overflows base s.channel.store w) :
    s.close.bytes = base.visible w := by
  rw [close]
  refine Channel.close_of_overflows ?_
  rwa [s.grows_flush.full h.full]

/-- A sink that is given up has stored as much of its stream as the limit allows. -/
theorem Carries.close (h : Carries base headed s w) : s.close.bytes = base.visible w := by
  have hdrain := h.drain
  rw [Csv.close, Csv.flush]
  generalize s.drain = r at hdrain ⊢
  cases hdrain with
  | error hover => exact Channel.close_of_overflows hover
  | @ok _ s' hs =>
    obtain ⟨⟨⟨before, hchannel, rfl⟩, -⟩, hrows⟩ := hs
    rw [hrows, ByteArray.append_empty]
    exact hchannel.close_flush

end Csv

end TowerOfHanoi.Output
