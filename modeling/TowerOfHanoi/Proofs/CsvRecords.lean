/-
TowerOfHanoi/Proofs/CsvRecords.lean

Comma-separated values are unambiguous.  `readCsv` is a reader that knows
nothing of moves: commas part the fields of a record, newlines end records,
and a field may stand in quotes, where a quote is written twice.  It takes a
text character by character (`Reading.step`) and gives up on a text that is
not well-formed.

In the text of a table the reader finds a field wherever one was written,
quoted or not (`Reading.foldlM_fieldText`), hence a record for every row
(`Reading.foldlM_rowText`) and the rows of a table in their order
(`readCsv_rows`).  A table tells its moves apart (`csvRows_injective`).

Main result: `csv_unambiguous`.
-/
import TowerOfHanoi.Proofs.Literal
import TowerOfHanoi.Proofs.Reliable

namespace TowerOfHanoi

theorem Peg.text_injective : Function.Injective Peg.text := by
  rintro ⟨l, hl⟩ ⟨l', hl'⟩ h
  have hlist : [l] = [l'] := by
    rw [← String.toList_singleton, ← String.toList_singleton]
    exact congrArg String.toList h
  cases hlist
  rfl

namespace Output

/-! ### A reader of comma-separated values -/

/-- Where a reader is in a field: before its first character, in a field without quotes, between
quotes, or behind a quote that either ends the field or is the first of two. -/
inductive Reading.Place where
  | start
  | plain
  | quoted
  | closed
deriving DecidableEq

/-- A reader of comma-separated values, with what it has found: the characters of the field it is
in, the fields before that one in the record, and the records before that one in the text. -/
structure Reading where
  place : Reading.Place := .start
  field : List Char := []
  fields : List String := []
  records : List (List String) := []
deriving DecidableEq

namespace Reading

/-- The record with the field that ends here. -/
def record (r : Reading) : List String :=
  r.fields ++ [String.ofList r.field]

/-- Goes on outside quotes, where a comma ends the field, a newline ends the record, and anything
else is left to `other`. -/
def separate (r : Reading) (c : Char) (other : Option Reading) : Option Reading :=
  if c = ',' then some { fields := r.record, records := r.records }
  else if c = '\n' then some { records := r.records ++ [r.record] }
  else other

/-- A character of a field without quotes, which cannot be a quote or a line break. -/
def literal (r : Reading) (c : Char) : Option Reading :=
  if c = '"' ∨ c = '\r' then none
  else some { r with place := .plain, field := r.field ++ [c] }

/-- Reads a character. -/
def step (r : Reading) (c : Char) : Option Reading :=
  match r.place with
  | .start => if c = '"' then some { r with place := .quoted } else r.separate c (r.literal c)
  | .plain => r.separate c (r.literal c)
  | .quoted =>
    if c = '"' then some { r with place := .closed } else some { r with field := r.field ++ [c] }
  | .closed =>
    if c = '"' then some { r with place := .quoted, field := r.field ++ [c] }
    else r.separate c none

/-- The records at the end of the text, where the last one need not be followed by a newline but
no quote may be open. -/
def finish (r : Reading) : Option (List (List String)) :=
  match r.place with
  | .quoted => none
  | .start => some (if r.fields = [] then r.records else r.records ++ [r.record])
  | .plain | .closed => some (r.records ++ [r.record])

end Reading

/-- The records of a file of comma-separated values, if it is one. -/
def readCsv (bytes : ByteArray) : Option (List (List String)) := do
  let text ← String.fromUTF8? bytes
  let r ← text.toList.foldlM Reading.step {}
  r.finish

/-! ### Reading what was written -/

namespace Reading

/-- Outside quotes a comma ends the field. -/
theorem step_comma {r : Reading} (hr : r.place ≠ .quoted) :
    r.step ',' = some { fields := r.record, records := r.records } := by
  rcases r with ⟨_ | _ | _ | _, field, fields, records⟩
  · rfl
  · rfl
  · exact absurd rfl hr
  · rfl

/-- Outside quotes a newline ends the record. -/
theorem step_newline {r : Reading} (hr : r.place ≠ .quoted) :
    r.step '\n' = some { records := r.records ++ [r.record] } := by
  rcases r with ⟨_ | _ | _ | _, field, fields, records⟩
  · rfl
  · rfl
  · exact absurd rfl hr
  · rfl

theorem step_plain {r : Reading} (hr : r.place = .start ∨ r.place = .plain) {c : Char}
    (hc : needsQuotes c = false) :
    r.step c = some { r with place := .plain, field := r.field ++ [c] } := by
  simp only [needsQuotes, Bool.or_eq_false_iff, beq_eq_false_iff_ne] at hc
  obtain ⟨⟨⟨hquote, hcomma⟩, hreturn⟩, hnewline⟩ := hc
  rcases hr with hr | hr <;>
    simp [step, hr, separate, literal, hquote, hcomma, hreturn, hnewline]

/-- Characters that need no quotes are read as they are. -/
theorem foldlM_plain {r : Reading} (hr : r.place = .start ∨ r.place = .plain) {cs : List Char}
    (hcs : ∀ c ∈ cs, needsQuotes c = false) :
    ∃ place, place ≠ .quoted ∧
      cs.foldlM step r = some { r with place, field := r.field ++ cs } := by
  induction cs generalizing r with
  | nil => exact ⟨r.place, by rcases hr with hr | hr <;> simp [hr], by simp⟩
  | cons c cs ih =>
    obtain ⟨hc, hcs⟩ := List.forall_mem_cons.1 hcs
    obtain ⟨place, hplace, hread⟩ :=
      ih (r := { r with place := .plain, field := r.field ++ [c] }) (.inr rfl) hcs
    refine ⟨place, hplace, ?_⟩
    rw [List.foldlM_cons, step_plain hr hc, Option.bind_eq_bind, Option.bind_some, hread]
    simp

theorem foldlM_quotedText {r : Reading} (hr : r.place = .quoted) (c : Char) :
    (quotedText c).foldlM step r = some { r with field := r.field ++ [c] } := by
  rcases r with ⟨place, field, fields, records⟩
  cases hr
  rw [quotedText]
  split
  · next h =>
    subst h
    rfl
  · next h => simp [step, h]

/-- Between quotes every character is read, a quote where two are written. -/
theorem foldlM_flatMap_quotedText {r : Reading} (hr : r.place = .quoted) (cs : List Char) :
    (cs.flatMap quotedText).foldlM step r = some { r with field := r.field ++ cs } := by
  induction cs generalizing r with
  | nil => simp
  | cons c cs ih =>
    rw [List.flatMap_cons, List.foldlM_append, foldlM_quotedText hr, Option.bind_eq_bind,
      Option.bind_some, ih (r := { r with field := r.field ++ [c] }) hr]
    simp

/-- A field is read as it was before it was written. -/
theorem foldlM_fieldText (s : String) (fields : List String) (records : List (List String)) :
    ∃ place, place ≠ .quoted ∧
      (fieldText s).foldlM step { fields, records }
        = some { place, field := s.toList, fields, records } := by
  rw [fieldText]
  split
  · -- the last quote may still turn out to be the first of two
    refine ⟨.closed, by decide, ?_⟩
    rw [List.foldlM_append, List.foldlM_append]
    have hopen : ['"'].foldlM step { fields, records }
        = some { place := .quoted, fields, records } := rfl
    rw [hopen, Option.bind_eq_bind, Option.bind_some, foldlM_flatMap_quotedText rfl]
    rfl
  · next hplain =>
    have hcs : ∀ c ∈ s.toList, needsQuotes c = false := by
      simpa using hplain
    simpa using foldlM_plain (r := { fields, records }) (.inl rfl) hcs

/-- A row is read as a record; `fields` are those already read of it. -/
theorem foldlM_rowText {row : List String} (hrow : row ≠ []) (fields : List String)
    (records : List (List String)) :
    (rowText row).foldlM step { fields, records }
      = some { records := records ++ [fields ++ row] } := by
  induction row generalizing fields with
  | nil => exact absurd rfl hrow
  | cons field row ih =>
    obtain ⟨place, hplace, hfield⟩ := foldlM_fieldText field fields records
    cases row with
    | nil =>
      -- the last field of the row, which a newline follows
      rw [rowText, List.foldlM_append, hfield, Option.bind_eq_bind, Option.bind_some,
        List.foldlM_cons, step_newline hplace]
      simp [record]
    | cons field' row =>
      rw [rowText.eq_3 _ _ (List.cons_ne_nil _ _), List.foldlM_append, List.foldlM_append, hfield]
      simp only [Option.bind_eq_bind, Option.bind_some, List.foldlM_cons, List.foldlM_nil]
      rw [step_comma hplace]
      simp only [Option.bind_some, Option.pure_def]
      rw [ih (List.cons_ne_nil _ _)]
      simp [record]

theorem foldlM_rows {rows : List (List String)} (hrows : ∀ row ∈ rows, row ≠ [])
    (records : List (List String)) :
    (rows.flatMap rowText).foldlM step { records } = some { records := records ++ rows } := by
  induction rows generalizing records with
  | nil => simp
  | cons row rows ih =>
    obtain ⟨hrow, hrows⟩ := List.forall_mem_cons.1 hrows
    rw [List.flatMap_cons, List.foldlM_append, foldlM_rowText hrow, Option.bind_eq_bind,
      Option.bind_some, ih hrows]
    simp

end Reading

/-- A table without empty rows is read as it was before it was written. -/
theorem readCsv_rows {rows : List (List String)} (hrows : ∀ row ∈ rows, row ≠ []) :
    readCsv (String.ofList (rows.flatMap rowText)).toUTF8 = some rows := by
  have htext : String.fromUTF8? (String.ofList (rows.flatMap rowText)).toUTF8
      = some (String.ofList (rows.flatMap rowText)) :=
    dif_pos (String.isValidUTF8 _)
  rw [readCsv, htext]
  simp only [Option.bind_eq_bind, Option.bind_some, String.toList_ofList]
  rw [Reading.foldlM_rows hrows]
  rfl

/-- Quotes that are not needed and a last record that is not ended are fine, a character between
a closing quote and a comma is not. -/
example : readCsv "a,\"b\"\n\"\"\"\n\",".toUTF8 = some [["a", "b"], ["\"\n", ""]] ∧
    readCsv "\"a\"b,\n".toUTF8 = none := by
  decide +kernel

/-! ### Moves in a table -/

theorem moveFields_injective : Function.Injective moveFields := by
  rintro ⟨disk, source, target⟩ ⟨disk', source', target'⟩ h
  simp only [moveFields, List.cons.injEq] at h
  obtain ⟨hdisk, hsource, htarget, -⟩ := h
  rw [Text.decimal_injective hdisk, Peg.text_injective hsource, Peg.text_injective htarget]

theorem csvRows_injective : Function.Injective csvRows := by
  intro ms ms' h
  unfold csvRows at h
  split at h <;> split at h
  · simp [*]
  · cases h
  · cases h
  · exact (List.map_inj_right fun _ _ hm => moveFields_injective hm).1 (List.cons.inj h).2

theorem readCsv_encodeCsv (ms : List Move) :
    readCsv (encodeCsv ms).toUTF8 = some (csvRows ms) := by
  rw [encodeCsv, readCsv_rows]
  intro row hrow
  unfold csvRows at hrow
  split at hrow
  · cases hrow
  · simp only [List.mem_cons, List.mem_map] at hrow
    rcases hrow with rfl | ⟨m, -, rfl⟩
    · exact List.cons_ne_nil _ _
    · exact List.cons_ne_nil _ _

theorem encode_csv_injective : Function.Injective (encode .csv) := by
  intro ms ms' h
  have hread := congrArg readCsv h
  simp only [encode, readCsv_encodeCsv] at hread
  exact csvRows_injective (Option.some.inj hread)

/-- **Comma-separated values are unambiguous.**  Over a store that takes everything, buffered or
not, the sink takes every list of moves and can be finished, and what it leaves behind is a table
of the moves: a header and, in the order of the moves, a record of three fields for each, the
disk in decimal notation and the two labels.  Without a move there is not a byte, and different
lists leave different bytes. -/
theorem csv_unambiguous (store : Store) (hstore : store.Reliable) (buffered : Bool) :
    let start : Csv := { channel := { store, buffered } }
    let output (ms : List Move) : ByteArray := (csvSink.emitAll start ms).2.close.bytes
    (∀ ms, ∃ s s', csvSink.emitAll start ms = (.ok (), s) ∧ csvSink.finish s = (.ok (), s') ∧
        s'.close.bytes = output ms) ∧
      output [] = .empty ∧
      (∀ ms ≠ [], readCsv (output ms) = some (["disk", "from", "to"] ::
        ms.map fun m => [toString m.disk, m.source.label.toString, m.target.label.toString])) ∧
      Function.Injective output := by
  intro start output
  have hstart : Writer.Holds store .csv start [] := Writer.holds_start hstore.empty .csv buffered
  have houtput : output = encode .csv := by
    funext ms
    obtain ⟨s, hemit, hs⟩ := hstart.emitAll_of_reliable hstore ms
    have hbytes : s.close.bytes = encode .csv ms := hs.close_of_reliable hstore
    rw [← hbytes]
    exact congrArg (fun r => r.2.close.bytes) hemit
  rw [houtput]
  refine ⟨fun ms => ?_, rfl, fun ms hms => ?_, encode_csv_injective⟩
  · obtain ⟨s, hemit, hs⟩ := hstart.emitAll_of_reliable hstore ms
    obtain ⟨s', hfinish, hs'⟩ := hs.finish_of_reliable hstore
    exact ⟨s, s', hemit, hfinish, hs'.close_of_reliable hstore⟩
  · have hfields : moveFields = fun m =>
        [toString m.disk, m.source.label.toString, m.target.label.toString] := by
      funext m
      rw [moveFields, Text.decimal_eq_toString]
      rfl
    rw [encode, readCsv_encodeCsv, csvRows, if_neg hms, hfields]
    rfl

/-- Rods labelled by the comma and by the quote, the two characters with a meaning of their
own. -/
theorem csv_unambiguous_separators :
    let m : Move := ⟨4294967295, ⟨',', by decide⟩, ⟨'"', by decide⟩⟩
    ∃ s, csvSink.emitAll { channel := .withBuffer {} } [m] = (.ok (), s) ∧
      readCsv s.close.bytes = some [["disk", "from", "to"], ["4294967295", ",", "\""]] := by
  intro m
  obtain ⟨hemit, -, hread, -⟩ := csv_unambiguous {} ⟨rfl, rfl, rfl⟩ true
  obtain ⟨s, -, hs, -⟩ := hemit [m]
  refine ⟨s, hs, ?_⟩
  have hm := hread [m] (List.cons_ne_nil _ _)
  simp only [hs] at hm
  rw [hm]
  decide

end Output

end TowerOfHanoi
