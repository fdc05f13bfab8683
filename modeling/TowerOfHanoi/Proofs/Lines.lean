/-
TowerOfHanoi/Proofs/Lines.lean

Moves in lines, and the text format among them.  A format in lines writes every
move as a text of its own and ends it with a newline (`lines`).  If these texts
hold no newline, then there is one newline for each move (`count_newline_lines`)
and the lines can be told apart again (`splitOn_lines`); if moreover different
moves have different texts, so have different lists (`lines_injective`).

The text of a move is a sentence in which a number and two labels stand between
fixed words (`Move.toList_text`).  The labels may be digits themselves, but the
number is followed by a space and each label is a single character, so the
sentence says which move it is about (`Move.text_injective`).  It holds no
newline because labels are visible (`Move.newline_notMem_text`).

A sink prints the sentence in pieces.  In memory the pieces add up to the lines
(`takes_memory`), and over a channel to their bytes.

Main result: `text_unambiguous`.
-/
import TowerOfHanoi.Proofs.Literal
import TowerOfHanoi.Proofs.Reliable

namespace TowerOfHanoi

namespace Output

/-! ### Lines -/

/-- Moves written as lines. -/
def lines (line : Move → String) (ms : List Move) : String :=
  String.join (ms.map fun m => line m ++ "\n")

section Lines

variable {line : Move → String}

theorem toList_lines_cons (m : Move) (ms : List Move) :
    (lines line (m :: ms)).toList = (line m).toList ++ '\n' :: (lines line ms).toList := by
  simp [lines]

variable (hline : ∀ m, '\n' ∉ (line m).toList)
include hline

/-- Every move has one newline, behind it. -/
theorem count_newline_lines (ms : List Move) : (lines line ms).toList.count '\n' = ms.length := by
  induction ms with
  | nil => rfl
  | cons m ms ih =>
    have hm : (line m).toList.count '\n' = 0 := List.count_eq_zero.2 (hline m)
    rw [toList_lines_cons, List.count_append, List.count_cons_self, hm, ih, Nat.zero_add,
      List.length_cons]

/-- The lines can be told apart, and the last one is ended. -/
theorem splitOn_lines (ms : List Move) :
    (lines line ms).toList.splitOn '\n' = ms.map (fun m => (line m).toList) ++ [[]] := by
  induction ms with
  | nil => rfl
  | cons m ms ih =>
    have hm : (line m).toList.splitOn '\n' = [(line m).toList] := by
      refine List.splitOnP_eq_singleton fun c hc => ?_
      rw [beq_eq_false_iff_ne]
      rintro rfl
      exact hline m hc
    rw [toList_lines_cons, List.splitOn_append_cons_self, hm, ih]
    rfl

/-- Lines that say which move they are about say so of a list. -/
theorem lines_injective (hinj : Function.Injective line) : Function.Injective (lines line) := by
  intro ms ms' h
  have hsplit := congrArg (fun s : String => s.toList.splitOn '\n') h
  simp only [splitOn_lines hline] at hsplit
  refine (List.map_inj_right fun m m' hm => ?_).1 (List.append_cancel_right hsplit)
  exact hinj (String.toList_injective hm)

end Lines

end Output

/-! ### The sentence of a move -/

namespace Move

theorem toList_text (m : Move) :
    m.text.toList = "Move disk ".toList ++ (Text.digits m.disk ++
      (" from rod ".toList ++ m.source.label :: (" to rod ".toList ++ [m.target.label]))) := by
  simp [text, Text.decimal, Peg.text]

theorem newline_notMem_text (m : Move) : '\n' ∉ m.text.toList := by
  have hdigits := Text.newline_notMem_digits m.disk
  have hlabel : ∀ p : Peg, '\n' ≠ p.label := by
    intro p hp
    have hvisible := p.visible
    rw [← hp] at hvisible
    revert hvisible
    decide
  rw [toList_text]
  simp [hdigits, hlabel]

/-- A sentence is about one move only. -/
theorem text_injective : Function.Injective Move.text := by
  rintro ⟨disk, ⟨source, hsource⟩, ⟨target, htarget⟩⟩ ⟨disk', ⟨source', hsource'⟩, ⟨target', htarget'⟩⟩ h
  have hlist := congrArg String.toList h
  rw [toList_text, toList_text] at hlist
  -- the digits end at the space that follows them, whatever the labels are
  have hends : ∀ rest, Json.EndsNumber (" from rod ".toList ++ rest) := by
    rintro rest c ⟨⟩
    decide
  have hspan := congrArg Json.spanDigits (List.append_cancel_left hlist)
  rw [Json.spanDigits_append (Text.isDigit_of_mem_digits _) (hends _),
    Json.spanDigits_append (Text.isDigit_of_mem_digits _) (hends _)] at hspan
  obtain ⟨hdigits, hrest⟩ := Prod.mk.inj hspan
  have hdisk : disk = disk' := by
    rw [← Text.value_digits disk, ← Text.value_digits disk', hdigits]
  obtain ⟨rfl, hlast⟩ := List.cons.inj (List.append_cancel_left hrest)
  cases List.append_cancel_left hlast
  rw [hdisk]

end Move

/-! ### Printing -/

namespace Output

/-- In memory, what is printed adds up. -/
theorem printAll_memory (t : String) (ps : List Print) :
    Printer.memory.printAll t ps = (.ok (), t ++ String.join (ps.map Print.toText)) := by
  induction ps generalizing t with
  | nil => simp [Printer.printAll]
  | cons p ps ih =>
    simp only [Printer.printAll, Printer.memory, Print.addTo_eq, List.map_cons,
      String.join_cons] at ih ⊢
    rw [ih, String.append_assoc]

/-- A text in memory takes everything, and what it has taken stands in it as lines. -/
theorem takes_memory : (textSink .memory).Takes fun t ms => t = lines Move.text ms where
  emit {t ms} ht m := by
    refine ⟨_, printAll_memory t (movePrints m), ?_⟩
    rw [join_movePrints, ht]
    simp [lines]
  finish {t _} ht := ⟨t, rfl, ht⟩

theorem emitAll_memory (ms : List Move) :
    (textSink .memory).emitAll "" ms = (.ok (), lines Move.text ms) := by
  have hstart : "" = lines Move.text [] := rfl
  obtain ⟨t, hemit, rfl⟩ := takes_memory.emitAll hstart ms
  exact hemit

/-- **Text is exact and unambiguous.**  In memory, and over a store that takes everything, buffered or
not, the sink takes every list of moves and can be finished.  What it leaves behind is the sentence
of every move with a newline behind it, in memory as a text and in the store in UTF-8; there is one
newline for each move, and different lists leave different texts and different bytes. -/
theorem text_unambiguous (store : Store) (hstore : store.Reliable) (buffered : Bool) :
    let start : Channel := { store, buffered }
    let text (ms : List Move) : String := ((textSink .memory).emitAll "" ms).2
    let bytes (ms : List Move) : ByteArray := ((textSink .console).emitAll start ms).2.close.bytes
    (∀ ms, (textSink .memory).emitAll "" ms = (.ok (), text ms) ∧
        (textSink .memory).finish (text ms) = (.ok (), text ms)) ∧
      (∀ ms, ∃ c c', (textSink .console).emitAll start ms = (.ok (), c) ∧
        (textSink .console).finish c = (.ok (), c') ∧ c'.close.bytes = bytes ms) ∧
      (∀ m : Move, m.text = "Move disk " ++ toString m.disk ++ " from rod " ++
        m.source.label.toString ++ " to rod " ++ m.target.label.toString) ∧
      (∀ ms, text ms = String.join (ms.map fun m => m.text ++ "\n")) ∧
      (∀ ms, bytes ms = (text ms).toUTF8) ∧
      (∀ ms, (text ms).toList.count '\n' = ms.length) ∧
      Function.Injective text ∧ Function.Injective bytes := by
  intro start text bytes
  have hstart : Writer.Holds store .text start [] := Writer.holds_start hstore.empty .text buffered
  have htext : text = lines Move.text := by
    funext ms
    show ((textSink .memory).emitAll "" ms).2 = _
    rw [emitAll_memory]
  have hbytes (ms : List Move) : bytes ms = (text ms).toUTF8 := by
    obtain ⟨c, hemit, hc⟩ := hstart.emitAll_of_reliable hstore ms
    have hclose : c.close.bytes = encode .text ms := hc.close_of_reliable hstore
    rw [htext]
    show ((Writer.sink .text).emitAll start ms).2.close.bytes = encode .text ms
    rw [hemit]
    exact hclose
  have hinjective : Function.Injective text := by
    rw [htext]
    exact lines_injective Move.newline_notMem_text Move.text_injective
  refine ⟨fun ms => ?_, fun ms => ?_, fun m => ?_, fun ms => ?_, hbytes, fun ms => ?_, hinjective,
    fun ms ms' h => ?_⟩
  · rw [htext, emitAll_memory]
    exact ⟨rfl, rfl⟩
  · obtain ⟨c, hemit, hc⟩ := hstart.emitAll_of_reliable hstore ms
    obtain ⟨c', hfinish, hc'⟩ := hc.finish_of_reliable hstore
    refine ⟨c, c', hemit, hfinish, ?_⟩
    rw [hbytes, htext]
    exact hc'.close_of_reliable hstore
  · rw [Move.text, Text.decimal_eq_toString]
    rfl
  · rw [htext]
    rfl
  · rw [htext]
    exact count_newline_lines Move.newline_notMem_text ms
  · rw [hbytes, hbytes, String.toUTF8_eq_toByteArray, String.toUTF8_eq_toByteArray] at h
    exact hinjective (String.toByteArray_inj.1 h)

/-- Rods labelled by digits, which stand next to a number of several digits. -/
theorem text_unambiguous_digits :
    let m : Move := ⟨4294967295, ⟨'1', by decide⟩, ⟨'2', by decide⟩⟩
    ∃ c, (textSink .console).emitAll (.withBuffer {}) [m, m.reverse] = (.ok (), c) ∧
      c.close.bytes = ("Move disk 4294967295 from rod 1 to rod 2\n" ++
        "Move disk 4294967295 from rod 2 to rod 1\n").toUTF8 := by
  intro m
  obtain ⟨-, hemit, hsentence, htext, hbytes, -⟩ := text_unambiguous {} ⟨rfl, rfl, rfl⟩ true
  obtain ⟨c, -, hc, -⟩ := hemit [m, m.reverse]
  refine ⟨c, hc, ?_⟩
  have hm := hbytes [m, m.reverse]
  rw [htext] at hm
  simp only [hc, hsentence] at hm
  rw [hm]
  refine congrArg String.toUTF8 ?_
  decide

end Output

end TowerOfHanoi
