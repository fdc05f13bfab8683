/-
TowerOfHanoi/Proofs/Encoding.lean

Encodings and the pieces that they are written in.  The encoding of a list of
moves is a text, put together from lines or rows; a sink writes it in smaller
pieces, primitives, tokens or single bytes.  For each format the pieces of a
move join to what the move adds to the encoding:

    encode f (ms ++ [m]) = encode f ms ++ increment f (!ms.isEmpty) m

(`encode_concat`), where the increment is the line of the move, or its row with
the header in front if it is the first, and is what the sink writes
(`increment_text`, `increment_json`, `increment_csv`).
-/
import TowerOfHanoi.Output.Writer
import TowerOfHanoi.Proofs.Printing

namespace TowerOfHanoi.Output

/-! ### Lines -/

theorem joinPieces_toUTF8 (ss : List String) :
    joinPieces (ss.map String.toUTF8) = (String.join ss).toUTF8 := by
  induction ss with
  | nil => rfl
  | cons s ss ih =>
    simp only [List.map_cons, joinPieces_cons, ih, String.join_cons, String.toUTF8_eq_toByteArray,
      String.toByteArray_append]

/-- The primitives that print a move make up its line. -/
theorem join_movePrints (m : Move) :
    String.join ((movePrints m).map Print.toText) = m.text ++ "\n" := by
  show "" ++ "Move disk " ++ Text.decimal m.disk ++ " from rod " ++ m.source.text ++ " to rod " ++
    m.target.text ++ String.singleton '\n' = m.text ++ "\n"
  rw [String.empty_append]
  rfl

/-- The tokens of the object of a move make up the object. -/
theorem join_jsonTokens (m : Move) : String.join m.jsonTokens = m.json := by
  apply String.toList_inj.1
  simp [Move.jsonTokens, Move.json, Json.quote]

/-! ### Rows -/

theorem toUTF8_ofList_append (cs cs' : List Char) :
    (String.ofList (cs ++ cs')).toUTF8
      = (String.ofList cs).toUTF8 ++ (String.ofList cs').toUTF8 := by
  simp only [String.ofList_append, String.toUTF8_eq_toByteArray, String.toByteArray_append]

theorem joinPieces_bytePieces (s : String) : joinPieces (bytePieces s) = s.toUTF8 := by
  have hbytes : ∀ bs : List UInt8,
      joinPieces (bs.map fun b => ByteArray.mk #[b]) = ByteArray.mk bs.toArray := by
    intro bs
    induction bs with
    | nil => rfl
    | cons b bs ih =>
      rw [List.map_cons, joinPieces_cons, ih]
      apply ByteArray.ext
      simp
  exact hbytes _

theorem joinPieces_quotedPieces (c : Char) :
    joinPieces (quotedPieces c) = (String.ofList (quotedText c)).toUTF8 := by
  rw [quotedPieces, quotedText]
  split
  · rfl
  · exact joinPieces_bytePieces _

/-- Pieces that make up a text each make up the text of a list. -/
theorem joinPieces_flatMap {α : Type} {pieces : α → List ByteArray} {text : α → List Char}
    (h : ∀ a, joinPieces (pieces a) = (String.ofList (text a)).toUTF8) (as : List α) :
    joinPieces (as.flatMap pieces) = (String.ofList (as.flatMap text)).toUTF8 := by
  induction as with
  | nil => rfl
  | cons a as ih =>
    rw [List.flatMap_cons, joinPieces_append, List.flatMap_cons, toUTF8_ofList_append, h, ih]

theorem joinPieces_fieldPieces (s : String) :
    joinPieces (fieldPieces s) = (String.ofList (fieldText s)).toUTF8 := by
  rw [fieldPieces, fieldText]
  split
  · rw [joinPieces_append, joinPieces_append, joinPieces_flatMap joinPieces_quotedPieces,
      toUTF8_ofList_append, toUTF8_ofList_append]
    rfl
  · rw [joinPieces_bytePieces, String.ofList_toList]

/-- The pieces of a row make up its text. -/
theorem joinPieces_rowPieces (fields : List String) :
    joinPieces (rowPieces fields) = (String.ofList (rowText fields)).toUTF8 := by
  fun_induction rowText fields with
  | case1 => rfl
  | case2 field =>
    rw [rowPieces, joinPieces_append, joinPieces_fieldPieces, toUTF8_ofList_append]
    rfl
  | case3 field fields hfields ih =>
    rw [rowPieces.eq_3 _ _ hfields, joinPieces_append, joinPieces_append, joinPieces_fieldPieces,
      ih, toUTF8_ofList_append, toUTF8_ofList_append]
    rfl

/-! ### Encodings -/

/-- What one more move adds to an encoding. -/
def increment : Format → (headed : Bool) → Move → ByteArray
  | .text, _, m => (m.text ++ "\n").toUTF8
  | .json, _, m => (m.json ++ "\n").toUTF8
  | .csv, headed, m =>
    (String.ofList ((if headed then [] else rowText csvHeader) ++ rowText (moveFields m))).toUTF8

theorem increment_text (headed : Bool) (m : Move) :
    increment .text headed m = joinPieces (((movePrints m).map Print.toText).map String.toUTF8) := by
  rw [increment, joinPieces_toUTF8, join_movePrints]

theorem increment_json (headed : Bool) (m : Move) :
    increment .json headed m = joinPieces (m.jsonTokens.map String.toUTF8) ++ "\n".toUTF8 := by
  rw [increment, joinPieces_toUTF8, join_jsonTokens]
  simp [String.toByteArray_append]

theorem increment_csv (headed : Bool) (m : Move) :
    increment .csv headed m = joinPieces (if headed then [] else rowPieces csvHeader) ++
      joinPieces (rowPieces (moveFields m)) := by
  rw [increment, toUTF8_ofList_append, joinPieces_rowPieces]
  cases headed with
  | true => rfl
  | false => simp [joinPieces_rowPieces]

/-- One more move makes an encoding longer. -/
theorem encode_concat (f : Format) (ms : List Move) (m : Move) :
    encode f (ms ++ [m]) = encode f ms ++ increment f (!ms.isEmpty) m := by
  cases f with
  | text => simp [encode, encodeText, increment, String.toByteArray_append]
  | json => simp [encode, encodeJson, increment, String.toByteArray_append]
  | csv =>
    rw [encode, encode, encodeCsv, encodeCsv, increment, ← toUTF8_ofList_append]
    cases ms with
    | nil => simp [csvRows]
    | cons m' ms => simp [csvRows]

theorem exists_encode_append (f : Format) (ms ms' : List Move) :
    ∃ more, encode f (ms ++ ms') = encode f ms ++ more := by
  induction ms' generalizing ms with
  | nil => exact ⟨.empty, by simp⟩
  | cons m ms' ih =>
    obtain ⟨more, h⟩ := ih (ms ++ [m])
    refine ⟨increment f (!ms.isEmpty) m ++ more, ?_⟩
    rw [← ByteArray.append_assoc, ← encode_concat, ← h, List.append_assoc]
    rfl

end TowerOfHanoi.Output
