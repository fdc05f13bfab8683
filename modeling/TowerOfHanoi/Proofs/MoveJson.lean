/-
TowerOfHanoi/Proofs/MoveJson.lean

Moves as JSON.  A move is an object or a list, and its labels are literals,
which may be spelled in more than one way (`Spells`).  Whatever the spelling,
the move that is read has the rods that the labels stand for:

    readMove (form.text disk l l') = (do return ⟨disk, ← label s, ← label t⟩)

if `l` spells `s` and `l'` spells `t` (`readMove_text`), as long as the disk is
below the bound that the reader puts on disks.  The object that is written for
a move is of this form, so it gives back the move (`readMove_json`).

Every move that the reader returns has a disk below the bound, whatever text it
was read from: the bound is checked where the disk is read, and it stays with
the members that have been read (`disk_lt_of_readMove`).
-/
import TowerOfHanoi.Json.ReadMove
import TowerOfHanoi.Output.JsonLines
import TowerOfHanoi.Proofs.Literal
import TowerOfHanoi.Proofs.Outcome

namespace TowerOfHanoi

/-- The label of a rod is a label. -/
theorem Peg.ofString_text (p : Peg) : Peg.ofString p.text = .ok p := by
  rw [Peg.ofString, Peg.text, String.toList_singleton]
  simp [Peg.ofChar, p.visible]

namespace Json

/-! ### The text of a move -/

/-- A move is an object, or a list of its parts. -/
inductive Form where
  | object
  | list

/-- The characters of an object after its opening brace, with a disk and the texts between the
quotes of two labels. -/
def objectMembers (disk : Nat) (source target : List Char) : List Char :=
  '"' :: ("disk".toList ++ '"' :: ':' :: (Text.digits disk ++
    ',' :: '"' :: ("from".toList ++ '"' :: ':' :: '"' :: (source ++
      '"' :: ',' :: '"' :: ("to".toList ++ '"' :: ':' :: '"' :: (target ++
        '"' :: '\x7d' :: []))))))

/-- The characters of a list after its opening bracket. -/
def listElements (disk : Nat) (source target : List Char) : List Char :=
  Text.digits disk ++ ',' :: '"' :: (source ++ '"' :: ',' :: '"' :: (target ++ '"' :: ']' :: []))

/-- The text of a move with a disk and the texts between the quotes of its labels. -/
def Form.text (disk : Nat) (source target : String) : Form → String
  | object => String.ofList ('\x7b' :: objectMembers disk source.toList target.toList)
  | list => String.ofList ('[' :: listElements disk source.toList target.toList)

theorem toList_json (m : Move) : m.json.toList
    = '\x7b' :: objectMembers m.disk (escapeChar m.source.label) (escapeChar m.target.label) := by
  simp [Move.json, quote, objectMembers, Text.decimal, escapeText, Peg.text]

theorem json_eq_text (m : Move) : m.json
    = Form.object.text m.disk (escapeText m.source.text) (escapeText m.target.text) := by
  rw [← String.toList_inj, toList_json]
  simp [Form.text, escapeText, Peg.text]

variable {cs rest : List Char}

/-! ### Labels -/

/-- A text between quotes is read as a string. -/
def Spells (literal s : String) : Prop :=
  stringBody (literal.toList ++ ['"']) = .ok (s.toList, [])

theorem spells_escapeText (s : String) : Spells (escapeText s) s := by
  rw [Spells, escapeText, String.toList_ofList]
  exact stringBody_escape s.toList []

variable {literal literal' s t : String}

theorem Spells.stringBody_append (h : Spells literal s) (rest : List Char) :
    stringBody (literal.toList ++ '"' :: rest) = .ok (s.toList, rest) := by
  simpa using Json.stringBody_append h rest

/-- The rod that a string stands for in JSON. -/
def label (s : String) : Except Fault Peg :=
  (Peg.ofString s).mapError fun _ => .mistyped

theorem label_eq_ok_iff {p : Peg} : label s = .ok p ↔ Peg.ofString s = .ok p := by
  unfold label
  rcases Peg.ofString s with e | q
  · constructor <;> intro h <;> cases h
  · constructor <;> intro h <;> cases h <;> rfl

theorem skipSpace_cons {c : Char} (hc : isSpace c = false) (cs : List Char) :
    skipSpace (c :: cs) = c :: cs := by
  rw [skipSpace, List.dropWhile_cons_of_neg (by simp [hc])]

theorem readPeg_literal (h : Spells literal s) (rest : List Char) :
    readPeg ('"' :: (literal.toList ++ '"' :: rest)) = (label s).map fun p => (p, rest) := by
  rw [readPeg, skipSpace_cons rfl]
  simp only [if_true, h.stringBody_append, String.ofList_toList, label]
  rcases Peg.ofString s with e | p <;> rfl

/-! ### Disks -/

theorem isSpace_of_isDigit {c : Char} (hc : Text.isDigit c = true) : isSpace c = false := by
  rw [Bool.eq_false_iff]
  intro hspace
  simp only [isSpace, Bool.or_eq_true, beq_iff_eq] at hspace
  rcases hspace with ((rfl | rfl) | rfl) | rfl <;> revert hc <;> decide

theorem readDisk_digits {n : Nat} (hn : n < diskBound) (hrest : EndsNumber rest) :
    readDisk (Text.digits n ++ rest) = .ok (n, rest) := by
  have hnumber := number_digits (Nat.lt_trans hn (by decide)) hrest
  have hdigit := Text.isDigit_of_mem_digits n
  obtain ⟨d, ds, hds⟩ := List.exists_cons_of_ne_nil (Text.digits_ne_nil n)
  rw [hds] at hnumber hdigit ⊢
  have hd : Text.isDigit d = true := hdigit d (by simp)
  rw [List.cons_append] at hnumber ⊢
  rw [readDisk, skipSpace_cons (isSpace_of_isDigit hd)]
  simp only [hd, if_true, hnumber, hn]

theorem endsNumber_comma (rest : List Char) : EndsNumber (',' :: rest) := by
  intro c hc
  cases hc
  decide

/-! ### Members -/

theorem stringBody_key (key : String) (hkey : key.toList.flatMap escapeChar = key.toList)
    (rest : List Char) : stringBody (key.toList ++ '"' :: rest) = .ok (key.toList, rest) := by
  have hread := stringBody_escape key.toList rest
  rwa [hkey] at hread

theorem colon_cons (rest : List Char) : colon (':' :: rest) = .ok rest := rfl

section Members

variable (members : Members)

theorem readMember_disk (hnone : members.disk = none) {n : Nat} (hn : n < diskBound)
    (hrest : EndsNumber rest) :
    readMember members ("disk".toList ++ '"' :: ':' :: (Text.digits n ++ rest))
      = .ok ({ members with disk := some n }, rest) := by
  have hkey := stringBody_key "disk" rfl (':' :: (Text.digits n ++ rest))
  simp only [readMember, hkey, bind, Except.bind, hnone, colon_cons, readDisk_digits hn hrest]
  rfl

theorem readMember_from (hnone : members.source = none) (h : Spells literal s)
    (rest : List Char) :
    readMember members ("from".toList ++ '"' :: ':' :: '"' :: (literal.toList ++ '"' :: rest))
      = (label s).map fun p => ({ members with source := some p }, rest) := by
  have hkey := stringBody_key "from" rfl (':' :: '"' :: (literal.toList ++ '"' :: rest))
  simp only [readMember, hkey, bind, Except.bind, hnone, colon_cons, readPeg_literal h]
  rcases label s with fault | p <;> rfl

theorem readMember_to (hnone : members.target = none) (h : Spells literal s) (rest : List Char) :
    readMember members ("to".toList ++ '"' :: ':' :: '"' :: (literal.toList ++ '"' :: rest))
      = (label s).map fun p => ({ members with target := some p }, rest) := by
  have hkey := stringBody_key "to" rfl (':' :: '"' :: (literal.toList ++ '"' :: rest))
  simp only [readMember, hkey, bind, Except.bind, hnone, colon_cons, readPeg_literal h]
  rcases label s with fault | p <;> rfl

variable {members} (fuel : Nat)

theorem readMembers_first : readMembers (fuel + 1) true members ('"' :: cs)
    = readMember members cs >>= fun r => readMembers fuel false r.1 r.2 := by
  rw [readMembers, show nextKey true ('"' :: cs) = .ok (some cs, cs) from rfl]
  dsimp only
  rcases readMember members cs with fault | r <;> rfl

theorem readMembers_next : readMembers (fuel + 1) false members (',' :: '"' :: cs)
    = readMember members cs >>= fun r => readMembers fuel false r.1 r.2 := by
  rw [readMembers, show nextKey false (',' :: '"' :: cs) = .ok (some cs, cs) from rfl]
  dsimp only
  rcases readMember members cs with fault | r <;> rfl

end Members

/-! ### Elements -/

theorem nextElement_digits (n : Nat) (rest : List Char) :
    nextElement true (Text.digits n ++ rest) = .ok (Text.digits n ++ rest) := by
  have hdigit := Text.isDigit_of_mem_digits n
  obtain ⟨d, ds, hds⟩ := List.exists_cons_of_ne_nil (Text.digits_ne_nil n)
  rw [hds] at hdigit ⊢
  have hd : Text.isDigit d = true := hdigit d (by simp)
  rw [List.cons_append, nextElement, skipSpace_cons (isSpace_of_isDigit hd)]
  split
  · rename_i h
    cases h
  · rename_i h
    cases h
    cases hd
  · rename_i h
    cases h
    rfl

theorem nextElement_quote (rest : List Char) :
    nextElement false (',' :: '"' :: rest) = .ok ('"' :: rest) := rfl

/-! ### Moves -/

section Moves

variable {disk : Nat} (hdisk : disk < diskBound) (hs : Spells literal s) (ht : Spells literal' t)
include hdisk hs ht

theorem readMembers_objectMembers (fuel : Nat) :
    readMembers (fuel + 4) true {} (objectMembers disk literal.toList literal'.toList)
      = (do return (⟨some disk, some (← label s), some (← label t)⟩, [])) := by
  rw [objectMembers, readMembers_first, readMember_disk _ rfl hdisk (endsNumber_comma _)]
  simp only [bind, Except.bind]
  rw [readMembers_next, readMember_from _ rfl hs]
  rcases label s with fault | p
  · rfl
  simp only [bind, Except.bind, Except.map]
  rw [readMembers_next, readMember_to _ rfl ht]
  rcases label t with fault | q <;> rfl

theorem readObject_objectMembers :
    readObject (objectMembers disk literal.toList literal'.toList)
      = (do return (⟨disk, ← label s, ← label t⟩, [])) := by
  -- an object has more characters than it has members, so the fuel is enough
  obtain ⟨fuel, hfuel⟩ :
      ∃ fuel, (objectMembers disk literal.toList literal'.toList).length + 1 = fuel + 4 := by
    refine ⟨(objectMembers disk literal.toList literal'.toList).length - 3, ?_⟩
    simp only [objectMembers, List.length_cons, List.length_append]
    omega
  rw [readObject, hfuel, readMembers_objectMembers hdisk hs ht]
  rcases label s with fault | p
  · rfl
  rcases label t with fault | q <;> rfl

theorem readList_listElements :
    readList (listElements disk literal.toList literal'.toList)
      = (do return (⟨disk, ← label s, ← label t⟩, [])) := by
  simp only [readList, listElements, nextElement_digits, bind, Except.bind,
    readDisk_digits hdisk (endsNumber_comma _), nextElement_quote, readPeg_literal hs]
  rcases label s with fault | p
  · rfl
  simp only [Except.map, nextElement_quote, readPeg_literal ht]
  rcases label t with fault | q <;> rfl

/-- **The rods of a move that is read are those that its labels stand for.** -/
theorem readMove_text (form : Form) : readMove (form.text disk literal literal')
    = (do return ⟨disk, ← label s, ← label t⟩) := by
  cases form with
  | object =>
    rw [readMove, Form.text, String.toList_ofList, skipSpace_cons rfl]
    show (readObject (objectMembers disk literal.toList literal'.toList) >>= _) = _
    rw [readObject_objectMembers hdisk hs ht]
    rcases label s with fault | p
    · rfl
    rcases label t with fault | q <;> rfl
  | list =>
    rw [readMove, Form.text, String.toList_ofList, skipSpace_cons rfl]
    show (readList (listElements disk literal.toList literal'.toList) >>= _) = _
    rw [readList_listElements hdisk hs ht]
    rcases label s with fault | p
    · rfl
    rcases label t with fault | q <;> rfl

end Moves

/-- **A move is read back from its object.** -/
theorem readMove_json {m : Move} (hm : m.disk < diskBound) : readMove m.json = .ok m := by
  have hsource : label m.source.text = .ok m.source := label_eq_ok_iff.2 m.source.ofString_text
  have htarget : label m.target.text = .ok m.target := label_eq_ok_iff.2 m.target.ofString_text
  rw [json_eq_text, readMove_text hm (spells_escapeText _) (spells_escapeText _),
    hsource, htarget]
  rfl

/-! ### Moves that have been read -/

variable {α : Type} {m : Move} {n : Nat}

/-- A value of the wrong kind is never read. -/
theorem mistyped_ne_ok (cs : List Char) (a : α) : mistyped cs ≠ .ok a := by
  intro h
  unfold mistyped at h
  simp only at h
  split at h
  iterate 5
    · split at h <;> cases h
  iterate 2
    · cases h
  · split at h
    · split at h <;> cases h
    · cases h
  · cases h

theorem disk_lt_of_readDisk (h : readDisk cs = .ok (n, rest)) : n < diskBound := by
  unfold readDisk at h
  split at h
  · cases h
  · split at h
    · split at h
      · cases h
      · split at h
        · rename_i hn
          cases h
          exact hn
        · cases h
      · cases h
    · exact absurd h (mistyped_ne_ok _ _)

/-- The disk among the members read so far is below the bound. -/
def Members.Bounded (members : Members) : Prop :=
  ∀ n ∈ members.disk, n < diskBound

theorem Members.Bounded.readMember {members members' : Members} (hb : members.Bounded)
    (h : readMember members cs = .ok (members', rest)) : members'.Bounded := by
  obtain ⟨⟨key, cs₁⟩, -, h⟩ := bind_eq_ok_iff.1 h
  simp only at h
  split at h
  · split at h
    · cases h
    · obtain ⟨cs₂, -, h⟩ := bind_eq_ok_iff.1 h
      obtain ⟨⟨disk, cs₃⟩, hdisk, h⟩ := bind_eq_ok_iff.1 h
      cases h
      intro n hn
      cases hn
      exact disk_lt_of_readDisk hdisk
  · -- the other members leave the disk alone
    split at h
    · split at h
      · cases h
      · obtain ⟨cs₂, -, h⟩ := bind_eq_ok_iff.1 h
        obtain ⟨⟨source, cs₃⟩, -, h⟩ := bind_eq_ok_iff.1 h
        cases h
        exact hb
    · split at h
      · split at h
        · cases h
        · obtain ⟨cs₂, -, h⟩ := bind_eq_ok_iff.1 h
          obtain ⟨⟨target, cs₃⟩, -, h⟩ := bind_eq_ok_iff.1 h
          cases h
          exact hb
      · obtain ⟨cs₂, -, h⟩ := bind_eq_ok_iff.1 h
        obtain ⟨cs₃, -, h⟩ := bind_eq_ok_iff.1 h
        cases h
        exact hb

theorem Members.Bounded.readMembers {members members' : Members} (hb : members.Bounded) {fuel : Nat}
    {first : Bool} (h : readMembers fuel first members cs = .ok (members', rest)) :
    members'.Bounded := by
  induction fuel generalizing first members cs with
  | zero => cases h
  | succ fuel ih =>
    rw [Json.readMembers] at h
    split at h
    · cases h
    · cases h
      exact hb
    · split at h
      · cases h
      · rename_i hmember
        exact ih (hb.readMember hmember) h

theorem disk_lt_of_readObject (h : readObject cs = .ok (m, rest)) : m.disk < diskBound := by
  obtain ⟨⟨members, cs₁⟩, hmembers, h⟩ := bind_eq_ok_iff.1 h
  have hempty : Members.Bounded {} := fun n hn => nomatch hn
  have hbounded := hempty.readMembers hmembers
  simp only at h
  split at h
  · cases h
    exact hbounded _ rfl
  · cases h

theorem disk_lt_of_readList (h : readList cs = .ok (m, rest)) : m.disk < diskBound := by
  obtain ⟨cs₁, -, h⟩ := bind_eq_ok_iff.1 h
  obtain ⟨⟨disk, cs₂⟩, hdisk, h⟩ := bind_eq_ok_iff.1 h
  obtain ⟨cs₃, -, h⟩ := bind_eq_ok_iff.1 h
  obtain ⟨⟨source, cs₄⟩, -, h⟩ := bind_eq_ok_iff.1 h
  obtain ⟨cs₅, -, h⟩ := bind_eq_ok_iff.1 h
  obtain ⟨⟨target, cs₆⟩, -, h⟩ := bind_eq_ok_iff.1 h
  simp only at h
  split at h
  · cases h
  · cases h
    exact disk_lt_of_readDisk hdisk
  · cases h

/-- **Every move that is read has a disk below the bound**, whatever the text. -/
theorem disk_lt_of_readMove (h : readMove s = .ok m) : m.disk < diskBound := by
  -- only blank space may follow the value
  have hwhole {r : Except Fault (Move × List Char)}
      (h : (r >>= fun x =>
        if (skipSpace x.2).isEmpty then pure x.1 else .error .malformed) = .ok m) :
      ∃ rest, r = .ok (m, rest) := by
    obtain ⟨⟨m', rest⟩, hr, h⟩ := bind_eq_ok_iff.1 h
    simp only at h
    split at h
    · cases h
      exact ⟨rest, hr⟩
    · cases h
  unfold readMove at h
  split at h
  · cases h
  · obtain ⟨rest, hobject⟩ := hwhole h
    exact disk_lt_of_readObject hobject
  · obtain ⟨rest, hlist⟩ := hwhole h
    exact disk_lt_of_readList hlist
  · obtain ⟨rest, hvalue⟩ := hwhole h
    exact absurd hvalue (mistyped_ne_ok _ _)

end Json

end TowerOfHanoi
