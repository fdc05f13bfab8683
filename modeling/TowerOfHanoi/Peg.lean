/-
TowerOfHanoi/Peg.lean

Pegs.  A rod is known by its label, one visible character; which disks rest
on it is the board's business.
-/
import TowerOfHanoi.Error
import TowerOfHanoi.Text.Escape

namespace TowerOfHanoi

/-- A rod, known by a visible character. -/
structure Peg where
  label : Char
  visible : Text.isVisible label = true
deriving DecidableEq

namespace Peg

/-- The rod labelled by a character, which must be visible. -/
def ofChar (c : Char) : Except Error Peg :=
  if h : Text.isVisible c = true then .ok ⟨c, h⟩
  else .error (.invalidPegLabel (Text.escape c) .invisible)

/-- The rod labelled by a text, which must be one visible character. -/
def ofString (s : String) : Except Error Peg :=
  match s.toList with
  | [c] => ofChar c
  | _ => .error (.invalidPegLabel s .notOneCharacter)

/-- The label as a text. -/
def text (p : Peg) : String :=
  String.singleton p.label

/-- The rod labelled `A`. -/
def a : Peg := ⟨'A', by decide⟩

/-- The rod labelled `B`. -/
def b : Peg := ⟨'B', by decide⟩

/-- The rod labelled `C`. -/
def c : Peg := ⟨'C', by decide⟩

end Peg

end TowerOfHanoi
