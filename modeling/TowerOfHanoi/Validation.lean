/-
TowerOfHanoi/Validation.lean

Checks on configuration values and labels.  Each check names the field that
it is about, so that its refusal can be traced to the file.
-/
import TowerOfHanoi.Error

namespace TowerOfHanoi.Validation

/-- The value lies between the bounds, both included. -/
def range (field : String) (value min max : Int) : Except Error Unit :=
  if value < min || max < value then
    .error (.invalidConfigValue field (Text.integer value) (.outOfRange min max))
  else .ok ()

/-- The text is one character, which is the result. -/
def singleChar (field value : String) : Except Error Char :=
  match value.toList with
  | [c] => .ok c
  | _ => .error (.invalidConfigValue field value .notOneCharacter)

/-- The text is one of those allowed. -/
def oneOf (field value : String) (allowed : List String) : Except Error Unit :=
  if allowed.contains value then .ok ()
  else .error (.invalidConfigValue field value (.notAllowed allowed))

/-- The labels differ; the first that repeats an earlier one is refused. -/
def distinct (labels : List Char) : Except Error Unit :=
  go [] labels
where
  /-- Looks at the labels in order, with those already seen. -/
  go (seen : List Char) : List Char → Except Error Unit
    | [] => .ok ()
    | c :: rest => if seen.contains c then .error (.duplicatePeg c) else go (c :: seen) rest

theorem distinct.go_eq_ok_iff {seen labels : List Char} :
    go seen labels = .ok () ↔ labels.Nodup ∧ ∀ c ∈ labels, c ∉ seen := by
  induction labels generalizing seen with
  | nil => simp [go]
  | cons c rest ih =>
    rw [go]
    split
    · rename_i hseen
      have hmem : c ∈ seen := List.contains_iff_mem.1 hseen
      simp [hmem]
    · rename_i hseen
      have hnew : c ∉ seen := fun hmem => hseen (List.contains_iff_mem.2 hmem)
      rw [ih]
      grind

theorem distinct_eq_ok_iff {labels : List Char} : distinct labels = .ok () ↔ labels.Nodup := by
  rw [distinct, distinct.go_eq_ok_iff]
  simp

end TowerOfHanoi.Validation
