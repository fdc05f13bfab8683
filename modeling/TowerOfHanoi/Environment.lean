/-
TowerOfHanoi/Environment.lean

Environment variables in configuration texts.  `${NAME}` stands for the value
of the variable `NAME`; the name is whatever stands before the next closing
brace, and must not be empty.  Occurrences are replaced from left to right,
values are not looked at again, and a variable that is not set is left as it
stands.
-/

namespace TowerOfHanoi

/-- The environment variables that are set, by name. -/
abbrev Environment := String → Option String

namespace Environment

/-- The value of a variable; a name with an equals sign or a NUL is never set. -/
def value? (env : Environment) (name : String) : Option String :=
  if name.toList.any fun c => c == '=' || c == '\x00' then none else env name

/-- The characters up to the next closing brace, with those after it. -/
def splitBrace? (cs : List Char) : Option (List Char × List Char) :=
  match cs.dropWhile (· != '\x7d') with
  | [] => none
  | _ :: rest => some (cs.takeWhile (· != '\x7d'), rest)

/-- The name of a variable after its opening brace, with what follows its closing brace. -/
def name? (cs : List Char) : Option (List Char × List Char) :=
  (splitBrace? cs).filter fun (name, _) => !name.isEmpty

/-- What follows a name is shorter than what it was found in. -/
theorem length_lt_of_name? {cs name rest : List Char} (h : name? cs = some (name, rest)) :
    rest.length < cs.length := by
  have hs : splitBrace? cs = some (name, rest) := (Option.filter_eq_some_iff.1 h).1
  unfold splitBrace? at hs
  split at hs
  · simp at hs
  · rename_i c tail hd
    simp only [Option.some.injEq, Prod.mk.injEq] at hs
    obtain ⟨_, rfl⟩ := hs
    have := (List.dropWhile_sublist (l := cs) (· != '\x7d')).length_le
    rw [hd] at this
    simp only [List.length_cons] at this
    omega

/-- A part of a text: a character that stands for itself, or a variable. -/
inductive Piece where
  | literal (c : Char)
  | variable (name : List Char)
deriving DecidableEq, Repr

/-- The parts of a row of characters, from left to right. -/
def pieces (cs : List Char) : List Piece :=
  match cs with
  | '$' :: '\x7b' :: rest =>
    match _h : name? rest with
    | some (name, after) => .variable name :: pieces after
    | none => .literal '$' :: .literal '\x7b' :: pieces rest
  | c :: rest => .literal c :: pieces rest
  | [] => []
termination_by cs.length
decreasing_by
  · have := length_lt_of_name? _h
    simp only [List.length_cons]
    omega
  · simp only [List.length_cons]
    omega
  · simp

/-- A part as it stands in the text. -/
def Piece.written : Piece → List Char
  | .literal c => [c]
  | .variable name => '$' :: '\x7b' :: name ++ ['\x7d']

/-- A part with the value of its variable, if that is set. -/
def Piece.expand (env : Environment) : Piece → List Char
  | .literal c => [c]
  | .variable name =>
    match env.value? (String.ofList name) with
    | some value => value.toList
    | none => Piece.written (.variable name)

/-- The name of a part that is a variable. -/
def Piece.name? : Piece → Option String
  | .literal _ => none
  | .variable name => some (String.ofList name)

/-- The names of the variables in a text. -/
def names (s : String) : List String :=
  (pieces s.toList).filterMap Piece.name?

/-- Replaces the variables in a text. -/
def substitute (env : Environment) (s : String) : String :=
  String.ofList ((pieces s.toList).flatMap (Piece.expand env))

end Environment

end TowerOfHanoi
