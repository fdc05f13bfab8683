/-
TowerOfHanoi/Toml/Document.lean

Reading a document.  A document is a sequence of lines: headers, which open
tables, and keys with values, which go into the table opened last.  Arrays
and tables in braces run over as many lines as they like; nesting, and the
length of a dotted key, are bounded.
-/
import TowerOfHanoi.Toml.Quoted
import TowerOfHanoi.Toml.Scalar

namespace TowerOfHanoi.Toml

/-- How deep arrays and tables in braces nest, and how many parts a dotted key has, at most. -/
def maxDepth : Nat := 80

/-- A parser takes the characters that are left and gives a value with those that follow. -/
abbrev Parser (α : Type) := List Char → Except String (α × List Char)

/-! ### Space and comments -/

/-- Skips blank space within a line. -/
def skipBlank (cs : List Char) : List Char :=
  cs.dropWhile isBlankSpace

/-- Skips blank space, line ends and comments. -/
def skipTrivia : (inComment : Bool) → List Char → Except String (List Char)
  | _, [] => .ok []
  | _, '\n' :: rest => skipTrivia false rest
  | _, '\r' :: '\n' :: rest => skipTrivia false rest
  | true, c :: rest => if isPlain c then skipTrivia true rest else .error "invalid comment"
  | false, c :: rest =>
    if isBlankSpace c then skipTrivia false rest
    else if c = '#' then skipTrivia true rest
    else .ok (c :: rest)

/-- Skips the rest of a line: blank space and a comment, and nothing else. -/
def endLine (cs : List Char) : Except String (List Char) :=
  let atEnd (cs : List Char) : Except String (List Char) :=
    match newline? cs with
    | some rest => .ok rest
    | none => if cs.isEmpty then .ok [] else .error "unexpected character"
  match skipBlank cs with
  | '#' :: rest => atEnd (rest.dropWhile isPlain)
  | rest => atEnd rest

/-! ### Keys -/

/-- A character of a key without quotes. -/
def isBare (c : Char) : Bool :=
  ('a' ≤ c && c ≤ 'z') || ('A' ≤ c && c ≤ 'Z') || Text.isDigit c || c == '_' || c == '-'

/-- One part of a key. -/
def simpleKey : Parser String
  | '"' :: rest => (basic (rest.length + 1) rest).map fun (key, rest) => (String.ofList key, rest)
  | '\x27' :: rest => (literal rest).map fun (key, rest) => (String.ofList key, rest)
  | cs =>
    match cs.takeWhile isBare with
    | [] => .error "missing key"
    | key => .ok (String.ofList key, cs.dropWhile isBare)

/-- The parts of a dotted key with blank space around them; `fuel` bounds their number. -/
def keyParts : (fuel : Nat) → Parser (List String)
  | 0, _ => .error "too many key parts"
  | fuel + 1, cs => do
    let (part, rest) ← simpleKey (skipBlank cs)
    match skipBlank rest with
    | '.' :: rest =>
      let (parts, rest) ← keyParts fuel rest
      return (part :: parts, rest)
    | rest => return ([part], rest)

/-- A key: the path to a table, and the last part. -/
def key (cs : List Char) : Except String ((List String × String) × List Char) := do
  let (parts, rest) ← keyParts maxDepth cs
  match parts.getLast? with
  | some last => return ((parts.dropLast, last), rest)
  | none => .error "missing key"

/-! ### Values -/

/-- A character of an unquoted value. -/
def isWordChar (c : Char) : Bool :=
  !(isBlankSpace c || c == '\r' || c == '\n' || c == '#' || c == ',' || c == '=' || c == '[' ||
    c == ']' || c == '\x7b' || c == '\x7d' || c == '"' || c == '\x27')

/-- An unquoted value; a date and a time may have a space between them. -/
def unquoted (cs : List Char) : Except String (Node × List Char) :=
  let front := cs.takeWhile isWordChar
  let rest := cs.dropWhile isWordChar
  let (front, rest) :=
    match date? front, rest with
    | some [], ' ' :: c :: more =>
      if Text.isDigit c then
        (front ++ ' ' :: (c :: more).takeWhile isWordChar, (c :: more).dropWhile isWordChar)
      else (front, rest)
    | _, _ => (front, rest)
  match word? front with
  | some s => .ok (.scalar s, rest)
  | none => .error "invalid value"

/-- The elements of an array, after the opening bracket; `fuel` bounds their number. -/
def elements (value : Parser Node) : (fuel : Nat) → Parser (List Node)
  | 0, _ => .error "unterminated array"
  | fuel + 1, cs => do
    match ← skipTrivia false cs with
    | ']' :: rest => return ([], rest)
    | cs =>
      let (node, rest) ← value cs
      match ← skipTrivia false rest with
      | ',' :: rest =>
        let (nodes, rest) ← elements value fuel rest
        return (node :: nodes, rest)
      | ']' :: rest => return ([node], rest)
      | _ => .error "unterminated array"

/-- A key, an equals sign and a value. -/
def keyValue (value : Parser Node) (cs : List Char) :
    Except String ((List String × String × Node) × List Char) := do
  let ((path, last), rest) ← key cs
  match rest with
  | '=' :: rest =>
    let (node, rest) ← value (skipBlank rest)
    return ((path, last, node), rest)
  | _ => .error "missing equals sign"

/-- The entries of a table in braces, after the opening brace; `fuel` bounds their number. -/
def braces (value : Parser Node) : (fuel : Nat) → Entries → Parser Entries
  | 0, _, _ => .error "unterminated table"
  | fuel + 1, entries, cs => do
    match ← skipTrivia false cs with
    | '\x7d' :: rest => return (entries, rest)
    | cs =>
      let ((path, last, node), rest) ← keyValue value cs
      let (_, entries) ← descend true (addKey (!path.isEmpty) last node) path .braces entries
      match ← skipTrivia false rest with
      | ',' :: rest => braces value fuel entries rest
      | '\x7d' :: rest => return (entries, rest)
      | _ => .error "unterminated table"

/-- A value whose arrays and tables in braces nest at most `depth` deep. -/
def value : (depth : Nat) → Parser Node
  | depth, cs =>
    match quoted? cs with
    | some result => result.map fun (text, rest) => (.scalar (.string (String.ofList text)), rest)
    | none =>
      match depth, cs with
      | 0, '[' :: _ | 0, '\x7b' :: _ => .error "nested too deep"
      | depth + 1, '[' :: rest =>
        (elements (value depth) (rest.length + 1) rest).map fun (nodes, rest) =>
          (.array false nodes, rest)
      | depth + 1, '\x7b' :: rest =>
        (braces (value depth) (rest.length + 1) [] rest).map fun (entries, rest) =>
          (.table .braces entries, rest)
      | _, cs => unquoted cs

/-! ### Lines -/

/-- A document in the making: its entries, and the path of the table opened last. -/
structure Draft where
  entries : Entries := []
  current : List String := []

/-- Opens a table by its header, or another table of an array of tables. -/
def Draft.header (d : Draft) (ofTables : Bool) (path : List String) (last : String) :
    Except String Draft := do
  let change := if ofTables then openElement last else openTable last
  let (_, entries) ← descend false change path .header d.entries
  return ⟨entries, path ++ [last]⟩

/-- Adds a key with its value to the table opened last. -/
def Draft.add (d : Draft) (path : List String) (last : String) (node : Node) :
    Except String Draft := do
  let inTable (origin : Origin) (entries : Entries) : Except String (Origin × Entries) :=
    descend true (addKey (!path.isEmpty) last node) path origin entries
  let (_, entries) ← descend false inTable d.current .header d.entries
  return { d with entries }

/-- A header, after its opening bracket. -/
def headerLine (d : Draft) (cs : List Char) : Except String (Draft × List Char) := do
  match cs with
  | '[' :: cs =>
    let ((path, last), rest) ← key cs
    match rest with
    | ']' :: ']' :: rest => return (← d.header true path last, rest)
    | _ => .error "unterminated header"
  | cs =>
    let ((path, last), rest) ← key cs
    match rest with
    | ']' :: rest => return (← d.header false path last, rest)
    | _ => .error "unterminated header"

/-- A key with its value. -/
def keyValueLine (d : Draft) (cs : List Char) : Except String (Draft × List Char) := do
  let ((path, last, node), rest) ← keyValue (value maxDepth) cs
  return (← d.add path last node, rest)

/-- The lines of a document; `fuel` bounds their number. -/
def lines : (fuel : Nat) → Draft → List Char → Except String Draft
  | 0, _, _ => .error "too many lines"
  | fuel + 1, d, cs => do
    match ← skipTrivia false cs with
    | [] => return d
    | '[' :: rest =>
      let (d, rest) ← headerLine d rest
      lines fuel d (← endLine rest)
    | cs =>
      let (d, rest) ← keyValueLine d cs
      lines fuel d (← endLine rest)

/-- Reads a document, whose text may begin with a byte order mark. -/
def parse (s : String) : Except String Entries := do
  let cs :=
    match s.toList with
    | '\ufeff' :: cs => cs
    | cs => cs
  return (← lines (cs.length + 1) {} cs).entries

end TowerOfHanoi.Toml
