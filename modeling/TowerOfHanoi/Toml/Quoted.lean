/-
TowerOfHanoi/Toml/Quoted.lean

Quoted strings, in four forms: with escapes in double quotes or without in
single quotes, each on one line or, in triple quotes, over several.  The
functions start after the opening quotes and give the text with what follows
the closing quotes.
-/
import TowerOfHanoi.Text.Class

namespace TowerOfHanoi.Toml

/-- A character that may stand for itself in a string or a comment on one line. -/
def isPlain (c : Char) : Bool :=
  c == '\t' || (0x20 ≤ c.toNat && c.toNat ≠ 0x7F)

/-- A line end at the front, taken off. -/
def newline? : List Char → Option (List Char)
  | '\n' :: rest => some rest
  | '\r' :: '\n' :: rest => some rest
  | _ => none

/-- Blank space within a line. -/
def isBlankSpace (c : Char) : Bool :=
  c == ' ' || c == '\t'

/-! ### Escapes -/

/-- A character by its code point in a fixed number of hexadecimal digits. -/
def codePoint? (width : Nat) (cs : List Char) : Option (Char × List Char) := do
  let ds ← (cs.take width).mapM Text.hexValue?
  let n := ds.foldl (fun n d => 16 * n + d) 0
  if ds.length = width && (n < 0xD800 || (0xDFFF < n && n ≤ 0x10FFFF)) then
    return (Char.ofNat n, cs.drop width)
  else none

/-- What follows a backslash. -/
def escape? : List Char → Option (Char × List Char)
  | 'b' :: rest => some ('\x08', rest)
  | 't' :: rest => some ('\t', rest)
  | 'n' :: rest => some ('\n', rest)
  | 'f' :: rest => some ('\x0c', rest)
  | 'r' :: rest => some ('\r', rest)
  | 'e' :: rest => some ('\x1b', rest)
  | '"' :: rest => some ('"', rest)
  | '\\' :: rest => some ('\\', rest)
  | 'x' :: rest => codePoint? 2 rest
  | 'u' :: rest => codePoint? 4 rest
  | 'U' :: rest => codePoint? 8 rest
  | _ => none

/-- Skips blank space and line ends. -/
def skipLines : List Char → List Char
  | '\r' :: '\n' :: rest => skipLines rest
  | c :: rest => if c = '\n' || isBlankSpace c then skipLines rest else c :: rest
  | [] => []

/-- What follows a backslash that ends a line: everything up to the next visible character. -/
def continuation? (cs : List Char) : Option (List Char) :=
  (newline? (cs.dropWhile isBlankSpace)).map skipLines

/-! ### Strings -/

/-- A string in double quotes; `fuel` bounds its length. -/
def basic : (fuel : Nat) → List Char → Except String (List Char × List Char)
  | 0, _ | _, [] => .error "unterminated string"
  | fuel + 1, c :: rest =>
    if c = '"' then .ok ([], rest)
    else if c = '\\' then
      match escape? rest with
      | none => .error "invalid escape sequence"
      | some (c, rest) => (basic fuel rest).map fun (text, rest) => (c :: text, rest)
    else if isPlain c then (basic fuel rest).map fun (text, rest) => (c :: text, rest)
    else .error "invalid character in string"

/-- A string in single quotes. -/
def literal : List Char → Except String (List Char × List Char)
  | [] => .error "unterminated string"
  | c :: rest =>
    if c = '\x27' then .ok ([], rest)
    else if isPlain c then (literal rest).map fun (text, rest) => (c :: text, rest)
    else .error "invalid character in string"

/-- A row of quotes inside a string in triple quotes: three of them close it, and up to two before
those belong to the text.  The result is the text, and whether the string is closed. -/
def quoteRow (quote : Char) (cs : List Char) : List Char × Bool × List Char :=
  let row := cs.takeWhile (· == quote)
  if row.length < 3 then (row, false, cs.drop row.length)
  else
    let taken := min row.length 5
    (row.take (taken - 3), true, cs.drop taken)

/-- A string in triple quotes; `escapes` says whether backslashes are special, and `fuel` bounds
its length. -/
def multiline (quote : Char) (escapes : Bool) :
    (fuel : Nat) → List Char → Except String (List Char × List Char)
  | 0, _ | _, [] => .error "unterminated string"
  | fuel + 1, c :: rest =>
    let more (front : List Char) (rest : List Char) : Except String (List Char × List Char) :=
      (multiline quote escapes fuel rest).map fun (text, rest) => (front ++ text, rest)
    if c = quote then
      match quoteRow quote (c :: rest) with
      | (text, true, rest) => .ok (text, rest)
      | (text, false, rest) => more text rest
    else if c = '\\' && escapes then
      match escape? rest with
      | some (c, rest) => more [c] rest
      | none =>
        match continuation? rest with
        | some rest => more [] rest
        | none => .error "invalid escape sequence"
    else
      match newline? (c :: rest) with
      | some rest => more ['\n'] rest
      | none => if isPlain c then more [c] rest else .error "invalid character in string"

/-- A quoted string in any of the four forms, from its opening quotes on; nothing if no quote
stands in front. -/
def quoted? (cs : List Char) : Option (Except String (List Char × List Char)) :=
  let lines (cs : List Char) : List Char := (newline? cs).getD cs
  match cs with
  | '"' :: '"' :: '"' :: rest => some (multiline '"' true (rest.length + 1) (lines rest))
  | '\x27' :: '\x27' :: '\x27' :: rest => some (multiline '\x27' false (rest.length + 1) (lines rest))
  | '"' :: rest => some (basic (rest.length + 1) rest)
  | '\x27' :: rest => some (literal rest)
  | _ => none

end TowerOfHanoi.Toml
