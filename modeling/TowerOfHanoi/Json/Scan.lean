/-
TowerOfHanoi/Json/Scan.lean

Scanning JSON text.  Scanners take the characters that are left and give
what they read with the characters that follow.  A text is refused for one of
three reasons: it breaks the grammar, it ends too early, or it is a value of
the wrong kind.

Values that nobody asked for are skipped without being built; in a skipped
text an escape only has to have the right shape.
-/
import TowerOfHanoi.Text.Binary64
import TowerOfHanoi.Text.Decimal

namespace TowerOfHanoi.Json

/-- Why a JSON text is refused. -/
inductive Fault where
  | malformed
  | truncated
  | mistyped
deriving DecidableEq, Repr

/-- A scanner takes the characters that are left and gives a value with those that follow. -/
abbrev Scanner (α : Type) := List Char → Except Fault (α × List Char)

/-- Blank space between tokens. -/
def isSpace (c : Char) : Bool :=
  c == ' ' || c == '\t' || c == '\n' || c == '\r'

/-- Skips blank space. -/
def skipSpace (cs : List Char) : List Char :=
  cs.dropWhile isSpace

/-- The rest of a fixed word. -/
def word : List Char → Scanner Unit
  | [], cs => .ok ((), cs)
  | _ :: _, [] => .error .truncated
  | w :: ws, c :: cs => if c = w then word ws cs else .error .malformed

/-! ### Strings -/

/-- Four hexadecimal digits.  With fewer than four bytes left the text ends too early. -/
def hex4 : Scanner Nat
  | a :: b :: c :: d :: rest =>
    match Text.hexValue? a, Text.hexValue? b, Text.hexValue? c, Text.hexValue? d with
    | some a, some b, some c, some d => .ok (((a * 16 + b) * 16 + c) * 16 + d, rest)
    | _, _, _, _ => .error .malformed
  | cs => if (String.ofList cs).utf8ByteSize < 4 then .error .truncated else .error .malformed

/-- The second half of a surrogate pair, after its first half. -/
def lowSurrogate (high : Nat) : Scanner Char
  | [] | ['\\'] => .error .truncated
  | '\\' :: 'u' :: rest =>
    match hex4 rest with
    | .error fault => .error fault
    | .ok (low, rest) =>
      if 0xDC00 ≤ low && low ≤ 0xDFFF then
        .ok (Char.ofNat (0x10000 + (high - 0xD800) * 0x400 + (low - 0xDC00)), rest)
      else .error .malformed
  | _ => .error .malformed

/-- The code point of an escape by number; surrogates have to come in pairs. -/
def unicodeEscape : Scanner Char := fun cs =>
  match hex4 cs with
  | .error fault => .error fault
  | .ok (n, rest) =>
    if 0xDC00 ≤ n && n ≤ 0xDFFF then .error .malformed
    else if 0xD800 ≤ n && n ≤ 0xDBFF then lowSurrogate n rest
    else .ok (Char.ofNat n, rest)

/-- The character that a letter after a backslash stands for. -/
def letterEscape? : Char → Option Char
  | '"' => some '"'
  | '\\' => some '\\'
  | '/' => some '/'
  | 'b' => some '\x08'
  | 'f' => some '\x0c'
  | 'n' => some '\n'
  | 'r' => some '\r'
  | 't' => some '\t'
  | _ => none

/-- What follows a backslash. -/
def escaped : Scanner Char
  | [] => .error .truncated
  | c :: rest =>
    match letterEscape? c with
    | some c => .ok (c, rest)
    | none => if c = 'u' then unicodeEscape rest else .error .malformed

/-- What follows a backslash in a skipped string. -/
def skipEscaped : List Char → Except Fault (List Char)
  | [] => .error .truncated
  | c :: rest =>
    match letterEscape? c with
    | some _ => .ok rest
    | none =>
      if c = 'u' then
        match hex4 rest with
        | .error fault => .error fault
        | .ok (_, rest) => .ok rest
      else .error .malformed

theorem length_lt_of_hex4 {cs rest : List Char} {n : Nat} (h : hex4 cs = .ok (n, rest)) :
    rest.length < cs.length := by
  unfold hex4 at h
  split at h
  · split at h
    · simp only [Except.ok.injEq, Prod.mk.injEq] at h
      obtain ⟨_, rfl⟩ := h
      simp only [List.length_cons]
      omega
    · simp at h
  · split at h <;> simp at h

theorem length_lt_of_lowSurrogate {cs rest : List Char} {high : Nat} {c : Char}
    (h : lowSurrogate high cs = .ok (c, rest)) : rest.length < cs.length := by
  unfold lowSurrogate at h
  split at h
  · simp at h
  · simp at h
  · split at h
    · simp at h
    · rename_i h4
      split at h
      · simp only [Except.ok.injEq, Prod.mk.injEq] at h
        obtain ⟨_, rfl⟩ := h
        have := length_lt_of_hex4 h4
        simp only [List.length_cons]
        omega
      · simp at h
  · simp at h

theorem length_lt_of_unicodeEscape {cs rest : List Char} {c : Char}
    (h : unicodeEscape cs = .ok (c, rest)) : rest.length < cs.length := by
  unfold unicodeEscape at h
  split at h
  · simp at h
  · rename_i h4
    have := length_lt_of_hex4 h4
    split at h
    · simp at h
    · split at h
      · have := length_lt_of_lowSurrogate h
        omega
      · simp only [Except.ok.injEq, Prod.mk.injEq] at h
        obtain ⟨_, rfl⟩ := h
        exact this

theorem length_lt_of_escaped {cs rest : List Char} {c : Char}
    (h : escaped cs = .ok (c, rest)) : rest.length < cs.length := by
  unfold escaped at h
  split at h
  · simp at h
  · split at h
    · simp only [Except.ok.injEq, Prod.mk.injEq] at h
      obtain ⟨_, rfl⟩ := h
      simp
    · split at h
      · have := length_lt_of_unicodeEscape h
        simp only [List.length_cons]
        omega
      · simp at h

theorem length_lt_of_skipEscaped {cs rest : List Char} (h : skipEscaped cs = .ok rest) :
    rest.length < cs.length := by
  unfold skipEscaped at h
  split at h
  · simp at h
  · split at h
    · simp only [Except.ok.injEq] at h
      subst h
      simp
    · split at h
      · split at h
        · simp at h
        · rename_i h4
          simp only [Except.ok.injEq] at h
          subst h
          have := length_lt_of_hex4 h4
          simp only [List.length_cons]
          omega
      · simp at h

/-- The characters of a string literal after its opening quote. -/
def stringBody (cs : List Char) : Except Fault (List Char × List Char) :=
  match cs with
  | [] => .error .truncated
  | c :: rest =>
    if c = '"' then .ok ([], rest)
    else if c = '\\' then
      match _h : escaped rest with
      | .error fault => .error fault
      | .ok (c, rest) => (stringBody rest).map fun (text, rest) => (c :: text, rest)
    else if c.toNat < 0x20 then .error .malformed
    else (stringBody rest).map fun (text, rest) => (c :: text, rest)
termination_by cs.length
decreasing_by
  · have := length_lt_of_escaped _h
    simp only [List.length_cons]
    omega
  · simp

/-- Skips a string literal after its opening quote. -/
def skipString (cs : List Char) : Except Fault (List Char) :=
  match cs with
  | [] => .error .truncated
  | c :: rest =>
    if c = '"' then .ok rest
    else if c = '\\' then
      match _h : skipEscaped rest with
      | .error fault => .error fault
      | .ok rest => skipString rest
    else if c.toNat < 0x20 then .error .malformed
    else skipString rest
termination_by cs.length
decreasing_by
  · have := length_lt_of_skipEscaped _h
    simp only [List.length_cons]
    omega
  · simp

/-! ### Numbers -/

/-- A number: a natural number below `2 ^ 64`, or any other. -/
inductive Number where
  | natural (n : Nat)
  | other
deriving DecidableEq, Repr

/-- Splits off the longest row of digits. -/
def spanDigits (cs : List Char) : List Char × List Char :=
  (cs.takeWhile Text.isDigit, cs.dropWhile Text.isDigit)

/-- Continues a significand with digits as long as it stays below `2 ^ 64`; the second part
counts the digits that were left out. -/
def significand (n : Nat) : List Char → Nat × Nat
  | [] => (n, 0)
  | d :: ds =>
    let n' := 10 * n + Text.digitValue d
    if n' < 18446744073709551616 then significand n' ds else (n, ds.length + 1)

/-- A number with a fraction or an exponent, which must not overflow. -/
def float (significand : Nat) (exponent : Int) (rest : List Char) :
    Except Fault (Number × List Char) :=
  if Text.Binary64.productOverflows significand exponent then .error .malformed
  else .ok (.other, rest)

/-- What follows the letter of an exponent. -/
def exponentPart (significand : Nat) (exponent : Int) (cs : List Char) :
    Except Fault (Number × List Char) :=
  let (negative, cs) :=
    match cs with
    | '+' :: cs => (false, cs)
    | '-' :: cs => (true, cs)
    | cs => (false, cs)
  match spanDigits cs with
  | ([], []) => .error .truncated
  | ([], _ :: _) => .error .malformed
  | (ds, rest) =>
    let n : Int := Text.value ds
    float significand (if negative then exponent - n else exponent + n) rest

/-- What may follow the digits of a number that is no longer an integer. -/
def fractionEnd (significand : Nat) (exponent : Int) : Scanner Number
  | 'e' :: rest | 'E' :: rest => exponentPart significand exponent rest
  | rest => float significand exponent rest

/-- What follows a decimal point. -/
def fractionPart (n : Nat) (exponent : Int) (cs : List Char) : Except Fault (Number × List Char) :=
  match spanDigits cs with
  | ([], []) => .error .truncated
  | ([], _ :: _) => .error .malformed
  | (ds, rest) =>
    let (n, omitted) := significand n ds
    fractionEnd n (exponent - (ds.length - omitted : Nat)) rest

/-- What follows the integer part of a number. -/
def numberEnd (positive : Bool) (n omitted : Nat) : Scanner Number
  | '.' :: rest => fractionPart n omitted rest
  | 'e' :: rest | 'E' :: rest => exponentPart n omitted rest
  | rest =>
    if omitted ≠ 0 then float n omitted rest
    else .ok (if positive then .natural n else .other, rest)

/-- A number after its sign. -/
def number (positive : Bool) : Scanner Number
  | [] => .error .truncated
  | '0' :: rest =>
    match rest with
    | c :: _ => if Text.isDigit c then .error .malformed else numberEnd positive 0 0 rest
    | [] => numberEnd positive 0 0 rest
  | c :: rest =>
    if Text.isDigit c then
      let (ds, rest) := spanDigits (c :: rest)
      let (n, omitted) := significand 0 ds
      numberEnd positive n omitted rest
    else .error .malformed

/-! ### Skipping -/

/-- Skips an exponent, if there is one. -/
def skipExponent (cs : List Char) : Except Fault (List Char) :=
  let digits (cs : List Char) : Except Fault (List Char) :=
    match spanDigits cs with
    | ([], _) => .error .malformed
    | (_ :: _, rest) => .ok rest
  match cs with
  | 'e' :: '+' :: rest | 'e' :: '-' :: rest | 'E' :: '+' :: rest | 'E' :: '-' :: rest => digits rest
  | 'e' :: rest | 'E' :: rest => digits rest
  | rest => .ok rest

/-- Skips a fraction and an exponent, if there are any. -/
def skipFraction : List Char → Except Fault (List Char)
  | '.' :: rest =>
    match spanDigits rest with
    | ([], _) => .error .malformed
    | (_ :: _, rest) => skipExponent rest
  | rest => skipExponent rest

/-- Skips a number after its sign. -/
def skipNumber (cs : List Char) : Except Fault (List Char) :=
  match spanDigits cs with
  | ([], _) => .error .malformed
  | ('0' :: _ :: _, _) => .error .malformed
  | (_ :: _, rest) => skipFraction rest

/-- A container that a skipped value is part of. -/
inductive Enclosing where
  | list
  | object
deriving DecidableEq, Repr

/-- Skips the key of a member of an object, with the colon after it. -/
def skipKey (cs : List Char) : Except Fault (List Char) :=
  match skipSpace cs with
  | [] => .error .truncated
  | '"' :: rest =>
    match skipString rest with
    | .error fault => .error fault
    | .ok rest =>
      match skipSpace rest with
      | [] => .error .truncated
      | ':' :: rest => .ok rest
      | _ => .error .malformed
  | _ => .error .malformed

/-- Skips the head of a value: all of it, or the bracket that opens a container. -/
def skipHead (cs : List Char) : Except Fault (Option Enclosing × List Char) :=
  match skipSpace cs with
  | [] => .error .truncated
  | 'n' :: rest => (word ['u', 'l', 'l'] rest).map fun (_, rest) => (none, rest)
  | 't' :: rest => (word ['r', 'u', 'e'] rest).map fun (_, rest) => (none, rest)
  | 'f' :: rest => (word ['a', 'l', 's', 'e'] rest).map fun (_, rest) => (none, rest)
  | '"' :: rest => (skipString rest).map fun rest => (none, rest)
  | '-' :: rest => (skipNumber rest).map fun rest => (none, rest)
  | '[' :: rest => .ok (some .list, rest)
  | '\x7b' :: rest => .ok (some .object, rest)
  | c :: rest =>
    if Text.isDigit c then (skipNumber (c :: rest)).map fun rest => (none, rest)
    else .error .malformed

/-- Closes the containers that end here, innermost first; a container that has just been opened
is `fresh` and may end without a value.  The result is the containers that are still open, the
innermost of which goes on with another value. -/
def skipEnds : List Enclosing → (fresh : Bool) → List Char →
    Except Fault (List Enclosing × List Char)
  | [], _, cs => .ok ([], cs)
  | container :: outer, fresh, cs =>
    match container, skipSpace cs with
    | _, [] => .error .truncated
    | .list, ']' :: rest => skipEnds outer false rest
    | .object, '\x7d' :: rest => skipEnds outer false rest
    | _, c :: rest =>
      if fresh then .ok (container :: outer, c :: rest)
      else if c = ',' then .ok (container :: outer, rest)
      else .error .malformed

/-- Skips values and what separates them until every open container is closed; `fuel` bounds the
number of values. -/
def skipOpen : (fuel : Nat) → List Enclosing → List Char → Except Fault (List Char)
  | 0, _, _ => .error .malformed
  | fuel + 1, enclosing, cs => do
    let cs ← if enclosing.head? = some .object then skipKey cs else .ok cs
    let (entered, cs) ← skipHead cs
    let (enclosing, cs) ← skipEnds (entered.toList ++ enclosing) entered.isSome cs
    if enclosing.isEmpty then .ok cs else skipOpen fuel enclosing cs

/-- Skips one value. -/
def skipValue (cs : List Char) : Except Fault (List Char) :=
  skipOpen (cs.length + 1) [] cs

end TowerOfHanoi.Json
