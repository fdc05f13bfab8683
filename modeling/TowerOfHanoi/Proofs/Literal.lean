/-
TowerOfHanoi/Proofs/Literal.lean

Numbers and strings as JSON writes them, and as it reads them again.  Written
text is read with more text behind it, so every statement has a `rest`:

    number true (digits n ++ rest) = .ok (.natural n, rest)
    stringBody (cs.flatMap escapeChar ++ '"' :: rest) = .ok (cs, rest)

(`number_digits`, `stringBody_escape`).  For a number, `rest` must not be
something that would go on with it (`EndsNumber`), and the number must fit in
64 bits; a string may hold any characters.

A string may also be written in other ways than that, with more escapes.  A
text that is read as a string at its end is read so with anything behind it
(`stringBody_append`).
-/
import TowerOfHanoi.Json.Literal
import TowerOfHanoi.Json.Scan

namespace TowerOfHanoi

/-! ### Digits -/

namespace Text

theorem isDigit_digitChar : ∀ {d : Nat}, d < 10 → isDigit (digitChar d) = true := by
  decide

theorem digitValue_digitChar : ∀ {d : Nat}, d < 10 → digitValue (digitChar d) = d := by
  decide

theorem digits_ne_nil (n : Nat) : digits n ≠ [] := by
  rw [digits]
  split <;> simp

theorem isDigit_of_mem_digits (n : Nat) : ∀ c ∈ digits n, isDigit c = true := by
  induction n using digits.induct with
  | case1 n hn =>
    rw [digits, if_pos hn]
    intro c hc
    rw [List.mem_singleton.1 hc]
    exact isDigit_digitChar hn
  | case2 n hn ih =>
    rw [digits, if_neg hn]
    intro c hc
    rcases List.mem_append.1 hc with hc | hc
    · exact ih c hc
    · rw [List.mem_singleton.1 hc]
      exact isDigit_digitChar (Nat.mod_lt _ (by decide))

theorem newline_notMem_digits (n : Nat) : '\n' ∉ digits n := by
  intro hmem
  have hdigit := isDigit_of_mem_digits n '\n' hmem
  revert hdigit
  decide

/-- The digits of a number denote it. -/
theorem value_digits (n : Nat) : value (digits n) = n := by
  induction n using digits.induct with
  | case1 n hn =>
    rw [digits, if_pos hn]
    simp [value, digitValue_digitChar hn]
  | case2 n hn ih =>
    rw [digits, if_neg hn]
    simp only [value, List.foldl_append, List.foldl_cons, List.foldl_nil] at ih ⊢
    rw [ih, digitValue_digitChar (Nat.mod_lt _ (by decide))]
    omega

/-- Decimal notation is the usual one. -/
theorem decimal_eq_toString (n : Nat) : decimal n = toString n := by
  have hdigit : ∀ d < 10, digitChar d = Nat.digitChar d := by decide
  have hdigits : digits n = Nat.toDigits 10 n := by
    induction n using digits.induct with
    | case1 n hn => rw [digits, if_pos hn, Nat.toDigits_of_lt_base hn, hdigit n hn]
    | case2 n hn ih =>
      rw [digits, if_neg hn, Nat.toDigits_of_base_le (by decide) (Nat.le_of_not_lt hn), ih,
        hdigit _ (Nat.mod_lt _ (by decide))]
  rw [decimal, hdigits, Nat.toString_eq_ofList_toDigits]

theorem decimal_injective : Function.Injective decimal := by
  intro n n' h
  rw [← value_digits n, ← value_digits n', String.ofList_injective h]

/-- No number but zero is written with a zero in front. -/
theorem exists_digits_eq_cons {n : Nat} (hn : n ≠ 0) : ∃ d ds, digits n = d :: ds ∧ d ≠ '0' := by
  induction n using digits.induct with
  | case1 n hlt =>
    refine ⟨digitChar n, [], by rw [digits, if_pos hlt], ?_⟩
    intro hzero
    have hvalue := digitValue_digitChar hlt
    rw [hzero] at hvalue
    exact hn hvalue.symm
  | case2 n hge ih =>
    obtain ⟨d, ds, hds, hd⟩ := ih (by omega)
    refine ⟨d, ds ++ [digitChar (n % 10)], ?_, hd⟩
    rw [digits, if_neg hge, hds]
    rfl

end Text

namespace Json

/-! ### Numbers -/

/-- A text that does not go on with a number that stands before it. -/
def EndsNumber (rest : List Char) : Prop :=
  ∀ c ∈ rest.head?, Text.isDigit c = false ∧ c ≠ '.' ∧ c ≠ 'e' ∧ c ≠ 'E'

theorem le_foldl_digits (n : Nat) (ds : List Char) :
    n ≤ ds.foldl (fun n c => 10 * n + Text.digitValue c) n := by
  induction ds generalizing n with
  | nil => exact Nat.le_refl n
  | cons d ds ih =>
    have := ih (10 * n + Text.digitValue d)
    rw [List.foldl_cons]
    omega

/-- A significand that fits in 64 bits is read to its last digit. -/
theorem significand_eq {n : Nat} {ds : List Char}
    (h : ds.foldl (fun n c => 10 * n + Text.digitValue c) n < 18446744073709551616) :
    significand n ds = (ds.foldl (fun n c => 10 * n + Text.digitValue c) n, 0) := by
  induction ds generalizing n with
  | nil => rfl
  | cons d ds ih =>
    rw [List.foldl_cons] at h ⊢
    have hle := le_foldl_digits (10 * n + Text.digitValue d) ds
    rw [significand, if_pos (by omega)]
    exact ih h

theorem spanDigits_append {ds rest : List Char} (hds : ∀ c ∈ ds, Text.isDigit c = true)
    (hrest : EndsNumber rest) : spanDigits (ds ++ rest) = (ds, rest) := by
  rw [spanDigits, List.takeWhile_append_of_pos hds, List.dropWhile_append_of_pos hds]
  cases rest with
  | nil => simp
  | cons c rest => simp [(hrest c rfl).1]

theorem numberEnd_of_endsNumber {rest : List Char} (n : Nat) (hrest : EndsNumber rest) :
    numberEnd true n 0 rest = .ok (.natural n, rest) := by
  cases rest with
  | nil => rfl
  | cons c rest =>
    obtain ⟨-, hpoint, he, hE⟩ := hrest c rfl
    unfold numberEnd
    split
    · rename_i hcons
      exact absurd (List.cons.inj hcons).1 hpoint
    · rename_i hcons
      exact absurd (List.cons.inj hcons).1 he
    · rename_i hcons
      exact absurd (List.cons.inj hcons).1 hE
    · rfl

theorem number_of_ne_zero {d : Char} (hzero : d ≠ '0') (hdigit : Text.isDigit d = true)
    (cs : List Char) :
    number true (d :: cs) = numberEnd true (significand 0 (spanDigits (d :: cs)).1).1
      (significand 0 (spanDigits (d :: cs)).1).2 (spanDigits (d :: cs)).2 := by
  unfold number
  split
  · rename_i hnil
    cases hnil
  · rename_i hcons
    cases hcons
    exact absurd rfl hzero
  · rename_i hcons
    cases hcons
    rw [if_pos hdigit]

/-- **A number is read back**, up to where its digits end. -/
theorem number_digits {n : Nat} (hn : n < 18446744073709551616) {rest : List Char}
    (hrest : EndsNumber rest) : number true (Text.digits n ++ rest) = .ok (.natural n, rest) := by
  have hend := numberEnd_of_endsNumber n hrest
  by_cases hzero : n = 0
  · -- a zero is read on its own, and no digit may follow it
    subst hzero
    have hdigits : Text.digits 0 = ['0'] := by
      rw [Text.digits]
      rfl
    rw [hdigits]
    show number true ('0' :: rest) = _
    cases rest with
    | nil => exact hend
    | cons c rest =>
      simp only [number, (hrest c rfl).1, Bool.false_eq_true, if_false]
      exact hend
  · obtain ⟨d, ds, hds, hd⟩ := Text.exists_digits_eq_cons hzero
    have hdigit := Text.isDigit_of_mem_digits n
    have hspan := spanDigits_append hdigit hrest
    have hvalue := Text.value_digits n
    have hsignificand : significand 0 (Text.digits n) = (n, 0) := by
      rw [significand_eq (by rwa [← Text.value, hvalue]), ← Text.value, hvalue]
    rw [hds] at hspan hsignificand hdigit ⊢
    rw [List.cons_append] at hspan ⊢
    rw [number_of_ne_zero hd (hdigit d (by simp)), hspan]
    simp only [hsignificand]
    exact hend

/-! ### Strings -/

theorem hexValue?_hexChar : ∀ {d : Nat}, d < 16 → Text.hexValue? (Text.hexChar d) = some d := by
  decide

/-- A control character is written with two zeros and two digits. -/
theorem hexPadded_four {n : Nat} (hn : n < 256) :
    Text.hexPadded 4 n = ['0', '0', Text.hexChar (n / 16), Text.hexChar (n % 16)] := by
  by_cases hsmall : n < 16
  · have hzero : n / 16 = 0 := by omega
    rw [Text.hexPadded, Text.hexDigits, if_pos hsmall, hzero, Nat.mod_eq_of_lt hsmall]
    rfl
  · have hhigh : n / 16 < 16 := by omega
    rw [Text.hexPadded, Text.hexDigits, if_neg hsmall, Text.hexDigits, if_pos hhigh]
    rfl

theorem hex4_hexPadded {n : Nat} (hn : n < 256) (rest : List Char) :
    hex4 (Text.hexPadded 4 n ++ rest) = .ok (n, rest) := by
  have hhigh := hexValue?_hexChar (show n / 16 < 16 by omega)
  have hlow := hexValue?_hexChar (show n % 16 < 16 by omega)
  have hzero : Text.hexValue? '0' = some 0 := rfl
  rw [hexPadded_four hn]
  simp only [List.cons_append, List.nil_append, hex4, hzero, hhigh, hlow]
  congr 2
  omega

theorem unicodeEscape_hexPadded {c : Char} (hc : c.toNat < 0x20) (rest : List Char) :
    unicodeEscape (Text.hexPadded 4 c.toNat ++ rest) = .ok (c, rest) := by
  have hlow : (0xDC00 ≤ c.toNat && c.toNat ≤ 0xDFFF) = false := by
    simp only [Bool.and_eq_false_iff, decide_eq_false_iff_not]
    omega
  have hhigh : (0xD800 ≤ c.toNat && c.toNat ≤ 0xDBFF) = false := by
    simp only [Bool.and_eq_false_iff, decide_eq_false_iff_not]
    omega
  rw [unicodeEscape, hex4_hexPadded (by omega)]
  simp only [hlow, hhigh, Bool.false_eq_true, if_false, Char.ofNat_toNat]

theorem newline_notMem_hexPadded {n : Nat} (hn : n < 256) : '\n' ∉ Text.hexPadded 4 n := by
  have hdigit : ∀ d, d < 16 → '\n' ≠ Text.hexChar d := by decide
  have hhigh := hdigit (n / 16) (by omega)
  have hlow := hdigit (n % 16) (by omega)
  rw [hexPadded_four hn]
  simp [hhigh, hlow]

/-- A character inside a string is written with a backslash, behind which it is read back, or stands
for itself. -/
theorem escapeChar_cases (c : Char) :
    (∃ cs, escapeChar c = '\\' :: cs ∧ '\n' ∉ cs ∧ ∀ rest, escaped (cs ++ rest) = .ok (c, rest)) ∨
      escapeChar c = [c] ∧ c ≠ '"' ∧ c ≠ '\\' ∧ ¬ c.toNat < 0x20 := by
  generalize hwritten : escapeChar c = written
  unfold escapeChar at hwritten
  -- the seven characters that are written with a letter or themselves behind the backslash
  iterate 7
    split at hwritten
    · rename_i h
      subst h hwritten
      exact .inl ⟨_, rfl, by decide, fun _ => rfl⟩
  split at hwritten
  · rename_i h
    subst hwritten
    have hline : '\n' ∉ Text.hexPadded 4 c.toNat := newline_notMem_hexPadded (by omega)
    exact .inl ⟨'u' :: Text.hexPadded 4 c.toNat, rfl, by simp [hline], unicodeEscape_hexPadded h⟩
  · rename_i hquote hbackslash _ _ _ _ _ hcontrol
    subst hwritten
    exact .inr ⟨rfl, hquote, hbackslash, hcontrol⟩

/-- A character is read back from what is written for it. -/
theorem stringBody_escapeChar (c : Char) (rest : List Char) :
    stringBody (escapeChar c ++ rest)
      = (stringBody rest).map fun (text, rest) => (c :: text, rest) := by
  rcases escapeChar_cases c with ⟨cs, hc, -, hescaped⟩ | ⟨hc, hquote, hbackslash, hcontrol⟩
  · rw [hc, List.cons_append, stringBody, if_neg (by decide), if_pos rfl]
    split
    · rename_i h
      rw [hescaped] at h
      cases h
    · rename_i h
      rw [hescaped] at h
      obtain ⟨rfl, rfl⟩ := Prod.mk.inj (Except.ok.inj h)
      rfl
  · rw [hc, List.singleton_append, stringBody, if_neg hquote, if_neg hbackslash, if_neg hcontrol]

/-- **A string is read back**, whatever characters it holds. -/
theorem stringBody_escape (cs rest : List Char) :
    stringBody (cs.flatMap escapeChar ++ '"' :: rest) = .ok (cs, rest) := by
  induction cs with
  | nil =>
    rw [List.flatMap_nil, List.nil_append, stringBody]
    rfl
  | cons c cs ih =>
    rw [List.flatMap_cons, List.append_assoc, stringBody_escapeChar, ih]
    rfl

/-- Newlines inside a string are escaped. -/
theorem newline_notMem_escapeChar (c : Char) : '\n' ∉ escapeChar c := by
  rcases escapeChar_cases c with ⟨cs, hc, hline, -⟩ | ⟨hc, -, -, hcontrol⟩
  · simp [hc, hline]
  · rw [hc, List.mem_singleton]
    rintro rfl
    exact hcontrol (by decide)

/-! ### What follows a string -/

theorem hex4_append {cs rest : List Char} {n : Nat} (h : hex4 cs = .ok (n, rest))
    (more : List Char) : hex4 (cs ++ more) = .ok (n, rest ++ more) := by
  unfold hex4 at h
  split at h
  · split at h
    · rename_i ha hb hc hd
      cases h
      simp only [List.cons_append, hex4, ha, hb, hc, hd]
    · cases h
  · split at h <;> cases h

theorem lowSurrogate_append {cs rest : List Char} {high : Nat} {c : Char}
    (h : lowSurrogate high cs = .ok (c, rest)) (more : List Char) :
    lowSurrogate high (cs ++ more) = .ok (c, rest ++ more) := by
  unfold lowSurrogate at h
  split at h
  · cases h
  · cases h
  · split at h
    · cases h
    · rename_i hlow
      split at h
      · rename_i hrange
        obtain ⟨rfl, rfl⟩ := Prod.mk.inj (Except.ok.inj h)
        simp only [List.cons_append, lowSurrogate, hex4_append hlow more, hrange, if_true]
      · cases h
  · cases h

theorem unicodeEscape_append {cs rest : List Char} {c : Char}
    (h : unicodeEscape cs = .ok (c, rest)) (more : List Char) :
    unicodeEscape (cs ++ more) = .ok (c, rest ++ more) := by
  unfold unicodeEscape at h ⊢
  split at h
  · cases h
  · rename_i hcode
    rw [hex4_append hcode more]
    split at h
    · cases h
    · rename_i hlow
      simp only [hlow, Bool.false_eq_true, if_false]
      split at h
      · rename_i hhigh
        rw [if_pos hhigh]
        exact lowSurrogate_append h more
      · rename_i hhigh
        cases h
        rw [if_neg hhigh]

theorem escaped_append {cs rest : List Char} {c : Char} (h : escaped cs = .ok (c, rest))
    (more : List Char) : escaped (cs ++ more) = .ok (c, rest ++ more) := by
  unfold escaped at h
  split at h
  · cases h
  · split at h
    · rename_i hletter
      cases h
      simp only [List.cons_append, escaped, hletter]
    · split at h
      · rename_i hu
        simp only [List.cons_append, escaped, hu, if_true]
        exact unicodeEscape_append h more
      · cases h

/-- A string that has been read does not depend on what follows it. -/
theorem stringBody_append {cs text rest : List Char} (h : stringBody cs = .ok (text, rest))
    (more : List Char) : stringBody (cs ++ more) = .ok (text, rest ++ more) := by
  fun_induction stringBody cs generalizing text rest with
  | case1 => cases h
  | case2 rest =>
    cases h
    rw [List.cons_append, stringBody, if_pos rfl]
  | case3 => cases h
  | case4 after c behind hescaped hquote ih =>
    rcases hbody : stringBody behind with fault | ⟨text', rest'⟩
    · rw [hbody] at h
      cases h
    · rw [hbody] at h
      cases h
      rw [List.cons_append, stringBody, if_neg hquote, if_pos rfl]
      split
      · rename_i he
        rw [escaped_append hescaped more] at he
        cases he
      · rename_i he
        rw [escaped_append hescaped more] at he
        obtain ⟨rfl, rfl⟩ := Prod.mk.inj (Except.ok.inj he)
        rw [ih hbody]
        rfl
  | case5 => cases h
  | case6 c behind hquote hbackslash hcontrol ih =>
    rcases hbody : stringBody behind with fault | ⟨text', rest'⟩
    · rw [hbody] at h
      cases h
    · rw [hbody] at h
      cases h
      rw [List.cons_append, stringBody, if_neg hquote, if_neg hbackslash, if_neg hcontrol, ih hbody]
      rfl

end Json

end TowerOfHanoi
