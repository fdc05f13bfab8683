/-
TowerOfHanoi/Proofs/Substitution.lean

What becomes of the variables in a configuration text.  A text is written as
literals with references between them (`template`), and substitution changes
what a reference stands for and nothing else:

    env.substitute (template reference l parts) = template env.resolved l parts.

The text is read from left to right, and two equations say how: a literal is
passed over (`substitute_literal_append`) and a reference is replaced
(`substitute_reference_append`), whatever comes behind them.  A literal may end
in a dollar sign, so no opening brace may follow it; what follows is a reference
or nothing.  The value of a variable goes to the result and is never read.

A text of any form consists of its parts as they are written
(`flatMap_written_pieces`), and the variables among them are references that
occur in it (`exists_of_variable_mem_pieces`).  So a text in which no variable
is set is left alone, whatever braces are missing or stand alone.

Main result: `substitution_exact`.
-/
import TowerOfHanoi.Environment

namespace TowerOfHanoi.Environment

/-! ### Names -/

/-- What may stand between the braces of a reference. -/
structure IsName (name : List Char) : Prop where
  ne_nil : name ≠ []
  closed : '\x7d' ∉ name

theorem splitBrace?_eq_some_iff {cs name rest : List Char} :
    splitBrace? cs = some (name, rest) ↔ cs = name ++ '\x7d' :: rest ∧ '\x7d' ∉ name := by
  unfold splitBrace?
  constructor
  · intro h
    split at h
    · cases h
    · rename_i c tail hdrop
      cases h
      have hbrace : c = '\x7d' := by
        have hhead := List.head?_dropWhile_not (· != '\x7d') cs
        rw [hdrop] at hhead
        simpa using hhead
      have hsplit := List.takeWhile_append_dropWhile (p := (· != '\x7d')) (l := cs)
      rw [hdrop, hbrace] at hsplit
      refine ⟨hsplit.symm, fun hmem => ?_⟩
      have hall := List.all_eq_true.1 (List.all_takeWhile (p := (· != '\x7d')) (l := cs)) _ hmem
      simp at hall
  · rintro ⟨rfl, hname⟩
    have hpass : ∀ c ∈ name, (c != '\x7d') = true := by
      intro c hc
      rw [bne_iff_ne]
      rintro rfl
      exact hname hc
    rw [List.dropWhile_append_of_pos hpass, List.takeWhile_append_of_pos hpass]
    simp

theorem name?_eq_some_iff {cs name rest : List Char} :
    name? cs = some (name, rest) ↔ cs = name ++ '\x7d' :: rest ∧ IsName name := by
  rw [name?, Option.filter_eq_some_iff, splitBrace?_eq_some_iff]
  constructor
  · rintro ⟨⟨hcs, hclosed⟩, hne⟩
    exact ⟨hcs, by simpa using hne, hclosed⟩
  · rintro ⟨hcs, hname⟩
    exact ⟨⟨hcs, hname.closed⟩, by simpa using hname.ne_nil⟩

/-! ### Parts of a text -/

theorem pieces_reference {name : List Char} (h : IsName name) (rest : List Char) :
    pieces ('$' :: '\x7b' :: (name ++ '\x7d' :: rest)) = .variable name :: pieces rest := by
  have hname : name? (name ++ '\x7d' :: rest) = some (name, rest) := name?_eq_some_iff.2 ⟨rfl, h⟩
  rw [pieces]
  -- the definition keeps the equation of its match, so `hname` cannot be rewritten in place
  split
  · next name' rest' hname' =>
    rw [hname] at hname'
    cases hname'
    rfl
  · next hnone =>
    rw [hname] at hnone
    cases hnone

/-- A character that does not open a reference stands for itself. -/
theorem pieces_cons {c : Char} {cs : List Char} (h : ¬ (c = '$' ∧ cs.head? = some '\x7b')) :
    pieces (c :: cs) = .literal c :: pieces cs := by
  rw [pieces.eq_2]
  rintro rest rfl rfl
  exact h ⟨rfl, rfl⟩

/-- Characters among which no reference opens stand for themselves, if none opens behind them. -/
theorem pieces_literal_append {l rest : List Char} (hl : ¬ ['$', '\x7b'] <:+: l)
    (hrest : rest.head? ≠ some '\x7b') : pieces (l ++ rest) = l.map .literal ++ pieces rest := by
  induction l with
  | nil => rfl
  | cons c l ih =>
    have hopen : ¬ (c = '$' ∧ (l ++ rest).head? = some '\x7b') := by
      rintro ⟨rfl, hbrace⟩
      cases l with
      | nil => exact hrest hbrace
      | cons d l =>
        cases hbrace
        exact hl ⟨[], l, rfl⟩
    have htail : ¬ ['$', '\x7b'] <:+: l := fun h => hl (List.infix_cons h)
    rw [List.cons_append, pieces_cons hopen, ih htail]
    rfl

/-- **Nothing is lost** when a text is taken apart. -/
theorem flatMap_written_pieces (cs : List Char) : (pieces cs).flatMap Piece.written = cs := by
  fun_induction pieces cs with
  | case1 rest name after h ih =>
    obtain ⟨rfl, -⟩ := name?_eq_some_iff.1 h
    simp [Piece.written, ih]
  | case2 rest h ih => simp [Piece.written, ih]
  | case3 c rest h ih => simp [Piece.written, ih]
  | case4 => rfl

/-- A variable that is found in a text is referred to there. -/
theorem exists_of_variable_mem_pieces {cs name : List Char} (h : .variable name ∈ pieces cs) :
    IsName name ∧ ∃ before after, cs = before ++ Piece.written (.variable name) ++ after := by
  fun_induction pieces cs with
  | case1 rest name' after hname ih =>
    obtain ⟨rfl, hname'⟩ := name?_eq_some_iff.1 hname
    rcases List.mem_cons.1 h with hhere | hlater
    · cases hhere
      exact ⟨hname', [], after, by simp [Piece.written]⟩
    · obtain ⟨hvalid, before, behind, rfl⟩ := ih hlater
      exact ⟨hvalid, Piece.written (.variable name') ++ before, behind, by simp [Piece.written]⟩
  | case2 rest hname ih =>
    -- what is not a reference itself may have one inside
    obtain ⟨hvalid, before, behind, rfl⟩ := ih (by simpa using h)
    exact ⟨hvalid, '$' :: '\x7b' :: before, behind, by simp⟩
  | case3 c rest hopen ih =>
    obtain ⟨hvalid, before, behind, rfl⟩ := ih (by simpa using h)
    exact ⟨hvalid, c :: before, behind, by simp⟩
  | case4 => cases h

/-! ### Templates -/

/-- A text in which no reference opens. -/
def IsLiteral (s : String) : Prop :=
  ¬ ['$', '\x7b'] <:+: s.toList
deriving Decidable

/-- The reference to a variable. -/
def reference (name : String) : String :=
  "$\x7b" ++ name ++ "\x7d"

/-- What a reference stands for: the value of the variable if it is set, and else the reference
itself. -/
def resolved (env : Environment) (name : String) : String :=
  (env.value? name).getD (reference name)

/-- A text that begins with a literal, followed by names with a literal behind each, where every name
stands as `render` shows it. -/
def template (render : String → String) (l : String) : List (String × String) → String
  | [] => l
  | (name, next) :: parts => l ++ (render name ++ template render next parts)

variable (env : Environment)

theorem substitute_literal_append {l rest : String} (hl : IsLiteral l)
    (hrest : rest.toList.head? ≠ some '\x7b') :
    env.substitute (l ++ rest) = l ++ env.substitute rest := by
  have hself : (l.toList.map Piece.literal).flatMap (Piece.expand env) = l.toList := by
    simp [List.flatMap_map, Piece.expand]
  rw [substitute, String.toList_append, pieces_literal_append hl hrest, List.flatMap_append, hself,
    String.ofList_append, String.ofList_toList]
  rfl

theorem substitute_literal {l : String} (hl : IsLiteral l) : env.substitute l = l := by
  have hempty : env.substitute "" = "" := by simp [substitute, pieces]
  have hend : "".toList.head? ≠ some '\x7b' := by simp
  have h := substitute_literal_append env hl hend
  rwa [hempty, String.append_empty] at h

theorem substitute_reference_append {name : String} (hname : IsName name.toList) (rest : String) :
    env.substitute (reference name ++ rest) = env.resolved name ++ env.substitute rest := by
  have hexpand : String.ofList (Piece.expand env (.variable name.toList)) = env.resolved name := by
    rw [Piece.expand, String.ofList_toList, resolved]
    rcases env.value? name with - | value
    · simp [Piece.written, reference, ← String.toList_inj]
    · exact String.ofList_toList
  have hlist : (reference name ++ rest).toList
      = '$' :: '\x7b' :: (name.toList ++ '\x7d' :: rest.toList) := by
    simp [reference]
  rw [substitute, hlist, pieces_reference hname, List.flatMap_cons, String.ofList_append, hexpand]
  rfl

/-- **Substitution changes what references stand for**, and nothing else. -/
theorem substitute_template {l : String} {parts : List (String × String)} (hl : IsLiteral l)
    (hparts : ∀ part ∈ parts, IsName part.1.toList ∧ IsLiteral part.2) :
    env.substitute (template reference l parts) = template env.resolved l parts := by
  induction parts generalizing l with
  | nil => exact substitute_literal env hl
  | cons part parts ih =>
    obtain ⟨⟨hname, hnext⟩, hparts⟩ := List.forall_mem_cons.1 hparts
    -- a dollar sign at the end of the literal is followed by another one
    have hdollar : (reference part.1 ++ template reference part.2 parts).toList.head?
        ≠ some '\x7b' := by
      simp [reference]
    rw [template, substitute_literal_append env hl hdollar, substitute_reference_append env hname,
      ih hnext hparts, template]

theorem substitute_eq_self {text : String}
    (h : ∀ before name after, text = before ++ reference name ++ after → IsName name.toList →
      env.value? name = none) : env.substitute text = text := by
  have hwritten : ∀ piece ∈ pieces text.toList, Piece.expand env piece = piece.written := by
    intro piece hpiece
    cases piece with
    | literal c => rfl
    | «variable» name =>
      obtain ⟨hname, before, after, htext⟩ := exists_of_variable_mem_pieces hpiece
      have hunset : env.value? (String.ofList name) = none := by
        refine h (String.ofList before) _ (String.ofList after) ?_ (by rwa [String.toList_ofList])
        rw [← String.toList_inj, htext]
        simp [Piece.written, reference]
      rw [Piece.expand, hunset]
  rw [substitute, List.flatMap_def, List.map_congr_left hwritten, ← List.flatMap_def,
    flatMap_written_pieces, String.ofList_toList]

/-- **Substitution is exact.**  In a text made of literals and references, every reference to a
variable that is set is replaced by its value, which is not looked at again, and everything else
stays.  A text of any form, with references that are empty or never closed, is left alone if no
variable is set whose name stands in it between `${` and the next closing brace. -/
theorem substitution_exact :
    (∀ (l : String) (parts : List (String × String)), IsLiteral l →
      (∀ part ∈ parts, IsName part.1.toList ∧ IsLiteral part.2) →
        env.substitute (template reference l parts) = template env.resolved l parts) ∧
      ∀ text : String,
        (∀ before name after, text = before ++ reference name ++ after → IsName name.toList →
          env.value? name = none) →
        env.substitute text = text :=
  ⟨fun _ _ => substitute_template env, fun _ => substitute_eq_self env⟩

/-- A variable whose value refers to itself, next to signs that open nothing and a name that holds
another reference; and a text with an empty reference, an unset one and one that is not closed. -/
theorem substitution_exact_nested :
    let env : Environment := fun name => if name = "A" then some "$\x7bA\x7d!" else none
    env.substitute "$$\x7bA\x7d\x7b$\x7bB$\x7bA\x7d$" = "$$\x7bA\x7d!\x7b$\x7bB$\x7bA\x7d$" ∧
      env.substitute "$\x7b\x7d$\x7ba\x7d$\x7b" = "$\x7b\x7d$\x7ba\x7d$\x7b" := by
  intro env
  obtain ⟨htemplate, hself⟩ := substitution_exact env
  refine ⟨?_, hself _ fun before name after htext _ => ?_⟩
  · refine htemplate "$" [("A", "\x7b"), ("B$\x7bA", "$")] (by decide) ?_
    simp only [List.forall_mem_cons, List.not_mem_nil, false_implies, implies_true, and_true]
    exact ⟨⟨⟨by decide, by decide⟩, by decide⟩, ⟨by decide, by decide⟩, by decide⟩
  · -- the only variable that is set has a letter that is not in the text
    have hname : name ≠ "A" := by
      rintro rfl
      have hmem : 'A' ∈ "$\x7b\x7d$\x7ba\x7d$\x7b".toList := by
        rw [htext]
        simp [reference]
      revert hmem
      decide
    simp [value?, env, hname]

end TowerOfHanoi.Environment
