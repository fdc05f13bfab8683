/-
TowerOfHanoi/Proofs/Checks.lean

The checks between a configuration and a puzzle.  They are made one after
another and the first failure is the result, so two things are said of each:
which failures it can end in, and what a success means.

All failures found here are faults of the input or of a file, with the exit
code 1.
-/
import TowerOfHanoi.Proofs.Overlay

namespace TowerOfHanoi

/-! ### Values -/

theorem Validation.failsWith_range (field : String) (value min max : Int) :
    FailsWith (·.exitCode = 1) (range field value min max) := by
  unfold range
  split
  · exact .error rfl
  · exact .ok ()

theorem Validation.failsWith_singleChar (field value : String) :
    FailsWith (·.exitCode = 1) (singleChar field value) := by
  unfold singleChar
  split
  · exact .ok _
  · exact .error rfl

theorem Validation.singleChar_eq_ok_iff (field : String) {value : String} {c : Char} :
    singleChar field value = .ok c ↔ value.toList = [c] := by
  unfold singleChar
  split
  · rename_i hvalue
    simp [hvalue]
  · rename_i hvalue
    simpa using hvalue c

theorem Validation.failsWith_oneOf (field value : String) (allowed : List String) :
    FailsWith (·.exitCode = 1) (oneOf field value allowed) := by
  unfold oneOf
  split
  · exact .ok ()
  · exact .error rfl

theorem Validation.oneOf_eq_ok_iff (field : String) {value : String} {allowed : List String} :
    oneOf field value allowed = .ok () ↔ value ∈ allowed := by
  simp [oneOf]

theorem Validation.failsWith_distinct (labels : List Char) :
    FailsWith (·.exitCode = 1) (distinct labels) := by
  suffices hgo : ∀ seen, FailsWith (·.exitCode = 1) (distinct.go seen labels) from hgo []
  induction labels with
  | nil => exact fun _ => .ok ()
  | cons c rest ih =>
    intro seen
    rw [distinct.go]
    split
    · exact .error rfl
    · exact ih _

theorem Peg.failsWith_ofChar (c : Char) : FailsWith (·.exitCode = 1) (ofChar c) := by
  unfold ofChar
  split
  · exact .ok _
  · exact .error rfl

theorem Peg.ofChar_eq_ok_iff {c : Char} {p : Peg} : ofChar c = .ok p ↔ c = p.label := by
  unfold ofChar
  constructor
  · intro h
    split at h
    · cases h
      rfl
    · cases h
  · rintro rfl
    rw [dif_pos p.visible]

theorem Peg.failsWith_ofString (s : String) : FailsWith (·.exitCode = 1) (ofString s) := by
  unfold ofString
  split
  · exact failsWith_ofChar _
  · exact .error rfl

theorem Peg.ofString_eq_ok_iff {s : String} {p : Peg} :
    ofString s = .ok p ↔ s.toList = [p.label] := by
  unfold ofString
  split
  · rename_i hs
    simp [hs, ofChar_eq_ok_iff]
  · rename_i hs
    simpa using hs p.label

theorem DiskCount.failsWith_withLimit (disks : Int) (limit : Nat) :
    FailsWith (·.exitCode = 1) (withLimit disks limit) := by
  unfold withLimit
  simp only
  split
  · exact .error rfl
  · split
    · exact .ok _
    · exact .error rfl

/-- A disk count is accepted if it is neither negative nor above the ceiling, and taken as it is. -/
theorem DiskCount.withLimit_eq_ok_iff {disks : Int} {limit : Nat} {n : DiskCount} :
    withLimit disks limit = .ok n ↔
      0 ≤ disks ∧ disks ≤ min (limit : Int) 63 ∧ (n.count : Int) = disks := by
  obtain ⟨count, hcount⟩ := n
  have hmax : max = 63 := rfl
  unfold withLimit
  simp only [hmax]
  split
  · simp only [reduceCtorEq, false_iff]
    omega
  · split
    · simp only [Except.ok.injEq, DiskCount.mk.injEq]
      omega
    · simp only [reduceCtorEq, false_iff]
      omega

theorem Rods.failsWith_ofPegs (source target spare : Peg) :
    FailsWith (·.exitCode = 1) (ofPegs source target spare) := by
  unfold ofPegs
  split
  · rename_i hlabels
    exact .error ((Validation.failsWith_distinct _).of_error hlabels)
  · exact .ok _

/-- Three rods are accepted if they differ, and play their roles in the order in which they are
given. -/
theorem Rods.ofPegs_eq_ok_iff {source target spare : Peg} {rods : Rods} :
    ofPegs source target spare = .ok rods ↔
      rods.source = source ∧ rods.target = target ∧ rods.spare = spare := by
  constructor
  · intro h
    unfold ofPegs at h
    split at h
    · cases h
    · cases h
      exact ⟨rfl, rfl, rfl⟩
  · rintro ⟨rfl, rfl, rfl⟩
    have hlabels := distinct_labels_iff.2
      ⟨rods.source_ne_target, rods.source_ne_spare, rods.target_ne_spare⟩
    unfold ofPegs
    split
    · rename_i hrefused
      rw [hlabels] at hrefused
      cases hrefused
    · rfl

/-! ### Files and settings -/

namespace ConfigFile

theorem failsWith_peg (field : String) (label : Option String) :
    FailsWith (·.exitCode = 1) (peg field label) := by
  cases label with
  | none => exact .ok none
  | some label =>
    refine .bind (Validation.failsWith_singleChar ..) fun c => ?_
    exact .bind (Peg.failsWith_ofChar c) fun p => .ok _

/-- A label that passes the check of its field is one for the reader of labels too. -/
theorem exists_of_peg_eq_ok {field label : String} {v : Option Peg}
    (h : peg field (some label) = .ok v) : ∃ p, v = some p ∧ Peg.ofString label = .ok p := by
  obtain ⟨c, hc, h⟩ := bind_eq_ok_iff.1 h
  obtain ⟨p, hp, h⟩ := bind_eq_ok_iff.1 h
  cases h
  refine ⟨p, rfl, Peg.ofString_eq_ok_iff.2 ?_⟩
  rw [← Peg.ofChar_eq_ok_iff.1 hp]
  exact (Validation.singleChar_eq_ok_iff field).1 hc

theorem peg_eq_ok_iff {field label : String} {p : Peg} :
    peg field (some label) = .ok (some p) ↔ Peg.ofString label = .ok p := by
  constructor
  · intro h
    obtain ⟨q, hq, hlabel⟩ := exists_of_peg_eq_ok h
    cases hq
    exact hlabel
  · intro h
    have hchar : Validation.singleChar field label = .ok p.label :=
      (Validation.singleChar_eq_ok_iff field).2 (Peg.ofString_eq_ok_iff.1 h)
    have hpeg : Peg.ofChar p.label = .ok p := Peg.ofChar_eq_ok_iff.2 rfl
    exact bind_eq_ok_iff.2 ⟨p.label, hchar, bind_eq_ok_iff.2 ⟨p, hpeg, rfl⟩⟩

theorem failsWith_choice {α : Type} (field : String) (names : List String) (read : String → α)
    (name : Option String) : FailsWith (·.exitCode = 1) (choice field names read name) := by
  cases name with
  | none => exact .ok none
  | some name => exact .bind (Validation.failsWith_oneOf ..) fun _ => .ok _

theorem choice_eq_ok_iff {α : Type} {field name : String} {allowed : List String}
    {read : String → α} {v : α} :
    choice field allowed read (some name) = .ok (some v) ↔ name ∈ allowed ∧ read name = v := by
  rw [← Validation.oneOf_eq_ok_iff field]
  constructor
  · intro h
    obtain ⟨⟨⟩, hone, h⟩ := bind_eq_ok_iff.1 h
    cases h
    exact ⟨hone, rfl⟩
  · rintro ⟨hone, rfl⟩
    exact bind_eq_ok_iff.2 ⟨(), hone, rfl⟩

theorem failsWith_validate (f : ConfigFile) : FailsWith (·.exitCode = 1) f.validate := by
  have hvalues : FailsWith (·.exitCode = 1) (do
      let _ ← f.sourcePeg
      let _ ← f.targetPeg
      let _ ← f.sparePeg
      let _ ← f.format
      let _ ← f.strategy
      return () : Except Error Unit) := by
    refine .bind (failsWith_peg ..) fun _ => .bind (failsWith_peg ..) fun _ =>
      .bind (failsWith_peg ..) fun _ => ?_
    exact .bind (failsWith_choice ..) fun _ => .bind (failsWith_choice ..) fun _ => .ok ()
  -- the ceiling is checked first, and only if there is one
  unfold validate
  split
  · exact .bind (Validation.failsWith_range ..) fun _ => hvalues
  · exact hvalues

theorem failsWith_parse (env : Environment) (text : String) :
    FailsWith (·.exitCode = 1) (parse env text) := by
  unfold parse
  split
  · exact .ok _
  · exact .error rfl

end ConfigFile

namespace Settings

theorem failsWith_apply (s : Settings) (f : ConfigFile) :
    FailsWith (·.exitCode = 1) (s.apply f) := by
  rcases hf : f.validate with e | ⟨⟨⟩⟩
  · rw [apply_of_error s hf]
    exact .error (f.failsWith_validate.of_error hf)
  · obtain ⟨s', hs'⟩ := exists_apply_of_ok s hf
    rw [hs']
    exact .ok s'

theorem failsWith_puzzle (s : Settings) : FailsWith (·.exitCode = 1) s.puzzle :=
  .bind (DiskCount.failsWith_withLimit ..) fun _ => .bind (Rods.failsWith_ofPegs ..) fun _ => .ok _

/-- Settings describe a puzzle if their disk count is between zero and their ceiling and their rods
differ, and it has these disks and these rods. -/
theorem puzzle_eq_ok_iff {s : Settings} {p : Puzzle} :
    s.puzzle = .ok p ↔
      (0 ≤ s.disks ∧ s.disks ≤ min (s.maxDisks : Int) 63 ∧ (p.disks.count : Int) = s.disks) ∧
        p.rods.source = s.source ∧ p.rods.target = s.target ∧ p.rods.spare = s.spare := by
  obtain ⟨disks, rods⟩ := p
  rw [← DiskCount.withLimit_eq_ok_iff, ← Rods.ofPegs_eq_ok_iff, puzzle, bind_eq_ok_iff]
  constructor
  · rintro ⟨n, hn, h⟩
    obtain ⟨r, hr, h⟩ := bind_eq_ok_iff.1 h
    cases h
    exact ⟨hn, hr⟩
  · rintro ⟨hn, hr⟩
    exact ⟨disks, hn, bind_eq_ok_iff.2 ⟨rods, hr, rfl⟩⟩

/-- The puzzle of some settings has the disks and the rods that the settings name. -/
theorem parts_of_puzzle {s : Settings} {p : Puzzle} (h : s.puzzle = .ok p) :
    p.disks.count = s.disks.toNat ∧ p.rods.source = s.source ∧ p.rods.target = s.target ∧
      p.rods.spare = s.spare := by
  obtain ⟨⟨-, -, hcount⟩, hrods⟩ := puzzle_eq_ok_iff.1 h
  exact ⟨by omega, hrods⟩

end Settings

end TowerOfHanoi
