/-
TowerOfHanoi/Proofs/Overlay.lean

A configuration file is laid over the settings all or not at all.  The settings
are changed in place, one after another, and between two changes a text has to
be read that may not be readable (`Settings.layer`).  A change that fails keeps
what it has done so far, so in general the settings would be left half changed.
They are not, because the file is checked before the first of them is touched
and the check reads every text that is read again later (`of_validate`): after
it no assignment fails (`overlay_of_ok`), and before it nothing has happened
(`overlay_of_error`).

The check itself goes through the file in a fixed order and stops at the first
fault.  What can be wrong with a value is said apart from the code that reads
it, and `ConfigFile.faults` lists it in that order (`failure?_validate`).

Main result: `overlay_atomic`.
-/
import TowerOfHanoi.Proofs.Outcome
import TowerOfHanoi.Settings

namespace TowerOfHanoi

/-! ### The check of a file -/

namespace ConfigFile

/-- What is wrong with a ceiling on the number of disks. -/
def ceilingFault? : Option Nat → Option Error
  | none => none
  | some n =>
    if 1 ≤ n ∧ n ≤ 63 then none
    else some (.invalidConfigValue "limits.max_disks" (Text.decimal n) (.outOfRange 1 63))

/-- What is wrong with a label: it is not one character, or one that is not visible. -/
def labelFault? (field : String) : Option String → Option Error
  | none => none
  | some label =>
    match label.toList with
    | [c] => if Text.isVisible c then none else some (.invalidPegLabel (Text.escape c) .invisible)
    | _ => some (.invalidConfigValue field label .notOneCharacter)

/-- What is wrong with a name. -/
def nameFault? (field : String) (names : List String) : Option String → Option Error
  | none => none
  | some name =>
    if name ∈ names then none else some (.invalidConfigValue field name (.notAllowed names))

/-- All that is wrong with a file, in the order in which it is looked for. -/
def faults (f : ConfigFile) : List Error :=
  [ceilingFault? f.limits.maxDisks, labelFault? "puzzle.from" f.puzzle.source,
    labelFault? "puzzle.to" f.puzzle.target, labelFault? "puzzle.aux" f.puzzle.spare,
    nameFault? "output.format" ["text", "json", "csv"] f.output.format,
    nameFault? "output.strategy" ["recursive", "iterative"] f.output.strategy].reduceOption

theorem failure?_peg (field : String) (label : Option String) :
    failure? (peg field label) = labelFault? field label := by
  cases label with
  | none => rfl
  | some label =>
    rw [peg, labelFault?, Validation.singleChar]
    generalize label.toList = cs
    -- a label is one character or it is not, and only then is it asked whether it is visible
    rcases cs with - | ⟨c, - | ⟨d, cs⟩⟩
    · rfl
    · show failure? (Peg.ofChar c >>= fun p => .ok (some p)) = _
      rw [Peg.ofChar]
      by_cases hc : Text.isVisible c = true
      · simp only [dif_pos hc, if_pos hc]
        rfl
      · simp only [dif_neg hc, if_neg hc]
        rfl
    · rfl

theorem failure?_choice {α : Type} (field : String) (names : List String) (read : String → α)
    (name : Option String) :
    failure? (choice field names read name) = nameFault? field names name := by
  cases name with
  | none => rfl
  | some name =>
    rw [choice, nameFault?, Validation.oneOf]
    by_cases hname : name ∈ names
    · rw [if_pos (List.contains_iff_mem.2 hname), if_pos hname]
      rfl
    · rw [if_neg (fun h => hname (List.contains_iff_mem.1 h)), if_neg hname]
      rfl

/-- The checks are made one after another. -/
theorem validate_eq (f : ConfigFile) : f.validate =
    (match f.limits.maxDisks with
      | some n => Validation.range "limits.max_disks" n 1 DiskCount.max
      | none => .ok ()) >>= fun _ =>
    f.sourcePeg >>= fun _ => f.targetPeg >>= fun _ => f.sparePeg >>= fun _ => f.format >>= fun _ =>
    f.strategy >>= fun _ => .ok () := by
  unfold validate
  rcases f.limits.maxDisks with - | n <;> rfl

theorem failure?_ceiling (n? : Option Nat) :
    failure? (match n? with
      | some n => Validation.range "limits.max_disks" n 1 DiskCount.max
      | none => .ok ()) = ceilingFault? n? := by
  cases n? with
  | none => rfl
  | some n =>
    show failure? (Validation.range "limits.max_disks" n 1 DiskCount.max) = _
    have hmax : ((DiskCount.max : Nat) : Int) = 63 := rfl
    rw [Validation.range, ceilingFault?, hmax]
    by_cases hn : 1 ≤ n ∧ n ≤ 63
    · have hin : (decide ((n : Int) < 1) || decide (63 < (n : Int))) = false := by
        rw [Bool.or_eq_false_iff, decide_eq_false_iff_not, decide_eq_false_iff_not]
        omega
      rw [hin, if_pos hn]
      rfl
    · have hout : (decide ((n : Int) < 1) || decide (63 < (n : Int))) = true := by
        rw [Bool.or_eq_true, decide_eq_true_iff, decide_eq_true_iff]
        omega
      rw [hout, if_neg hn]
      rfl

/-- **The check finds the first fault**, and fails only if there is one. -/
theorem failure?_validate (f : ConfigFile) : failure? f.validate = f.faults.head? := by
  have hfirst (fault? : Option Error) (more : List (Option Error)) :
      (fault? :: more).reduceOption.head? = fault?.or more.reduceOption.head? := by
    cases fault? <;> rfl
  rw [validate_eq]
  simp only [failure?_bind_const, failure?_ceiling, sourcePeg, targetPeg, sparePeg, failure?_peg,
    format, strategy, failure?_choice, failure?_ok]
  simp only [faults, hfirst]
  rfl

/-- A file that passes the check has no text that cannot be read. -/
theorem of_validate {f : ConfigFile} (h : f.validate = .ok ()) :
    ∃ source target spare format strategy, f.sourcePeg = .ok source ∧ f.targetPeg = .ok target ∧
      f.sparePeg = .ok spare ∧ f.format = .ok format ∧ f.strategy = .ok strategy := by
  rw [validate_eq] at h
  obtain ⟨-, -, h⟩ := bind_eq_ok_iff.1 h
  obtain ⟨source, hsource, h⟩ := bind_eq_ok_iff.1 h
  obtain ⟨target, htarget, h⟩ := bind_eq_ok_iff.1 h
  obtain ⟨spare, hspare, h⟩ := bind_eq_ok_iff.1 h
  obtain ⟨format, hformat, h⟩ := bind_eq_ok_iff.1 h
  obtain ⟨strategy, hstrategy, -⟩ := bind_eq_ok_iff.1 h
  exact ⟨source, target, spare, format, strategy, hsource, htarget, hspare, hformat, hstrategy⟩

/-- The ceiling of a file that passes the check is one that a puzzle can have. -/
theorem maxDisks_of_validate {f : ConfigFile} (h : f.validate = .ok ()) :
    1 ≤ f.maxDisks ∧ f.maxDisks ≤ 63 := by
  rw [validate_eq] at h
  obtain ⟨⟨⟩, hceiling, -⟩ := bind_eq_ok_iff.1 h
  have hfault := failure?_ceiling f.limits.maxDisks
  rw [hceiling, failure?_ok] at hfault
  rw [maxDisks]
  generalize f.limits.maxDisks = n? at hfault ⊢
  cases n? with
  | none => decide
  | some n =>
    rw [ceilingFault?] at hfault
    split at hfault
    · assumption
    · cases hfault

end ConfigFile

/-! ### Changes in place -/

namespace Settings

variable {s : Settings}

/-- An assignment whose value can be read goes on to the next change, with that value stored in
`field`, or the one that was there before. -/
theorem run_assign_bind {α : Type} {value : Except Error (Option α)} {v : Option α}
    {store : Settings → α → Settings} (field : Settings → α) (hstore : ∀ s, store s (field s) = s)
    (h : value = .ok v) (next : Unit → Change) :
    (assign value store >>= next).run s = (next ()).run (store s (v.getD (field s))) := by
  subst h
  rw [run_bind]
  cases v with
  | none =>
    rw [Option.getD_none, hstore]
    rfl
  | some a => rfl

/-- Changes do not take back what was done before they failed. -/
example (e : Error) :
    ((do
      assign (.ok (some 7)) fun s disks => { s with disks }
      assign (.error e) fun s target => { s with target }) : Change).run {}
        = (.error e, { disks := 7 }) :=
  rfl

/-! ### Laying a file over the settings -/

variable {f : ConfigFile}

/-- A file that fails the check is not applied, not even in part. -/
theorem overlay_of_error {e : Error} (s : Settings) (h : f.validate = .error e) :
    s.overlay f = (.error e, s) := by
  rw [overlay, layer, run_bind, run_check, h]

/-- **A file that passes the check is applied in full**: the texts that are read between the
assignments have all been read before. -/
theorem overlay_of_ok (s : Settings) (h : f.validate = .ok ()) :
    ∃ source target spare format strategy, f.sourcePeg = .ok source ∧ f.targetPeg = .ok target ∧
      f.sparePeg = .ok spare ∧ f.format = .ok format ∧ f.strategy = .ok strategy ∧
      s.overlay f = (.ok (), {
        disks := f.puzzle.disks.getD s.disks
        source := source.getD s.source
        target := target.getD s.target
        spare := spare.getD s.spare
        maxDisks := f.maxDisks
        strategy := strategy.getD s.strategy
        format := format.getD s.format
        verify := f.output.verify.getD s.verify
        summary := f.output.summary.getD s.summary
        verbose := f.logging.verbose.getD s.verbose
        jsonLogs := f.logging.json.getD s.jsonLogs }) := by
  obtain ⟨source, target, spare, format, strategy, hsource, htarget, hspare, hformat, hstrategy⟩ :=
    ConfigFile.of_validate h
  refine ⟨source, target, spare, format, strategy, hsource, htarget, hspare, hformat, hstrategy, ?_⟩
  rw [overlay, layer, run_bind, run_check, h]
  simp only
  -- in the order of the assignments, which is not that of the checks
  rw [run_assign_bind Settings.disks (fun _ => rfl) rfl,
    run_assign_bind Settings.source (fun _ => rfl) hsource,
    run_assign_bind Settings.target (fun _ => rfl) htarget,
    run_assign_bind Settings.spare (fun _ => rfl) hspare,
    run_assign_bind Settings.strategy (fun _ => rfl) hstrategy,
    run_assign_bind Settings.format (fun _ => rfl) hformat]
  rfl

theorem exists_overlay_of_ok (s : Settings) (h : f.validate = .ok ()) :
    ∃ s', s.overlay f = (.ok (), s') := by
  obtain ⟨_, _, _, _, _, -, -, -, -, -, hs⟩ := overlay_of_ok s h
  exact ⟨_, hs⟩

theorem apply_of_error {e : Error} (s : Settings) (h : f.validate = .error e) :
    s.apply f = .error e := by
  rw [apply, overlay_of_error s h]

theorem exists_apply_of_ok (s : Settings) (h : f.validate = .ok ()) :
    ∃ s', s.apply f = .ok s' := by
  obtain ⟨s', hs'⟩ := exists_overlay_of_ok s h
  exact ⟨s', by rw [apply, hs']⟩

theorem validate_of_apply {s s' : Settings} (h : s.apply f = .ok s') : f.validate = .ok () := by
  rcases hf : f.validate with e | ⟨⟨⟩⟩
  · rw [apply_of_error s hf] at h
    cases h
  · rfl

/-- What is left of the settings is what the file makes of them, if it is accepted, and else the
settings themselves. -/
theorem overlay_eq (s : Settings) (f : ConfigFile) :
    s.overlay f =
      match s.apply f with
      | .error e => (.error e, s)
      | .ok s' => (.ok (), s') := by
  rcases hf : f.validate with e | ⟨⟨⟩⟩
  · rw [apply_of_error s hf, overlay_of_error s hf]
  · obtain ⟨s', hs'⟩ := exists_overlay_of_ok s hf
    rw [apply, hs']

/-- **All or nothing.**  If a file is refused then the settings are what they were, and it is refused
with the failure of its check; a file that passes its check is not refused.  The check in turn finds
the first of the faults of the file: in the ceiling, in the labels of the source, the target and the
spare rod, in the format or in the strategy. -/
theorem overlay_atomic (s : Settings) (f : ConfigFile) :
    (∀ e s', s.overlay f = (.error e, s') → s' = s ∧ f.validate = .error e) ∧
      (f.validate = .ok () → ∃ s', s.overlay f = (.ok (), s')) ∧
      ∀ e, f.validate = .error e ↔ f.faults.head? = some e := by
  refine ⟨?_, exists_overlay_of_ok s, ?_⟩
  · intro e s' h
    rcases hf : f.validate with e' | ⟨⟨⟩⟩
    · rw [overlay_of_error s hf] at h
      cases h
      exact ⟨rfl, rfl⟩
    · obtain ⟨s₁, hs₁⟩ := exists_overlay_of_ok s hf
      rw [hs₁] at h
      cases h
  · intro e
    rw [← ConfigFile.failure?_validate, failure?_eq_some_iff]

/-- A file with a good height, a bad label and a bad format; the label is complained about. -/
theorem overlay_atomic_refused :
    let s : Settings := { disks := 5, verbose := true }
    let f : ConfigFile := {
      puzzle := { disks := some 7, target := some "XY" }
      output := { format := some "xml" } }
    let e : Error := .invalidConfigValue "puzzle.to" "XY" .notOneCharacter
    s.overlay f = (.error e, s) ∧ f.validate = .error e ∧ f.faults.head? = some e := by
  intro s f e
  obtain ⟨hrefused, -, hfirst⟩ := overlay_atomic s f
  have herror : s.overlay f = (.error e, (s.overlay f).2) := rfl
  obtain ⟨hkept, hcheck⟩ := hrefused e _ herror
  rw [hkept] at herror
  exact ⟨herror, hcheck, (hfirst e).1 hcheck⟩

end Settings

end TowerOfHanoi
