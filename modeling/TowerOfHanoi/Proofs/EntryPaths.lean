/-
TowerOfHanoi/Proofs/EntryPaths.lean

The paths by which a value comes in.  A rod is named by a label in a file, on
the command line or in a move that is read; a strategy or a format is named in
a file, on the command line or in data.  The readers are not the same, but each
of them is described by the same condition on the text, so they agree:

    Peg.ofString s = .ok p ↔ s.toList = [p.label]
    decode? s = some v ↔ s = v.name

(`Peg.ofString_eq_ok_iff`, `decode?_eq_some_iff`).  In a file a label has a check
of its own for being one character (`ConfigFile.peg_eq_ok_iff`), and a name is
looked up in a list before a reader that would take any name
(`ConfigFile.choice_eq_ok_iff_name`).  A command line divides an argument at its
first equals sign, and leaves the text behind it alone (`parse_attach`).

Main result: `entry_paths_agree`.
-/
import Mathlib.Data.List.TFAE
import TowerOfHanoi.Proofs.MoveJson
import TowerOfHanoi.Proofs.Refusal

namespace TowerOfHanoi

variable {s : String}

/-! ### Names -/

/-- The search for a name finds what has the name, if it finds everything by its own name. -/
theorem find?_name_eq_some_iff {α : Type} {all : List α} {name : α → String}
    (hall : ∀ v, (all.find? fun x => name x == name v) = some v) {v : α} :
    (all.find? fun x => name x == s) = some v ↔ s = name v := by
  constructor
  · intro h
    have hname := List.find?_some h
    exact (beq_iff_eq.1 hname).symm
  · rintro rfl
    exact hall v

theorem Strategy.ofName?_eq_some_iff {v : Strategy} : ofName? s = some v ↔ s = v.name :=
  find?_name_eq_some_iff fun v => by cases v <;> rfl

theorem Strategy.decode?_eq_some_iff {v : Strategy} : decode? s = some v ↔ s = v.name := by
  constructor
  · intro h
    unfold decode? at h
    split at h <;> cases h <;> rfl
  · rintro rfl
    cases v <;> rfl

theorem Format.ofName?_eq_some_iff {v : Format} : ofName? s = some v ↔ s = v.name :=
  find?_name_eq_some_iff fun v => by cases v <;> rfl

theorem Format.decode?_eq_some_iff {v : Format} : decode? s = some v ↔ s = v.name := by
  constructor
  · intro h
    unfold decode? at h
    split at h <;> cases h <;> rfl
  · rintro rfl
    cases v <;> rfl

/-! ### Files -/

namespace ConfigFile

/-- The label that a file holds for a rod. -/
def label? (f : ConfigFile) : Role → Option String
  | .source => f.puzzle.source
  | .target => f.puzzle.target
  | .spare => f.puzzle.spare

/-- The rod that a file names. -/
def pegOf (f : ConfigFile) : Role → Except Error (Option Peg)
  | .source => f.sourcePeg
  | .target => f.targetPeg
  | .spare => f.sparePeg

variable {f : ConfigFile}

theorem exists_pegOf_eq {r : Role} (h : f.label? r = some s) :
    ∃ field, f.pegOf r = peg field (some s) := by
  cases r with
  | source => exact ⟨_, congrArg (peg "puzzle.from") h⟩
  | target => exact ⟨_, congrArg (peg "puzzle.to") h⟩
  | spare => exact ⟨_, congrArg (peg "puzzle.aux") h⟩

theorem pegOf_eq_ok_iff {r : Role} (h : f.label? r = some s) {p : Peg} :
    f.pegOf r = .ok (some p) ↔ Peg.ofString s = .ok p := by
  obtain ⟨field, hpeg⟩ := exists_pegOf_eq h
  rw [hpeg]
  exact peg_eq_ok_iff

theorem pegOf_of_error {r : Role} (h : f.label? r = some s) {e : Error}
    (he : Peg.ofString s = .error e) : ∃ e', f.pegOf r = .error e' ∧ e'.exitCode = 1 := by
  obtain ⟨field, hpeg⟩ := exists_pegOf_eq h
  rcases hv : peg field (some s) with e' | v
  · exact ⟨e', hpeg.trans hv, (failsWith_peg ..).of_error hv⟩
  · obtain ⟨p, -, hp⟩ := exists_of_peg_eq_ok hv
    rw [hp] at he
    cases he

/-- A field takes exactly the names of its values, if the names allowed there are these and the
reader, which would take any name, goes by them. -/
theorem choice_eq_ok_iff_name {α : Type} {field : String} {allowed : List String}
    {read : String → α} {name : α → String} (hread : ∀ n ∈ allowed, n = name (read n))
    (hname : ∀ v, name v ∈ allowed ∧ read (name v) = v) {v : α} :
    choice field allowed read (some s) = .ok (some v) ↔ s = name v := by
  rw [choice_eq_ok_iff]
  constructor
  · rintro ⟨hs, rfl⟩
    exact hread s hs
  · rintro rfl
    exact hname v

theorem strategy_eq_ok_iff (h : f.output.strategy = some s) {v : Strategy} :
    f.strategy = .ok (some v) ↔ s = v.name := by
  rw [strategy, h]
  exact choice_eq_ok_iff_name (by decide) fun v => by cases v <;> decide

theorem format_eq_ok_iff (h : f.output.format = some s) {v : Format} :
    f.format = .ok (some v) ↔ s = v.name := by
  rw [format, h]
  exact choice_eq_ok_iff_name (by decide) fun v => by cases v <;> decide

end ConfigFile

/-! ### Command lines -/

namespace Arguments

/-- An option with its value in the same argument. -/
def Valued.attach (option : Valued) (value : String) : String :=
  option.name ++ "=" ++ value

theorem Valued.exists_toList_attach (option : Valued) :
    ∃ key : String, ofLong? key = some (.inl option) ∧ key.toList.all (· != '=') = true ∧
      ∀ value, (option.attach value).toList
        = '-' :: '-' :: (key.toList ++ '=' :: value.toList) := by
  cases option with
  | disks => exact ⟨"disks", rfl, rfl, by simp [attach, name]⟩
  | source => exact ⟨"from", rfl, rfl, by simp [attach, name]⟩
  | target => exact ⟨"to", rfl, rfl, by simp [attach, name]⟩
  | spare => exact ⟨"aux", rfl, rfl, by simp [attach, name]⟩
  | strategy => exact ⟨"strategy", rfl, rfl, by simp [attach, name]⟩
  | format => exact ⟨"format", rfl, rfl, by simp [attach, name]⟩
  | config => exact ⟨"config", rfl, rfl, by simp [attach, name]⟩

/-- An argument is divided at its first equals sign, so the value may be any text. -/
theorem Progress.argument_attach (p : Progress) (option : Valued) (value : String) :
    p.argument (option.attach value) = (p.option option (some value)).map .going := by
  obtain ⟨key, hkey, hequals, hchars⟩ := option.exists_toList_attach
  have hkeep : ∀ c ∈ key.toList, (c != '=') = true := List.all_eq_true.1 hequals
  have hbefore : (key.toList ++ '=' :: value.toList).takeWhile (· != '=') = key.toList := by
    rw [List.takeWhile_append_of_pos hkeep]
    simp
  have hbehind :
      (key.toList ++ '=' :: value.toList).dropWhile (· != '=') = '=' :: value.toList := by
    rw [List.dropWhile_append_of_pos hkeep]
    simp
  simp only [Progress.argument, hchars, Progress.long, hbefore, hbehind, String.ofList_toList, hkey]

theorem Valued.attach_ne_dashes (option : Valued) (value : String) :
    option.attach value ≠ "--" := by
  obtain ⟨key, -, -, hchars⟩ := option.exists_toList_attach
  intro h
  have hlist := hchars value
  rw [h] at hlist
  simp at hlist

/-- A command line with one option stores its value, whatever characters the value has. -/
theorem parse_attach (option : Valued) (value : String) :
    parse [option.attach value] = (store {} option value).map .run := by
  have hoption : ({} : Progress).option option (some value)
      = (store {} option value).map fun a => { arguments := a } := by
    cases option <;> rfl
  rw [parse, Progress.read, Progress.argument_attach, hoption]
  · rcases store {} option value with fault | a <;> rfl
  · intro h
    exact absurd h (option.attach_ne_dashes value)
  · intro _ _ h
    exact absurd h (option.attach_ne_dashes value)

/-- The option that names a rod. -/
def Valued.ofRole : Role → Valued
  | .source => .source
  | .target => .target
  | .spare => .spare

/-- The arguments that name one rod and nothing else. -/
def ofPeg (p : Peg) : Role → Arguments
  | .source => { source := some p }
  | .target => { target := some p }
  | .spare => { spare := some p }

variable {r : Role} {p : Peg}

theorem parse_ofRole_eq_ok_iff :
    parse [(Valued.ofRole r).attach s] = .ok (.run (ofPeg p r)) ↔ Peg.ofString s = .ok p := by
  rw [parse_attach]
  cases r <;> simp only [Valued.ofRole, store, ofPeg] <;>
    rcases Peg.ofString s with e | q <;> simp [Except.map]

theorem parse_ofRole_of_error {e : Error} (h : Peg.ofString s = .error e) :
    parse [(Valued.ofRole r).attach s] = .error (.malformedValue (Valued.ofRole r).name s) := by
  rw [parse_attach]
  cases r <;> simp only [Valued.ofRole, store, h] <;> rfl

theorem parse_strategy_eq_ok_iff {v : Strategy} :
    parse [Valued.strategy.attach s] = .ok (.run { strategy := some v }) ↔
      Strategy.ofName? s = some v := by
  rw [parse_attach, store]
  rcases Strategy.ofName? s with - | w <;> simp [Except.map]

theorem parse_format_eq_ok_iff {v : Format} :
    parse [Valued.format.attach s] = .ok (.run { format := some v }) ↔
      Format.ofName? s = some v := by
  rw [parse_attach, store]
  rcases Format.ofName? s with - | w <;> simp [Except.map]

end Arguments

/-! ### Moves -/

namespace Json

variable {literal literal' t : String} {form : Form} {disk : Nat} {m : Move}

theorem readMove_text_eq_ok_iff (hdisk : disk < diskBound) (hs : Spells literal s)
    (ht : Spells literal' t) :
    readMove (form.text disk literal literal') = .ok m ↔
      m.disk = disk ∧ Peg.ofString s = .ok m.source ∧ Peg.ofString t = .ok m.target := by
  rw [readMove_text hdisk hs ht, ← label_eq_ok_iff, ← label_eq_ok_iff]
  constructor
  · intro h
    obtain ⟨p, hp, h⟩ := bind_eq_ok_iff.1 h
    obtain ⟨q, hq, h⟩ := bind_eq_ok_iff.1 h
    cases h
    exact ⟨rfl, hp, hq⟩
  · rintro ⟨rfl, hp, hq⟩
    rw [hp, hq]
    rfl

end Json

/-! ### All paths -/

open Arguments (Valued)

/-- **All paths read the same values.**  A label that stands for a rod stands for it in every file,
on the command line and in a move, however it is spelled there; a label that is refused is refused
with the exit code 1.  A name stands for the same strategy or format in every file, in data and on
the command line. -/
theorem entry_paths_agree (s : String) :
    (∀ (p q : Peg) (r : Role) (f : ConfigFile) (form : Json.Form) (disk : Nat)
        (literal other : String),
      f.label? r = some s → disk < Json.diskBound → Json.Spells literal s →
      Json.Spells other q.text →
        List.TFAE [
          Peg.ofString s = .ok p,
          f.pegOf r = .ok (some p),
          Arguments.parse [(Valued.ofRole r).attach s] = .ok (.run (.ofPeg p r)),
          Json.readMove (form.text disk literal other) = .ok ⟨disk, p, q⟩,
          Json.readMove (form.text disk other literal) = .ok ⟨disk, q, p⟩]) ∧
    (∀ e, Peg.ofString s = .error e →
      e.exitCode = 1 ∧
      (∀ (r : Role) (f : ConfigFile), f.label? r = some s →
        ∃ e', f.pegOf r = .error e' ∧ e'.exitCode = 1) ∧
      ∀ (r : Role) (i : Program.Invocation), i.arguments = [(Valued.ofRole r).attach s] →
        ∃ fault, Arguments.parse i.arguments = .error fault ∧
          (Error.argument fault).exitCode = 1 ∧ (Program.run i).exitCode = 1) ∧
    (∀ (v : Strategy) (f : ConfigFile), f.output.strategy = some s →
      List.TFAE [
        f.strategy = .ok (some v),
        Strategy.decode? s = some v,
        Strategy.ofName? s = some v,
        Arguments.parse [Valued.strategy.attach s] = .ok (.run { strategy := some v }),
        s = v.name]) ∧
    ∀ (v : Format) (f : ConfigFile), f.output.format = some s →
      List.TFAE [
        f.format = .ok (some v),
        Format.decode? s = some v,
        Format.ofName? s = some v,
        Arguments.parse [Valued.format.attach s] = .ok (.run { format := some v }),
        s = v.name] := by
  refine ⟨?_, ?_, ?_, ?_⟩
  · intro p q r f form disk literal other hf hdisk hs hq
    have hsource : Json.readMove (form.text disk literal other) = .ok ⟨disk, p, q⟩ ↔
        Peg.ofString s = .ok p := by
      simp [Json.readMove_text_eq_ok_iff hdisk hs hq, q.ofString_text]
    have htarget : Json.readMove (form.text disk other literal) = .ok ⟨disk, q, p⟩ ↔
        Peg.ofString s = .ok p := by
      simp [Json.readMove_text_eq_ok_iff hdisk hq hs, q.ofString_text]
    refine List.tfae_of_forall (Peg.ofString s = .ok p) _ ?_
    simp [ConfigFile.pegOf_eq_ok_iff hf, Arguments.parse_ofRole_eq_ok_iff, hsource, htarget]
  · intro e he
    refine ⟨(Peg.failsWith_ofString s).of_error he, ?_, ?_⟩
    · intro r f hf
      exact ConfigFile.pegOf_of_error hf he
    · intro r i hi
      have hparse : Arguments.parse i.arguments = .error _ :=
        hi ▸ Arguments.parse_ofRole_of_error he
      exact ⟨_, hparse, rfl, (Program.run_of_refused (.arguments hparse)).1⟩
  · intro v f hf
    refine List.tfae_of_forall (s = v.name) _ ?_
    simp [ConfigFile.strategy_eq_ok_iff hf, Strategy.decode?_eq_some_iff,
      Arguments.parse_strategy_eq_ok_iff, Strategy.ofName?_eq_some_iff]
  · intro v f hf
    refine List.tfae_of_forall (s = v.name) _ ?_
    simp [ConfigFile.format_eq_ok_iff hf, Format.decode?_eq_some_iff,
      Arguments.parse_format_eq_ok_iff, Format.ofName?_eq_some_iff]

/-- A letter in a list, spelled by its number; a letter with a combining accent behind it, which is
no label; a name that is allowed; and one that would be in lower case. -/
theorem entry_paths_agree_spellings :
    Json.readMove (Json.Form.list.text 7 "\\u03bb" "B") = .ok ⟨7, ⟨'λ', by decide⟩, .b⟩ ∧
    (∃ e, ConfigFile.pegOf { puzzle := { spare := some "e\u0301" } } .spare = .error e ∧
      e.exitCode = 1) ∧
    Arguments.parse [Valued.strategy.attach "iterative"]
      = .ok (.run { strategy := some .iterative }) ∧
    ConfigFile.format { output := { format := some "JSON" } } ≠ .ok (some .json) := by
  have hspells : Json.Spells "\\u03bb" "λ" := eq_ok_of_toOption (by decide +kernel)
  have hother : Json.Spells "B" Peg.b.text := eq_ok_of_toOption (by decide +kernel)
  have hlabel : Peg.ofString "λ" = .ok ⟨'λ', by decide⟩ :=
    Peg.ofString_eq_ok_iff.2 (by decide)
  have hpaths := (entry_paths_agree "λ").1 ⟨'λ', by decide⟩ .b .spare
    { puzzle := { spare := some "λ" } } .list 7 "\\u03bb" "B" rfl (by decide) hspells hother
  have hrefused := ((entry_paths_agree "e\u0301").2.1 _ rfl).2.1 .spare
    { puzzle := { spare := some "e\u0301" } } rfl
  have hstrategy := (entry_paths_agree "iterative").2.2.1 .iterative
    { output := { strategy := some "iterative" } } rfl
  have hformat := (entry_paths_agree "JSON").2.2.2 .json
    { output := { format := some "JSON" } } rfl
  exact ⟨(hpaths.out 0 3).1 hlabel, hrefused, (hstrategy.out 4 3).1 rfl,
    fun h => absurd ((hformat.out 0 4).1 h) (by decide)⟩

end TowerOfHanoi
