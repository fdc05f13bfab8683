/-
TowerOfHanoi/Proofs/Precedence.lean

Three layers of settings: the command line, over a configuration file, over the
defaults.  A setting has the value of the highest layer that gives it one,

    s.get k = ((a.value? k).or (file?.bind (·.value? k))).getD (Settings.get {} k),

where a flag of the command line gives the value `true` or none, and where the
ceiling on the number of disks cannot be given there.  The layers are laid one
over another by `Settings.apply` and `Arguments.overlay`, each of which is known
key by key (`Settings.of_apply`, `Arguments.get_overlay`).

Only the file can be at fault.  It is looked up, read, parsed and checked, and
`Arguments.Finds` says what comes of that.

What the settings then say about a puzzle may come from any layer, a ceiling
from the file and a number of disks from the command line for one, and is
checked last (`Settings.exists_puzzle_iff`).

Main result: `resolve_precedence`.
-/
import TowerOfHanoi.Arguments
import TowerOfHanoi.Proofs.Layers

namespace TowerOfHanoi

/-! ### The command line as a layer -/

/-- The settings that are switched on or off. -/
def Key.flags : List (Key Bool) :=
  [.verify, .summary, .verbose, .jsonLogs]

namespace Arguments

variable {a : Arguments} {files : Files} {env : Environment}

/-- The value that a command line gives to a setting; a flag gives one only if it is raised. -/
def value? (a : Arguments) : {α : Type} → Key α → Option α
  | _, .disks => a.disks
  | _, .source => a.source
  | _, .target => a.target
  | _, .spare => a.spare
  | _, .maxDisks => none
  | _, .strategy => a.strategy
  | _, .format => a.format
  | _, .verify => if a.verify then some true else none
  | _, .summary => if a.summary then some true else none
  | _, .verbose => if a.verbose then some true else none
  | _, .jsonLogs => if a.jsonLogs then some true else none

theorem or_eq_getD (setting flag : Bool) :
    (setting || flag) = (if flag then some true else none).getD setting := by
  cases flag
  · exact Bool.or_false setting
  · exact Bool.or_true setting

/-- A command line decides about the settings that it gives a value. -/
theorem get_overlay (a : Arguments) (s : Settings) {α : Type} (k : Key α) :
    (a.overlay s).get k = (a.value? k).getD (s.get k) := by
  cases k with
  | verify => exact or_eq_getD s.verify a.verify
  | summary => exact or_eq_getD s.summary a.summary
  | verbose => exact or_eq_getD s.verbose a.verbose
  | jsonLogs => exact or_eq_getD s.jsonLogs a.jsonLogs
  | _ => rfl

/-! ### The file -/

/-- What comes of the configuration file of a command line: there is none, or it cannot be read, or
not be parsed, or does not pass its check, or it is accepted. -/
inductive Finds (a : Arguments) (files : Files) (env : Environment) :
    Except Error (Option ConfigFile) → Prop
  | unnamed : a.config = none → Finds a files env (.ok none)
  | unreadable {path : String} {e : Error} :
    a.config = some path → files.readText path = .error e → Finds a files env (.error e)
  | malformed {path text : String} {e : Error} :
    a.config = some path → files.readText path = .ok text → ConfigFile.parse env text = .error e →
      Finds a files env (.error e)
  | refused {path text : String} {f : ConfigFile} {e : Error} :
    a.config = some path → files.readText path = .ok text → ConfigFile.parse env text = .ok f →
      f.validate = .error e → Finds a files env (.error e)
  | accepted {path text : String} {f : ConfigFile} :
    a.config = some path → files.readText path = .ok text → ConfigFile.parse env text = .ok f →
      f.validate = .ok () → Finds a files env (.ok (some f))

theorem fileSettings_of_config {path : String} (h : a.config = some path) :
    a.fileSettings files env =
      files.readText path >>= fun text => ConfigFile.parse env text >>= Settings.apply {} := by
  rw [fileSettings, h]

/-- The settings of the file fail if the file is at fault, and as it is at fault. -/
theorem fileSettings_eq_error_iff {e : Error} :
    a.fileSettings files env = .error e ↔ a.Finds files env (.error e) := by
  constructor
  · intro h
    rcases hpath : a.config with - | path
    · rw [fileSettings, hpath] at h
      cases h
    rw [fileSettings_of_config hpath] at h
    rcases bind_eq_error_iff.1 h with htext | ⟨text, htext, h⟩
    · exact .unreadable hpath htext
    rcases bind_eq_error_iff.1 h with hfile | ⟨f, hfile, h⟩
    · exact .malformed hpath htext hfile
    rcases hcheck : f.validate with e' | ⟨⟨⟩⟩
    · rw [Settings.apply_of_error {} hcheck] at h
      cases h
      exact .refused hpath htext hfile hcheck
    · obtain ⟨s, hs⟩ := Settings.exists_apply_of_ok {} hcheck
      rw [hs] at h
      cases h
  · intro h
    cases h with
    | unreadable hpath htext =>
      rw [fileSettings_of_config hpath]
      exact bind_eq_error_iff.2 (.inl htext)
    | malformed hpath htext hfile =>
      rw [fileSettings_of_config hpath]
      exact bind_eq_error_iff.2 (.inr ⟨_, htext, bind_eq_error_iff.2 (.inl hfile)⟩)
    | refused hpath htext hfile hcheck =>
      rw [fileSettings_of_config hpath]
      exact bind_eq_error_iff.2 (.inr ⟨_, htext, bind_eq_error_iff.2
        (.inr ⟨_, hfile, Settings.apply_of_error {} hcheck⟩)⟩)

/-- Over the defaults, a file gives its own values and leaves the rest. -/
theorem of_fileSettings {s : Settings} (h : a.fileSettings files env = .ok s) :
    ∃ file?, a.Finds files env (.ok file?) ∧
      ∀ {α : Type} (k : Key α), s.get k = (file?.bind (·.value? k)).getD (Settings.get {} k) := by
  rcases hpath : a.config with - | path
  · rw [fileSettings, hpath] at h
    cases h
    exact ⟨none, .unnamed hpath, fun k => rfl⟩
  rw [fileSettings_of_config hpath] at h
  obtain ⟨text, htext, h⟩ := bind_eq_ok_iff.1 h
  obtain ⟨f, hfile, h⟩ := bind_eq_ok_iff.1 h
  refine ⟨some f, .accepted hpath htext hfile (Settings.validate_of_apply h), fun k => ?_⟩
  -- the ceiling is put back to the general one, which is the one that it starts from
  have hunset : Settings.unset {} k = Settings.get {} k := by cases k <;> rfl
  rw [(Settings.of_apply h k).1, hunset]
  rfl

/-- A file that has been accepted has a value for each of its keys. -/
theorem Finds.isSome_value? {f : ConfigFile} (h : a.Finds files env (.ok (some f))) {α : Type}
    (k : Key α) : (f.value? k).isSome = f.sets k := by
  cases h with
  | accepted _ _ _ hcheck =>
    obtain ⟨s, hs⟩ := Settings.exists_apply_of_ok {} hcheck
    exact (Settings.of_apply hs k).2

/-- The ceiling of a file that has been accepted, or the general one. -/
theorem Finds.ceiling_bounds {file? : Option ConfigFile} (h : a.Finds files env (.ok file?)) :
    1 ≤ (file?.bind (·.limits.maxDisks)).getD 63 ∧ (file?.bind (·.limits.maxDisks)).getD 63 ≤ 63 := by
  cases h with
  | unnamed => decide
  | accepted _ _ _ hcheck => exact ConfigFile.maxDisks_of_validate hcheck

end Arguments

/-! ### The puzzle -/

namespace Settings

/-- The labels of the three rods. -/
def labels (s : Settings) : List Char :=
  [s.source.label, s.target.label, s.spare.label]

theorem visible_of_mem_labels {s : Settings} {c : Char} (h : c ∈ s.labels) :
    Text.isVisible c = true := by
  simp only [labels, List.mem_cons, List.not_mem_nil, or_false] at h
  rcases h with rfl | rfl | rfl
  · exact s.source.visible
  · exact s.target.visible
  · exact s.spare.visible

theorem nodup_labels_iff {s : Settings} :
    s.labels.Nodup ↔ s.source ≠ s.target ∧ s.source ≠ s.spare ∧ s.target ≠ s.spare := by
  have hlabel (p q : Peg) : p.label = q.label ↔ p = q := by
    cases p
    cases q
    simp
  simp [labels, hlabel, and_assoc]

/-- Settings describe a puzzle exactly if the number of disks is allowed and the labels differ. -/
theorem exists_puzzle_iff {s : Settings} :
    (∃ p, s.puzzle = .ok p) ↔
      0 ≤ s.disks ∧ s.disks ≤ min (s.maxDisks : Int) 63 ∧ s.labels.Nodup := by
  rw [nodup_labels_iff]
  constructor
  · rintro ⟨p, hp⟩
    obtain ⟨⟨hpos, hle, -⟩, hsource, htarget, hspare⟩ := puzzle_eq_ok_iff.1 hp
    rw [← hsource, ← htarget, ← hspare]
    exact ⟨hpos, hle, p.rods.source_ne_target, p.rods.source_ne_spare, p.rods.target_ne_spare⟩
  · rintro ⟨hpos, hle, hst, hsa, hta⟩
    have hcount : ((s.disks.toNat : Nat) : Int) = s.disks := Int.toNat_of_nonneg hpos
    exact ⟨⟨⟨s.disks.toNat, by omega⟩, ⟨s.source, s.target, s.spare, hst, hsa, hta⟩⟩,
      puzzle_eq_ok_iff.2 ⟨⟨hpos, hle, hcount⟩, rfl, rfl, rfl⟩⟩

end Settings

/-! ### All layers -/

namespace Arguments

theorem resolve_eq (a : Arguments) (files : Files) (env : Environment) :
    a.resolve files env = a.fileSettings files env >>= fun s => .ok (a.overlay s) :=
  rfl

/-- A setting that is off by default, and that the upper layer can only switch on, is on if one of
the layers switches it on. -/
theorem getD_false_eq_true_iff {upper lower : Option Bool} (h : upper ≠ some false) :
    (upper.or lower).getD false = true ↔ upper = some true ∨ lower = some true := by
  rcases upper with - | - | -
  · cases lower <;> simp
  · exact absurd rfl h
  · simp

theorem value?_flag_ne (a : Arguments) {k : Key Bool} (h : k ∈ Key.flags) :
    a.value? k ≠ some false := by
  have hraised (flag : Bool) : (if flag then some true else none) ≠ some false := by
    cases flag <;> decide
  simp only [Key.flags, List.mem_cons, List.not_mem_nil, or_false] at h
  rcases h with rfl | rfl | rfl | rfl <;> exact hraised _

theorem get_flag_default {k : Key Bool} (h : k ∈ Key.flags) : Settings.get {} k = false := by
  simp only [Key.flags, List.mem_cons, List.not_mem_nil, or_false] at h
  rcases h with rfl | rfl | rfl | rfl <;> rfl

/-- **Precedence.**  The settings of a command line cannot be resolved exactly if it names a file
that is at fault, and then for that fault.  Otherwise each of them has the value that the command
line gives it, or else the one that the file gives it, which it does for all the keys that it sets,
or else the default.  In particular a flag is on exactly if the command line raises it or the file
switches it on, and the ceiling is that of the file or the general one, and one that a puzzle can
have.  The settings describe a puzzle exactly if the number of disks, whichever layer it is from, is
neither negative nor above this ceiling and the labels of the rods, whichever layers they are from,
differ; the puzzle has these disks and these rods, with visible labels. -/
theorem resolve_precedence (a : Arguments) (files : Files) (env : Environment) :
    (∀ e, a.resolve files env = .error e ↔ a.Finds files env (.error e)) ∧
      ∀ s, a.resolve files env = .ok s → ∃ file?, a.Finds files env (.ok file?) ∧
        (∀ f, file? = some f → ∀ (α : Type) (k : Key α), (f.value? k).isSome = f.sets k) ∧
        (∀ (α : Type) (k : Key α),
          s.get k = ((a.value? k).or (file?.bind (·.value? k))).getD (Settings.get {} k)) ∧
        (∀ k ∈ Key.flags, s.get k = true ↔
          a.value? k = some true ∨ file?.bind (·.value? k) = some true) ∧
        (s.maxDisks = (file?.bind (·.limits.maxDisks)).getD 63 ∧ 1 ≤ s.maxDisks ∧
          s.maxDisks ≤ 63) ∧
        ((∃ p, s.puzzle = .ok p) ↔ 0 ≤ s.disks ∧ s.disks ≤ s.maxDisks ∧ s.labels.Nodup) ∧
        ∀ p, s.puzzle = .ok p →
          ((p.disks.count : Int) = s.disks ∧ p.disks.count ≤ s.maxDisks) ∧
          (p.rods.source = s.source ∧ p.rods.target = s.target ∧ p.rods.spare = s.spare) ∧
          s.labels.Nodup ∧ ∀ c ∈ s.labels, Text.isVisible c = true := by
  constructor
  · intro e
    rw [← fileSettings_eq_error_iff, resolve_eq, bind_eq_error_iff]
    -- laying the command line over the file cannot fail
    exact or_iff_left fun ⟨s, _, h⟩ => by cases h
  · intro s h
    rw [resolve_eq] at h
    obtain ⟨below, hbelow, h⟩ := bind_eq_ok_iff.1 h
    obtain rfl : a.overlay below = s := Except.ok.inj h
    obtain ⟨file?, hfinds, hfile⟩ := of_fileSettings hbelow
    have hget : ∀ (α : Type) (k : Key α), (a.overlay below).get k
        = ((a.value? k).or (file?.bind (·.value? k))).getD (Settings.get {} k) := by
      intro α k
      rw [get_overlay, hfile, Option.getD_or]
    have hceiling : (a.overlay below).maxDisks = (file?.bind (·.limits.maxDisks)).getD 63 :=
      hget Nat .maxDisks
    obtain ⟨hpos, hle⟩ := hfinds.ceiling_bounds
    rw [← hceiling] at hpos hle
    refine ⟨file?, hfinds, ?_, hget, ?_, ⟨hceiling, hpos, hle⟩, ?_, ?_⟩
    · rintro f rfl α k
      exact hfinds.isSome_value? k
    · intro k hk
      rw [hget, get_flag_default hk]
      exact getD_false_eq_true_iff (a.value?_flag_ne hk)
    · rw [Settings.exists_puzzle_iff]
      have hmin : min ((a.overlay below).maxDisks : Int) 63 = (a.overlay below).maxDisks := by
        omega
      rw [hmin]
    · intro p hp
      obtain ⟨⟨-, hmax, hcount⟩, hrods⟩ := Settings.puzzle_eq_ok_iff.1 hp
      obtain ⟨-, -, hlabels⟩ := Settings.exists_puzzle_iff.1 ⟨p, hp⟩
      exact ⟨⟨hcount, by omega⟩, hrods, hlabels, fun c => Settings.visible_of_mem_labels⟩

/-- Rods from three layers, and a height from the command line that the ceiling of the file allows. -/
theorem resolve_precedence_mixed :
    let a : Arguments := {
      disks := some 5, source := some ⟨'X', by decide⟩, config := some "hanoi.toml", summary := true }
    let text :=
      "[puzzle]\ndisks = 9\nto = \"Y\"\n[limits]\nmax_disks = 5\n[output]\nverify = true\n"
    let files : Files := fun _ => .bytes text.toUTF8
    let s : Settings := {
      disks := 5, source := ⟨'X', by decide⟩, target := ⟨'Y', by decide⟩, maxDisks := 5
      verify := true, summary := true }
    a.resolve files (fun _ => none) = .ok s ∧
      ∃ p, s.puzzle = .ok p ∧ p.disks.count ≤ 5 ∧ s.labels.Nodup := by
  intro a text files s
  have hs : a.resolve files (fun _ => none) = .ok s := by
    have hsome : (a.resolve files fun _ => none).toOption = some s := by decide +kernel
    exact eq_ok_of_toOption hsome
  obtain ⟨file?, -, -, -, -, -, hpuzzle, hparts⟩ :=
    (resolve_precedence a files fun _ => none).2 s hs
  obtain ⟨p, hp⟩ := hpuzzle.2 ⟨by decide, by decide, by decide⟩
  obtain ⟨⟨-, hmax⟩, -, hlabels, -⟩ := hparts p hp
  exact ⟨hs, p, hp, hmax, hlabels⟩

end Arguments

end TowerOfHanoi
