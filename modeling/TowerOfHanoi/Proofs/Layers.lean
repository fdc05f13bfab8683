/-
TowerOfHanoi/Proofs/Layers.lean

Settings overlaid in place by several configuration files, one after another.
A file that is refused leaves the settings alone (`overlay_eq`).  Of the others,
the last one that sets a key decides about it, and a setting whose key none of
them sets is left as it was:

    (fs.foldl (fun s f => (s.overlay f).2) s).get k
      = ((s.applied fs).reverse.findSome? (·.value? k)).getD (s.get k).

The ceiling on the number of disks does not obey this law (`ceiling_not_kept`).
A file that does not set it puts it back to the general one, so only the last
file that was accepted has a say in it.

One file is described by `of_apply`, with `Settings.unset` for what becomes
of a key that it does not set; the rest is induction on the list of files.

Main result: `overlay_layers`.
-/
import TowerOfHanoi.Proofs.Checks

namespace TowerOfHanoi

/-! ### Keys -/

/-- The settings by name, with the type of their values. -/
inductive Key : Type → Type
  | disks : Key Int
  | source : Key Peg
  | target : Key Peg
  | spare : Key Peg
  | maxDisks : Key Nat
  | strategy : Key Strategy
  | format : Key Format
  | verify : Key Bool
  | summary : Key Bool
  | verbose : Key Bool
  | jsonLogs : Key Bool

/-- The value of a setting. -/
def Settings.get (s : Settings) : {α : Type} → Key α → α
  | _, .disks => s.disks
  | _, .source => s.source
  | _, .target => s.target
  | _, .spare => s.spare
  | _, .maxDisks => s.maxDisks
  | _, .strategy => s.strategy
  | _, .format => s.format
  | _, .verify => s.verify
  | _, .summary => s.summary
  | _, .verbose => s.verbose
  | _, .jsonLogs => s.jsonLogs

/-- The value that a file gives to a setting, if it sets the key: labels and names stand for what
they are the label or the name of. -/
def ConfigFile.value? (f : ConfigFile) : {α : Type} → Key α → Option α
  | _, .disks => f.puzzle.disks
  | _, .source => f.puzzle.source.bind fun label => (Peg.ofString label).toOption
  | _, .target => f.puzzle.target.bind fun label => (Peg.ofString label).toOption
  | _, .spare => f.puzzle.spare.bind fun label => (Peg.ofString label).toOption
  | _, .maxDisks => f.limits.maxDisks
  | _, .strategy => f.output.strategy.bind Strategy.ofName?
  | _, .format => f.output.format.bind Format.ofName?
  | _, .verify => f.output.verify
  | _, .summary => f.output.summary
  | _, .verbose => f.logging.verbose
  | _, .jsonLogs => f.logging.json

/-- Whether a file sets the key of a setting, be it to something readable or not. -/
def ConfigFile.sets (f : ConfigFile) : {α : Type} → Key α → Bool
  | _, .disks => f.puzzle.disks.isSome
  | _, .source => f.puzzle.source.isSome
  | _, .target => f.puzzle.target.isSome
  | _, .spare => f.puzzle.spare.isSome
  | _, .maxDisks => f.limits.maxDisks.isSome
  | _, .strategy => f.output.strategy.isSome
  | _, .format => f.output.format.isSome
  | _, .verify => f.output.verify.isSome
  | _, .summary => f.output.summary.isSome
  | _, .verbose => f.logging.verbose.isSome
  | _, .jsonLogs => f.logging.json.isSome

/-- What becomes of a setting whose key a file does not set: it stays, but the ceiling goes back to
the general one. -/
def Settings.unset (s : Settings) : {α : Type} → Key α → α
  | _, .maxDisks => DiskCount.max
  | _, k => s.get k

/-- A setting that stays if a file does not set its key. -/
def Key.Kept : {α : Type} → Key α → Prop
  | _, .maxDisks => False
  | _, _ => True

theorem Key.Kept.unset_eq {α : Type} {k : Key α} (h : k.Kept) (s : Settings) :
    s.unset k = s.get k := by
  cases k with
  | maxDisks => exact h.elim
  | _ => rfl

/-! ### One file -/

namespace ConfigFile

/-- A label that passes the check stands for its rod. -/
theorem of_peg_eq_ok {field : String} {label : Option String} {p : Option Peg}
    (h : peg field label = .ok p) :
    p = label.bind (fun l => (Peg.ofString l).toOption) ∧ p.isSome = label.isSome := by
  cases label with
  | none =>
    cases h
    exact ⟨rfl, rfl⟩
  | some label =>
    obtain ⟨q, rfl, hpeg⟩ := exists_of_peg_eq_ok h
    rw [Option.bind_some, hpeg]
    exact ⟨rfl, rfl⟩

/-- A name that passes the check stands for what it names, if every name allowed is read so. -/
theorem of_choice_eq_ok {α : Type} {field : String} {names : List String} {read : String → α}
    {ofName? : String → Option α} {name : Option String} {v : Option α}
    (hread : ∀ n ∈ names, ofName? n = some (read n)) (h : choice field names read name = .ok v) :
    v = name.bind ofName? ∧ v.isSome = name.isSome := by
  cases name with
  | none =>
    cases h
    exact ⟨rfl, rfl⟩
  | some name =>
    obtain ⟨⟨⟩, hone, h⟩ := bind_eq_ok_iff.1 h
    cases h
    exact ⟨(hread name ((Validation.oneOf_eq_ok_iff _).1 hone)).symm, rfl⟩

theorem ofName?_eq_readFormat :
    ∀ n ∈ ["text", "json", "csv"], Format.ofName? n = some (readFormat n) := by
  decide

theorem ofName?_eq_readStrategy :
    ∀ n ∈ ["recursive", "iterative"], Strategy.ofName? n = some (readStrategy n) := by
  decide

end ConfigFile

namespace Settings

/-- **One file** that is accepted has a value for every key that it sets, and gives it to the
setting; with the others it deals as `unset` says. -/
theorem of_apply {s s' : Settings} {f : ConfigFile} (h : s.apply f = .ok s') {α : Type}
    (k : Key α) :
    s'.get k = (f.value? k).getD (s.unset k) ∧ (f.value? k).isSome = f.sets k := by
  obtain ⟨source, target, spare, format, strategy, hsource, htarget, hspare, hformat, hstrategy, hs⟩ :=
    overlay_of_ok s (validate_of_apply h)
  rw [apply, hs] at h
  cases h
  obtain ⟨rfl, hsource⟩ := ConfigFile.of_peg_eq_ok hsource
  obtain ⟨rfl, htarget⟩ := ConfigFile.of_peg_eq_ok htarget
  obtain ⟨rfl, hspare⟩ := ConfigFile.of_peg_eq_ok hspare
  obtain ⟨rfl, hstrategy⟩ :=
    ConfigFile.of_choice_eq_ok ConfigFile.ofName?_eq_readStrategy hstrategy
  obtain ⟨rfl, hformat⟩ := ConfigFile.of_choice_eq_ok ConfigFile.ofName?_eq_readFormat hformat
  -- numbers and truth values are set as they stand, so only texts need to have been read
  cases k with
  | source => exact ⟨rfl, hsource⟩
  | target => exact ⟨rfl, htarget⟩
  | spare => exact ⟨rfl, hspare⟩
  | strategy => exact ⟨rfl, hstrategy⟩
  | format => exact ⟨rfl, hformat⟩
  | _ => exact ⟨rfl, rfl⟩

/-! ### Several files -/

/-- The files of a list that are accepted when they are applied in order, each to the settings that
the ones before it have left. -/
def applied (s : Settings) : List ConfigFile → List ConfigFile
  | [] => []
  | f :: fs =>
    match s.overlay f with
    | (.error _, s) => s.applied fs
    | (.ok (), s) => f :: s.applied fs

theorem exists_apply_of_mem_applied {s : Settings} {f : ConfigFile} {fs : List ConfigFile}
    (h : f ∈ s.applied fs) : ∃ s₁ s₂ : Settings, s₁.apply f = .ok s₂ := by
  induction fs generalizing s with
  | nil => cases h
  | cons g fs ih =>
    rw [applied, overlay_eq] at h
    rcases hg : s.apply g with e | s₁ <;> rw [hg] at h
    · exact ih h
    · rcases List.mem_cons.1 h with rfl | h
      · exact ⟨s, s₁, hg⟩
      · exact ih h

/-- A setting that is kept by the files that do not set it has the value that the last of the others
gives it. -/
theorem get_foldl_overlay (s : Settings) (fs : List ConfigFile) {α : Type} {k : Key α}
    (hk : k.Kept) :
    (fs.foldl (fun s f => (s.overlay f).2) s).get k
      = ((s.applied fs).reverse.findSome? (·.value? k)).getD (s.get k) := by
  induction fs generalizing s with
  | nil => rfl
  | cons f fs ih =>
    rw [List.foldl_cons, applied, overlay_eq]
    rcases hf : s.apply f with e | s₁
    · exact ih s
    · -- the later files are asked first, then `f`, then the settings before it
      show (fs.foldl (fun s f => (s.overlay f).2) s₁).get k
        = ((f :: s₁.applied fs).reverse.findSome? (·.value? k)).getD (s.get k)
      rw [ih s₁, (of_apply hf k).1, hk.unset_eq, List.reverse_cons, List.findSome?_append,
        Option.getD_or, List.findSome?_singleton]

/-- The ceiling is that of the last file that was accepted. -/
theorem maxDisks_foldl_overlay (s : Settings) (fs : List ConfigFile) :
    (fs.foldl (fun s f => (s.overlay f).2) s).maxDisks
      = ((s.applied fs).getLast?.map ConfigFile.maxDisks).getD s.maxDisks := by
  induction fs generalizing s with
  | nil => rfl
  | cons f fs ih =>
    rw [List.foldl_cons, applied, overlay_eq]
    rcases hf : s.apply f with e | s₁
    · exact ih s
    · -- what the ceiling was before `f` is lost, whether or not `f` sets it
      have hceiling : s₁.maxDisks = f.maxDisks := (of_apply hf .maxDisks).1
      show (fs.foldl (fun s f => (s.overlay f).2) s₁).maxDisks
        = ((f :: s₁.applied fs).getLast?.map ConfigFile.maxDisks).getD s.maxDisks
      rw [ih s₁, hceiling, List.getLast?_cons]
      rcases (s₁.applied fs).getLast? with - | last <;> rfl

/-- **Layers of configuration files.**  Whatever files are applied, and whichever of them are
refused: those that are accepted have a value for every key that they set, and a setting other than
the ceiling has the value that the last of them with its key gives it, or its own if there is none.
The ceiling is set, or else put back to the general one, by the last accepted file, and left alone
only if there is none. -/
theorem overlay_layers (s : Settings) (fs : List ConfigFile) :
    let s' := fs.foldl (fun s f => (s.overlay f).2) s
    (∀ f ∈ s.applied fs, ∀ (α : Type) (k : Key α), (f.value? k).isSome = f.sets k) ∧
      (∀ (α : Type) (k : Key α), k.Kept →
        s'.get k
          = ((s.applied fs).reverse.findSome? (·.value? k)).getD (s.get k)) ∧
      s'.maxDisks
        = ((s.applied fs).getLast?.map fun f => (f.value? .maxDisks).getD DiskCount.max).getD
            s.maxDisks := by
  refine ⟨fun f hf α k => ?_, fun α k hk => s.get_foldl_overlay fs hk, s.maxDisks_foldl_overlay fs⟩
  obtain ⟨s₁, s₂, happly⟩ := exists_apply_of_mem_applied hf
  exact (of_apply happly k).2

/-- A ceiling of five disks does not survive an empty file. -/
theorem ceiling_not_kept :
    ¬ ∀ (s : Settings) (fs : List ConfigFile) (α : Type) (k : Key α),
      (fs.foldl (fun s f => (s.overlay f).2) s).get k
        = ((s.applied fs).reverse.findSome? (·.value? k)).getD (s.get k) := by
  intro h
  have hceiling := h {} [{ limits := { maxDisks := some 5 } }, {}] Nat .maxDisks
  have hreset : (63 : Nat) = 5 := hceiling
  cases hreset

end Settings

end TowerOfHanoi
