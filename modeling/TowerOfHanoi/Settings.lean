/-
TowerOfHanoi/Settings.lean

The settings of one run.  They start from defaults and are overlaid by
configuration files: a key that a file sets replaces the setting, a key that
it leaves out keeps it, except that the ceiling on the number of disks is
always the file's own or the general one.  The settings are overlaid in place,
one after another.
-/
import TowerOfHanoi.ConfigFile

namespace TowerOfHanoi

/-- Everything that a run is told. -/
structure Settings where
  disks : Int := 4
  source : Peg := .a
  target : Peg := .c
  spare : Peg := .b
  maxDisks : Nat := DiskCount.max
  strategy : Strategy := .recursive
  format : Format := .text
  verify : Bool := false
  summary : Bool := false
  verbose : Bool := false
  jsonLogs : Bool := false
deriving DecidableEq

namespace Settings

/-- A change to the settings, made in place: one that fails leaves behind what it has done so far. -/
abbrev Change := ExceptT Error (StateM Settings) Unit

/-- Stores a value in the settings once it has been read, if there is one. -/
def assign {α : Type} (value : Except Error (Option α)) (store : Settings → α → Settings) : Change := do
  if let some a ← value then modify (store · a)

/-- Overlays the settings by a file, one after another; the file is checked first. -/
def layer (f : ConfigFile) : Change := do
  f.validate
  assign (.ok f.puzzle.disks) fun s disks => { s with disks }
  assign f.sourcePeg fun s source => { s with source }
  assign f.targetPeg fun s target => { s with target }
  assign f.sparePeg fun s spare => { s with spare }
  assign f.strategy fun s strategy => { s with strategy }
  assign f.format fun s format => { s with format }
  modify fun s => { s with
    maxDisks := f.maxDisks
    verify := f.output.verify.getD s.verify
    summary := f.output.summary.getD s.summary
    verbose := f.logging.verbose.getD s.verbose
    jsonLogs := f.logging.json.getD s.jsonLogs }

/-- Overlays the settings by a file, with what is left of them in any case. -/
def overlay (s : Settings) (f : ConfigFile) : Except Error Unit × Settings :=
  (layer f).run s

/-- The settings overlaid by a file that is accepted. -/
def apply (s : Settings) (f : ConfigFile) : Except Error Settings :=
  match s.overlay f with
  | (.error e, _) => .error e
  | (.ok (), s) => .ok s

/-- The settings that a file gives by itself. -/
def ofFile (f : ConfigFile) : Except Error Settings :=
  apply {} f

/-- The puzzle that the settings describe. -/
def puzzle (s : Settings) : Except Error Puzzle := do
  let disks ← DiskCount.withLimit s.disks s.maxDisks
  let rods ← Rods.ofPegs s.source s.target s.spare
  return ⟨disks, rods⟩

/-- Checks that the settings describe a puzzle. -/
def validate (s : Settings) : Except Error Unit :=
  s.puzzle.map fun _ => ()

end Settings

end TowerOfHanoi
