/-
TowerOfHanoi/Log/Filter.lean

Which events are logged.  A filter is a list of directives, each of which
sets a threshold for the targets that begin with its own; the directive with
the longest target decides, the later of two with the same target, and an
event on which no directive bears is not logged.
-/
import TowerOfHanoi.Text.Decimal

namespace TowerOfHanoi.Log

/-! ### Levels -/

/-- How much an event matters, most important first. -/
inductive Level where
  | error
  | warn
  | info
  | debug
  | trace
deriving DecidableEq, Repr

/-- The levels, most important first. -/
def Level.all : List Level := [.error, .warn, .info, .debug, .trace]

/-- The place of a level among the levels. -/
def Level.rank : Level → Nat
  | .error => 1
  | .warn => 2
  | .info => 3
  | .debug => 4
  | .trace => 5

/-- The name of a level. -/
def Level.name : Level → String
  | .error => "ERROR"
  | .warn => "WARN"
  | .info => "INFO"
  | .debug => "DEBUG"
  | .trace => "TRACE"

/-- The least important level that is logged, or none at all. -/
abbrev Threshold := Option Level

/-- Whether a threshold lets a level through. -/
def Threshold.admits (threshold : Threshold) (level : Level) : Bool :=
  match threshold with
  | none => false
  | some least => level.rank ≤ least.rank

/-- The threshold with a number: none for zero, else the level with that place. -/
def Threshold.ofRank? (n : Nat) : Option Threshold :=
  (none :: Level.all.map some)[n]?

/-- The threshold with a name, in either case. -/
def Threshold.ofName? (s : String) : Option Threshold :=
  let name := s.map Char.toUpper
  if name == "OFF" then some none
  else (Level.all.find? fun level => level.name == name).map some

/-- Reads a threshold: a number, which may have a plus sign, or a name. -/
def Threshold.ofString? (s : String) : Option Threshold :=
  let digits :=
    match s.toList with
    | '+' :: cs => cs
    | cs => cs
  ((Text.natural? digits).bind Threshold.ofRank?).or (Threshold.ofName? s)

/-! ### Directives -/

/-- A threshold for the targets that begin with `target`. -/
structure Directive where
  target : String
  threshold : Threshold
deriving DecidableEq, Repr

/-- A character with which a directive can begin. -/
def startsDirective (c : Char) : Bool :=
  c.isAlphanum || c == '-' || c == ':' || c == '_' || 0x80 ≤ c.toNat

/-- Reads a directive: a threshold, a target, or both with an equals sign between them; a target
without a threshold admits everything. -/
def Directive.ofString? (s : String) : Option Directive :=
  let target := String.ofList (s.toList.takeWhile (· != '='))
  if !s.toList.head?.any startsDirective then none
  else
    match s.toList.dropWhile (· != '=') with
    | [] =>
      match Threshold.ofString? s with
      | some threshold => some ⟨"", threshold⟩
      | none => some ⟨s, some .trace⟩
    | [_] => some ⟨target, some .trace⟩
    | _ :: threshold => (Threshold.ofString? (String.ofList threshold)).map (⟨target, ·⟩)

/-! ### Filters -/

/-- Directives in the order in which they are given. -/
abbrev Filter := List Directive

namespace Filter

/-- Reads directives between commas; without any, only errors are logged. -/
def ofString? (s : String) : Option Filter :=
  match ((s.splitOn ",").filter (!·.isEmpty)).mapM Directive.ofString? with
  | some [] => some [⟨"", some .error⟩]
  | filter => filter

/-- The directive that decides about a target. -/
def nearest? (filter : Filter) (target : String) : Option Directive :=
  (filter.filter fun d => d.target.toList.isPrefixOf target.toList).foldl
    (fun best d =>
      match best with
      | none => some d
      | some b => if b.target.length ≤ d.target.length then some d else some b)
    none

/-- Whether an event with this target and level is logged. -/
def admits (filter : Filter) (target : String) (level : Level) : Bool :=
  match filter.nearest? target with
  | none => false
  | some d => d.threshold.admits level

end Filter

end TowerOfHanoi.Log
