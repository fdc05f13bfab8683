/-
TowerOfHanoi/Arguments.lean

The command line.  Arguments are read from left to right.  An option takes
its value from the same argument, after an equals sign or, for a short one,
directly, or else from the next argument; flags take none, and short ones may
be bundled.  A value from the next argument is only looked at when the next
option or flag turns up, or at the end, so an unknown argument behind a bad
value is found first.

What looks like an option is not taken for a value, with one exception: the
number of disks may be a negative number.
-/
import TowerOfHanoi.Files
import TowerOfHanoi.Settings

namespace TowerOfHanoi

/-- What a command line asks for, apart from help. -/
structure Arguments where
  disks : Option Int := none
  source : Option Peg := none
  target : Option Peg := none
  spare : Option Peg := none
  strategy : Option Strategy := none
  format : Option Format := none
  config : Option String := none
  verify : Bool := false
  summary : Bool := false
  verbose : Bool := false
  jsonLogs : Bool := false
deriving DecidableEq

/-- A command line asks for help, or for a run. -/
inductive Request where
  | help
  | run (arguments : Arguments)
deriving DecidableEq

namespace Arguments

/-! ### Options and flags -/

/-- An option, which takes a value. -/
inductive Valued where
  | disks
  | source
  | target
  | spare
  | strategy
  | format
  | config
deriving DecidableEq, Repr

/-- A flag, which takes none. -/
inductive Flag where
  | verify
  | summary
  | verbose
  | jsonLogs
  | help
deriving DecidableEq, Repr

/-- The name of an option in messages. -/
def Valued.name : Valued → String
  | disks => "--disks"
  | source => "--from"
  | target => "--to"
  | spare => "--aux"
  | strategy => "--strategy"
  | format => "--format"
  | config => "--config"

/-- The name of a flag in messages. -/
def Flag.name : Flag → String
  | verify => "--verify"
  | summary => "--summary"
  | verbose => "--verbose"
  | jsonLogs => "--json-logs"
  | help => "--help"

/-- What the name after two dashes stands for. -/
def ofLong? : String → Option (Valued ⊕ Flag)
  | "disks" => some (.inl .disks)
  | "from" => some (.inl .source)
  | "to" => some (.inl .target)
  | "aux" => some (.inl .spare)
  | "strategy" => some (.inl .strategy)
  | "format" => some (.inl .format)
  | "config" => some (.inl .config)
  | "verify" => some (.inr .verify)
  | "summary" => some (.inr .summary)
  | "verbose" => some (.inr .verbose)
  | "json-logs" => some (.inr .jsonLogs)
  | "help" => some (.inr .help)
  | _ => none

/-- What a letter after one dash stands for. -/
def ofShort? : Char → Option (Valued ⊕ Flag)
  | 'n' => some (.inl .disks)
  | 'c' => some (.inl .config)
  | 'v' => some (.inr .verbose)
  | 'h' => some (.inr .help)
  | _ => none

/-! ### Storing values -/

/-- Whether an option has been given. -/
def isGiven (a : Arguments) : Valued → Bool
  | .disks => a.disks.isSome
  | .source => a.source.isSome
  | .target => a.target.isSome
  | .spare => a.spare.isSome
  | .strategy => a.strategy.isSome
  | .format => a.format.isSome
  | .config => a.config.isSome

/-- Stores the value of an option, or refuses a value that is not of its kind. -/
def store (a : Arguments) (option : Valued) (value : String) : Except ArgumentFault Arguments :=
  let malformed : ArgumentFault := .malformedValue option.name value
  let label (save : Peg → Arguments) : Except ArgumentFault Arguments :=
    match Peg.ofString value with
    | .ok peg => .ok (save peg)
    | .error _ => .error malformed
  match option with
  | .disks =>
    match Text.integer? value with
    | some n => .ok { a with disks := some n }
    | none => .error malformed
  | .source => label fun peg => { a with source := some peg }
  | .target => label fun peg => { a with target := some peg }
  | .spare => label fun peg => { a with spare := some peg }
  | .strategy =>
    match Strategy.ofName? value with
    | some s => .ok { a with strategy := some s }
    | none => .error (.unknownValue option.name value)
  | .format =>
    match Format.ofName? value with
    | some f => .ok { a with format := some f }
    | none => .error (.unknownValue option.name value)
  | .config =>
    if value.isEmpty then .error (.missingValue option.name)
    else .ok { a with config := some value }

/-- Takes an option with its value, if it has one and the option is not given already. -/
def take (a : Arguments) (option : Valued) : Option String → Except ArgumentFault Arguments
  | none => .error (.missingValue option.name)
  | some value => if a.isGiven option then .error (.repeated option.name) else a.store option value

/-- Raises a flag that is not raised already. -/
def raise (a : Arguments) (flag : Flag) : Except ArgumentFault Arguments :=
  let once (raised : Bool) (a : Arguments) : Except ArgumentFault Arguments :=
    if raised then .error (.repeated flag.name) else .ok a
  match flag with
  | .verify => once a.verify { a with verify := true }
  | .summary => once a.summary { a with summary := true }
  | .verbose => once a.verbose { a with verbose := true }
  | .jsonLogs => once a.jsonLogs { a with jsonLogs := true }
  | .help => .ok a

/-! ### Reading from left to right -/

/-- What has been read so far: the arguments, and the last option if its value stands apart and
has not been looked at; `awaiting` says that the value is still to come. -/
structure Progress where
  arguments : Arguments := {}
  pending : Option (Valued × Option String) := none
  awaiting : Bool := false

/-- The reading goes on, or ends in help. -/
inductive Reading where
  | going (p : Progress)
  | help

/-- Looks at the value that has been put off. -/
def Progress.settle (p : Progress) : Except ArgumentFault Progress :=
  match p.pending with
  | none => .ok { p with awaiting := false }
  | some (option, value) => do return { arguments := ← p.arguments.take option value }

/-- An option, with its value if that is in the same argument. -/
def Progress.option (p : Progress) (option : Valued) (attached : Option String) :
    Except ArgumentFault Progress := do
  let p ← p.settle
  match attached with
  | some value => return { arguments := ← p.arguments.take option (some value) }
  | none => return { p with pending := some (option, none), awaiting := true }

/-- A flag. -/
def Progress.flag (p : Progress) (flag : Flag) : Except ArgumentFault Reading := do
  let p ← p.settle
  if flag = .help then return .help
  else return .going { arguments := ← p.arguments.raise flag }

/-- An argument with two dashes. -/
def Progress.long (p : Progress) (argument : String) (cs : List Char) :
    Except ArgumentFault Reading :=
  let name := String.ofList (cs.takeWhile (· != '='))
  let attached : Option String :=
    match cs.dropWhile (· != '=') with
    | [] => none
    | _ :: value => some (String.ofList value)
  match ofLong? name, attached with
  | none, _ => .error (.unknown argument)
  | some (.inl option), attached => (p.option option attached).map .going
  | some (.inr flag), some value => .error (.unexpectedValue flag.name value)
  | some (.inr flag), none => p.flag flag

/-- The letters of an argument with one dash. -/
def Progress.short (p : Progress) : List Char → Except ArgumentFault Reading
  | [] => .ok (.going p)
  | c :: rest =>
    match ofShort? c with
    | none => .error (.unknown (String.ofList ['-', c]))
    | some (.inr flag) => do
      match ← p.flag flag with
      | .help => return .help
      | .going p => p.short rest
    | some (.inl option) =>
      let attached : Option String :=
        match rest with
        | [] => none
        | '=' :: value => some (String.ofList value)
        | value => some (String.ofList value)
      (p.option option attached).map .going

/-- What follows a dash looks like a number: digits, at most one point and one exponent mark,
neither of them in front, and the mark not at the end. -/
def looksNumeric (cs : List Char) : Bool :=
  let mantissa := cs.takeWhile (· != 'e')
  let exponent := cs.dropWhile (· != 'e')
  let isMantissa :=
    (mantissa.filter (· != '.')).all Text.isDigit && (mantissa.filter (· == '.')).length ≤ 1 &&
      mantissa.head? != some '.'
  match exponent with
  | [] => isMantissa
  | _ :: digits => isMantissa && !mantissa.isEmpty && !digits.isEmpty && digits.all Text.isDigit

/-- Whether the option whose value is still to come takes this argument for it. -/
def Progress.takesNumber (p : Progress) (cs : List Char) : Bool :=
  p.awaiting && (p.pending.map (·.1)) == some .disks && looksNumeric cs

/-- An argument that is neither an option nor a flag: the value that is still to come. -/
def Progress.value (p : Progress) (argument : String) : Except ArgumentFault Reading :=
  match p.awaiting, p.pending with
  | true, some (option, _) =>
    .ok (.going { p with pending := some (option, some argument), awaiting := false })
  | _, _ => .error (.unknown argument)

/-- One argument. -/
def Progress.argument (p : Progress) (argument : String) : Except ArgumentFault Reading :=
  match argument.toList with
  | '-' :: '-' :: cs => p.long argument cs
  | ['-'] => p.value argument
  | '-' :: cs => if p.takesNumber cs then p.value argument else p.short cs
  | _ => p.value argument

/-- The arguments from left to right.  After two dashes alone nothing may follow. -/
def Progress.read (p : Progress) : List String → Except ArgumentFault Request
  | [] => do return .run (← p.settle).arguments
  | "--" :: [] => do return .run (← p.settle).arguments
  | "--" :: argument :: _ => .error (.unknown argument)
  | argument :: rest => do
    match ← p.argument argument with
    | .help => return .help
    | .going p => p.read rest

/-- Reads a command line. -/
def parse (arguments : List String) : Except ArgumentFault Request :=
  Progress.read {} arguments

/-! ### Settings -/

/-- The settings of the configuration file, if one is named, over the defaults. -/
def fileSettings (a : Arguments) (files : Files) (env : Environment) : Except Error Settings :=
  match a.config with
  | none => .ok {}
  | some path => do
    let text ← files.readText path
    let file ← ConfigFile.parse env text
    Settings.apply {} file

/-- Overlays settings by what the command line gives; a flag can only switch something on. -/
def overlay (a : Arguments) (s : Settings) : Settings where
  disks := a.disks.getD s.disks
  source := a.source.getD s.source
  target := a.target.getD s.target
  spare := a.spare.getD s.spare
  maxDisks := s.maxDisks
  strategy := a.strategy.getD s.strategy
  format := a.format.getD s.format
  verify := s.verify || a.verify
  summary := s.summary || a.summary
  verbose := s.verbose || a.verbose
  jsonLogs := s.jsonLogs || a.jsonLogs

/-- The settings of a run: defaults, then the configuration file, then the command line. -/
def resolve (a : Arguments) (files : Files) (env : Environment) : Except Error Settings := do
  return a.overlay (← a.fileSettings files env)

end Arguments

end TowerOfHanoi
