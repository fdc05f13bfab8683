/-
TowerOfHanoi/Error.lean

What can go wrong, as causes.  Every failure of the library is a value of
`Error`; its wording, its category, the advice that goes with it and the exit
code of a program that ends with it are functions of that value.
-/
import TowerOfHanoi.Text.Decimal

namespace TowerOfHanoi

/-! ### Causes -/

/-- Why a text is not the label of a rod. -/
inductive LabelFault where
  | invisible
  | notOneCharacter
  | other (text : String)
deriving DecidableEq, Repr

/-- Why a board refuses a move. -/
inductive Obstacle where
  | absentRod (label : Char)
  | sameRod
  | emptySource
  | covered (top : Nat)
  | smallerBelow (top : Nat)
  | other (text : String)
deriving DecidableEq, Repr

/-- Why a configuration value is refused. -/
inductive ValueFault where
  | outOfRange (min max : Int)
  | notOneCharacter
  | notAllowed (allowed : List String)
  | other (text : String)
deriving DecidableEq, Repr

/-- Why a command line is refused. -/
inductive ArgumentFault where
  | missingValue (option : String)
  | unknownValue (option value : String)
  | malformedValue (option value : String)
  | unknown (argument : String)
  | repeated (option : String)
  | unexpectedValue (option value : String)
deriving DecidableEq, Repr

/-- A failure, by cause. -/
inductive Error where
  | negativeDiskCount (disks : Int)
  | tooManyDisks (disks : Int) (max : Nat)
  | duplicatePeg (label : Char)
  | invalidPegLabel (label : String) (fault : LabelFault)
  | illegalMove (disk : Nat) (source target : Char) (obstacle : Obstacle)
  | unsolved (disks : Nat) (target : Char)
  | argument (fault : ArgumentFault)
  | io (text : String)
  | csv (text : String)
  | serialization (text : String)
  | config (message : String)
  | malformedFile (detail : String)
  | invalidConfigValue (field value : String) (fault : ValueFault)
deriving DecidableEq, Repr

/-- The four kinds of failure that a caller tells apart. -/
inductive Category where
  | input
  | config
  | output
  | internal
deriving DecidableEq, Repr

/-! ### Wording -/

/-- The wording of a refused label. -/
def LabelFault.text : LabelFault → String
  | .invisible => "must be a visible character"
  | .notOneCharacter => "expected exactly one character"
  | .other text => text

/-- The wording of an obstacle. -/
def Obstacle.text : Obstacle → String
  | .absentRod label => "rod " ++ String.singleton label ++ " is not on this board"
  | .sameRod => "source and destination are the same rod"
  | .emptySource => "source rod is empty"
  | .covered top => "disk " ++ Text.decimal top ++ " is on top of the source rod"
  | .smallerBelow top => "cannot place it on smaller disk " ++ Text.decimal top
  | .other text => text

/-- The wording of a refused configuration value. -/
def ValueFault.text : ValueFault → String
  | .outOfRange min max =>
    "Value must be between " ++ Text.integer min ++ " and " ++ Text.integer max
  | .notOneCharacter => "Expected exactly one character"
  | .notAllowed allowed => "Allowed values: " ++ ", ".intercalate allowed
  | .other text => text

/-- The wording of a refused command line. -/
def ArgumentFault.text : ArgumentFault → String
  | .missingValue option => "a value is required for '" ++ option ++ "' but none was supplied"
  | .unknownValue option value => "'" ++ value ++ "' is not one of the values of '" ++ option ++ "'"
  | .malformedValue option value => "invalid value '" ++ value ++ "' for '" ++ option ++ "'"
  | .unknown argument => "unexpected argument '" ++ argument ++ "' found"
  | .repeated option => "the argument '" ++ option ++ "' cannot be used multiple times"
  | .unexpectedValue option value =>
    "unexpected value '" ++ value ++ "' for '" ++ option ++ "' found; no more were expected"

namespace Error

/-- The message of a failure, with `detail` applied to the parser's own account of a refused
command line or file. -/
def describe (detail : String → String) : Error → String
  | negativeDiskCount disks => "Disk count must not be negative, got " ++ Text.integer disks
  | tooManyDisks disks max =>
    "Disk count " ++ Text.integer disks ++ " exceeds the maximum of " ++ Text.decimal max
  | duplicatePeg label =>
    "Peg '" ++ String.singleton label ++ "' is used for more than one role"
  | invalidPegLabel label fault => "Invalid peg label '" ++ label ++ "': " ++ fault.text
  | illegalMove disk source target obstacle =>
    "Illegal move of disk " ++ Text.decimal disk ++ " from rod " ++ String.singleton source ++
      " to rod " ++ String.singleton target ++ ": " ++ obstacle.text
  | unsolved disks target =>
    "Tower of " ++ Text.decimal disks ++ " disks was not completed on rod " ++
      String.singleton target
  | argument fault => "Invalid argument: " ++ detail fault.text
  | io text => "IO error: " ++ text
  | csv text => "CSV output error: " ++ text
  | serialization text => "Serialization error: " ++ text
  | config message => "Configuration error: " ++ message
  | malformedFile text => "Configuration error: TOML parsing error: " ++ detail text
  | invalidConfigValue field value fault =>
    "Invalid configuration value for '" ++ field ++ "': " ++ value ++ " (" ++ fault.text ++ ")"

/-- The message of a failure. -/
def message (e : Error) : String :=
  e.describe id

/-! ### Category, advice and exit code -/

/-- The category of a failure. -/
def category : Error → Category
  | negativeDiskCount .. | tooManyDisks .. | duplicatePeg .. | invalidPegLabel .. | argument .. =>
    .input
  | config .. | malformedFile .. | invalidConfigValue .. => .config
  | io .. | csv .. | serialization .. => .output
  | illegalMove .. | unsolved .. => .internal

/-- The message as it is shown to the user, introduced by what the category means to them. -/
def describeFriendly (detail : String → String) (e : Error) : String :=
  let introduction :=
    match e.category with
    | .input => "Invalid puzzle parameters: "
    | .config => "Configuration problem: "
    | .output => "Could not write moves: "
    | .internal => "Move verification failed: "
  introduction ++ e.describe detail

/-- The message as it is shown to the user. -/
def friendlyMessage (e : Error) : String :=
  e.describeFriendly id

/-- What the user can do about a failure. -/
def suggestion : Error → String
  | negativeDiskCount .. => "Pass a disk count of 0 or more"
  | tooManyDisks .. => "Lower --disks or raise limits.max_disks (at most 63)"
  | duplicatePeg .. => "Use three different labels for --from, --to and --aux"
  | invalidPegLabel .. => "Peg labels must be a single visible character"
  | argument .. => "Run with --help to see the accepted flags and values"
  | config .. | malformedFile .. | invalidConfigValue .. =>
    "Check the config file against the documented keys"
  | io .. | csv .. | serialization .. =>
    "Make sure the output stream is writable (e.g. the pipe is not closed)"
  | illegalMove .. | unsolved .. => "This is a bug in the move generator, please report it"

/-- The exit code of a program that ends with a failure. -/
def exitCode (e : Error) : Nat :=
  match e.category with
  | .input | .config => 1
  | .output => 2
  | .internal => 3

end Error

/-- The name of a category. -/
def Category.name : Category → String
  | .input => "Input"
  | .config => "Config"
  | .output => "Output"
  | .internal => "Internal"

end TowerOfHanoi
