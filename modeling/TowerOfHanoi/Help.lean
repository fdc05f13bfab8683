/-
TowerOfHanoi/Help.lean

The text that is printed when the command line asks for help.
-/

namespace TowerOfHanoi

/-- The options of the program, one a line. -/
def helpLines : List String :=
  ["Print the moves that solve the Tower of Hanoi puzzle",
    "",
    "Usage: hanoi [OPTIONS]",
    "",
    "Options:",
    "  -n, --disks <DISKS>        Number of disks [default: 4]",
    "      --from <FROM>          Source rod label [default: A]",
    "      --to <TO>              Destination rod label [default: C]",
    "      --aux <AUX>            Auxiliary rod label [default: B]",
    "      --strategy <STRATEGY>  [possible values: recursive, iterative]",
    "      --format <FORMAT>      [possible values: text, json, csv]",
    "  -c, --config <CONFIG>      Path to a TOML configuration file",
    "      --verify               Replay every move on a three-peg board and fail on an illegal one",
    "      --summary              Print a run summary as JSON to stderr",
    "  -v, --verbose              Enable verbose output",
    "      --json-logs            Emit logs as JSON",
    "  -h, --help                 Print help"]

/-- The help text. -/
def helpText : String :=
  String.join (helpLines.map (· ++ "\n"))

end TowerOfHanoi
