/-
TowerOfHanoi/Main.lean

The command.  It gathers what the invocation can see and carries out the plan;
a puzzle is streamed to standard output.
-/
import Std.Time.DateTime.Timestamp
import TowerOfHanoi.Program
import TowerOfHanoi.Text.Duration

namespace TowerOfHanoi.Program

open Log (Logger View)

/-! ### Input -/

/-- The wording of a fault of the system. -/
def systemText (fault : IO.Error) : String :=
  let numbered (code : UInt32) (details : String) : String :=
    details ++ " (os error " ++ Text.decimal code.toNat ++ ")"
  match fault with
  | .permissionDenied _ code details => numbered code details
  | .resourceExhausted _ code details => numbered code details
  | .resourceVanished code details => numbered code details
  | .hardwareFault code details => numbered code details
  | .invalidArgument _ code details => numbered code details
  | other => toString other

/-- Looks a file up. -/
def lookUp (path : String) : IO FileContent := do
  try
    return .bytes (← IO.FS.readBinFile path)
  catch
    | .noFileOrDirectory .. => return .missing
    | .inappropriateType .. => return .directory
    | fault => return .unreadable (systemText fault)

/-- Gathers the configuration file that the command line names, and the variables that matter. -/
def gather (arguments : List String) : IO Invocation := do
  let content ←
    match Arguments.parse arguments with
    | .ok (.run { config := some path, .. }) => lookUp path
    | _ => pure .missing
  let mentioned :=
    match content with
    | .bytes bytes => ((String.fromUTF8? bytes).map Environment.names).getD []
    | _ => []
  let values ← ("RUST_LOG" :: mentioned).filterMapM fun name => do
    return (← IO.getEnv name).map (name, ·)
  return {
    arguments
    files := fun _ => content
    environment := fun name => values.lookup name }

/-! ### Output -/

/-- Sends bytes to standard output; gives the text of the fault if they do not get through. -/
def send (bytes : ByteArray) : IO (Option String) := do
  try
    let out ← IO.getStdout
    out.write bytes
    out.flush
    return none
  catch fault => return some (systemText fault)

/-- Says notices on standard error. -/
def say (logger : Logger) (elapsed : Nat) (notices : List Notice) : IO Unit := do
  for notice in notices do
    let now ← Std.Time.Timestamp.now
    let micros := (now.toNanosecondsSinceUnixEpoch.val / 1000).toNat
    IO.eprint (notice.text logger {
      time := (Text.Moment.ofMicros micros).text
      elapsed := Text.duration elapsed
      millis := elapsed / 1000000 })

/-- Carries out what an invocation asks for, and gives the exit code. -/
def execute (i : Invocation) : IO Nat := do
  match plan i with
  | .help =>
    let _ ← send helpText.toUTF8
    return 0
  | .refuse logger before e =>
    say logger 0 (before ++ e.notices)
    return e.exitCode
  | .play logger s p =>
    say logger 0 (opening s p)
    let start ← IO.monoNanosNow
    let (result, completed) ← stream send s p
    say logger ((← IO.monoNanosNow) - start) (closing s completed result)
    return exitCode result

end TowerOfHanoi.Program

/-- Runs the command. -/
def main (arguments : List String) : IO UInt32 := do
  let code ← TowerOfHanoi.Program.execute (← TowerOfHanoi.Program.gather arguments)
  return UInt32.ofNat code
