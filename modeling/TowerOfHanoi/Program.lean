/-
TowerOfHanoi/Program.lean

The program from its invocation to its outcome.  A command line, the files
and the environment determine a plan: to print help, to refuse, or to play a
puzzle.  Carrying out the plan gives an exit code, the bytes on standard
output and the notices on standard error; moves go to standard output and
nothing else does, help apart.  A puzzle is played into a store (`play`) or
streamed to whatever takes bytes (`stream`).
-/
import TowerOfHanoi.Arguments
import TowerOfHanoi.Help
import TowerOfHanoi.Log.Logger
import TowerOfHanoi.Output.Outlet

namespace TowerOfHanoi

open Output (Store Channel Writer Outlet)
open Log (Event Logger View)

/-! ### Notices -/

/-- What the program says on standard error. -/
inductive Notice where
  | event (e : Event)
  | summary (s : Summary)
  | failure (e : Error)
  | advice (e : Error)

/-- The text of a notice, which is empty for an event that is not logged. -/
def Notice.text (logger : Logger) (view : View) : Notice → String
  | .event e => logger.write view e
  | .summary s => s.json view.millis ++ "\n"
  | .failure e => "❌ " ++ e.describeFriendly view.detail ++ "\n"
  | .advice e => "💡 " ++ e.suggestion ++ "\n"

/-- The last words of a program that fails. -/
def Error.notices (e : Error) : List Notice :=
  [.event (.failed e), .event (.advised e), .failure e, .advice e]

namespace Program

/-! ### Plans -/

/-- Everything that a program is given. -/
structure Invocation where
  arguments : List String
  files : Files
  environment : Environment
  stdout : Store := {}

/-- What the program is going to do. -/
inductive Plan where
  | help
  | refuse (logger : Logger) (before : List Notice) (e : Error)
  | play (logger : Logger) (s : Settings) (p : Puzzle)

/-- Plans a run whose command line has been read. -/
def planRun (files : Files) (env : Environment) (a : Arguments) : Plan :=
  match a.resolve files env with
  | .error e => .refuse (Logger.ofFlags env a.jsonLogs a.verbose) [] e
  | .ok s =>
    let logger := Logger.ofFlags env s.jsonLogs s.verbose
    match s.puzzle with
    | .error e => .refuse logger [.event (.resolved s)] e
    | .ok p => .play logger s p

/-- Plans what an invocation asks for. -/
def plan (i : Invocation) : Plan :=
  match Arguments.parse i.arguments with
  | .error fault => .refuse (Logger.ofFlags i.environment false false) [] (.argument fault)
  | .ok .help => .help
  | .ok (.run a) => planRun i.files i.environment a

/-! ### Play -/

/-- What has come of playing a puzzle: the result, the lengths of the plays that the board found
complete, and standard output. -/
structure Play where
  result : Except Error Summary
  completed : List UInt64
  stdout : Store

/-- Plays a puzzle on standard output, which is buffered, and gives the output up at the end. -/
def play (s : Settings) (p : Puzzle) (stdout : Store) : Play :=
  let sink := Writer.sink s.format
  let start := Writer.start s.format (Channel.withBuffer stdout)
  if s.verify then
    let (result, final) := Engine.run sink.verified s.strategy p (Verified.start p start)
    ⟨result, final.completed, Writer.close s.format final.inner⟩
  else
    let (result, final) := Engine.run sink s.strategy p start
    ⟨result, [], Writer.close s.format final⟩

/-- Plays a puzzle and sends the output as it comes; gives the result and the plays found complete.
What waits at the end is sent too, and nobody asks whether it got through. -/
def stream {μ : Type → Type} [Monad μ] (send : ByteArray → μ (Option String)) (s : Settings)
    (p : Puzzle) : μ (Except Error Summary × List UInt64) := do
  let sink := Writer.sink s.format
  let outlet := Outlet.ofFormat s.format
  let start := Writer.start s.format (Channel.withBuffer {})
  if s.verify then
    let port := outlet.verified.port send sink.verified
    let (result, final) ← (Engine.drive port s.strategy p).run (Verified.start p start)
    let _ ← send (Writer.close s.format final.inner).bytes
    return (result, final.completed)
  else
    let port := outlet.port send sink
    let (result, final) ← (Engine.drive port s.strategy p).run start
    let _ ← send (Writer.close s.format final).bytes
    return (result, [])

/-- The notices before the first move. -/
def opening (s : Settings) (p : Puzzle) : List Notice :=
  [.event (.resolved s)] ++ (if s.verify then [.event .verifying] else []) ++
    [.event (.started p), .event (.solving p s.strategy)]

/-- The notices after the last move. -/
def closing (s : Settings) (completed : List UInt64) : Except Error Summary → List Notice
  | .ok summary =>
    completed.map (fun moves => .event (.verified moves)) ++ [.event (.finished summary.moves)] ++
      if s.summary then [.summary summary] else []
  | .error e => completed.map (fun moves => .event (.verified moves)) ++ e.notices

/-- The exit code of a program with this result. -/
def exitCode : Except Error Summary → Nat
  | .ok _ => 0
  | .error e => e.exitCode

/-! ### Outcomes -/

/-- What is left of a program that has ended. -/
structure Outcome where
  exitCode : Nat
  stdout : Store
  logger : Logger
  notices : List Notice

/-- What stands on standard error. -/
def Outcome.stderr (o : Outcome) (view : View) : String :=
  String.join (o.notices.map (Notice.text o.logger view))

/-- Runs the program. -/
def run (i : Invocation) : Outcome :=
  match plan i with
  | .help => {
      exitCode := 0
      stdout := (i.stdout.writeAll helpText.toUTF8).2
      logger := Logger.ofFlags i.environment false false
      notices := [] }
  | .refuse logger before e => {
      exitCode := e.exitCode
      stdout := i.stdout
      logger
      notices := before ++ e.notices }
  | .play logger s p =>
    let outcome := play s p i.stdout
    { exitCode := exitCode outcome.result
      stdout := outcome.stdout
      logger
      notices := opening s p ++ closing s outcome.completed outcome.result }

end Program

end TowerOfHanoi
