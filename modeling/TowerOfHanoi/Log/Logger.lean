/-
TowerOfHanoi/Log/Logger.lean

Writing the log.  A logger has a filter and writes each event that the filter
admits as a line, either of text or of JSON.  The environment may replace the
filter; a replacement that cannot be read is ignored.
-/
import TowerOfHanoi.Environment
import TowerOfHanoi.Log.Event

namespace TowerOfHanoi.Log

/-- How events are written, and which. -/
structure Logger where
  json : Bool
  filter : Filter

namespace Logger

/-- The filter that holds unless the environment replaces it: progress, and inner workings if
`verbose`. -/
def defaultFilter (verbose : Bool) : Filter :=
  if verbose then [⟨"hanoi_moves", some .debug⟩, ⟨"", some .info⟩]
  else [⟨"hanoi_moves", some .info⟩]

/-- The logger of a run; `verbose` is for readers of text only. -/
def ofFlags (env : Environment) (json verbose : Bool) : Logger where
  json
  filter :=
    ((env.value? "RUST_LOG").bind Filter.ofString?).getD (defaultFilter (verbose && !json))

/-- A character of a message in a line of text: what could steer a terminal is escaped. -/
def plainChar (c : Char) : String :=
  if c = '\x1b' || c = '\x07' || c = '\x08' || c = '\x0c' || c = '\x7f' then
    "\\x" ++ String.ofList (Text.hexPadded 2 c.toNat)
  else if 0x80 ≤ c.toNat && c.toNat ≤ 0x9F then Text.codePoint c
  else String.singleton c

/-- A level in a column of five. -/
def levelColumn (level : Level) : String :=
  String.ofList (List.replicate (5 - level.name.length) ' ') ++ level.name

/-- The line of an event. -/
def line (logger : Logger) (view : View) (e : Event) : String :=
  if logger.json then
    "\x7b\"timestamp\":" ++ Json.quote view.time ++ ",\"level\":" ++ Json.quote e.level.name ++
      ",\"fields\":\x7b\"message\":" ++ Json.quote (e.message view) ++ "\x7d\x7d\n"
  else
    view.time ++ " " ++ levelColumn e.level ++ " " ++
      String.join ((e.message view).toList.map plainChar) ++ "\n"

/-- What the logger writes about an event. -/
def write (logger : Logger) (view : View) (e : Event) : String :=
  if logger.filter.admits e.target e.level then logger.line view e else ""

end Logger

end TowerOfHanoi.Log
