/-
TowerOfHanoi/Output/JsonLines.lean

Moves as JSON, one object a line.  The object is written token by token; a
fault within it is a serialization error, a fault at the newline after it or
at the end is an input-output error.
-/
import TowerOfHanoi.Json.Literal
import TowerOfHanoi.Output.Printer

namespace TowerOfHanoi

/-- The JSON object of a move. -/
def Move.json (m : Move) : String :=
  "\x7b\"disk\":" ++ Text.decimal m.disk ++ ",\"from\":" ++ Json.quote m.source.text ++
    ",\"to\":" ++ Json.quote m.target.text ++ "\x7d"

/-- The tokens of the JSON object of a move, each written at once. -/
def Move.jsonTokens (m : Move) : List String :=
  ["\x7b", "\"", "disk", "\"", ":", Text.decimal m.disk,
    ",", "\"", "from", "\"", ":", "\"", Json.escapeText m.source.text, "\"",
    ",", "\"", "to", "\"", ":", "\"", Json.escapeText m.target.text, "\"", "\x7d"]

namespace Output

/-- The sink that writes each move as a JSON object on a line of its own. -/
def jsonSink : Sink Channel where
  emit c m :=
    match c.writeEach (m.jsonTokens.map String.toUTF8) with
    | (.error fault, c) => (.error (.serialization fault), c)
    | (.ok (), c) => ioResult (c.write "\n".toUTF8)
  finish c := ioResult c.flush

/-- A list of moves as JSON lines. -/
def encodeJson (ms : List Move) : String :=
  String.join (ms.map fun m => m.json ++ "\n")

end Output

end TowerOfHanoi
