/-
TowerOfHanoi/Output/Writer.lean

The sink of each format.  A format has a sink over a channel, with states of
its own, and an encoding of a list of moves; the encoding is what the sink
leaves in a store that takes everything.
-/
import TowerOfHanoi.Choice
import TowerOfHanoi.Output.Csv
import TowerOfHanoi.Output.JsonLines

namespace TowerOfHanoi.Output

/-- The states of the sink of a format. -/
abbrev Writer : Format → Type
  | .text => Channel
  | .json => Channel
  | .csv => Csv

namespace Writer

/-- The sink of a format. -/
def sink : (f : Format) → Sink (Writer f)
  | .text => textSink Printer.console
  | .json => jsonSink
  | .csv => csvSink

/-- The state in which nothing has been written to a channel. -/
def start : (f : Format) → Channel → Writer f
  | .text, channel => channel
  | .json, channel => channel
  | .csv, channel => { channel }

/-- The channel behind a sink. -/
def channel : (f : Format) → Writer f → Channel
  | .text, c => c
  | .json, c => c
  | .csv, s => Csv.channel s

/-- Puts another store behind a sink. -/
def withStore : (f : Format) → Store → Writer f → Writer f
  | .text, store, (c : Channel) => { c with store }
  | .json, store, (c : Channel) => { c with store }
  | .csv, store, (s : Csv) => { s with channel := { s.channel with store } }

/-- Gives up a sink: what waits in its buffers is stored as far as it fits. -/
def close : (f : Format) → Writer f → Store
  | .text, c => Channel.close c
  | .json, c => Channel.close c
  | .csv, s => Csv.close s

/-- Takes the channel out of a sink that has not been finished.  Rows that wait are handed over first,
and the channel is flushed behind them, which may fail. -/
def unwrap : (f : Format) → Writer f → Except Error Unit × Channel
  | .text, c => (.ok (), c)
  | .json, c => (.ok (), c)
  | .csv, s =>
    let (result, s) := ioResult (Csv.flush s)
    (result, s.channel)

end Writer

/-- A list of moves in a format. -/
def encode : Format → List Move → ByteArray
  | .text, ms => (encodeText ms).toUTF8
  | .json, ms => (encodeJson ms).toUTF8
  | .csv, ms => (encodeCsv ms).toUTF8

end TowerOfHanoi.Output
