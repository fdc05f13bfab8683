/-
TowerOfHanoi/Output/Csv.lean

Moves as comma-separated values.  Before the first row stands a header; a
field that holds a comma, a quote or a line break is quoted, with its quotes
doubled.  The sink writes a row in pieces, which gather in a buffer of their
own and go to the channel when the next one does not fit any more, and when the
sink is finished or given up; what the channel did not take in full stays in
the buffer.
-/
import TowerOfHanoi.Output.Printer

namespace TowerOfHanoi.Output

/-! ### Tables -/

/-- A field with this character is quoted. -/
def needsQuotes (c : Char) : Bool :=
  c == '"' || c == ',' || c == '\r' || c == '\n'

/-- A character between quotes. -/
def quotedText (c : Char) : List Char :=
  if c = '"' then ['"', '"'] else [c]

/-- A field as it is written. -/
def fieldText (s : String) : List Char :=
  if s.toList.any needsQuotes then ['"'] ++ s.toList.flatMap quotedText ++ ['"'] else s.toList

/-- A row as it is written, with its line end. -/
def rowText : List String → List Char
  | [] => ['\n']
  | [field] => fieldText field ++ ['\n']
  | field :: fields => fieldText field ++ [','] ++ rowText fields

/-- The names of the columns. -/
def csvHeader : List String := ["disk", "from", "to"]

/-- The fields of a move. -/
def moveFields (m : Move) : List String :=
  [Text.decimal m.disk, m.source.text, m.target.text]

/-- The table of a list of moves; without a move there is no header either. -/
def csvRows (ms : List Move) : List (List String) :=
  if ms = [] then [] else csvHeader :: ms.map moveFields

/-- A list of moves as comma-separated values. -/
def encodeCsv (ms : List Move) : String :=
  String.ofList ((csvRows ms).flatMap rowText)

/-! ### Pieces -/

/-- The bytes of a text, one by one. -/
def bytePieces (s : String) : List ByteArray :=
  s.toUTF8.data.toList.map fun b => ByteArray.mk #[b]

/-- The pieces of a character inside quotes; the two quotes that stand for one belong together. -/
def quotedPieces (c : Char) : List ByteArray :=
  if c = '"' then ["\"\"".toUTF8] else bytePieces (String.singleton c)

/-- The pieces of a field. -/
def fieldPieces (s : String) : List ByteArray :=
  if s.toList.any needsQuotes then
    ["\"".toUTF8] ++ s.toList.flatMap quotedPieces ++ ["\"".toUTF8]
  else bytePieces s

/-- The pieces of a row with its line end. -/
def rowPieces : List String → List ByteArray
  | [] => ["\n".toUTF8]
  | [field] => fieldPieces field ++ ["\n".toUTF8]
  | field :: fields => fieldPieces field ++ [",".toUTF8] ++ rowPieces fields

/-! ### The sink -/

/-- A channel with the rows that wait in front of it. -/
structure Csv where
  channel : Channel
  headed : Bool := false
  rows : ByteArray := .empty

namespace Csv

/-- Hands the waiting rows to the channel, and keeps all of them unless it takes them in full. -/
def drain (s : Csv) : Except String Unit × Csv :=
  match s.channel.write s.rows with
  | (.error fault, channel) => (.error fault, { s with channel })
  | (.ok (), channel) => (.ok (), { s with channel, rows := .empty })

/-- Puts a piece in the buffer, which is drained first if the piece does not fit. -/
def put (s : Csv) (piece : ByteArray) : Except String Unit × Csv :=
  if bufferCapacity - s.rows.size < piece.size then
    match s.drain with
    | (.error fault, s) => (.error fault, s)
    | (.ok (), s) => (.ok (), { s with rows := s.rows ++ piece })
  else (.ok (), { s with rows := s.rows ++ piece })

/-- Puts pieces in the buffer, up to the first fault. -/
def putAll (s : Csv) : List ByteArray → Except String Unit × Csv
  | [] => (.ok (), s)
  | piece :: pieces =>
    match s.put piece with
    | (.error fault, s) => (.error fault, s)
    | (.ok (), s) => s.putAll pieces

/-- Writes the header, once. -/
def writeHeader (s : Csv) : Except String Unit × Csv :=
  if s.headed then (.ok (), s)
  else
    match s.putAll (rowPieces csvHeader) with
    | (.error fault, s) => (.error fault, s)
    | (.ok (), s) => (.ok (), { s with headed := true })

/-- Writes the row of a move, after the header if it is the first. -/
def writeMove (s : Csv) (m : Move) : Except String Unit × Csv :=
  match s.writeHeader with
  | (.error fault, s) => (.error fault, s)
  | (.ok (), s) => s.putAll (rowPieces (moveFields m))

/-- Hands the waiting rows to the channel and flushes it. -/
def flush (s : Csv) : Except String Unit × Csv :=
  match s.drain with
  | (.error fault, s) => (.error fault, s)
  | (.ok (), s) =>
    let (result, channel) := s.channel.flush
    (result, { s with channel })

/-- Gives up the sink: what waits is stored as far as it fits. -/
def close (s : Csv) : Store :=
  s.flush.2.channel.close

end Csv

/-- The sink that writes each move as a row. -/
def csvSink : Sink Csv where
  emit s m :=
    match s.writeMove m with
    | (.error fault, s) => (.error (.csv fault), s)
    | (.ok (), s) => (.ok (), s)
  finish s := ioResult s.flush

end TowerOfHanoi.Output
