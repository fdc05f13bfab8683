/-
TowerOfHanoi/Output/Printer.lean

Printers: destinations for text, fed with three primitives, a text, a
character and a number.  One printer writes the bytes of what it is given to a
channel; another adds it to a text in memory.  A printer makes a sink that
describes each move in a line of its own.
-/
import TowerOfHanoi.Output.Channel
import TowerOfHanoi.Sink

namespace TowerOfHanoi.Output

/-- Something that can be printed. -/
inductive Print where
  | text (s : String)
  | char (c : Char)
  | number (n : Nat)
deriving DecidableEq, Repr

/-- The bytes of a primitive: those of a text, the code units of a character, or the digits of a
number. -/
def Print.toBytes : Print → ByteArray
  | .text s => s.toUTF8
  | .char c => (String.utf8EncodeChar c).toByteArray
  | .number n => (Text.decimal n).toUTF8

/-- A text with a primitive added at its end. -/
def Print.addTo (s : String) : Print → String
  | .text t => s ++ t
  | .char c => s.push c
  | .number n => s ++ Text.decimal n

/-- A destination for text, as a machine with states `τ`. -/
structure Printer (τ : Type) where
  print : τ → Print → Except Error Unit × τ
  flush : τ → Except Error Unit × τ

/-- A fault of a channel as a failure. -/
def ioResult {α : Type} : Except String Unit × α → Except Error Unit × α
  | (.ok (), a) => (.ok (), a)
  | (.error fault, a) => (.error (.io fault), a)

namespace Printer

variable {τ : Type}

/-- Prints to a channel, in UTF-8, with one write for each primitive. -/
def console : Printer Channel where
  print c p := ioResult (c.write p.toBytes)
  flush c := ioResult c.flush

/-- Prints to a text in memory, which never fails. -/
def memory : Printer String where
  print s p := (.ok (), p.addTo s)
  flush s := (.ok (), s)

/-- Prints in order, up to the first failure. -/
def printAll (printer : Printer τ) (t : τ) : List Print → Except Error Unit × τ
  | [] => (.ok (), t)
  | p :: ps =>
    match printer.print t p with
    | (.error e, t) => (.error e, t)
    | (.ok (), t) => printer.printAll t ps

end Printer

/-- The primitives that print a move as a line. -/
def movePrints (m : Move) : List Print :=
  [.text "Move disk ", .number m.disk, .text " from rod ", .char m.source.label, .text " to rod ",
    .char m.target.label, .char '\n']

/-- The sink that prints each move as a line, and flushes the printer when it is finished. -/
def textSink {τ : Type} (printer : Printer τ) : Sink τ where
  emit t m := printer.printAll t (movePrints m)
  finish t := printer.flush t

/-- A list of moves as lines of text. -/
def encodeText (ms : List Move) : String :=
  String.join (ms.map fun m => m.text ++ "\n")

end TowerOfHanoi.Output
