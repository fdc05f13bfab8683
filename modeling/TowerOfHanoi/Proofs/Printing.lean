/-
TowerOfHanoi/Proofs/Printing.lean

The two printers are one.  A printer to a channel deals in bytes and a printer
to memory in characters, but a primitive has a text of its own (`toText`), and
both come down to it:

    p.toBytes = p.toText.toUTF8        p.addTo s = s ++ p.toText.

So over a channel that never fails, one call keeps the bytes handed over so far
equal to the encoding of the text in memory (`InStep.call`), and a list of calls
does (`InStep.callAll`).  The channel may have a buffer, which is drained at
places that have nothing to do with the calls.

Main result: `console_eq_memory`.
-/
import TowerOfHanoi.Proofs.Stream

namespace TowerOfHanoi.Output

/-! ### Primitives -/

/-- The text that a primitive stands for. -/
def Print.toText : Print → String
  | .text s => s
  | .char c => String.singleton c
  | .number n => Text.decimal n

/-- The bytes of a primitive are its text in UTF-8. -/
theorem Print.toBytes_eq (p : Print) : p.toBytes = p.toText.toUTF8 := by
  cases p with
  | text s => rfl
  | char c =>
    show (String.utf8EncodeChar c).toByteArray = (String.singleton c).toUTF8
    rw [String.toUTF8_eq_toByteArray, String.toByteArray_singleton, List.utf8Encode_singleton]
  | number n => rfl

/-- A primitive is added to a text by adding its own. -/
theorem Print.addTo_eq (p : Print) (s : String) : p.addTo s = s ++ p.toText := by
  cases p with
  | text t => rfl
  | char c => exact String.push_eq_append c
  | number n => rfl

/-! ### Calls -/

namespace Printer

/-- A call that a printer receives. -/
inductive Call where
  | print (p : Print)
  | flush
deriving DecidableEq

/-- The text that a call adds. -/
def Call.toText : Call → String
  | .print p => p.toText
  | .flush => ""

variable {τ : Type}

/-- Makes a call. -/
def call (printer : Printer τ) (t : τ) : Call → Except Error Unit × τ
  | .print p => printer.print t p
  | .flush => printer.flush t

/-- Makes calls in order, each on the state that the one before has left, whatever its result. -/
def callAll (printer : Printer τ) (t : τ) : List Call → List (Except Error Unit) × τ
  | [] => ([], t)
  | c :: cs => ((printer.call t c).1 :: (printer.callAll (printer.call t c).2 cs).1,
      (printer.callAll (printer.call t c).2 cs).2)

/-- In memory every call succeeds and adds its text. -/
theorem call_memory (s : String) (c : Call) : memory.call s c = (.ok (), s ++ c.toText) := by
  cases c with
  | print p => exact congrArg (Prod.mk _) (p.addTo_eq s)
  | flush => exact congrArg (Prod.mk _) String.append_empty.symm

theorem callAll_memory (s : String) (cs : List Call) :
    memory.callAll s cs = (cs.map fun _ => .ok (), s ++ String.join (cs.map Call.toText)) := by
  induction cs generalizing s with
  | nil => simp [callAll]
  | cons c cs ih =>
    rw [callAll, call_memory, ih]
    simp [String.join_cons, String.append_assoc]

/-! ### Two printers in step -/

/-- The channel has come from `start`, and all that it was handed since is the text in UTF-8. -/
structure InStep (start c : Channel) (s : String) : Prop where
  carries : Channel.Carries start.store c (start.store.bytes ++ s.toUTF8)
  buffered : c.buffered = start.buffered

end Printer

namespace Channel

theorem buffered_accept (c : Channel) (chunk : ByteArray) :
    (c.accept chunk).2.buffered = c.buffered := by
  unfold accept
  split <;> rfl

theorem buffered_write (c : Channel) (chunk : ByteArray) :
    (c.write chunk).2.buffered = c.buffered := by
  have hdrain : c.drain.2.buffered = c.buffered := rfl
  unfold write
  split
  · rfl
  · split
    · generalize c.drain = r at hdrain ⊢
      obtain ⟨fault | ⟨⟨⟩⟩, c'⟩ := r
      · exact hdrain
      · exact (c'.buffered_accept chunk).trans hdrain
    · exact c.buffered_accept chunk

theorem buffered_flush (c : Channel) : c.flush.2.buffered = c.buffered := by
  have hdrain : c.drain.2.buffered = c.buffered := rfl
  unfold flush
  generalize c.drain = r at hdrain ⊢
  obtain ⟨fault | ⟨⟨⟩⟩, c'⟩ := r <;> exact hdrain

end Channel

namespace Printer

variable {start c : Channel} {s : String}

theorem inStep_start {store : Store} (hlimit : store.limit = none) (buffered : Bool) :
    InStep { store, buffered } { store, buffered } "" where
  carries := by
    refine ⟨⟨rfl, ?_, ?_⟩, fun _ => rfl⟩
    · intro limit hmem
      rw [hlimit] at hmem
      cases hmem
    · rfl
  buffered := rfl

/-- **One call keeps the printers in step**, and over a store that never fails it succeeds. -/
theorem InStep.call (h : InStep start c s) (hlimit : start.store.limit = none)
    (hflush : start.store.flushFault = none) (k : Call) :
    ∃ c', console.call c k = (.ok (), c') ∧ InStep start c' (s ++ k.toText) := by
  have hroom : ∀ c' w, ¬ Store.Overflows start.store c' w := by
    intro c' w hover
    have hfull := hover.limit_eq
    rw [hlimit] at hfull
    cases hfull
  cases k with
  | print p =>
    have hwrite := h.carries.write p.toBytes
    have hkept := c.buffered_write p.toBytes
    simp only [Printer.call, console]
    generalize c.write p.toBytes = r at hwrite hkept ⊢
    cases hwrite with
    | error hover => exact absurd hover (hroom _ _)
    | @ok _ c' hc =>
      refine ⟨c', rfl, ?_, hkept.trans h.buffered⟩
      rw [p.toBytes_eq, ByteArray.append_assoc] at hc
      simpa [Call.toText, String.toByteArray_append] using hc
  | flush =>
    have hdone := h.carries.flush
    have hkept := c.buffered_flush
    simp only [Printer.call, console]
    generalize c.flush = r at hdone hkept ⊢
    cases hdone with
    | error hfault =>
      rcases hfault with hover | ⟨hrefused, -⟩
      · exact absurd hover (hroom _ _)
      · exact absurd hflush hrefused
    | @ok _ c' hc =>
      refine ⟨c', rfl, ?_, hkept.trans h.buffered⟩
      rw [Call.toText, String.append_empty]
      exact hc.1

/-- Calls made one after another keep the printers in step. -/
theorem InStep.callAll (h : InStep start c s) (hlimit : start.store.limit = none)
    (hflush : start.store.flushFault = none) (ks : List Call) :
    ∃ c', console.callAll c ks = (ks.map fun _ => .ok (), c') ∧
      InStep start c' (s ++ String.join (ks.map Call.toText)) := by
  induction ks generalizing c s with
  | nil => exact ⟨c, rfl, by simpa using h⟩
  | cons k ks ih =>
    obtain ⟨c₁, hcall, h₁⟩ := h.call hlimit hflush k
    obtain ⟨c₂, hcalls, h₂⟩ := ih h₁
    refine ⟨c₂, ?_, ?_⟩
    · simp only [Printer.callAll, hcall, hcalls, List.map_cons]
    · rw [List.map_cons, String.join_cons, ← String.append_assoc]
      exact h₂

/-- **The two printers are the same function**, one in bytes and one in characters.  Whatever texts,
characters and numbers are printed, in whatever order and with flushes in between: in memory and over
a store that never fails, buffered or not, every call succeeds.  In memory this leaves what was
printed, one after another.  The channel has been handed just this text in UTF-8, behind what the store
had before: without a buffer all of it is in the store at once, and with one it is in the store or
waits, in this order, until the channel is given up. -/
theorem console_eq_memory (store : Store) (hlimit : store.limit = none)
    (hflush : store.flushFault = none) (buffered : Bool) (calls : List Call) :
    let onConsole := console.callAll { store, buffered } calls
    let inMemory := memory.callAll "" calls
    (onConsole.1 = calls.map fun _ => .ok ()) ∧ (inMemory.1 = calls.map fun _ => .ok ()) ∧
      inMemory.2 = String.join (calls.map Call.toText) ∧
      onConsole.2.store.bytes ++ onConsole.2.waiting = store.bytes ++ inMemory.2.toUTF8 ∧
      (buffered = false → onConsole.2.store.bytes = store.bytes ++ inMemory.2.toUTF8) ∧
      onConsole.2.close.bytes = store.bytes ++ inMemory.2.toUTF8 := by
  intro onConsole inMemory
  obtain ⟨c, hcalls, hc⟩ := (inStep_start hlimit buffered).callAll hlimit hflush calls
  have hmemory : inMemory = (calls.map fun _ => .ok (), "" ++ String.join (calls.map Call.toText)) :=
    callAll_memory "" calls
  have hconsole : onConsole = (calls.map fun _ => .ok (), c) := hcalls
  rw [hmemory, hconsole]
  refine ⟨rfl, rfl, String.empty_append, hc.carries.stored.whole, fun hdirect => ?_, ?_⟩
  · have hempty : c.waiting = .empty := hc.carries.direct (hc.buffered.trans hdirect)
    have hwhole := hc.carries.stored.whole
    rwa [hempty, ByteArray.append_empty] at hwhole
  · rw [hc.carries.close, Store.visible, hlimit]

/-- Characters of one, two, three and four bytes and the ends of the range of 64-bit numbers, with a
flush among them. -/
theorem console_eq_memory_widths :
    let calls : List Call := [.print (.text "aé"), .print (.char '€'), .flush, .print (.char '🗼'),
      .print (.number 0), .print (.number 18446744073709551615)]
    let text := "aé€🗼018446744073709551615"
    (memory.callAll "" calls).2 = text ∧
      (console.callAll (.direct {}) calls).2.store.bytes = text.toUTF8 := by
  intro calls text
  obtain ⟨-, -, htext, -, hbytes, -⟩ := console_eq_memory {} rfl rfl false calls
  have hjoin : String.join (calls.map Call.toText) = text := by decide +kernel
  rw [hjoin] at htext
  refine ⟨htext, (hbytes rfl).trans ?_⟩
  rw [htext]
  exact ByteArray.empty_append

end Printer

end TowerOfHanoi.Output
