/-
TowerOfHanoi/Proofs/Delivery.lean

Delivery of moves to a store, in each of the formats.  A sink that has taken
the moves `ms` has handed over the stream `encode f ms` (`Writer.Holds`).  One
more move makes the encoding longer (`encode_concat`), by what the pieces that
the sink writes for it join to (`increment_text` and the like), so with the lemmas on
streams each sink either takes it, or leaves the store full of the beginning
of the longer encoding (`Holds.emit`); by induction the same goes for a list
of moves (`Holds.emitAll`).

A gate in front of a sink passes on the beginning of a list and turns the rest
away (`emitAll_gated`), so a run through a gate into a limited store is cut
short by whichever comes first.

Main result: `run_reports_truncation`, a run that succeeds has stored
everything, and one that does not has said so.
-/
import TowerOfHanoi.Proofs.Emission
import TowerOfHanoi.Proofs.Encoding

namespace TowerOfHanoi

/-! ### Gates -/

/-- A gate passes on as many moves as it lets through and turns away the next. -/
theorem Sink.emitAll_gated {σ : Type} (sink : Sink σ) (k : Nat) (s : σ) (ms : List Move) :
    ∃ left, sink.gated.emitAll ⟨k, s⟩ ms =
      match sink.emitAll s (ms.take k) with
      | (.error e, s') => (.error e, ⟨left, s'⟩)
      | (.ok (), s') => (if ms.length ≤ k then .ok () else .error (.io "closed"), ⟨left, s'⟩) := by
  induction ms generalizing k s with
  | nil => exact ⟨k, by simp [emitAll]⟩
  | cons m ms ih =>
    cases k with
    | zero => exact ⟨0, by simp [emitAll, gated]⟩
    | succ k =>
      have hemit : sink.gated.emit ⟨k + 1, s⟩ m
          = ((sink.emit s m).1, ⟨k, (sink.emit s m).2⟩) := rfl
      simp only [emitAll, List.take_succ_cons, hemit]
      rcases sink.emit s m with ⟨e | ⟨⟨⟩⟩, s'⟩
      · exact ⟨k, rfl⟩
      · obtain ⟨left, h⟩ := ih k s'
        refine ⟨left, h.trans ?_⟩
        simp

theorem Sink.gated_finish {σ : Type} (sink : Sink σ) (k : Nat) (s : σ) :
    sink.gated.finish ⟨k, s⟩ = ((sink.finish s).1, ⟨k, (sink.finish s).2⟩) :=
  rfl

namespace Output

open Store (Overflows)

/-! ### Sinks -/

/-- A fault of a channel is reported as an output failure. -/
theorem Ends.ioResult {S : Type} {P Q : S → Prop} {r : Except String Unit × S}
    (h : Ends P (fun _ => Q) r) : Ends P (fun e s => Q s ∧ e.exitCode = 2) (ioResult r) := by
  cases h with
  | ok h => exact .ok h
  | error h => exact .error ⟨h, rfl⟩

/-- Printing to a channel is writing the primitives in UTF-8, one after another. -/
theorem printAll_console (c : Channel) (ps : List Print) :
    Printer.console.printAll c ps
      = ioResult (c.writeEach ((ps.map Print.toText).map String.toUTF8)) := by
  induction ps generalizing c with
  | nil => rfl
  | cons p ps ih =>
    simp only [Printer.printAll, List.map_cons, Channel.writeEach, Printer.console,
      Print.toBytes_eq] at ih ⊢
    rcases c.write p.toText.toUTF8 with ⟨fault | ⟨⟨⟩⟩, c'⟩
    · rfl
    · exact ih c'

namespace Writer

/-- The sink has been handed the encoding of a list of moves, and none of it is lost. -/
def Holds (base : Store) : (f : Format) → Writer f → List Move → Prop
  | .text, c, ms => Channel.Carries base c (encode .text ms)
  | .json, c, ms => Channel.Carries base c (encode .json ms)
  | .csv, s, ms => Csv.Carries base (!ms.isEmpty) s (encode .csv ms)

/-- The store behind the sink is full of the beginning of the encoding of a list of moves. -/
def Cut (base : Store) (f : Format) (s : Writer f) (ms : List Move) : Prop :=
  Overflows base (channel f s).store (encode f ms)

variable {base : Store} {f : Format} {s : Writer f} {ms : List Move}

theorem holds_start (hbase : base.bytes = .empty) (f : Format) (buffered : Bool) :
    Holds base f (start f { store := base, buffered }) [] := by
  have hchannel : Channel.Carries base { store := base, buffered } .empty := by
    refine ⟨⟨rfl, fun limit _ => ?_, ?_⟩, fun _ => rfl⟩
    · simp [hbase]
    · simp [hbase]
  cases f with
  | text => exact hchannel
  | json => exact hchannel
  | csv => exact ⟨⟨.empty, hchannel, rfl⟩, rfl⟩

theorem Cut.append (h : Cut base f s ms) (ms' : List Move) : Cut base f s (ms ++ ms') := by
  obtain ⟨more, hmore⟩ := exists_encode_append f ms ms'
  rw [Cut, hmore]
  exact Overflows.append h more

/-- **A sink takes a move or runs out of room for it.** -/
theorem Holds.emit (h : Holds base f s ms) (m : Move) :
    Ends (Holds base f · (ms ++ [m])) (fun e s' => Cut base f s' (ms ++ [m]) ∧ e.exitCode = 2)
      ((sink f).emit s m) := by
  cases f with
  | text =>
    have hwrite := Channel.Carries.writeEach h (((movePrints m).map Print.toText).map String.toUTF8)
    simp only [Holds, Cut, encode_concat, increment_text]
    show Ends _ _ (Printer.console.printAll s (movePrints m))
    rw [printAll_console]
    exact hwrite.ioResult
  | json =>
    have hwrite := Channel.Carries.writeEach h (m.jsonTokens.map String.toUTF8)
    simp only [Holds, Cut, encode_concat, increment_json, ← ByteArray.append_assoc, sink, jsonSink]
    generalize Channel.writeEach s (m.jsonTokens.map String.toUTF8) = r at hwrite ⊢
    cases hwrite with
    | error hover => exact .error ⟨hover.append _, rfl⟩
    | ok hc => exact (hc.write _).ioResult
  | csv =>
    have hwrite := Csv.Carries.writeMove h m
    have hheaded : (!(ms ++ [m]).isEmpty) = true := by simp
    simp only [Holds, Cut, encode_concat, increment_csv, ← ByteArray.append_assoc, sink, csvSink,
      hheaded]
    generalize Csv.writeMove s m = r at hwrite ⊢
    cases hwrite with
    | error hover => exact .error ⟨hover, rfl⟩
    | ok hs => exact .ok hs

/-- A list of moves is taken in full, or up to where the room ends. -/
theorem Holds.emitAll (h : Holds base f s ms) (ms' : List Move) :
    Ends (Holds base f · (ms ++ ms')) (fun e s' => Cut base f s' (ms ++ ms') ∧ e.exitCode = 2)
      ((sink f).emitAll s ms') := by
  induction ms' generalizing s ms with
  | nil =>
    rw [List.append_nil]
    exact .ok h
  | cons m ms' ih =>
    have hemit := h.emit m
    rw [Sink.emitAll, List.append_cons]
    generalize (sink f).emit s m = r at hemit ⊢
    cases hemit with
    | error hcut => exact .error ⟨hcut.1.append ms', hcut.2⟩
    | ok hs => exact ih hs

/-- Finishing succeeds only if everything has been stored, and loses nothing if the store refuses to
be flushed. -/
theorem Holds.finish (h : Holds base f s ms) :
    Ends (fun s' => Holds base f s' ms ∧ ∀ limit ∈ base.limit, (encode f ms).size ≤ limit)
      (fun e s' =>
        (Cut base f s' ms ∨ base.flushFault ≠ none ∧ Holds base f s' ms) ∧ e.exitCode = 2)
      ((sink f).finish s) := by
  have hchannel {c : Channel} {w : ByteArray} (hc : Channel.Carries base c w) :
      Ends (fun c' => Channel.Carries base c' w ∧ ∀ limit ∈ base.limit, w.size ≤ limit)
        (fun _ c' =>
          Overflows base c'.store w ∨ base.flushFault ≠ none ∧ Channel.Carries base c' w) c.flush :=
    hc.flush.imp (fun _ ⟨hc', hempty⟩ => ⟨hc', hc'.size_le hempty⟩) fun _ _ => id
  cases f with
  | text =>
    simp only [sink, textSink, Printer.console]
    exact (hchannel h).ioResult
  | json =>
    simp only [sink, jsonSink]
    exact (hchannel h).ioResult
  | csv =>
    simp only [sink, csvSink]
    have hflushed := Csv.Carries.flush h
    refine Ends.ioResult (hflushed.imp (fun s' hs' => ?_) fun _ _ => id)
    obtain ⟨hs, hrows, hempty⟩ := hs'
    exact ⟨hs, hs.size_le hrows hempty⟩

/-- Over a store that can be flushed, finishing fails only for want of room. -/
theorem Holds.finish_of_flushes (h : Holds base f s ms) (hflush : base.flushFault = none) :
    Ends (fun s' => Holds base f s' ms ∧ ∀ limit ∈ base.limit, (encode f ms).size ≤ limit)
      (fun e s' => Cut base f s' ms ∧ e.exitCode = 2) ((sink f).finish s) :=
  h.finish.imp (fun _ => id) fun _ _ ⟨hs, hcode⟩ =>
    ⟨hs.resolve_right fun ⟨hfault, _⟩ => hfault hflush, hcode⟩

/-! ### Giving up a sink -/

theorem Holds.close (h : Holds base f s ms) : (close f s).bytes = base.visible (encode f ms) := by
  cases f with
  | text => exact Channel.Carries.close h
  | json => exact Channel.Carries.close h
  | csv => exact Csv.Carries.close h

theorem Cut.close (h : Cut base f s ms) : (close f s).bytes = base.visible (encode f ms) := by
  cases f with
  | text => exact Channel.close_of_overflows h
  | json => exact Channel.close_of_overflows h
  | csv => exact Csv.close_of_overflows h

theorem Cut.limit_lt (h : Cut base f s ms) :
    ∃ limit, base.limit = some limit ∧ limit < (encode f ms).size :=
  ⟨_, Overflows.limit_eq h, Overflows.size_lt h⟩

/-! ### Runs through a gate -/

/-- **A run through a gate into a store.**  If it succeeds, the gate has let every move through and
all of their encoding is stored; if it fails, the gate was too small or the store was. -/
theorem Holds.run_gated (h : Holds base f s []) (hflush : base.flushFault = none)
    (strategy : Strategy) (p : Puzzle) (k : Nat) :
    Ends
      (fun g => p.solution.length ≤ k ∧ Holds base f g.inner (p.solution.take k) ∧
        ∀ limit ∈ base.limit, (encode f (p.solution.take k)).size ≤ limit)
      (fun e g => e.exitCode = 2 ∧ (Cut base f g.inner (p.solution.take k) ∨
        k < p.solution.length ∧ Holds base f g.inner (p.solution.take k)))
      (Engine.run (sink f).gated strategy p ⟨k, s⟩) := by
  have hemit := h.emitAll (p.solution.take k)
  obtain ⟨left, hgate⟩ := Sink.emitAll_gated (sink f) k s p.solution
  rw [Engine.run_eq, hgate]
  rw [List.nil_append] at hemit
  generalize (sink f).emitAll s (p.solution.take k) = r at hemit ⊢
  cases hemit with
  | error hcut => exact .error ⟨hcut.2, .inl hcut.1⟩
  | @ok _ s' hs =>
    by_cases hk : p.solution.length ≤ k
    · -- only now is the sink finished, and bytes that wait may still find no room
      have hfinish := hs.finish_of_flushes hflush
      simp only [if_pos hk, Sink.gated_finish]
      generalize (sink f).finish s' = r at hfinish ⊢
      cases hfinish with
      | error hcut => exact .error ⟨hcut.2, .inl hcut.1⟩
      | ok hs => exact .ok ⟨hk, hs⟩
    · simp only [if_neg hk]
      exact .error ⟨rfl, .inr ⟨Nat.lt_of_not_le hk, hs⟩⟩

end Writer

/-- **No silent truncation.**  A run succeeds exactly if the gate lets all moves through and their
encoding fits in the store; any other run fails with the exit code of an output failure.  Whether or
not it succeeds, the store is left with as much as fits of the encoding of the moves that the gate
let through. -/
theorem run_reports_truncation (p : Puzzle) (strategy : Strategy) (f : Format) (buffered : Bool)
    (limit : Nat) (limitFault : String) (k : Nat) :
    let run := Engine.run (Writer.sink f).gated strategy p
      ⟨k, Writer.start f { store := { limit := some limit, limitFault }, buffered }⟩
    let passed := encode f (p.solution.take (min k (2 ^ p.disks.count - 1)))
    ((∃ summary, run.1 = .ok summary) ↔
        2 ^ p.disks.count - 1 ≤ k ∧ (encode f p.solution).size ≤ limit) ∧
      (∀ e, run.1 = .error e → e.exitCode = 2) ∧
      (Writer.close f run.2.inner).bytes = passed.extract 0 (min limit passed.size) := by
  intro run passed
  have hlength : p.solution.length = 2 ^ p.disks.count - 1 := by
    rw [Puzzle.length_solution, towerMoves_eq]
  have hpassed : passed = encode f (p.solution.take k) := by
    show encode f (p.solution.take (min k _)) = _
    rw [← hlength, ← List.take_take, List.take_length]
  have hstart : Writer.Holds { limit := some limit, limitFault } f _ [] :=
    Writer.holds_start rfl f buffered
  have hrun := hstart.run_gated rfl strategy p k
  rw [hpassed, ← hlength]
  change Ends _ _ run at hrun
  generalize run = r at hrun ⊢
  cases hrun with
  | @ok summary g h =>
    obtain ⟨hk, hholds, hfits⟩ := h
    refine ⟨⟨fun _ => ⟨hk, ?_⟩, fun _ => ⟨summary, rfl⟩⟩, fun e he => ?_, hholds.close⟩
    · rw [List.take_of_length_le hk] at hfits
      exact hfits limit rfl
    · cases he
  | @error e g h =>
    obtain ⟨hcode, hstate⟩ := h
    refine ⟨⟨fun ⟨_, hok⟩ => ?_, fun ⟨hk, hfits⟩ => ?_⟩, fun e' he => ?_, ?_⟩
    · cases hok
    · -- neither cause of a failure is left
      exfalso
      rcases hstate with hcut | ⟨hlt, -⟩
      · obtain ⟨_, hlimit, hlt⟩ := hcut.limit_lt
        cases hlimit
        rw [List.take_of_length_le hk] at hlt
        omega
      · omega
    · cases he
      exact hcode
    · rcases hstate with hcut | ⟨-, hholds⟩
      · exact hcut.close
      · exact hholds.close

end Output

end TowerOfHanoi
