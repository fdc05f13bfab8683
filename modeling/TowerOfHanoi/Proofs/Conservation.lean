/-
TowerOfHanoi/Proofs/Conservation.lean

Bytes on their way through a sink are neither lost nor repeated nor put in another
order, whatever calls are made.  A caller may go on after a failure, with a store
that is full, and may finish the sink as often as it likes, with a store that
refuses to be flushed.  After every call one of two things is true, of all moves
that have been passed so far (`Accounts`):

* `Holds`: their encoding is in the store or waits in front of it;
* `Cut`: the store is full of the beginning of it.

A sink leaves the first state only for want of room, and the second never, because
a full store does not change (`Cut.grows`).  So one call goes from moves that are
accounted for to moves that are accounted for (`Accounts.call`), and a list of
calls does (`Accounts.callAll`).

Main result: `stream_conserved`.
-/
import TowerOfHanoi.Proofs.Forwarding
import TowerOfHanoi.Proofs.Reliable

namespace TowerOfHanoi.Output

open Sink (Call)

@[simp] theorem ioResult_snd {α : Type} (r : Except String Unit × α) : (ioResult r).2 = r.2 := by
  rcases r with ⟨fault | ⟨⟨⟩⟩, a⟩ <;> rfl

namespace Writer

/-! ### Growth behind a sink -/

theorem grows_emit (f : Format) (s : Writer f) (m : Move) :
    (channel f s).store.Grows (channel f ((sink f).emit s m).2).store := by
  cases f with
  | text =>
    show Store.Grows _ (Printer.console.printAll s (movePrints m)).2.store
    rw [printAll_console, ioResult_snd]
    exact Channel.grows_writeEach s _
  | json =>
    have htokens := Channel.grows_writeEach s (m.jsonTokens.map String.toUTF8)
    simp only [sink, jsonSink]
    generalize Channel.writeEach s (m.jsonTokens.map String.toUTF8) = r at htokens ⊢
    obtain ⟨fault | ⟨⟨⟩⟩, c⟩ := r
    · exact htokens
    · rw [ioResult_snd]
      exact htokens.trans (c.grows_write _)
  | csv =>
    have hrow := Csv.grows_writeMove s m
    simp only [sink, csvSink]
    generalize Csv.writeMove s m = r at hrow ⊢
    obtain ⟨fault | ⟨⟨⟩⟩, s'⟩ := r <;> exact hrow

theorem grows_finish (f : Format) (s : Writer f) :
    (channel f s).store.Grows (channel f ((sink f).finish s).2).store := by
  cases f with
  | text =>
    have hflush := Channel.grows_flush s
    simp only [sink, textSink, Printer.console, ioResult_snd]
    generalize Channel.flush s = r at hflush ⊢
    exact hflush
  | json =>
    have hflush := Channel.grows_flush s
    simp only [sink, jsonSink, ioResult_snd]
    generalize Channel.flush s = r at hflush ⊢
    exact hflush
  | csv =>
    have hflush := Csv.grows_flush s
    simp only [sink, csvSink, ioResult_snd]
    generalize Csv.flush s = r at hflush ⊢
    exact hflush

/-- No call takes a byte out of the store. -/
theorem grows_call (f : Format) (s : Writer f) (c : Call) :
    (channel f s).store.Grows (channel f ((sink f).call s c).2).store := by
  cases c with
  | emit m => exact grows_emit f s m
  | finish => exact grows_finish f s

/-! ### Moves that are accounted for -/

/-- The encoding of a list of moves has been handed over, and what is not in the store waits, unless
the store is full. -/
def Accounts (base : Store) (f : Format) (s : Writer f) (ms : List Move) : Prop :=
  Holds base f s ms ∨ Cut base f s ms

variable {base : Store} {f : Format} {s s' : Writer f} {ms : List Move}

/-- A full store stays as it is. -/
theorem Cut.grows (h : Cut base f s ms) (hg : (channel f s).store.Grows (channel f s').store) :
    Cut base f s' ms := by
  rw [Cut, hg.full h.full]
  exact h

/-- **One call keeps the moves accounted for**, whether it succeeds or not, together with the move
that it passes. -/
theorem Accounts.call (h : Accounts base f s ms) (c : Call) :
    Accounts base f ((sink f).call s c).2 (ms ++ c.move?.toList) := by
  rcases h with hholds | hcut
  · cases c with
    | emit m =>
      exact (hholds.emit m).either (R := (Accounts base f · (ms ++ [m]))) (fun _ => .inl)
        fun _ _ h => .inr h.1
    | finish =>
      rw [Call.move?, Option.toList_none, List.append_nil]
      refine hholds.finish.either (R := (Accounts base f · ms)) (fun _ h => .inl h.1) ?_
      -- the store has overflowed, or it just refuses to be flushed
      rintro _ s' ⟨hcut | ⟨-, hholds⟩, -⟩
      · exact .inr hcut
      · exact .inl hholds
  · exact .inr ((hcut.grows (grows_call f s c)).append _)

theorem Accounts.callAll (h : Accounts base f s ms) (cs : List Call) :
    Accounts base f ((sink f).callAll s cs).2 (ms ++ cs.filterMap Call.move?) := by
  induction cs generalizing s ms with
  | nil =>
    rw [List.filterMap_nil, List.append_nil]
    exact h
  | cons c cs ih =>
    have hmoves : ms ++ (c :: cs).filterMap Call.move?
        = ms ++ c.move?.toList ++ cs.filterMap Call.move? := by
      cases c <;> simp [Call.move?, List.filterMap_cons]
    rw [hmoves]
    exact ih (h.call c)

/-- What has reached the store is the beginning of the encoding. -/
theorem Accounts.stored (h : Accounts base f s ms) :
    ∃ rest, (channel f s).store.bytes ++ rest = encode f ms := by
  rcases h with hholds | hcut
  · cases f with
    | text => exact ⟨_, hholds.stored.whole⟩
    | json => exact ⟨_, hholds.stored.whole⟩
    | csv =>
      -- behind the bytes in the store come those of the channel, and then the rows
      obtain ⟨⟨before, hchannel, hwhole⟩, -⟩ := hholds
      refine ⟨Channel.waiting (Csv.channel s) ++ Csv.rows s, ?_⟩
      rw [← ByteArray.append_assoc]
      exact (congrArg (· ++ Csv.rows s) hchannel.stored.whole).trans hwhole
  · obtain ⟨lost, -, hwhole⟩ := hcut.part
    exact ⟨lost, hwhole⟩

theorem Accounts.close (h : Accounts base f s ms) :
    (Writer.close f s).bytes = base.visible (encode f ms) := by
  rcases h with hholds | hcut
  · exact hholds.close
  · exact hcut.close

/-! ### Taking the channel out -/

/-- A channel that is taken out of a sink has all that was handed over, if nothing can fail. -/
theorem Holds.unwrap_of_reliable (h : Holds base f s ms) (hbase : base.Reliable) :
    ∃ c, unwrap f s = (.ok (), c) ∧ Channel.Carries base c (encode f ms) := by
  cases f with
  | text => exact ⟨s, rfl, h⟩
  | json => exact ⟨s, rfl, h⟩
  | csv =>
    have hflush := Csv.Carries.flush h
    simp only [unwrap]
    generalize Csv.flush s = r at hflush ⊢
    cases hflush with
    | @ok _ s' hs =>
      obtain ⟨⟨⟨before, hchannel, hwhole⟩, -⟩, hrows, -⟩ := hs
      rw [hrows, ByteArray.append_empty] at hwhole
      exact ⟨s'.channel, rfl, hwhole ▸ hchannel⟩
    | @error _ s' hs =>
      rcases hs with hover | ⟨hfault, -⟩
      · exact absurd hover (not_cut (f := .csv) (s := s') hbase.unlimited)
      · exact absurd hbase.flushes hfault

end Writer

/-- **No byte is lost, repeated or put elsewhere.**  Whatever calls are made on the sink of a format,
failed ones included, over a store with or without a limit, that can be flushed or not, buffered or
not: what has reached the store is the beginning of the encoding of all moves passed so far, and no
further call takes any of it back.  When the sink is given up the store is left with as much of the
encoding as its limit allows, which is all of it if there is none, also if no flush ever succeeded.
If nothing can fail, taking the channel out in place of finishing the sink keeps all of the
encoding, in the store or waiting in front of it. -/
theorem stream_conserved (f : Format) (buffered : Bool) (limit : Option Nat) (limitFault : String)
    (flushFault : Option String) (cs : List Call) :
    let stream := encode f (cs.filterMap Call.move?)
    let after (store : Store) :=
      ((Writer.sink f).callAll (Writer.start f { store, buffered }) cs).2
    let s := after { limit, limitFault, flushFault }
    (∃ rest, (Writer.channel f s).store.bytes ++ rest = stream) ∧
      (∀ c, ∃ more, (Writer.channel f ((Writer.sink f).call s c).2).store.bytes
        = (Writer.channel f s).store.bytes ++ more) ∧
      (Writer.close f s).bytes
        = limit.elim stream (fun limit => stream.extract 0 (min limit stream.size)) ∧
      ∃ c, Writer.unwrap f (after {}) = (.ok (), c) ∧ c.store.bytes ++ c.waiting = stream ∧
        c.close.bytes = stream := by
  intro stream after s
  have haccounts : Writer.Accounts { limit, limitFault, flushFault } f s _ :=
    Writer.Accounts.callAll (.inl (Writer.holds_start rfl f buffered)) cs
  refine ⟨haccounts.stored, fun c => ?_, ?_, ?_⟩
  · obtain ⟨more, hmore⟩ := (Writer.grows_call f s c).more
    exact ⟨more, congrArg Store.bytes hmore⟩
  · rw [haccounts.close, Store.visible]
    cases limit <;> rfl
  · have hplain : Writer.Accounts {} f (after {}) _ :=
      Writer.Accounts.callAll (.inl (Writer.holds_start rfl f buffered)) cs
    have hreliable : Store.Reliable {} := ⟨rfl, rfl, rfl⟩
    obtain ⟨c, hunwrap, hcarries⟩ :=
      (hplain.resolve_right (Writer.not_cut rfl)).unwrap_of_reliable hreliable
    refine ⟨c, hunwrap, hcarries.stored.whole, ?_⟩
    rw [hcarries.close, Store.visible_of_unlimited rfl]
    rfl

end TowerOfHanoi.Output
