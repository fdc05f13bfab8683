/-
TowerOfHanoi/Proofs/JsonLines.lean

Moves as JSON lines, there and back.  The object of a move holds no newline of
its own (`Move.newline_notMem_json`): the digits of the disk are none, and in a
label it would be escaped.  So the lines of the encoding of a list are the
objects of its moves, with nothing behind the last of them
(`splitOn_encodeJson`), and each is read on its own.

Main result: `jsonLines_roundTrip`.
-/
import TowerOfHanoi.Proofs.Lines
import TowerOfHanoi.Proofs.MoveJson

namespace TowerOfHanoi

/-! ### Lines -/

theorem Move.newline_notMem_json (m : Move) : '\n' ∉ m.json.toList := by
  have hdigits := Text.newline_notMem_digits m.disk
  have hsource := Json.newline_notMem_escapeChar m.source.label
  have htarget := Json.newline_notMem_escapeChar m.target.label
  rw [Json.toList_json]
  simp [Json.objectMembers, hdigits, hsource, htarget]

theorem Json.diskBound_eq : diskBound = 2 ^ 32 := by
  decide

namespace Output

/-- Every move has one newline, behind it. -/
theorem count_newline_encodeJson (ms : List Move) :
    (encodeJson ms).toList.count '\n' = ms.length :=
  count_newline_lines Move.newline_notMem_json ms

/-- The lines of an encoding are the objects of its moves, and the last one is ended. -/
theorem splitOn_encodeJson (ms : List Move) :
    (encodeJson ms).toList.splitOn '\n' = ms.map (·.json.toList) ++ [[]] :=
  splitOn_lines Move.newline_notMem_json ms

/-- **JSON lines are read back.**  Over a store that takes everything, buffered or not, the sink
takes every list of moves and leaves a text with one newline for each of them, which ends a line
from which that move is read.  Conversely, a move that is read from any text whatever has a disk
below `2 ^ 32` and visible labels, and is read back from its own object. -/
theorem jsonLines_roundTrip :
    (∀ (store : Store) (buffered : Bool) (ms : List Move), store.Reliable →
      (∀ m ∈ ms, m.disk < 2 ^ 32) →
        ∃ (c c' : Channel) (text : String) (lines : List (List Char)),
          jsonSink.emitAll { store, buffered } ms = (.ok (), c) ∧
            jsonSink.finish c = (.ok (), c') ∧
            c.close.bytes = text.toUTF8 ∧ c'.close.bytes = text.toUTF8 ∧
            text.toList.count '\n' = ms.length ∧
            text.toList.splitOn '\n' = lines ++ [[]] ∧
            lines.map (fun line => Json.readMove (String.ofList line)) = ms.map .ok) ∧
      ∀ s m, Json.readMove s = .ok m →
        m.disk < 2 ^ 32 ∧
          (∀ p ∈ [m.source, m.target], Text.isBlank p.label = false ∧
            Text.isControl p.label = false ∧ Peg.ofString p.text = .ok p) ∧
          Json.readMove m.json = .ok m := by
  refine ⟨?_, ?_⟩
  · intro store buffered ms hstore hms
    have hstart : Writer.Holds store .json { store, buffered } [] :=
      Writer.holds_start hstore.empty .json buffered
    obtain ⟨c, hemit, hc⟩ := hstart.emitAll_of_reliable hstore ms
    obtain ⟨c', hfinish, hc'⟩ := hc.finish_of_reliable hstore
    refine ⟨c, c', encodeJson ms, ms.map (·.json.toList), hemit, hfinish,
      hc.close_of_reliable hstore, hc'.close_of_reliable hstore, count_newline_encodeJson ms,
      splitOn_encodeJson ms, ?_⟩
    rw [List.map_map]
    refine List.map_congr_left fun m hm => ?_
    rw [Function.comp_apply, String.ofList_toList]
    exact Json.readMove_json (Json.diskBound_eq ▸ hms m hm)
  · intro s m h
    have hdisk := Json.disk_lt_of_readMove h
    refine ⟨Json.diskBound_eq ▸ hdisk, fun p _ => ?_, Json.readMove_json hdisk⟩
    have hvisible := p.visible
    rw [Text.isVisible, Bool.not_eq_true', Bool.or_eq_false_iff] at hvisible
    exact ⟨hvisible.1, hvisible.2, p.ofString_text⟩

/-- A label that has to be escaped and one that is not ASCII, also read from an object that is
spaced, ordered and escaped in another way than it is written, with one member more. -/
theorem jsonLines_roundTrip_escapes :
    let m : Move := ⟨4294967295, ⟨'"', by decide⟩, ⟨'🗼', by decide⟩⟩
    let s := " \x7b\"to\": \"\\ud83d\\uddfc\", \"x\": [1, \x7b\x7d], \"disk\": 4294967295, " ++
      "\"from\": \"\\u0022\"\x7d"
    (∃ c, jsonSink.emitAll (Channel.withBuffer {}) [m] = (.ok (), c)) ∧
      Json.readMove s = .ok m ∧ Json.readMove m.json = .ok m := by
  intro m s
  have hms : ∀ m' ∈ [m], m'.disk < 2 ^ 32 := by
    intro m' hm'
    rw [List.mem_singleton.1 hm']
    decide
  have hread : Json.readMove s = .ok m := eq_ok_of_toOption (by decide +kernel +revert)
  obtain ⟨hlines, hmove⟩ := jsonLines_roundTrip
  obtain ⟨c, -, -, -, hemit, -⟩ := hlines {} true [m] ⟨rfl, rfl, rfl⟩ hms
  exact ⟨⟨c, hemit⟩, hread, (hmove s m hread).2.2⟩

end Output

end TowerOfHanoi
