import LogPipeline.Output.Writer
import LogPipeline.Proofs.Json.Grammar

/-!
# One line per event

What a writer has written splits at its line breaks into the events that it was handed: no text inside an event
has a line break of its own.
-/

namespace LogPipeline

namespace Stage

/-- What a stage decides about events that it is handed one after the other, and all that it writes. There is
nothing if it breaks down. -/
def processAll (stage : Stage) : List Event → Option (List Flow × String)
  | [] => some ([], "")
  | event :: rest =>
    match stage.process event with
    | .flow flow written => (stage.processAll rest).map fun (flows, text) => (flow :: flows, written ++ text)
    | .panic => none

end Stage

namespace Event

/-- The text of an event is a whole object. -/
theorem isObject_toJson (event : Event) : Json.IsObject event.toJson.toList := by
  rw [toJson, Json.Doc.compact, String.toList_ofList, toDoc]
  split
  · exact Json.isObject_render _
  · exact Json.isObject_render _

theorem newline_notMem_toJson (event : Event) : '\n' ∉ event.toJson.toList := by
  intro h
  have hc := event.isObject_toJson.printable _ h
  exact absurd hc (by decide)

end Event

namespace Writer

variable {name : String} {device : Device}

theorem process_of_working (hw : device.writeFault = none) (event : Event) :
    (stage name device false).process event = .flow (.continue event) (event.toJson ++ "\n") := by
  simp [stage, process, hw, lineText]

/-- A line is split off at the line break behind it. -/
theorem splitOn_line (event : Event) (text : List Char) :
    (event.toJson.toList ++ '\n' :: text).splitOn '\n' = event.toJson.toList :: text.splitOn '\n' := by
  refine List.splitOnP_append_cons_of_forall_mem (fun c hc => ?_) '\n' (by decide) text
  refine beq_false_of_ne ?_
  rintro rfl
  exact event.newline_notMem_toJson hc

theorem processAll_splits (name : String) (hw : device.writeFault = none) (events : List Event) :
    ∃ text, (stage name device false).processAll events = some (events.map .continue, text) ∧
      text.toList.splitOn '\n' = events.map (fun event => event.toJson.toList) ++ [[]] := by
  induction events with
  | nil => exact ⟨"", rfl, List.splitOn_nil _⟩
  | cons event rest ih =>
    obtain ⟨text, hall, hsplit⟩ := ih
    refine ⟨event.toJson ++ "\n" ++ text, ?_, ?_⟩
    · rw [Stage.processAll, process_of_working hw, hall]
      rfl
    · have htext : (event.toJson ++ "\n" ++ text).toList = event.toJson.toList ++ '\n' :: text.toList := by
        simp
      rw [htext, splitOn_line, hsplit]
      rfl

/-- A writer that does not fail passes every event on. Split at its line breaks, what it has written is the texts
of the events, in order, and nothing behind the last line break. Each of these lines is one object, in which
there is none of the first 32 characters, whatever texts the event holds. -/
theorem processAll_lines (name : String) (hw : device.writeFault = none) (events : List Event) :
    ∃ text, (stage name device false).processAll events = some (events.map .continue, text) ∧
      text.toList.splitOn '\n' = events.map (fun event => event.toJson.toList) ++ [[]] ∧
      ∀ event ∈ events, Json.IsObject event.toJson.toList ∧ Json.Printable event.toJson.toList := by
  obtain ⟨text, hall, hsplit⟩ := processAll_splits name hw events
  exact ⟨text, hall, hsplit, fun event _ => ⟨event.isObject_toJson, event.isObject_toJson.printable⟩⟩

/-- A name and texts with line breaks, quotes and other control characters, nested, and an event without fields. -/
theorem processAll_lines_of_breaks :
    let device : Device := { flushFault := some "full" }
    let first : Event := {
      fields := [("a\nb", .list [.text "\r\n", .map [("\"", .text "\x00\x0b")]]), ("tags", .text "x\ny")]
      tags := ["\n"] }
    device.writeFault = none ∧
      ∃ text, (stage "stdout" device false).processAll [first, {}] = some ([.continue first, .continue {}], text) ∧
        text.toList.splitOn '\n' = [first.toJson.toList, ['{', '}'], []] ∧
        Json.IsObject first.toJson.toList ∧
        first.toJson = r#"{"a\nb":["\r\n",{"\"":"\u0000\u000b"}],"tags":["x\ny","\n"]}"# := by
  intro device first
  have hw : device.writeFault = none := rfl
  obtain ⟨text, hall, hsplit, hobjects⟩ := processAll_lines "stdout" hw [first, {}]
  exact ⟨hw, text, hall, hsplit, (hobjects first (by simp)).1, by decide +kernel⟩

end Writer

end LogPipeline
