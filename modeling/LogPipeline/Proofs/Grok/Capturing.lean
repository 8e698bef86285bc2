import LogPipeline.Proofs.Grok.Languages
import LogPipeline.Proofs.Grok.Unfolding
import LogPipeline.Proofs.Regex.Enclosing
import LogPipeline.Proofs.Regex.Naming

/-!
# Capturing a whole text

An expression that is a single placeholder with a capture has a group around everything. Its matcher captures the
whole text, where it matches.
-/

namespace LogPipeline.Regex

/-- What is read when there is no more text. -/
def Reader.finish (reader : Reader) : Except Fault Pattern :=
  if reader.outer.isEmpty then
    if reader.current.height > heightLimit then .error .tooDeep
    else .ok ⟨reader.current.node, reader.names.reverse⟩
  else .error .groupUnclosed

theorem parse_eq_run (text : List Char) : parse text = Reader.run text.length {} text >>= Reader.finish := rfl

end LogPipeline.Regex

namespace LogPipeline.Grok

open Regex (Node Pattern parse program)
open Text (isDigit)

variable {registry : Registry} {expression : String} {capture : Capture} {body : List Char} {node : Node}

/-! ## Reading the group of a capture -/

theorem readGroupName (number : Nat) (rest : List Char) :
    Regex.Reader.groupName ((groupName number).toList ++ '>' :: rest) = .ok (groupName number, rest) := by
  have htext : (groupName number).toList = '_' :: ("_grok".toList ++ Nat.toDigits 10 number) := by
    simp [groupName, natText]
  have hletters : ∀ c ∈ "_grok".toList, Regex.Reader.isNamePart c = true := by
    have hletter : "_grok".toList.all (fun c => c == '_' || 97 ≤ c.toNat && c.toNat ≤ 122) = true := by decide
    intro c hc
    have hc := List.all_eq_true.mp hletter c hc
    simp only [Bool.or_eq_true, beq_iff_eq, Bool.and_eq_true, decide_eq_true_eq] at hc
    rcases hc with rfl | hc
    · rfl
    · exact Regex.Reader.isNamePart_of_letter hc
  have hdigits : ∀ c ∈ Nat.toDigits 10 number, Regex.Reader.isNamePart c = true :=
    fun c hc => Regex.Reader.isNamePart_of_digit (Text.isDigit_of_mem_toDigits hc)
  have hstop : '>' ∉ '_' :: ("_grok".toList ++ Nat.toDigits 10 number) := by
    intro hm
    rcases List.mem_append.mp (List.mem_of_ne_of_mem (by decide) hm) with hm | hm
    · exact absurd hm (by decide)
    · exact absurd (Text.isDigit_of_mem_toDigits hm) (by decide)
  rw [htext, Regex.Reader.groupName_eq rfl (List.forall_mem_append.mpr ⟨hletters, hdigits⟩) hstop, ← htext,
    String.ofList_toList]

/-- The reader inside the group of the first capture, behind the beginning of the text. -/
def inCapture : Regex.Reader := (Regex.Reader.within [Regex.Reader.anchor] {}).opened (groupName 0)

/-- What is read from there on, with the rest of an anchored text behind the body. -/
def readCaptured (body : List Char) : Except Regex.Fault Pattern :=
  Regex.Reader.run (body.length + 17) inCapture (body ++ Regex.closing) >>= Regex.Reader.finish

theorem parse_capture (capture : Capture) (body : List Char) :
    parse (Matcher.anchored (groupStart (some capture) 0 ++ body)) = readCaptured body := by
  have htext : Matcher.anchored (groupStart (some capture) 0 ++ body) = ['\\', 'A', '(', '?', ':'] ++
      ('(' :: '?' :: 'P' :: '<' :: ((groupName 0).toList ++ '>' :: (body ++ Regex.closing))) := by
    rw [anchored_eq, groupStart]
    simp
  have hlength : (Matcher.anchored (groupStart (some capture) 0 ++ body)).length = body.length + 17 + 1 + 2 := by
    have hname : (groupName 0).toList.length = 7 := by decide
    simp only [htext, List.length_append, List.length_cons, List.length_nil, hname, Regex.closing]
    omega
  rw [Regex.parse_eq_run, hlength, htext, Regex.Reader.run_anchor, Regex.Reader.run_named rfl (readGroupName 0 _) rfl]
  rfl

/-! ## Matching -/

/-- A node in the group of the first capture, between the two ends of the text. -/
def capturing (node : Node) : Node := Matcher.betweenEnds (.group 1 node)

theorem slotsOf_capturing (capture : Capture) (node : Node) :
    Matcher.slotsOf ⟨capturing node, [(1, groupName 0)]⟩ [capture] = [⟨1, capture⟩] := by
  have hgroups : (capturing node).groups.contains 1 = true := by
    simp [capturing, Matcher.betweenEnds, Node.ofPieces, Node.append, Node.groups]
  simp only [Matcher.slotsOf, List.filter_cons, List.filter_nil, hgroups, if_true, List.map_cons, List.map_nil,
    List.mapIdx_cons, List.mapIdx_nil, List.lookup_cons_self, Option.getD_some]

variable {matcher : Matcher} {text : String} {fields : Keyed Value} {inner opening : Nat}

theorem fields_of_captures? (hslots : matcher.slots = [⟨1, capture⟩]) (hstart : matcher.start = opening + 1)
    (hencloses : matcher.program.Encloses 1 inner opening) (h : matcher.captures? text = some fields) :
    fields = [(capture.name, capture.type.convert text)] := by
  obtain ⟨saves, hsearch, rfl⟩ := Option.map_eq_some_iff.mp h
  rw [hstart] at hsearch
  have hgroup := hencloses.groupText?_eq hsearch
  rw [List.toList_toArray, String.ofList_toList] at hgroup
  simp only [hslots, Matcher.fieldsOf, List.foldl_cons, List.foldl_nil, hgroup]
  rfl

theorem captures?_eq_some_iff (hslots : matcher.slots = [⟨1, capture⟩])
    (hstart : matcher.start = (program (capturing node)).1)
    (hprogram : matcher.program = (program (capturing node)).2)
    (hopening : (program (capturing node)).1 = opening + 1)
    (hencloses : (program (capturing node)).2.Encloses 1 inner opening) (hnode : node.lookless = true) :
    matcher.captures? text = some fields ↔
      node.Spells text.toList ∧ fields = [(capture.name, capture.type.convert text)] := by
  have hmatch : matcher.isMatch text = true ↔ (Node.group 1 node).Spells text.toList :=
    isMatch_iff_spells hstart hprogram hnode text
  have hfields {fields : Keyed Value} (h : matcher.captures? text = some fields) :
      fields = [(capture.name, capture.type.convert text)] :=
    fields_of_captures? hslots (hstart.trans hopening) (hprogram ▸ hencloses) h
  rw [← show _ ↔ node.Spells text.toList from hmatch, Matcher.isMatch, Option.isSome_iff_exists]
  constructor
  · exact fun h => ⟨⟨fields, h⟩, hfields h⟩
  · rintro ⟨⟨found, h⟩, rfl⟩
    rw [h, hfields h]

/-- An expression that is read as a group around a node without conditions captures the texts that the node spells,
each as a whole. -/
theorem compile_capturing (earlier : List String)
    (hexpand : expand registry expression = .ok ⟨groupStart (some capture) 0 ++ body, [capture]⟩)
    (hread : (readCaptured body).toOption.any (fun pattern =>
      pattern.node == capturing node && pattern.names == [(1, groupName 0)] && pattern.node.fits) = true)
    (hopening : (program (capturing node)).1 = opening + 1)
    (hencloses : (program (capturing node)).2.Encloses 1 inner opening) (hnode : node.lookless = true) :
    ∃ matcher, ((Compiler.compileAll { registry } earlier).compile expression).1 = .ok matcher ∧
      ∀ text fields, matcher.captures? text = some fields ↔
        node.Spells text.toList ∧ fields = [(capture.name, capture.type.convert text)] := by
  obtain ⟨⟨read, names⟩, hparse, hpattern⟩ := exists_ok hread
  simp only [Bool.and_eq_true, beq_iff_eq] at hpattern
  obtain ⟨⟨rfl, rfl⟩, hfits⟩ := hpattern
  rw [← parse_capture capture] at hparse
  exact ⟨_, compile_eq_ok earlier hexpand hparse hfits, fun text fields =>
    captures?_eq_some_iff (slotsOf_capturing capture node) rfl rfl hopening hencloses hnode⟩

end LogPipeline.Grok
