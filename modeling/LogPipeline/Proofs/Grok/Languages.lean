import LogPipeline.Proofs.Grok.Anchoring
import LogPipeline.Proofs.Regex.Language

/-!
# The texts of a matcher

A matcher puts its expression between the two ends of the text. Where the expression has no conditions of its own, the
matcher matches the texts that the expression spells.
-/

namespace LogPipeline.Grok

open Regex (Node Pattern parse program)

variable {registry : Registry} {expression : String} {expansion : Expansion} {pattern : Pattern} {matcher : Matcher}
  {node : Node}

/-- A node stands between the two ends of the text. -/
def Matcher.betweenEnds (node : Node) : Node := .ofPieces [.look .textStart, node, .look .textEnd]

/-- The matcher of an expression whose expansion can be read and is not too large. -/
theorem compile_eq_ok (earlier : List String) (hexpand : expand registry expression = .ok expansion)
    (hparse : parse (Matcher.anchored expansion.text) = .ok pattern) (hfits : pattern.node.fits = true) :
    ((Compiler.compileAll { registry } earlier).compile expression).1 =
      .ok ⟨expression, String.ofList (Matcher.anchored expansion.text),
        Matcher.slotsOf pattern expansion.captures, (program pattern.node).1, (program pattern.node).2⟩ := by
  rw [((Compiler.Faithful.new registry).compileAll earlier).compile_eq, Matcher.build, hexpand]
  simp only [bind, Except.bind, Matcher.ofExpansion, hparse, hfits, if_true]

theorem isMatch_iff_spells (hstart : matcher.start = (program (Matcher.betweenEnds node)).1)
    (hprogram : matcher.program = (program (Matcher.betweenEnds node)).2) (hnode : node.lookless = true)
    (text : String) : matcher.isMatch text = true ↔ node.Spells text.toList := by
  obtain ⟨pattern, hpattern⟩ : ∃ pattern : Pattern, pattern.node = Matcher.betweenEnds node := ⟨⟨_, []⟩, rfl⟩
  rw [← hpattern] at hstart hprogram
  rw [isMatch_iff hstart hprogram, hpattern, Matcher.betweenEnds, Node.matches_between_ends_iff,
    Node.matches_whole_iff hnode]

end LogPipeline.Grok
