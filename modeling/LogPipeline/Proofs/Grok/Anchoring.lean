import LogPipeline.Proofs.Grok.Caching
import LogPipeline.Proofs.Regex.Grouped
import LogPipeline.Proofs.Regex.Searching

/-!
# Matching whole texts

A matcher is to match a text as a whole. The expression is put between the ends of the text for that, and into a
group, which it can close itself: `a)|(?:b` becomes `\A(?:a)|(?:b)\z`, with only one end at each side. Where it
does not, a matcher matches exactly the texts that its expression matches as a whole.
-/

namespace LogPipeline.Grok

open Regex (Pattern parse program)

/-- The expansion of an expression is an expression in its own right, and the matcher matches a text exactly if
this expression matches all of it. -/
def Matcher.Whole (expansion : Expansion) (matcher : Matcher) : Prop :=
  ∃ pattern, parse expansion.text = .ok pattern ∧ ∀ text,
    (matcher.isMatch text = true ↔ pattern.node.Matches text.toList.toArray 0 text.toList.length) ∧
    ((∃ fields, matcher.captures? text = some fields) ↔
      pattern.node.Matches text.toList.toArray 0 text.toList.length)

variable {registry : Registry} {expression : String} {matcher : Matcher}

theorem anchored_eq (cs : List Char) :
    Matcher.anchored cs = ['\\', 'A', '(', '?', ':'] ++ (cs ++ Regex.closing) := rfl

theorem build_eq_ok (h : Matcher.build registry expression = .ok matcher) :
    ∃ expansion pattern, expand registry expression = .ok expansion ∧
      parse (Matcher.anchored expansion.text) = .ok pattern ∧
      matcher.start = (program pattern.node).1 ∧ matcher.program = (program pattern.node).2 := by
  obtain ⟨expansion, hexpansion, h⟩ := bind_eq_ok.mp h
  unfold Matcher.ofExpansion at h
  simp only at h
  split at h
  · cases h
  · rename_i pattern hpattern
    split at h
    · cases h
      exact ⟨expansion, pattern, hexpansion, hpattern, rfl, rfl⟩
    · cases h

/-- A matcher whose program is that of a pattern matches a text if the pattern matches somewhere in it. -/
theorem isMatch_iff {pattern : Pattern} (hstart : matcher.start = (program pattern.node).1)
    (hprogram : matcher.program = (program pattern.node).2) (text : String) :
    matcher.isMatch text = true ↔ ∃ start stop, start ≤ text.toList.toArray.size ∧
      pattern.node.Matches text.toList.toArray start stop := by
  rw [← Regex.search_isSome_iff, ← hstart, ← hprogram]
  unfold Matcher.isMatch Matcher.captures?
  rw [Option.isSome_map]

theorem build_whole (h : Matcher.build registry expression = .ok matcher) :
    ∃ expansion, expand registry expression = .ok expansion ∧
      (matcher.Whole expansion ↔ parse expansion.text ≠ .error .groupUnopened) := by
  obtain ⟨expansion, pattern, hexpansion, hpattern, hstart, hprogram⟩ := build_eq_ok h
  refine ⟨expansion, hexpansion, ?_, fun halone => ?_⟩
  · rintro ⟨alone, halone, -⟩ hunopened
    rw [halone] at hunopened
    cases hunopened
  · rw [anchored_eq] at hpattern
    obtain ⟨alone, hparse, rfl⟩ := (Regex.parse_anchored hpattern).resolve_left halone
    refine ⟨alone, hparse, fun text => ?_⟩
    have hmatch : matcher.isMatch text = true ↔
        alone.node.Matches text.toList.toArray 0 text.toList.length :=
      (isMatch_iff hstart hprogram text).trans Regex.Node.matches_between_ends_iff
    exact ⟨hmatch, Option.isSome_iff_exists.symm.trans hmatch⟩

/-- A matcher matches exactly the texts that its expression matches as a whole, whatever was compiled before; unless
the expansion of the expression closes a group that it does not open, and so is no expression. -/
theorem compile_whole_iff (registry : Registry) (earlier : List String) {expression : String}
    {matcher : Matcher}
    (h : ((Compiler.compileAll { registry } earlier).compile expression).1 = .ok matcher) :
    ∃ expansion, expand registry expression = .ok expansion ∧
      (matcher.Whole expansion ↔ parse expansion.text ≠ .error .groupUnopened) := by
  rw [((Compiler.Faithful.new registry).compileAll earlier).compile_eq] at h
  exact build_whole h

/-- A definition may close the group that it is pasted into. -/
theorem compile_whole_of_definition :
    let registry : Registry := ⟨[("D", "a)|(?:b")]⟩
    ∃ matcher, ((Compiler.compileAll { registry } ["x", "%{E}"]).compile "<%{D}>").1 = .ok matcher ∧
      expand registry "<%{D}>" = .ok ⟨"<(?:a)|(?:b)>".toList, []⟩ ∧
      matcher.Whole ⟨"<(?:a)|(?:b)>".toList, []⟩ := by
  intro registry
  have hcompile : ((Compiler.compileAll { registry } ["x", "%{E}"]).compile "<%{D}>").1.toOption.any
      (fun _ => true) = true := by decide +kernel
  have hparse : (parse "<(?:a)|(?:b)>".toList).toOption.any (fun _ => true) = true := by decide +kernel
  have hexpand : expand registry "<%{D}>" = .ok ⟨"<(?:a)|(?:b)>".toList, []⟩ := by rfl
  obtain ⟨matcher, hm, -⟩ := exists_ok hcompile
  obtain ⟨pattern, hp, -⟩ := exists_ok hparse
  obtain ⟨expansion, hexpansion, hwhole⟩ := compile_whole_iff registry ["x", "%{E}"] hm
  obtain rfl : expansion = ⟨"<(?:a)|(?:b)>".toList, []⟩ := Except.ok.inj (hexpansion.symm.trans hexpand)
  exact ⟨matcher, hm, hexpand, hwhole.mpr fun herror => nomatch hp.symm.trans herror⟩

/-- A matcher whose expression closes the group around it finds a match in a text that the expression that was
compiled does not match as a whole. -/
theorem compile_closing_its_group :
    ∃ matcher pattern, (Compiler.compile { registry := .empty } "a)|(?:b").1 = .ok matcher ∧
      parse matcher.expanded.toList = .ok pattern ∧ matcher.isMatch "ax" = true ∧
      ¬ pattern.node.Matches "ax".toList.toArray 0 2 := by
  have hcompile : (Compiler.compile { registry := .empty } "a)|(?:b").1.toOption.any (fun matcher =>
      matcher.isMatch "ax" && matcher.expanded == "\\A(?:a)|(?:b)\\z") = true := by decide +kernel
  have hparse : parse "\\A(?:a)|(?:b)\\z".toList = .ok ⟨.alt
      (.seq (.look .textStart) (.chars (.single 'a'))) (.seq (.chars (.single 'b')) (.look .textEnd)), []⟩ := by
    rfl
  obtain ⟨matcher, hm, hmatcher⟩ := exists_ok hcompile
  obtain ⟨hmatch, hexpanded⟩ := (Bool.and_eq_true _ _).mp hmatcher
  rw [← eq_of_beq hexpanded] at hparse
  refine ⟨matcher, _, hm, hparse, hmatch, ?_⟩
  rintro (⟨middle, ⟨rfl, -⟩, hstop, -⟩ | ⟨middle, ⟨-, c, hc, hcontains⟩, -⟩)
  · cases hstop
  · cases hc
    exact absurd hcontains (by decide)

end LogPipeline.Grok
