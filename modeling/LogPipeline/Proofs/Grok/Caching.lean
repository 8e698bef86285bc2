import LogPipeline.Proofs.Keyed
import LogPipeline.Grok.Matcher
import Mathlib.Data.Set.Card

/-!
# Compiling more than once

A compiler keeps the matchers that it has built. Whatever has been compiled before, it answers with the matcher
that is built from the patterns. It keeps one matcher for every expression that could be compiled, however often
it was asked for, and nothing for the others.
-/

namespace LogPipeline.Grok.Compiler

variable {registry : Registry} {compiler : Compiler}

/-- A compiler over a set of patterns holds only matchers that are built from them. -/
structure Faithful (registry : Registry) (compiler : Compiler) : Prop where
  registry_eq : compiler.registry = registry
  built : ∀ expression matcher, compiler.matchers.get? expression = some matcher →
    Matcher.build registry expression = .ok matcher

/-- The compiler after some expressions were compiled in order. -/
def compileAll (compiler : Compiler) (expressions : List String) : Compiler :=
  expressions.foldl (fun compiler expression => (compiler.compile expression).2) compiler

namespace Faithful

theorem new (registry : Registry) : Faithful registry { registry } := ⟨rfl, nofun⟩

theorem compile_eq (h : Faithful registry compiler) (expression : String) :
    (compiler.compile expression).1 = Matcher.build registry expression := by
  unfold compile
  cases hget : compiler.matchers.get? expression with
  | some matcher => exact (h.built expression matcher hget).symm
  | none =>
    rw [h.registry_eq]
    cases Matcher.build registry expression <;> rfl

theorem insert (h : Faithful registry compiler) {expression : String} {matcher : Matcher}
    (hm : Matcher.build registry expression = .ok matcher) :
    Faithful registry { compiler with matchers := compiler.matchers.insert expression matcher } where
  registry_eq := h.registry_eq
  built other found hget := by
    by_cases heq : other = expression
    · subst heq
      rw [Keyed.get?_insert_self] at hget
      cases hget
      exact hm
    · rw [Keyed.get?_insert_of_ne _ _ heq] at hget
      exact h.built other found hget

theorem compile (h : Faithful registry compiler) (expression : String) :
    Faithful registry (compiler.compile expression).2 := by
  unfold Compiler.compile
  split
  · exact h
  · split
    · rename_i hm
      rw [h.registry_eq] at hm
      exact h.insert hm
    · exact h

theorem compileAll (h : Faithful registry compiler) (expressions : List String) :
    Faithful registry (compiler.compileAll expressions) := by
  induction expressions generalizing compiler with
  | nil => exact h
  | cons expression expressions ih => exact ih (h.compile expression)

end Faithful

/-- What a compiler answers to some expressions that it compiles in order. -/
def answers (compiler : Compiler) : List String → List (Except ConfigError Matcher)
  | [] => []
  | expression :: rest => (compiler.compile expression).1 :: (compiler.compile expression).2.answers rest

theorem Faithful.answers_eq (h : Faithful registry compiler) (expressions : List String) :
    compiler.answers expressions = expressions.map (Matcher.build registry) := by
  induction expressions generalizing compiler with
  | nil => rfl
  | cons expression rest ih => rw [answers, h.compile_eq, ih (h.compile expression), List.map_cons]

theorem compile_new (registry : Registry) (expression : String) :
    (compile { registry } expression).1 = Matcher.build registry expression :=
  (Faithful.new registry).compile_eq expression

/-- A compiler that has compiled nothing yet has a matcher for the expression. -/
def Compiles (registry : Registry) (expression : String) : Prop :=
  ∃ matcher, (compile { registry } expression).1 = .ok matcher

/-- A compiler that was given some expressions holds one matcher for each of them that compiles. -/
structure Holds (registry : Registry) (given : List String) (compiler : Compiler) : Prop where
  faithful : Faithful registry compiler
  distinct : compiler.matchers.Distinct
  mem_keys : ∀ expression, expression ∈ compiler.matchers.keys ↔ expression ∈ given ∧ Compiles registry expression

namespace Holds

variable {given : List String} {expression : String}

theorem new (registry : Registry) : Holds registry [] { registry } where
  faithful := .new registry
  distinct := Keyed.distinct_nil
  mem_keys expression := by simp

/-- An expression that was given before, or does not compile, leaves the compiler as it is. -/
theorem unchanged (h : Holds registry given compiler) (hgiven : Compiles registry expression → expression ∈ given) :
    Holds registry (given ++ [expression]) compiler where
  faithful := h.faithful
  distinct := h.distinct
  mem_keys other := by
    rw [h.mem_keys, List.mem_append, List.mem_singleton]
    constructor
    · rintro ⟨hm, hc⟩
      exact ⟨.inl hm, hc⟩
    · rintro ⟨hm | rfl, hc⟩
      · exact ⟨hm, hc⟩
      · exact ⟨hgiven hc, hc⟩

theorem insert (h : Holds registry given compiler) {matcher : Matcher}
    (hbuild : Matcher.build registry expression = .ok matcher) :
    Holds registry (given ++ [expression])
      { compiler with matchers := compiler.matchers.insert expression matcher } where
  faithful := h.faithful.insert hbuild
  distinct := h.distinct.insert expression matcher
  mem_keys other := by
    have hcompiles : Compiles registry expression := ⟨matcher, (compile_new registry expression).trans hbuild⟩
    rw [Keyed.mem_keys_insert, h.mem_keys, List.mem_append, List.mem_singleton]
    constructor
    · rintro (rfl | ⟨hm, hc⟩)
      · exact ⟨.inr rfl, hcompiles⟩
      · exact ⟨.inl hm, hc⟩
    · rintro ⟨hm | rfl, hc⟩
      · exact .inr ⟨hm, hc⟩
      · exact .inl rfl

theorem compile (h : Holds registry given compiler) (expression : String) :
    Holds registry (given ++ [expression]) (compiler.compile expression).2 := by
  unfold Compiler.compile
  cases hget : compiler.matchers.get? expression with
  | some matcher =>
    have hheld := (h.mem_keys expression).mp (Keyed.mem_keys_of_get? hget)
    exact h.unchanged fun _ => hheld.1
  | none =>
    cases hbuild : Matcher.build compiler.registry expression with
    | ok matcher =>
      rw [h.faithful.registry_eq] at hbuild
      exact h.insert hbuild
    | error e =>
      -- nothing is kept of a failure, so it has to be one that a new compiler has, too
      refine h.unchanged ?_
      rintro ⟨matcher, hm⟩
      rw [h.faithful.registry_eq] at hbuild
      rw [compile_new, hbuild] at hm
      cases hm

theorem compileAll (h : Holds registry given compiler) (expressions : List String) :
    Holds registry (given ++ expressions) (compiler.compileAll expressions) := by
  induction expressions generalizing given compiler with
  | nil => rwa [List.append_nil]
  | cons expression rest ih =>
    rw [List.append_cons]
    exact ih (h.compile expression)

theorem cached_eq (h : Holds registry given compiler) :
    compiler.cached = {expression | expression ∈ given ∧ Compiles registry expression}.ncard := by
  have hkeys : {expression | expression ∈ given ∧ Compiles registry expression} =
      (compiler.matchers.keys.toFinset : Set String) := by
    ext expression
    simp [h.mem_keys]
  rw [hkeys, Set.ncard_coe_finset, List.toFinset_card_of_nodup h.distinct]
  exact (List.length_map Prod.fst).symm

end Holds

/-- Whatever expressions a compiler is given, in whatever order and however often, it answers each as a compiler
that has compiled nothing yet, and it holds as many matchers as there are different expressions among them that
compile. -/
theorem caching_transparent (registry : Registry) (expressions : List String) :
    answers { registry } expressions = expressions.map (fun expression => (compile { registry } expression).1) ∧
    (compileAll { registry } expressions).cached =
      {expression | expression ∈ expressions ∧ Compiles registry expression}.ncard := by
  refine ⟨?_, ?_⟩
  · rw [(Faithful.new registry).answers_eq]
    exact List.map_congr_left fun expression _ => (compile_new registry expression).symm
  · exact ((Holds.new registry).compileAll expressions).cached_eq

end LogPipeline.Grok.Compiler
