import LogPipeline.Config.Pipeline
import LogPipeline.Proofs.Grok.Loading
import LogPipeline.Proofs.Grok.Unfolding

/-!
# Which definition counts

A name may be defined by the configuration, by its pattern files and by the built-in patterns, in any of them several
times. `Gives` says which of these definitions counts, and it counts wherever the name is referred to.
-/

namespace LogPipeline

namespace Keyed

variable {α : Type} {pairs : List (String × α)} {lists : List (List (String × α))} {key : String} {value : α}

/-- The last of the pairs with a name. -/
def LastOf (pairs : List (String × α)) (key : String) (value : α) : Prop :=
  ∃ earlier later, pairs = earlier ++ (key, value) :: later ∧ key ∉ keys later

theorem get?_reverse_eq_none_iff : get? pairs.reverse key = none ↔ key ∉ keys pairs := by
  rw [get?_eq_none_iff, keys, keys, List.map_reverse, List.mem_reverse]

theorem get?_reverse_eq_some_iff : get? pairs.reverse key = some value ↔ LastOf pairs key value := by
  induction pairs with
  | nil => simp [LastOf]
  | cons pair pairs ih =>
    rw [List.reverse_cons, get?_append]
    constructor
    · intro h
      cases hrest : get? pairs.reverse key with
      | some found =>
        rw [hrest] at h
        cases h
        obtain ⟨earlier, later, rfl, hl⟩ := ih.mp hrest
        exact ⟨pair :: earlier, later, rfl, hl⟩
      | none =>
        obtain ⟨rfl, rfl⟩ : pair.1 = key ∧ pair.2 = value := by simpa [hrest, get?] using h
        exact ⟨[], pairs, rfl, get?_reverse_eq_none_iff.mp hrest⟩
    · rintro ⟨earlier, later, hpairs, hl⟩
      cases earlier with
      | nil =>
        obtain ⟨rfl, rfl⟩ := List.cons.inj hpairs
        simp [get?_reverse_eq_none_iff.mpr hl, get?]
      | cons first earlier =>
        obtain ⟨rfl, rfl⟩ := List.cons.inj hpairs
        rw [ih.mpr ⟨earlier, later, rfl, hl⟩]
        rfl

theorem notMem_keys_flatten : key ∉ keys lists.flatten ↔ ∀ pairs ∈ lists, key ∉ keys pairs := by
  rw [keys, List.map_flatten, List.mem_flatten]
  constructor
  · exact fun h pairs hp hk => h ⟨_, List.mem_map_of_mem hp, hk⟩
  · rintro h ⟨_, hm, hk⟩
    obtain ⟨pairs, hp, rfl⟩ := List.mem_map.mp hm
    exact h pairs hp hk

/-- The last pair of a name in several lists is the last one in the last list that has the name. -/
theorem lastOf_flatten_iff : LastOf lists.flatten key value ↔
    ∃ earlier pairs later, lists = earlier ++ pairs :: later ∧ (∀ other ∈ later, key ∉ keys other) ∧
      LastOf pairs key value := by
  constructor
  · intro h
    induction lists with
    | nil => simp [LastOf] at h
    | cons first rest ih =>
      rw [← get?_reverse_eq_some_iff, List.flatten_cons, List.reverse_append, get?_append] at h
      cases hrest : get? rest.flatten.reverse key with
      | some found =>
        rw [hrest] at h
        cases h
        obtain ⟨earlier, pairs, later, rfl, hl, hlast⟩ := ih (get?_reverse_eq_some_iff.mp hrest)
        exact ⟨first :: earlier, pairs, later, rfl, hl, hlast⟩
      | none =>
        exact ⟨[], first, rest, rfl, notMem_keys_flatten.mp (get?_reverse_eq_none_iff.mp hrest),
          get?_reverse_eq_some_iff.mp (by simpa [hrest] using h)⟩
  · rintro ⟨earlier, pairs, later, rfl, hl, front, back, rfl, hb⟩
    refine ⟨earlier.flatten ++ front, back ++ later.flatten, by simp, ?_⟩
    rw [keys_append, List.mem_append]
    rintro (hk | hk)
    · exact hb hk
    · exact notMem_keys_flatten.mpr hl hk

end Keyed

open Grok Keyed

namespace PipelineConfig

/-- The definitions of the pattern files, one list for each file. -/
def Loads (config : PipelineConfig) (tree : FileTree) (files : List (List (String × String))) : Prop :=
  List.Forall₂ (fun path definitions => ∃ text, tree.readText (config.resolve path) = .ok text ∧
    TextDefines text definitions) config.patternFiles files

/-- What a name stands for: the configuration goes before its pattern files, a later file before an earlier one, and
every file before the built-in patterns. -/
inductive Gives (config : PipelineConfig) (files : List (List (String × String))) (name : String) :
    Option String → Prop
  | inline {definition : String} (h : LastOf config.patterns name definition) :
      Gives config files name (some definition)
  | file {earlier later : List (List (String × String))} {file : List (String × String)} {definition : String}
      (hi : name ∉ config.patterns.keys) (hf : files = earlier ++ file :: later)
      (hl : ∀ other ∈ later, name ∉ keys other) (h : LastOf file name definition) :
      Gives config files name (some definition)
  | builtin {definition : String} (hi : name ∉ config.patterns.keys) (hf : ∀ file ∈ files, name ∉ keys file)
      (h : (name, definition) ∈ builtins) : Gives config files name (some definition)
  | nowhere (hi : name ∉ config.patterns.keys) (hf : ∀ file ∈ files, name ∉ keys file)
      (h : name ∉ keys builtins) : Gives config files name none

variable {config : PipelineConfig} {tree : FileTree} {files files' : List (List (String × String))}
  {registry after : Registry} {compiler : Compiler} {name : String} {given : Option String}

theorem builtins_distinct : Keyed.Distinct builtins := by decide +kernel

/-- What counts is found where the last pairs are looked up first. -/
theorem gives_iff : config.Gives files name given ↔
    (get? config.patterns.reverse name).or ((get? files.flatten.reverse name).or (get? builtins name)) = given := by
  constructor
  · rintro (h | ⟨hi, hf, hl, h⟩ | ⟨hi, hf, h⟩ | ⟨hi, hf, h⟩)
    · rw [get?_reverse_eq_some_iff.mpr h, Option.some_or]
    · rw [get?_reverse_eq_none_iff.mpr hi,
        get?_reverse_eq_some_iff.mpr (lastOf_flatten_iff.mpr ⟨_, _, _, hf, hl, h⟩)]
      rfl
    · rw [get?_reverse_eq_none_iff.mpr hi, get?_reverse_eq_none_iff.mpr (notMem_keys_flatten.mpr hf),
        (mem_iff_get? builtins_distinct).mp h]
      rfl
    · rw [get?_reverse_eq_none_iff.mpr hi, get?_reverse_eq_none_iff.mpr (notMem_keys_flatten.mpr hf),
        get?_eq_none_iff.mpr h]
      rfl
  · rintro rfl
    cases hi : get? config.patterns.reverse name with
    | some definition => exact .inline (get?_reverse_eq_some_iff.mp hi)
    | none =>
      rw [get?_reverse_eq_none_iff] at hi
      cases hf : get? files.flatten.reverse name with
      | some definition =>
        obtain ⟨earlier, file, later, hfiles, hl, h⟩ := lastOf_flatten_iff.mp (get?_reverse_eq_some_iff.mp hf)
        exact .file hi hfiles hl h
      | none =>
        rw [get?_reverse_eq_none_iff, notMem_keys_flatten] at hf
        cases hb : get? builtins name with
        | some definition => exact .builtin hi hf ((mem_iff_get? builtins_distinct).mpr hb)
        | none => exact .nowhere hi hf (get?_eq_none_iff.mp hb)

/-! ## Loading -/

theorem Loads.unique (h : config.Loads tree files) (h' : config.Loads tree files') : files = files' := by
  have hunique : Relator.RightUnique fun path definitions => ∃ text,
      tree.readText (config.resolve path) = .ok text ∧ TextDefines text definitions := by
    rintro path definitions definitions' ⟨text, hr, hd⟩ ⟨text', hr', hd'⟩
    obtain rfl : text = text' := Except.ok.inj (hr.symm.trans hr')
    exact hd.unique hd'
  exact hunique.forall₂ h h'

theorem loadFile_eq_ok {path : String} (h : loadFile tree registry path = .ok after) :
    ∃ definitions, (∃ text, tree.readText path = .ok text ∧ TextDefines text definitions) ∧
      after.definitions = registry.definitions.insertAll definitions := by
  unfold loadFile at h
  split at h
  · cases h
  rename_i text hread
  split at h <;> cases h
  rename_i hload
  obtain ⟨definitions, hd, hafter⟩ := Registry.load_eq_ok hload
  exact ⟨definitions, ⟨text, hread, hd⟩, hafter⟩

theorem loadFiles_eq_ok {paths : List String}
    (h : paths.foldlM (fun registry path => loadFile tree registry (config.resolve path)) registry = .ok after) :
    ∃ files, List.Forall₂ (fun path definitions => ∃ text, tree.readText (config.resolve path) = .ok text ∧
        TextDefines text definitions) paths files ∧
      after.definitions = registry.definitions.insertAll files.flatten := by
  induction paths generalizing registry with
  | nil =>
    cases h
    exact ⟨[], .nil, rfl⟩
  | cons path paths ih =>
    rw [List.foldlM_cons, bind_eq_ok] at h
    obtain ⟨loaded, hload, h⟩ := h
    obtain ⟨definitions, hd, hloaded⟩ := loadFile_eq_ok hload
    obtain ⟨files, hfiles, hafter⟩ := ih h
    refine ⟨definitions :: files, .cons hd hfiles, ?_⟩
    rw [hafter, hloaded, insertAll, insertAll, insertAll, List.flatten_cons, List.foldl_append]

theorem define_eq_ok {patterns : List (String × String)}
    (h : patterns.foldlM (fun registry entry => registry.define entry.1 entry.2) registry = .ok after) :
    after.definitions = registry.definitions.insertAll patterns := by
  induction patterns generalizing registry with
  | nil =>
    cases h
    rfl
  | cons pattern patterns ih =>
    rw [List.foldlM_cons, bind_eq_ok] at h
    obtain ⟨defined, hdefine, h⟩ := h
    unfold Registry.define at hdefine
    split at hdefine <;> cases hdefine
    exact ih h

theorem buildCompiler_eq_ok (h : config.buildCompiler tree = .ok compiler) :
    ∃ files, config.Loads tree files ∧
      compiler.registry.definitions = (builtins.insertAll files.flatten).insertAll config.patterns := by
  obtain ⟨registry, hregistry, rfl⟩ := map_eq_ok.mp h
  obtain ⟨loaded, hloaded, hdefine⟩ := bind_eq_ok.mp hregistry
  obtain ⟨files, hfiles, hflatten⟩ := loadFiles_eq_ok hloaded
  refine ⟨files, hfiles, ?_⟩
  rw [define_eq_ok hdefine, hflatten]
  rfl

end PipelineConfig

namespace Grok

/-- The groups of a tree at all depths: the placeholder that opens each of them and what is inside. -/
def Unfolding.groups : Unfolding → List (Placeholder × Unfolding)
  | .done => []
  | .char _ rest => rest.groups
  | .group p inner rest => (p, inner) :: (inner.groups ++ rest.groups)

/-- Inside a group at any depth is the definition of its name. -/
theorem Unfolds.definition_of_mem_groups {registry : Registry} {ps : List Piece} {root : Unfolding}
    {group : Placeholder × Unfolding} (h : Unfolds registry ps root) (hg : group ∈ root.groups) :
    ∃ definition, registry.get? group.1.name = some definition ∧
      ∃ inside, Cut definition.toList inside ∧ Unfolds registry inside group.2 := by
  induction h with
  | done => cases hg
  | char _ ih => exact ih hg
  | group hd hc hi _ ihi ih =>
    rcases List.mem_cons.mp hg with rfl | hg
    · exact ⟨_, hd, _, hc, hi⟩
    · exact (List.mem_append.mp hg).elim ihi ih

end Grok

namespace PipelineConfig

variable {config : PipelineConfig} {tree : FileTree} {compiler : Compiler}

/-- Each name has one definition, the one that counts, and it is what stands inside every group of the name in every
expansion, however deep the group lies. -/
theorem definitions_by_precedence (h : config.buildCompiler tree = .ok compiler) :
    ∃ files, (∀ other, config.Loads tree other ↔ other = files) ∧
      (∀ name given, config.Gives files name given ↔ compiler.registry.get? name = given) ∧
      compiler.registry.definitions.Distinct ∧
      (∀ name, name ∈ compiler.registry.definitions.keys ↔
        ∃ definition, config.Gives files name (some definition)) ∧
      ∀ text expansion, expand compiler.registry text = .ok expansion →
        ∃ root, Unfolds compiler.registry (pieces text) root ∧ expansion.Records root ∧
          ∀ group ∈ root.groups, ∃ definition, config.Gives files group.1.name (some definition) ∧
            ∃ inside, Cut definition.toList inside ∧ Unfolds compiler.registry inside group.2 := by
  obtain ⟨files, hfiles, hdefinitions⟩ := buildCompiler_eq_ok h
  have hgives (name : String) (given : Option String) :
      config.Gives files name given ↔ compiler.registry.get? name = given := by
    rw [gives_iff, Registry.get?, hdefinitions, get?_insertAll, get?_insertAll]
  refine ⟨files, fun other => ⟨fun ho => ho.unique hfiles, ?_⟩, hgives, ?_, fun name => ?_,
    fun text expansion hexpand => ?_⟩
  · rintro rfl
    exact hfiles
  · rw [hdefinitions]
    exact (builtins_distinct.insertAll _).insertAll _
  · simp only [hgives, ← contains_iff_mem_keys, Keyed.contains, Registry.get?, Option.isSome_iff_exists]
  · obtain ⟨root, hroot, hwrites⟩ := unfolds_of_expandText hexpand
    refine ⟨root, hroot, hwrites.records, fun group hg => ?_⟩
    obtain ⟨definition, hd, hinside⟩ := hroot.definition_of_mem_groups hg
    exact ⟨definition, (hgives _ _).mpr hd, hinside⟩

/-- The first file defines `A` twice and the second one `B` again; `WORD` and `A` have definitions elsewhere, too. -/
theorem definitions_by_precedence_of_files :
    let bytes (text : String) : List UInt8 := text.toList.map fun c => UInt8.ofNat c.toNat
    let tree := (FileTree.system.set ["first"] (.file (bytes "# A a\nA 1\n\nB 1\n  A  2 \nINT 3"))).set
      ["second"] (.file (bytes "B %{A}\nC 4\n"))
    let config : PipelineConfig := { patterns := [("WORD", "5"), ("C", "6")], patternFiles := ["first", "second"] }
    ∃ compiler, config.buildCompiler tree = .ok compiler ∧ ∃ files, config.Loads tree files ∧
      config.Gives files "A" (some "2") ∧ config.Gives files "B" (some "%{A}") ∧
      config.Gives files "C" (some "6") ∧ config.Gives files "INT" (some "3") ∧
      config.Gives files "WORD" (some "5") ∧ config.Gives files "YEAR" (builtins.get? "YEAR") ∧
      config.Gives files "D" none := by
  intro bytes tree config
  obtain ⟨compiler, hbuild, hregistry⟩ := exists_ok (x := config.buildCompiler tree)
    (p := fun compiler => ["A", "B", "C", "INT", "WORD", "YEAR", "D"].map compiler.registry.get? ==
      [some "2", some "%{A}", some "6", some "3", some "5", builtins.get? "YEAR", none]) (by decide +kernel)
  obtain ⟨files, hfiles, hgives, -⟩ := definitions_by_precedence hbuild
  refine ⟨compiler, hbuild, files, (hfiles files).mpr rfl, ?_⟩
  simp only [hgives]
  simpa using hregistry

end PipelineConfig

end LogPipeline
