import LogPipeline.Pipeline.Basic
import LogPipeline.Proofs.Files.Opening
import LogPipeline.Proofs.Result

/-!
# Building a pipeline

A configuration is looked through before anything starts, and once more when its pipeline is built. Both
find the same things wrong with it, up to files that cannot be opened, which only building tries. Building a
pipeline opens the files of the outputs before it counts the workers of the outputs; what that does to files
of a configuration that is refused is the last statement.
-/

namespace LogPipeline

namespace PipelineConfig

/-- The first half of building: the patterns, the filters and their workers. -/
def filterPhase (config : PipelineConfig) (currentYear : Int) (tree : FileTree) :
    Except ConfigError Controller := do
  let compiler ← config.buildCompiler tree
  let filters ← config.buildFilters compiler
  Controller.build "filters" (Filter.chain filters currentYear) config.workers.filters

/-- What building a pipeline comes to. -/
inductive Builds (config : PipelineConfig) (currentYear : Int) (tree : FileTree) :
    FileTree × Except ConfigError Pipeline → Prop
  | refused {e} : config.filterPhase currentYear tree = .error e →
      Builds config currentYear tree (tree, .error e)
  | unopened {filters after e} : config.filterPhase currentYear tree = .ok filters →
      config.openOutputs config.outputs tree = (after, .error e) →
      Builds config currentYear tree (after, .error e)
  | unmanned {filters after} : config.filterPhase currentYear tree = .ok filters →
      config.openOutputs config.outputs tree = (after, .ok ()) → config.workers.outputs = 0 →
      Builds config currentYear tree (after, .error (.invalidWorkerCount 0))
  | built {filters after outputs} : config.filterPhase currentYear tree = .ok filters →
      config.openOutputs config.outputs tree = (after, .ok ()) → 0 < config.workers.outputs →
      Builds config currentYear tree
        (after, .ok { filters := filters, outputs := outputs, capacity := config.channelCapacity })

variable {config : PipelineConfig} {currentYear : Int} {tree after : FileTree}
  {outputs : List OutputConfig} {filters : Controller} {path : String} {append : Bool} {e : ConfigError}

/-- The standard output, which is taken where there are no outputs, is not a file. -/
theorem openOutputs_effectiveOutputs (config : PipelineConfig) (tree : FileTree) :
    config.openOutputs config.effectiveOutputs tree = config.openOutputs config.outputs tree := by
  unfold effectiveOutputs
  cases config.outputs <;> rfl

theorem ofConfig_eq (config : PipelineConfig) (currentYear : Int) (tree : FileTree) :
    Pipeline.ofConfig config currentYear tree =
      match config.filterPhase currentYear tree with
      | .error e => (tree, .error e)
      | .ok filters =>
        match config.openOutputs config.outputs tree with
        | (tree, .error e) => (tree, .error e)
        | (tree, .ok ()) =>
          match Controller.build "outputs" config.outputChain config.workers.outputs with
          | .error e => (tree, .error e)
          | .ok outputs =>
            (tree, .ok { filters := filters, outputs := outputs, capacity := config.channelCapacity }) := by
  rw [← openOutputs_effectiveOutputs]
  rfl

theorem builds_ofConfig (config : PipelineConfig) (currentYear : Int) (tree : FileTree) :
    config.Builds currentYear tree (Pipeline.ofConfig config currentYear tree) := by
  rw [ofConfig_eq]
  cases hf : config.filterPhase currentYear tree with
  | error e => exact .refused hf
  | ok filters =>
    rcases ho : config.openOutputs config.outputs tree with ⟨after, opened⟩
    cases opened with
    | error e => exact .unopened hf ho
    | ok _ =>
      cases hb : Controller.build "outputs" config.outputChain config.workers.outputs with
      | error e =>
        obtain ⟨hzero, rfl⟩ := Controller.build_eq_error_iff.mp hb
        exact .unmanned hf ho hzero
      | ok outputs =>
        obtain ⟨hpos, -⟩ := Controller.build_eq_ok_iff.mp hb
        exact .built hf ho hpos

theorem filterPhase_eq_ok_iff :
    config.filterPhase currentYear tree = .ok filters ↔
      ∃ compiler list, config.buildCompiler tree = .ok compiler ∧ config.buildFilters compiler = .ok list ∧
        ∃ h : 0 < config.workers.filters, filters =
          ⟨"filters", Filter.chain list currentYear, config.workers.filters, h, .idle, {}, []⟩ := by
  simp only [filterPhase, bind_eq_ok, Controller.build_eq_ok_iff]
  constructor
  · rintro ⟨compiler, hc, list, hl, h⟩
    exact ⟨compiler, list, hc, hl, h⟩
  · rintro ⟨compiler, list, hc, hl, h⟩
    exact ⟨compiler, hc, list, hl, h⟩

/-! ## Looking through a configuration -/

theorem checkWorkers_eq_ok_iff {u : Unit} :
    config.checkWorkers = .ok u ↔ 0 < config.workers.filters ∧ 0 < config.workers.outputs := by
  unfold checkWorkers
  split
  · simp only [reduceCtorEq, false_iff]
    omega
  · simp only [true_iff]
    omega

theorem checkOutputs_eq_ok_iff {u : Unit} :
    config.checkOutputs = .ok u ↔ ∀ append, .file "" append ∉ config.outputs := by
  unfold checkOutputs
  split
  · rename_i hany
    simp only [reduceCtorEq, false_iff]
    obtain ⟨output, hm, hp⟩ := List.any_eq_true.mp hany
    cases output with
    | stdout pretty => cases hp
    | file path append =>
      obtain rfl : path = "" := by simpa using hp
      exact fun h => h append hm
  · rename_i hany
    simp only [true_iff]
    intro append hm
    exact hany (List.any_eq_true.mpr ⟨_, hm, by simp⟩)

theorem validate_eq_ok_iff (currentYear : Int) {count : Nat} :
    config.validate tree = .ok count ↔
      (0 < config.workers.outputs ∧ ∀ append, .file "" append ∉ config.outputs) ∧
        ∃ filters, config.filterPhase currentYear tree = .ok filters ∧ filters.chain.size = count := by
  simp only [validate, bind_eq_ok, checkWorkers_eq_ok_iff, checkOutputs_eq_ok_iff, filterPhase_eq_ok_iff]
  constructor
  · rintro ⟨_, ⟨hf, ho⟩, _, hp, compiler, hc, list, hl, hcount⟩
    refine ⟨⟨ho, hp⟩, _, ⟨compiler, list, hc, hl, hf, rfl⟩, ?_⟩
    simpa [Chain.size, Filter.chain, pure, Except.pure] using hcount
  · rintro ⟨⟨ho, hp⟩, _, ⟨compiler, list, hc, hl, hf, rfl⟩, hcount⟩
    refine ⟨(), ⟨hf, ho⟩, (), hp, compiler, hc, list, hl, ?_⟩
    simpa [Chain.size, Filter.chain, pure, Except.pure] using hcount

/-! ## Opening outputs -/

/-- An output whose file cannot be opened when those of the outputs before it have been. -/
def Unopenable (config : PipelineConfig) (tree after : FileTree) (e : ConfigError) : Prop :=
  ∃ earlier path append later cause, config.outputs = earlier ++ .file path append :: later ∧
    config.openOutputs earlier tree = (after, .ok ()) ∧
    after.openToWrite (config.resolve path) append = .error cause ∧
    e = .file (config.resolve path) cause

theorem openOutputs_eq_error (h : config.openOutputs outputs tree = (after, .error e)) :
    ∃ earlier path append later cause, outputs = earlier ++ .file path append :: later ∧
      config.openOutputs earlier tree = (after, .ok ()) ∧
      after.openToWrite (config.resolve path) append = .error cause ∧
      e = .file (config.resolve path) cause := by
  induction outputs generalizing tree with
  | nil => cases h
  | cons output rest ih =>
    cases output with
    | stdout pretty =>
      obtain ⟨earlier, path, append, later, cause, rfl, ho, h'⟩ := ih h
      exact ⟨.stdout pretty :: earlier, path, append, later, cause, rfl, ho, h'⟩
    | file path append =>
      simp only [openOutputs] at h
      split at h
      · rename_i opened hopen
        obtain ⟨earlier, path', append', later, cause, rfl, ho, h'⟩ := ih h
        refine ⟨.file path append :: earlier, path', append', later, cause, rfl, ?_, h'⟩
        simpa only [openOutputs, hopen] using ho
      · rename_i cause hopen
        cases h
        exact ⟨[], path, append, rest, cause, rfl, rfl, hopen, rfl⟩

/-- Every file was opened, after and before others, of which none fills a file that is empty. -/
theorem openOutputs_opens (h : config.openOutputs outputs tree = (after, .ok ()))
    (hm : .file path append ∈ outputs) :
    ∃ before opened, tree.Grown before ∧ before.openToWrite (config.resolve path) append = .ok opened ∧
      opened.Grown after ∧
      ∀ place, opened.get? place = some (.file []) → after.get? place = some (.file []) := by
  have hgrown {outputs : List OutputConfig} {tree : FileTree}
      (h : config.openOutputs outputs tree = (after, .ok ())) : tree.Grown after ∧
        ∀ place, tree.get? place = some (.file []) → after.get? place = some (.file []) := by
    induction outputs generalizing tree with
    | nil =>
      cases h
      exact ⟨.refl _, fun _ => id⟩
    | cons output rest ih =>
      cases output with
      | stdout pretty => exact ih h
      | file path append =>
        simp only [openOutputs] at h
        split at h
        · rename_i opened hopen
          obtain ⟨hg, hempty⟩ := ih h
          exact ⟨(FileTree.grown_of_openToWrite hopen).trans hg,
            fun place hp => hempty place (FileTree.openToWrite_keeps_empty hopen hp)⟩
        · cases h
  induction outputs generalizing tree with
  | nil => cases hm
  | cons output rest ih =>
    cases output with
    | stdout pretty => exact ih h (by simpa using hm)
    | file path' append' =>
      simp only [openOutputs] at h
      split at h
      · rename_i opened hopen
        rcases List.mem_cons.mp hm with heq | hm
        · cases heq
          obtain ⟨hg, hempty⟩ := hgrown h
          exact ⟨tree, opened, .refl tree, hopen, hg, hempty⟩
        · obtain ⟨before, opened', hg, h'⟩ := ih h hm
          exact ⟨before, opened', (FileTree.grown_of_openToWrite hopen).trans hg, h'⟩
      · cases h

/-- The path of a file without a name is that of a directory, or none. -/
theorem openToWrite_resolve_empty {opened : FileTree} :
    tree.openToWrite (config.resolve "") append ≠ .ok opened := by
  intro h
  have hslash := FileTree.not_slash_of_openToWrite h
  have hempty : tree.openToWrite "" append ≠ .ok opened := by
    simp [FileTree.openToWrite, FileTree.findToWrite, FileTree.checkPath, bind, Except.bind]
  -- joined to nothing, a directory is written with a slash at its end
  have hends (directory : String) (hd : directory.toList.getLast? = some '/') :
      (Path.segments directory).getLast? = some "" := by
    obtain ⟨cs, hcs⟩ := List.getLast?_eq_some_iff.mp hd
    rw [Path.segments, hcs]
    exact Path.getLast?_segmentsFrom_slash [] cs
  unfold resolve at h hslash
  split at h
  · rename_i directory hdir
    simp only [hdir, Path.join] at h hslash
    split at h
    · exact hempty h
    · rename_i hjoin
      rw [if_neg hjoin] at hslash
      split at h
      · rename_i hd
        rw [if_pos hd] at hslash
        exact hslash (hends _ (by simpa using hd))
      · rename_i hd
        rw [if_neg hd] at hslash
        exact hslash (hends _ (by simp))
  · exact hempty h

/-! ## Files of a configuration that is refused -/

/-- What the paths of the outputs lead to is as it was. -/
def Untouched (config : PipelineConfig) (before after : FileTree) : Prop :=
  ∀ path append, .file path append ∈ config.outputs →
    after.find (config.resolve path) = before.find (config.resolve path)

/-- Every file of an output is there, and opening it leaves everything as it is. -/
def Harmless (config : PipelineConfig) (tree : FileTree) : Prop :=
  ∀ path append, .file path append ∈ config.outputs →
    ∃ opened, tree.openToWrite (config.resolve path) append = .ok opened ∧ opened.Same tree

theorem same_of_openOutputs {now : FileTree} (hs : now.Same tree)
    (h : ∀ path append, .file path append ∈ outputs →
      ∃ opened, tree.openToWrite (config.resolve path) append = .ok opened ∧ opened.Same tree)
    (ho : config.openOutputs outputs now = (after, .ok ())) : after.Same tree := by
  induction outputs generalizing now with
  | nil =>
    cases ho
    exact hs
  | cons output rest ih =>
    have hrest := fun path append hm => h path append (List.mem_cons_of_mem _ hm)
    cases output with
    | stdout pretty => exact ih hs hrest ho
    | file path append =>
      simp only [openOutputs] at ho
      split at ho
      · rename_i opened hopen
        obtain ⟨alone, halone, hsame⟩ := h path append List.mem_cons_self
        obtain ⟨opened', hopen', hsame'⟩ := hs.symm.openToWrite halone
        obtain rfl : opened = opened' := by simpa [hopen] using hopen'
        exact ih (hsame'.symm.trans hsame) hrest ho
      · cases ho

/-- Files that are as they were after all of them have been opened were left alone by each opening. -/
theorem harmless_of_untouched (ho : config.openOutputs config.outputs tree = (after, .ok ()))
    (h : config.Untouched tree after) : config.Harmless tree := by
  intro path append hm
  obtain ⟨before, opened, -, hopen, hgrown, hempty⟩ := openOutputs_opens ho hm
  have hslash := FileTree.not_slash_of_openToWrite hopen
  have hgrown' := (FileTree.grown_of_openToWrite hopen).trans hgrown
  -- what the path led to when it was opened is where it leads in the end, and led to in the beginning
  have hleads {target : FileTree.Target} {entry : Entry}
      (hf : before.findToWrite (config.resolve path) = .ok target)
      (he : after.get? target.place = some entry) :
      tree.findToWrite (config.resolve path) = .ok (.found target.place entry) := by
    rw [FileTree.findToWrite_eq_find hslash, ← h path append hm, ← FileTree.findToWrite_eq_find hslash]
    exact hgrown'.findToWrite hf he
  rcases FileTree.openToWrite_eq_ok hopen with ⟨place, bytes, hf, rfl⟩ | ⟨place, hf, -⟩ | ⟨place, hf, rfl⟩
  · cases append with
    | true =>
      rcases hgrown' place _ (FileTree.holds_of_findToWrite hf) with he | ⟨_, new, -, he⟩
      · exact FileTree.openToWrite_leaves (hleads hf he) (.inr (.inr ⟨rfl, _, rfl⟩))
      · exact FileTree.openToWrite_leaves (hleads hf he) (.inr (.inr ⟨rfl, _, rfl⟩))
    | false =>
      have hplace : before.get? place = some (.file bytes) := FileTree.holds_of_findToWrite hf
      have he := hempty place (FileTree.get?_set_self (by simp [hplace]))
      exact FileTree.openToWrite_leaves (hleads hf he) (.inl rfl)
  · rcases hgrown' place _ (FileTree.holds_of_findToWrite hf) with he | ⟨_, _, hfile, -⟩
    · exact FileTree.openToWrite_leaves (hleads hf he) (.inr (.inl rfl))
    · cases hfile
  · have hplace : before.get? place = none := FileTree.holds_of_findToWrite hf
    have he := hempty place (FileTree.get?_set_self (by simp [hplace]))
    exact FileTree.openToWrite_leaves (hleads hf he) (.inl rfl)

theorem untouched_iff_harmless (ho : config.openOutputs config.outputs tree = (after, .ok ())) :
    config.Untouched tree after ↔ config.Harmless tree := by
  refine ⟨harmless_of_untouched ho, fun h path append _ => ?_⟩
  exact (same_of_openOutputs (.refl tree) h ho).find _

end PipelineConfig

namespace Pipeline

open PipelineConfig

/-- What is found wrong with a configuration before anything starts keeps its pipeline from being built; and
where nothing is found wrong the pipeline is built, with as many filters as were counted, unless the file of
an output cannot be opened. -/
theorem ofConfig_agrees_validate (config : PipelineConfig) (currentYear : Int) (tree : FileTree) :
    match config.validate tree, ofConfig config currentYear tree with
    | .ok count, (_, .ok pipeline) => pipeline.filters.chain.size = count
    | .ok _, (after, .error e) => config.Unopenable tree after e
    | .error _, (_, result) => ∃ e, result = .error e := by
  have hbuilds := builds_ofConfig config currentYear tree
  generalize ofConfig config currentYear tree = built at hbuilds
  cases hv : config.validate tree with
  | ok count =>
    obtain ⟨⟨hpos, -⟩, filters, hfilters, hcount⟩ := (validate_eq_ok_iff currentYear).mp hv
    cases hbuilds with
    | refused hf => simp [hfilters] at hf
    | unopened hf ho => exact openOutputs_eq_error ho
    | unmanned hf ho hzero => omega
    | built hf ho hp =>
      rw [hfilters] at hf
      cases hf
      exact hcount
  | error e =>
    cases hbuilds with
    | built hf ho hp =>
      -- what was built would have been found fit
      have hnamed : ∀ append, .file "" append ∉ config.outputs := fun append hm => by
        obtain ⟨before, opened, -, hopen, -⟩ := openOutputs_opens ho hm
        exact openToWrite_resolve_empty hopen
      rw [(validate_eq_ok_iff currentYear).mpr ⟨⟨hp, hnamed⟩, _, hf, rfl⟩] at hv
      cases hv
    | _ => exact ⟨_, rfl⟩

variable {config : PipelineConfig} {currentYear : Int} {tree after : FileTree} {e : ConfigError}

theorem ofConfig_of_unmanned {filters : Controller}
    (hf : config.filterPhase currentYear tree = .ok filters)
    (ho : config.openOutputs config.outputs tree = (after, .ok ())) (hzero : config.workers.outputs = 0) :
    ofConfig config currentYear tree = (after, .error (.invalidWorkerCount 0)) := by
  have hbuilds := builds_ofConfig config currentYear tree
  generalize ofConfig config currentYear tree = built at hbuilds ⊢
  cases hbuilds with
  | refused hf' => simp [hf] at hf'
  | unopened hf' ho' => simp [ho] at ho'
  | unmanned hf' ho' _ => simp_all
  | built hf' ho' hpos => omega

/-- A configuration that is refused for something else than a file leaves the files of its outputs as they
were exactly if its filters are refused or all these files are there, and empty or to be continued. As long as
it has workers for the outputs, it leaves the whole tree as it was. -/
theorem ofConfig_untouched_iff (h : ofConfig config currentYear tree = (after, .error e))
    (he : ∀ path cause, e ≠ .file path cause) :
    (config.Untouched tree after ↔
      ∀ filters, config.filterPhase currentYear tree = .ok filters → config.Harmless tree) ∧
    (config.workers.outputs ≠ 0 → after = tree) := by
  have hbuilds := builds_ofConfig config currentYear tree
  rw [h] at hbuilds
  cases hbuilds with
  | refused hf => exact ⟨⟨fun _ filters hok => by simp [hf] at hok, fun _ _ _ _ => rfl⟩, fun _ => rfl⟩
  | unopened hf ho =>
    obtain ⟨-, path, -, -, cause, -, -, -, rfl⟩ := openOutputs_eq_error ho
    exact absurd rfl (he _ cause)
  | unmanned hf ho hzero =>
    refine ⟨?_, fun hpos => absurd hzero hpos⟩
    rw [untouched_iff_harmless ho]
    exact ⟨fun hh _ _ => hh, fun hh => hh _ hf⟩

/-- A configuration without workers for its outputs, of which one continues a file that is there. -/
theorem ofConfig_untouched_of_continued :
    let config : PipelineConfig :=
      { workers := ⟨1, 0⟩, outputs := [.stdout true, .file "log" true] }
    let tree := FileTree.system.set ["log"] (.file [107])
    ofConfig config 2024 tree = (tree, .error (.invalidWorkerCount 0)) ∧
      (∀ path cause, ConfigError.invalidWorkerCount 0 ≠ .file path cause) ∧
      (config.Untouched tree tree ↔
        ∀ filters, config.filterPhase 2024 tree = .ok filters → config.Harmless tree) := by
  intro config tree
  have ho : config.openOutputs config.outputs tree = (tree, .ok ()) := by decide +kernel
  have h : ofConfig config 2024 tree = (tree, .error (.invalidWorkerCount 0)) :=
    ofConfig_of_unmanned rfl ho rfl
  have hne : ∀ path cause, ConfigError.invalidWorkerCount 0 ≠ .file path cause := by simp
  exact ⟨h, hne, (ofConfig_untouched_iff h hne).1⟩

/-- A configuration without workers for its outputs empties the file of an output before it is refused. -/
theorem ofConfig_empties_file :
    let config : PipelineConfig := { workers := ⟨1, 0⟩, outputs := [.file "log" false] }
    let tree := FileTree.system.set ["log"] (.file [107])
    ∃ after, ofConfig config 2024 tree = (after, .error (.invalidWorkerCount 0)) ∧
      tree.find "log" = .ok (.found ["log"] (.file [107])) ∧
      after.find "log" = .ok (.found ["log"] (.file [])) ∧ ¬ config.Untouched tree after := by
  intro config tree
  have ho : config.openOutputs config.outputs tree = (tree.set ["log"] (.file []), .ok ()) := by
    decide +kernel
  have hbefore : tree.find "log" = .ok (.found ["log"] (.file [107])) := by decide +kernel
  have hafter : (tree.set ["log"] (.file [])).find "log" = .ok (.found ["log"] (.file [])) := by
    decide +kernel
  refine ⟨_, ofConfig_of_unmanned rfl ho rfl, hbefore, hafter, fun h => ?_⟩
  have := h "log" false List.mem_cons_self
  rw [show config.resolve "log" = "log" from rfl, hbefore, hafter] at this
  cases this

end Pipeline

end LogPipeline
