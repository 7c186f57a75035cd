import PipelineAudit.Analysis.Cost
import PipelineAudit.Platform.GitLab
import PipelineAudit.Proofs.Analysis.Dependencies
import PipelineAudit.Proofs.Analysis.Ranges

/-!
# Jobs of GitLab pipelines

Three readers tell the jobs of a GitLab pipeline from its other top-level entries.  The platform
checks set aside the reserved names and the hidden templates.  The metrics count every entry with a
script, and the rule for parallelism every entry with a stage, whatever its name is.

* `jobsIn_stages`: the rule groups all entries by their stages, each group in the order of the
  document.
* `parallelStage_mem_stageNotes_iff`: what the rule says of a stage.
* `countJobs_eq_add`: the metrics count the jobs with a script, and the entries set aside with one.
* `jobs_agree_iff`: when all readers take the same entries for jobs.
-/

namespace PipelineAudit

/-! ### Names set aside -/

namespace GitLab

/-- Whether the name of a top-level entry says that it is no job: the name is reserved, or that of a
hidden template. -/
def isSetAside (name : String) : Bool :=
  reservedNames.contains name || Text.startsWith name.toList "."

/-- Whether a top-level entry is a job. -/
def isJob (entry : Key × Document) : Bool :=
  entry.2.isMap && !isSetAside entry.1.display

theorem isJobName_eq (name : String) :
  isJobName name = !isSetAside name
  := by
  rw [isJobName, isSetAside, Bool.not_or]

/-- A pipeline has jobs if all its mappings can be named.  If its entries have different names, they
are those of its entries that are jobs. -/
theorem jobs_eq_ok {document : Document} {jobs : List (String × Document)}
    (h : GitLab.jobs document = .ok jobs) (hn : (document.entries.map (·.1.display)).Nodup) :
  (∀ e ∈ document.entries, e.2.isMap → e.1.isWritable) ∧
  jobs = (document.entries.filter isJob).map Document.displayed
  := by
  obtain ⟨named, hnamed, rfl⟩ := map_eq_ok.mp h
  rw [funext Document.named_eq, mapM_ifWritable, ifWritable_eq_ok, List.all_eq_true] at hnamed
  obtain ⟨hw, rfl⟩ := hnamed
  constructor
  · intro e he hm
    exact hw e (List.mem_filter.mpr ⟨he, hm⟩)
  · rw [jobsAmong, List.filter_map, List.filter_filter]
    have hd : (List.map (·.1) ((document.entries.filter isJob).map Document.displayed)).Nodup := by
      rw [List.map_map]
      exact hn.sublist (List.filter_sublist.map _)
    have ht : (fun e : Key × Document => ((fun e => isJobName e.1) ∘ Document.displayed) e &&
        e.2.isMap) = isJob := by
      funext e
      rw [isJob, Bool.and_comm, Function.comp_apply, isJobName_eq]
      rfl
    rw [ht, Parallelism.distinctNames_of_nodup hd]

/-- The names of the jobs that belong to a stage. -/
def jobsIn (jobs : List (String × Document)) (stage : String) : List String :=
  (jobs.filter fun j => Parallelism.stage? j.2 = some stage).map (·.1)

/-- The top-level entries of a pipeline whose names say that they are no jobs. -/
def setAside (document : Document) : List (Key × Document) :=
  document.entries.filter fun e => isSetAside e.1.display

end GitLab

/-- What has a value under a name is a mapping. -/
theorem Document.isMap_of_get_ne_null {d : Document} (name : String) (h : d.get name ≠ .null) :
  d.isMap
  := by
  cases d with
  | map entries => rfl
  | _ => exact absurd rfl h

theorem Document.isMap_and_sets (d : Document) (name : String) :
  (d.isMap && d.sets name) = d.sets name
  := by
  cases hm : d.isMap with
  | true => rfl
  | false =>
    have hn : d.get name = .null := by
      by_contra hn
      rw [isMap_of_get_ne_null name hn] at hm
      cases hm
    rw [sets, hn]
    rfl

/-! ### Stages -/

namespace Parallelism

theorem isMap_of_stage? {entry : Document} {stage : String} (h : stage? entry = some stage) :
  entry.isMap
  := by
  apply Document.isMap_of_get_ne_null "stage"
  intro hn
  rw [stage?, hn] at h
  cases h

/-- The names of the jobs that are grouped under a stage. -/
def jobsIn (stages : List (String × List String)) (stage : String) : List String :=
  (stages.lookup stage).getD []

/-- One more job comes last in its own stage and changes no other. -/
theorem lookup_addToStage (stage job : String) (groups : List (String × List String))
    (s : String) :
  ((addToStage stage job groups).lookup s).getD [] =
    (groups.lookup s).getD [] ++ if s = stage then [job] else []
  := by
  induction groups with
  | nil =>
    rw [addToStage, lookup_cons_eq]
    by_cases hs : s = stage <;> simp [hs]
  | cons group groups ih =>
    rw [addToStage]
    by_cases hg : group.1 = stage
    · rw [if_pos hg, lookup_cons_eq, lookup_cons_eq, hg]
      by_cases hs : s = stage <;> simp [hs]
    · rw [if_neg hg, lookup_cons_eq, lookup_cons_eq]
      by_cases hs : s = group.1
      · simp [hs, hg]
      · rw [if_neg hs, if_neg hs, ih]

/-- The group of a stage: the entries that name it, in the order of the document. -/
theorem jobsIn_stagesAmong (entries : List (String × Document)) (stage : String) :
  jobsIn (stagesAmong entries) stage =
    (entries.filter fun e => stage? e.2 = some stage).map (·.1)
  := by
  rw [jobsIn, stagesAmong]
  -- The induction is from the last entry on, as the groups are made.
  induction entries using List.reverseRecOn with
  | nil => rfl
  | append_singleton entries e ih =>
    rw [List.foldl_append, List.foldl_cons, List.foldl_nil, List.filter_append, List.map_append]
    cases he : stage? e.2 with
    | none => simp [ih, he]
    | some s =>
      rw [lookup_addToStage, ih]
      by_cases hs : stage = s <;> simp [he, hs, Ne.symm]

/-- The stages of a pipeline whose mappings can be named. -/
theorem stages_eq_ok {document : Document}
    (h : ∀ e ∈ document.entries, e.2.isMap → e.1.isWritable) :
  stages document = .ok (stagesAmong ((stagedEntries document).map Document.displayed))
  := by
  have hw : (stagedEntries document).all (·.1.isWritable) := by
    rw [List.all_eq_true]
    intro e he
    obtain ⟨he, hs⟩ := List.mem_filter.mp he
    obtain ⟨stage, hs⟩ := Option.isSome_iff_exists.mp hs
    exact h e he (isMap_of_stage? hs)
  rw [stages, funext Document.named_eq, mapM_ifWritable, hw]
  rfl

/-- The jobs that the rule takes for those of a stage are all entries that name it. -/
theorem jobsIn_stages (document : Document) (stage : String) :
  jobsIn (stagesAmong ((stagedEntries document).map Document.displayed)) stage =
    (document.entries.filter fun e => stage? e.2 = some stage).map (·.1.display)
  := by
  rw [jobsIn_stagesAmong, stagedEntries, List.filter_map, List.map_map, List.filter_filter]
  congr 1
  apply List.filter_congr
  intro e _
  by_cases hs : stage? e.2 = some stage
  · simp [Document.displayed, hs]
  · simp [Document.displayed, hs]

theorem map_fst_addToStage (stage job : String) (groups : List (String × List String)) :
  (addToStage stage job groups).map (·.1) =
    if stage ∈ groups.map (·.1) then groups.map (·.1) else groups.map (·.1) ++ [stage]
  := by
  induction groups with
  | nil => rfl
  | cons group groups ih =>
    rw [addToStage]
    by_cases hg : group.1 = stage
    · simp [hg]
    · rw [if_neg hg, List.map_cons, List.map_cons, ih]
      by_cases hm : stage ∈ groups.map (·.1) <;> simp [hm, Ne.symm hg]

/-- No stage has two groups. -/
theorem nodup_stagesAmong (entries : List (String × Document)) :
  ((stagesAmong entries).map (·.1)).Nodup
  := by
  rw [stagesAmong]
  induction entries using List.reverseRecOn with
  | nil => exact List.nodup_nil
  | append_singleton entries e ih =>
    rw [List.foldl_append, List.foldl_cons, List.foldl_nil]
    split
    case h_2 => exact ih
    case h_1 stage _ =>
      rw [map_fst_addToStage]
      split
      case isTrue => exact ih
      case isFalse hm => exact List.concat_eq_append ▸ ih.concat hm

/-! ### Notes on stages -/

theorem title_parallelStage (stage : String) (count : Nat) :
  (parallelStage stage count).title = "Parallel jobs in stage \"" ++ stage ++ "\""
  := rfl

theorem description_parallelStage (stage : String) (count : Nat) :
  (parallelStage stage count).description =
    "Stage \"" ++ stage ++ "\" has " ++ toString count ++ " jobs that can run in parallel"
  := rfl

theorem toString_inj {m n : Nat} (h : toString m = toString n) :
  m = n
  := by
  rw [Nat.toString_eq_ofList_toDigits, Nat.toString_eq_ofList_toDigits, String.ofList_inj] at h
  rw [← Nat.ofDigitChars_ten_toDigits (n := m), h, Nat.ofDigitChars_ten_toDigits]

/-- A note tells its stage and its number of jobs. -/
theorem parallelStage_inj {stage stage' : String} {count count' : Nat}
    (h : parallelStage stage count = parallelStage stage' count') :
  stage = stage' ∧ count = count'
  := by
  have ht := congrArg Optimization.title h
  have hd := congrArg Optimization.description h
  rw [title_parallelStage, title_parallelStage, String.append_left_inj,
    String.append_right_inj] at ht
  rw [description_parallelStage, description_parallelStage, ht, String.append_left_inj,
    String.append_right_inj] at hd
  exact ⟨ht, toString_inj hd⟩

theorem parallelStage_ne_fewerStages (stage : String) (count declared : Nat) :
  parallelStage stage count ≠ fewerStages declared
  := by
  intro h
  have ht : "Parallel jobs in stage \"" ++ stage ++ "\"" = "Consider reducing pipeline stages" :=
    congrArg Optimization.title h
  have hc := congrArg (fun s => s.toList.head?) ht
  simp at hc

/-- A number of parallel jobs in a stage is noted if it is the number of the jobs that are grouped
under the stage, and more than one. -/
theorem parallelStage_mem_stageNotes_iff {stages : List (String × List String)}
    (hn : (stages.map (·.1)).Nodup) {stage : String} {count : Nat} :
  parallelStage stage count ∈ stageNotes stages ↔
    1 < count ∧ (jobsIn stages stage).length = count
  := by
  simp only [stageNotes, List.mem_map, List.mem_filter, decide_eq_true_eq]
  constructor
  · rintro ⟨⟨s, jobs⟩, ⟨hm, hl⟩, he⟩
    obtain ⟨rfl, rfl⟩ := parallelStage_inj he
    rw [jobsIn, (mem_iff_lookup_eq_some hn).mp hm]
    exact ⟨hl, rfl⟩
  · rintro ⟨hl, rfl⟩
    cases hj : stages.lookup stage with
    | none =>
      rw [jobsIn, hj] at hl
      exact absurd hl (by decide)
    | some jobs =>
      rw [jobsIn, hj] at hl ⊢
      exact ⟨(stage, jobs), ⟨(mem_iff_lookup_eq_some hn).mpr hj, hl⟩, rfl⟩

/-- Which notes on stages the rule makes on a pipeline of these stages. -/
theorem parallelStage_mem_checkStages_iff {document : Document}
    {stages : List (String × List String)} (h : Parallelism.stages document = .ok stages)
    (hn : (stages.map (·.1)).Nodup) {stage : String} {count : Nat} :
  parallelStage stage count ∈ (checkStages document).findings.optimizations ↔
    1 < count ∧ (jobsIn stages stage).length = count
  := by
  have hfound : (checkStages document).findings.optimizations =
      (Findings.when (5 < (document.get "stages").items.length)
        (.optimization (fewerStages (document.get "stages").items.length))).optimizations ++
      stageNotes stages := by
    rw [checkStages, h]
    rfl
  rw [hfound, List.mem_append, parallelStage_mem_stageNotes_iff hn]
  apply or_iff_right
  rw [Findings.when]
  split
  · intro hm
    exact parallelStage_ne_fewerStages _ _ _ (List.mem_singleton.mp hm)
  · exact List.not_mem_nil

/-- The entries that name a stage are the jobs of the stage exactly if none of them is set aside. -/
theorem staged_eq_iff {document : Document} (stage : String) :
  (document.entries.filter fun e => stage? e.2 = some stage).map (·.1.display) =
      GitLab.jobsIn ((document.entries.filter GitLab.isJob).map Document.displayed) stage ↔
    ∀ e ∈ GitLab.setAside document, stage? e.2 ≠ some stage
  := by
  have hg : GitLab.jobsIn ((document.entries.filter GitLab.isJob).map Document.displayed) stage =
      (document.entries.filter fun e =>
        GitLab.isJob e && decide (stage? e.2 = some stage)).map (·.1.display) := by
    rw [GitLab.jobsIn, List.filter_map, List.map_map, List.filter_filter]
    simp only [Function.comp_def, Document.displayed, Bool.and_comm]
    rfl
  rw [hg]
  constructor
  · -- An entry that is set aside would have the name of a job.
    intro h e he hs
    obtain ⟨he, ha⟩ := List.mem_filter.mp he
    have hm : e.1.display ∈ (document.entries.filter fun e =>
        stage? e.2 = some stage).map (·.1.display) :=
      List.mem_map_of_mem (List.mem_filter.mpr ⟨he, decide_eq_true hs⟩)
    rw [h] at hm
    obtain ⟨e', he', hd⟩ := List.mem_map.mp hm
    have hj := (List.mem_filter.mp he').2
    rw [GitLab.isJob, hd, ha] at hj
    simp at hj
  · intro h
    congr 1
    apply List.filter_congr
    intro e he
    by_cases hs : stage? e.2 = some stage
    · have ha : GitLab.isSetAside e.1.display = false := by
        rw [Bool.eq_false_iff]
        exact fun ha => h e (List.mem_filter.mpr ⟨he, ha⟩) hs
      rw [GitLab.isJob, isMap_of_stage? hs, ha]
      rfl
    · simp [hs]

end Parallelism

/-! ### Counts -/

/-- The metrics count the jobs with a script, and the entries set aside with one. -/
theorem Measure.countJobs_eq_add (document : Document) :
  countJobs document "gitlab-ci" =
    ((document.entries.filter GitLab.isJob).filter (·.2.sets "script")).length +
      ((GitLab.setAside document).filter (·.2.sets "script")).length
  := by
  have hj : (document.entries.filter GitLab.isJob).filter (·.2.sets "script") =
      (document.entries.filter (·.2.sets "script")).filter fun e =>
        !GitLab.isSetAside e.1.display := by
    rw [List.filter_filter, List.filter_filter]
    apply List.filter_congr
    intro e _
    rw [GitLab.isJob, ← Bool.and_assoc, Bool.and_comm _ e.2.isMap, Document.isMap_and_sets,
      Bool.and_comm]
  have ha : (GitLab.setAside document).filter (·.2.sets "script") =
      (document.entries.filter (·.2.sets "script")).filter fun e =>
        GitLab.isSetAside e.1.display := by
    rw [GitLab.setAside, List.filter_comm]
  rw [countJobs, if_neg (by decide), if_pos rfl, Document.values, List.filter_map, List.length_map,
    hj, ha]
  simp only [Function.comp_def, Document.isMap_and_sets]
  rw [List.length_eq_length_filter_add fun e => !GitLab.isSetAside e.1.display]
  simp only [Bool.not_not]

/-- Which entries the readers take for jobs, in a GitLab pipeline whose entries have names of their
own and whose mappings can be named.  The metrics and the estimate of the cost count the jobs with a
script, and each entry with a script that is set aside.  The rule for parallelism notes how many
entries name a stage.  So the metrics count just the jobs with a script if and only if no entry that
is set aside has a script, and the rule takes just the jobs of a stage for its jobs if and only if
no such entry names the stage. -/
theorem jobs_agree_iff {document : Document} {jobs : List (String × Document)}
    (hn : (document.entries.map (·.1.display)).Nodup) (hj : GitLab.jobs document = .ok jobs)
    (text : List Char) (vulnerabilities : List Vulnerability) :
  let scripted := jobs.filter (·.2.sets "script")
  let aside := GitLab.setAside document
  let counted := Measure.countJobs document "gitlab-ci"
  let notes :=
    (Rule.parallelizationAnalysis.check document ⟨text, "gitlab-ci"⟩).findings.optimizations
  ∃ stages, Parallelism.stages document = .ok stages ∧
  counted = scripted.length + (aside.filter (·.2.sets "script")).length ∧
  (∀ m, Metrics.of document "gitlab-ci" vulnerabilities = .ok m → m.jobs = counted) ∧
  (CostEstimation.of document "gitlab-ci").breakdown.compute =
    10 * counted + 2 * Measure.countSteps document ∧
  (∀ stage count, Parallelism.parallelStage stage count ∈ notes ↔
    1 < count ∧ (Parallelism.jobsIn stages stage).length = count) ∧
  (counted = scripted.length ↔ ∀ e ∈ aside, ¬ e.2.sets "script") ∧
  (∀ stage, Parallelism.jobsIn stages stage = GitLab.jobsIn jobs stage ↔
    ∀ e ∈ aside, Parallelism.stage? e.2 ≠ some stage)
  := by
  intro scripted aside counted notes
  obtain ⟨hw, hjobs⟩ := GitLab.jobs_eq_ok hj hn
  have hs := Parallelism.stages_eq_ok hw
  have hc : counted = scripted.length + (aside.filter (·.2.sets "script")).length := by
    have hl : scripted.length =
        ((document.entries.filter GitLab.isJob).filter (·.2.sets "script")).length := by
      change (jobs.filter (·.2.sets "script")).length = _
      rw [hjobs, List.filter_map, List.length_map]
      rfl
    rw [hl]
    exact Measure.countJobs_eq_add document
  refine ⟨_, hs, hc, fun m => Metrics.jobs_of_eq_ok, rfl, ?_, ?_, ?_⟩
  · intro stage count
    exact Parallelism.parallelStage_mem_checkStages_iff hs (Parallelism.nodup_stagesAmong _)
  · rw [hc, Nat.add_eq_left, List.length_eq_zero_iff, List.filter_eq_nil_iff]
  · intro stage
    rw [Parallelism.jobsIn_stages, hjobs]
    exact Parallelism.staged_eq_iff stage

/-- Two jobs of a stage, below settings and a template without script and stage. -/
def plainPipeline : Document :=
  .map [
    (.ofText "default", .map [(.ofText "image", .text "node:20")]),
    (.ofText ".cached", .map [(.ofText "cache", .map [])]),
    (.ofText "lint", .map [(.ofText "stage", .text "test"), (.ofText "script", .text "make lint")]),
    (.ofText "unit", .map [(.ofText "stage", .text "test"), (.ofText "script", .text "make test")])]

theorem jobs_agree_iff_plainPipeline :
  (plainPipeline.entries.map (·.1.display)).Nodup ∧
  Measure.countJobs plainPipeline "gitlab-ci" = 2 ∧
  (∃ jobs stages, GitLab.jobs plainPipeline = .ok jobs ∧
    Parallelism.stages plainPipeline = .ok stages ∧
    Parallelism.jobsIn stages "test" = GitLab.jobsIn jobs "test") ∧
  Parallelism.parallelStage "test" 2 ∈
    (Rule.parallelizationAnalysis.check plainPipeline ⟨[], "gitlab-ci"⟩).findings.optimizations
  := by
  have hn : (plainPipeline.entries.map (·.1.display)).Nodup := by decide
  obtain ⟨stages, hs, hc, -, -, hnotes, -, hstages⟩ := jobs_agree_iff hn rfl [] []
  have ha : ∀ e ∈ GitLab.setAside plainPipeline, Parallelism.stage? e.2 ≠ some "test" := by decide
  have hsame := (hstages "test").mpr ha
  refine ⟨hn, hc.trans (by decide), ⟨_, stages, rfl, hs, hsame⟩, (hnotes "test" 2).mpr ?_⟩
  rw [hsame]
  decide

/-- A job, a template that it could extend, and default settings with a script. -/
def templatedPipeline : Document :=
  .map [
    (.ofText "default", .map [(.ofText "script", .list [.text "make"])]),
    (.ofText ".base", .map [(.ofText "stage", .text "test"),
      (.ofText "script", .list [.text "make test"])]),
    (.ofText "unit", .map [(.ofText "stage", .text "test"),
      (.ofText "script", .list [.text "make unit"])])]

/-- The metrics count the default settings and the template as jobs, and the rule takes the template
for a job that runs in parallel to the only job there is. -/
theorem countJobs_templatedPipeline :
  templatedPipeline.entries.map (·.1) = [.ofText "default", .ofText ".base", .ofText "unit"] ∧
  Measure.countJobs templatedPipeline "gitlab-ci" = 3 ∧
  ∃ jobs stages, GitLab.jobs templatedPipeline = .ok jobs ∧
    Parallelism.stages templatedPipeline = .ok stages ∧
    jobs.map (·.1) = ["unit"] ∧
    GitLab.jobsIn jobs "test" = ["unit"] ∧
    Parallelism.jobsIn stages "test" = [".base", "unit"] ∧
    Parallelism.stageNotes stages = [Parallelism.parallelStage "test" 2]
  := by
  refine ⟨rfl, by decide, _, _, rfl, rfl, by decide, by decide, by decide, by decide⟩

end PipelineAudit
