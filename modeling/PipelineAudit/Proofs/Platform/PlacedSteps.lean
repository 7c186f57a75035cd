import PipelineAudit.Proofs.Document.Writing
import PipelineAudit.Proofs.Platform.GroupNesting
import PipelineAudit.Proofs.Platform.IssueIds

/-!
# The steps of a pipeline

A pipeline without references has finitely many steps, each of them inside of some groups.  The
checks of a configuration report on each step once, under the label of its section and with one
suffix for each group around it.  They end before the first section whose name cannot be written.

* `stepsOfList`: the steps of a list of steps, by recursion on what is written in it.
* `stepReport_of_isTree`: the checks of a list of steps report the issues of its steps.
* `reached`: the sections up to the first one without a label.
* `analyze_checks_each_step`: what is reported on a configuration, kind by kind.
-/

namespace PipelineAudit.Bitbucket

/-! ### Steps as they are written -/

/-- The kinds of groups of steps. -/
inductive GroupKind where
  | parallel
  | stage

namespace GroupKind

/-- The name under which an entry holds a group. -/
def name : GroupKind → String
  | parallel => "parallel"
  | stage => "stage"

/-- What a group adds to the label of the steps in it. -/
def suffix : GroupKind → String
  | parallel => " (parallel)"
  | stage => " (stage)"

end GroupKind

/-- A step, and the groups around it from the outside in. -/
structure PlacedStep where
  groups : List GroupKind
  step : Document

namespace PlacedStep

/-- A step inside of one more group. -/
def inside (kind : GroupKind) (s : PlacedStep) : PlacedStep :=
  ⟨kind :: s.groups, s.step⟩

/-- The label of a step: that of its section, with a suffix for each group around it. -/
def label (s : PlacedStep) (called : String) : String :=
  s.groups.foldl (fun label kind => label ++ kind.suffix) called

end PlacedStep

/-- The steps of fields that hold no group: the one under `step`, if there is one. -/
def singleStep (fields : List (Key × Document)) : List PlacedStep :=
  ((fields.find? (·.1.isText "step")).map fun e => ⟨[], e.2⟩).toList

mutual

/-- The steps of a list of steps; what is no list has none. -/
def stepsOfList : Document → List PlacedStep
  | .list entries => stepsOfEntries entries
  | _ => []

/-- The steps of entries, one entry after the other. -/
def stepsOfEntries : List Document → List PlacedStep
  | [] => []
  | entry :: rest => stepsOfEntry entry ++ stepsOfEntries rest

/-- The steps of an entry: those of its parallel group, if it holds one, else those of its stage, if
it holds one, else its single step. -/
def stepsOfEntry : Document → List PlacedStep
  | .map fields =>
    (groupAmong .parallel fields).getD ((groupAmong .stage fields).getD (singleStep fields))
  | _ => []

/-- The steps of the group of a kind among some fields, if there is one. -/
def groupAmong (kind : GroupKind) : List (Key × Document) → Option (List PlacedStep)
  | [] => none
  | (k, group) :: rest =>
    if k.isText kind.name then some ((stepsOfGroup kind group).map (.inside kind))
    else groupAmong kind rest

/-- The steps of a group: those of its list under `steps`; a parallel group may be a list itself. -/
def stepsOfGroup : GroupKind → Document → List PlacedStep
  | _, .map fields => listAmong fields
  | .parallel, .list entries => stepsOfEntries entries
  | _, _ => []

/-- The steps of the list under `steps` among some fields. -/
def listAmong : List (Key × Document) → List PlacedStep
  | [] => []
  | (k, steps) :: rest => if k.isText "steps" then stepsOfList steps else listAmong rest

end

/-! ### Steps by access to the parts -/

theorem get?_of_isTree {fields : List (Key × Document)} (h : (Document.map fields).isTree)
    (name : String) :
  (Document.map fields).get? name = (fields.find? (·.1.isText name)).map (·.2)
  := by
  rw [Document.get?, Document.entries_of_isTree h]

theorem stepsOfEntries_eq (entries : List Document) :
  stepsOfEntries entries = entries.flatMap stepsOfEntry
  := by
  induction entries with
  | nil => rw [stepsOfEntries, List.flatMap_nil]
  | cons entry rest ih => rw [stepsOfEntries, ih, List.flatMap_cons]

/-- The steps of a list of steps are those of its items, one after the other. -/
theorem stepsOfList_eq {steps : Document} (h : steps.isTree) :
  stepsOfList steps = steps.items.flatMap stepsOfEntry
  := by
  cases steps with
  | list entries => rw [stepsOfList, stepsOfEntries_eq, Document.items_of_isTree h]
  | scalar s => rfl
  | map fields => rfl
  | up level => rfl

theorem stepsOfList_of_not_isList {steps : Document} (h : ¬ steps.isList) :
  stepsOfList steps = []
  := by
  cases steps with
  | list entries => exact absurd rfl h
  | scalar s => rfl
  | map fields => rfl
  | up level => rfl

theorem groupAmong_eq (kind : GroupKind) (fields : List (Key × Document)) :
  groupAmong kind fields = (fields.find? (·.1.isText kind.name)).map fun e =>
    (stepsOfGroup kind e.2).map (.inside kind)
  := by
  induction fields with
  | nil => rw [groupAmong, List.find?_nil, Option.map_none]
  | cons e rest ih =>
    rw [groupAmong, List.find?_cons]
    cases e.1.isText kind.name with
    | true => rfl
    | false => exact ih

theorem listAmong_eq {fields : List (Key × Document)} (h : (Document.map fields).isTree) :
  listAmong fields = stepsOfList ((Document.map fields).get "steps")
  := by
  rw [Document.get, get?_of_isTree h]
  clear h
  induction fields with
  | nil => rfl
  | cons e rest ih =>
    rw [listAmong, List.find?_cons]
    cases e.1.isText "steps" with
    | true => rfl
    | false => exact ih

theorem stepsOfGroup_stage {group : Document} (h : group.isTree) :
  stepsOfGroup .stage group = stepsOfList (group.get "steps")
  := by
  cases group with
  | map fields => exact listAmong_eq h
  | scalar s => rfl
  | list entries => rfl
  | up level => rfl

theorem stepsOfGroup_parallel {group : Document} (h : group.isTree) :
  stepsOfGroup .parallel group = stepsOfList (if group.isMap then group.get "steps" else group)
  := by
  cases group with
  | map fields => exact listAmong_eq h
  | scalar s => rfl
  | list entries => rfl
  | up level => rfl

/-- What the steps of an entry are, by what it is taken for. -/
theorem stepsOfEntry_eq {entry : Document} (h : entry.isTree) :
  (∃ inner kind, Entry.of entry = .group inner kind.suffix ∧
    stepsOfEntry entry = (stepsOfList inner).map (.inside kind)) ∨
  (∃ step, Entry.of entry = .step step ∧ stepsOfEntry entry = [⟨[], step⟩]) ∨
  (Entry.of entry = .other ∧ stepsOfEntry entry = [])
  := by
  cases entry with
  | scalar s => exact .inr (.inr ⟨rfl, rfl⟩)
  | list entries => exact .inr (.inr ⟨rfl, rfl⟩)
  | up level => exact .inr (.inr ⟨rfl, rfl⟩)
  | map fields =>
    rw [stepsOfEntry, groupAmong_eq, groupAmong_eq, singleStep, Entry.of, get?_of_isTree h,
      get?_of_isTree h, get?_of_isTree h]
    have hvalue : ∀ e ∈ fields, e.2.isTree := Document.allTreeEntries_iff.mp h
    cases hp : fields.find? (·.1.isText "parallel") with
    | some e =>
      left
      have he := hvalue e (List.mem_of_find?_eq_some hp)
      refine ⟨_, .parallel, rfl, ?_⟩
      rw [GroupKind.name, hp, Option.map_some, Option.getD_some, stepsOfGroup_parallel he]
    | none =>
      rw [GroupKind.name, GroupKind.name, hp]
      cases hs : fields.find? (·.1.isText "stage") with
      | some e =>
        left
        have he := hvalue e (List.mem_of_find?_eq_some hs)
        refine ⟨_, .stage, rfl, ?_⟩
        rw [Option.map_none, Option.getD_none, Option.map_some, Option.getD_some,
          stepsOfGroup_stage he]
      | none =>
        right
        cases fields.find? (·.1.isText "step") with
        | some e => exact .inl ⟨e.2, rfl, rfl⟩
        | none => exact .inr ⟨rfl, rfl⟩

/-! ### Issues of steps -/

/-- The issues of steps in a section. -/
def placedIssues (steps : List PlacedStep) (called : String) : List Issue :=
  steps.flatMap fun s => singleStepIssues s.step (s.label called)

theorem placedIssues_inside (kind : GroupKind) (steps : List PlacedStep) (called : String) :
  placedIssues (steps.map (.inside kind)) called = placedIssues steps (called ++ kind.suffix)
  := List.flatMap_map ..

/-- Without references, the checks of a list of steps report the issues of its steps, however deep
they lie in groups. -/
theorem stepReport_of_isTree {steps : Document} (h : steps.isTree) (called : String) :
  stepReport steps called = .done (.ofIssues (placedIssues (stepsOfList steps) called))
  := by
  have hentries : ∀ entry ∈ steps.items, entryReport stepReport called entry =
      .done (.ofIssues (placedIssues (stepsOfEntry entry) called)) := by
    intro entry he
    obtain ⟨inner, kind, hg, hsteps⟩ | ⟨step, hg, hsteps⟩ | ⟨hg, hsteps⟩ :=
      stepsOfEntry_eq (Document.item_of_isTree h he).1
    · obtain ⟨hi, hc⟩ := nested_of_isTree h (nested_of_mem_items he hg)
      rw [entryReport, hg, hsteps, placedIssues_inside]
      exact stepReport_of_isTree hi (called ++ kind.suffix)
    · rw [entryReport, hg, hsteps]
      exact congrArg (fun issues => Outcome.done (.ofIssues issues)) (List.append_nil _).symm
    · rw [entryReport, hg, hsteps]
      rfl
  rw [stepReport_eq (Document.isClosed_of_isTree h) (finitelyNested_of_isTree h),
    Outcome.each_congr hentries, Outcome.each_issues, stepsOfList_eq h, placedIssues,
    List.flatMap_assoc]
  rfl
termination_by steps.containers

/-! ### Sections and their labels -/

/-- The section with a label. -/
def Section.of (s : Document × String) : Section :=
  ⟨s.1, .ok s.2⟩

/-- The sections up to the first one without a label, each with its label. -/
def reached : List Section → List (Document × String)
  | [] => []
  | s :: rest =>
    match s.label with
    | .ok label => (s.steps, label) :: reached rest
    | .error _ => []

theorem reached_prefix (l : List Section) :
  (reached l).map .of <+: l
  := by
  induction l with
  | nil => exact List.prefix_rfl
  | cons s rest ih =>
    obtain ⟨steps, failure | label⟩ := s
    · exact List.nil_prefix
    · exact List.prefix_cons_inj _ |>.mpr ih

theorem reached_of_labelled {l : List Section} (h : ∀ s ∈ l, ∃ label, s.label = .ok label) :
  (reached l).map .of = l
  := by
  induction l with
  | nil => rfl
  | cons s rest ih =>
    obtain ⟨⟨label, hl⟩, hrest⟩ := List.forall_mem_cons.mp h
    obtain ⟨steps, _⟩ := s
    obtain rfl : _ = Except.ok label := hl
    exact congrArg (⟨steps, .ok label⟩ :: ·) (ih hrest)

/-- The pipelines under a key that holds them by name, each with its label. -/
def namedPipelines (pipelines : Document) (key called : String) : List Section :=
  (pipelines.get key).entries.map fun e =>
    ⟨e.2, e.1.write.map fun name => called ++ " " ++ name⟩

/-- The sections are the default pipeline and those by branch, pull request, tag and name. -/
theorem sections_eq (pipelines : Document) :
  sections pipelines =
    (pipelines.get? "default").toList.map (fun steps => .of (steps, "default")) ++
    namedPipelines pipelines "branches" "branch" ++
    namedPipelines pipelines "pull-requests" "pull-request" ++
    namedPipelines pipelines "tags" "tag" ++ namedPipelines pipelines "custom" "custom"
  := by
  simp [sections, namedSections, namedPipelines, Section.of]

/-- The names of all pipelines that have one can be written. -/
def NamesWritable (pipelines : Document) : Prop :=
  ∀ key ∈ ["branches", "pull-requests", "tags", "custom"],
    ∀ e ∈ (pipelines.get key).entries, e.1.isWritable

instance (pipelines : Document) : Decidable (NamesWritable pipelines) :=
  inferInstanceAs (Decidable (∀ key ∈ ["branches", "pull-requests", "tags", "custom"],
    ∀ e ∈ (pipelines.get key).entries, e.1.isWritable))

theorem labelled_namedPipelines_iff {pipelines : Document} {key called : String} :
  (∀ s ∈ namedPipelines pipelines key called, ∃ label, s.label = .ok label) ↔
    ∀ e ∈ (pipelines.get key).entries, e.1.isWritable
  := by
  rw [namedPipelines, List.forall_mem_map]
  apply forall₂_congr
  intro e _
  rw [Key.write, map_ifWritable]
  cases e.1.isWritable <;> simp

/-- The sections have labels if their names can be written. -/
theorem labelled_sections_iff {pipelines : Document} :
  (∀ s ∈ sections pipelines, ∃ label, s.label = .ok label) ↔ NamesWritable pipelines
  := by
  have hdefault : ∀ s ∈ (pipelines.get? "default").toList.map fun steps =>
      Section.of (steps, "default"), ∃ label, s.label = .ok label := by
    rw [List.forall_mem_map]
    exact fun _ _ => ⟨_, rfl⟩
  simp only [sections_eq, NamesWritable, List.forall_mem_append, labelled_namedPipelines_iff,
    List.forall_mem_cons, List.not_mem_nil, false_implies, implies_true, and_true, and_assoc]
  exact and_iff_right hdefault

/-! ### Issues of sections -/

/-- The steps in sections, each with its label. -/
def labelledSteps (sections : List (Document × String)) : List (Document × String) :=
  sections.flatMap fun s => (stepsOfList s.1).map fun p => (p.step, p.label s.2)

/-- What a section is reported for: that it is no list of steps, and the steps in it. -/
def sectionIssues (s : Document × String) : List Issue :=
  (if s.1.isList then [] else [missingSteps s.2]) ++ placedIssues (stepsOfList s.1) s.2

theorem labelledReport_of_isTree {steps : Document} (h : steps.isTree) (label : String) :
  labelledReport steps label = .done (.ofIssues (sectionIssues (steps, label)))
  := by
  rw [labelledReport, sectionIssues]
  split
  case isTrue => rw [stepReport_of_isTree h, List.nil_append]
  case isFalse hl =>
    rw [stepsOfList_of_not_isList hl]
    rfl

/-- Without references, the sections that are reached are reported on. -/
theorem each_sections {l : List Section} (h : ∀ s ∈ l, s.steps.isTree) :
  (Outcome.each (fun s => .reading s.label (labelledReport s.steps)) l).findings =
    .ofIssues ((reached l).flatMap sectionIssues)
  := by
  induction l with
  | nil => rfl
  | cons s rest ih =>
    obtain ⟨hs, hrest⟩ := List.forall_mem_cons.mp h
    obtain ⟨steps, failure | label⟩ := s
    · rfl
    · rw [Outcome.each, Outcome.reading_ok, labelledReport_of_isTree hs, reached,
        List.flatMap_cons]
      exact congrArg (Findings.ofIssues (sectionIssues (steps, label)) ++ ·) (ih hrest)

/-- The issues of the structure of a configuration. -/
def structureIssues (document : Document) : List Issue :=
  if (document.get "pipelines").entries.isEmpty then [missingPipelines] else []

theorem outcome_validateInto (document : Document) :
  (validateInto document .none).outcome = .done (.ofIssues (structureIssues document))
  := by
  rw [validateInto, Validation.reportIf, structureIssues]
  split <;> rfl

/-- The outcome of the checks of a configuration. -/
def report (document : Document) : Outcome :=
  ((PlatformChecks.bitbucket deepest).analyzeInto document).alone

theorem report_eq (document : Document) :
  report document = .done (.ofIssues (structureIssues document)) ++
    (checkJobs deepest (document.get "pipelines")).alone
  := by
  rw [report, (PlatformChecks.adding_bitbucket deepest document).alone_analyzeInto,
    ← outcome_validateInto]
  exact congrArg ((validateInto document .none).outcome ++ ·) (Outcome.append_done_none _)

/-- Without references, a configuration is reported for its structure and then for the sections that
are reached. -/
theorem issues_report {document : Document} (h : document.isTree) :
  (report document).findings.issues = structureIssues document ++
    (reached (sections (document.get "pipelines"))).flatMap sectionIssues
  := by
  have hp : (document.get "pipelines").isTree := (Document.get_of_isTree h "pipelines").1
  have hsections := each_sections fun s hs => isTree_of_mem_sections hp (s := s) hs
  rw [report_eq, alone_checkJobs, Outcome.append_of_failure_eq_none rfl]
  exact congrArg (fun f : Findings => structureIssues document ++ f.issues) hsections

/-- The checks of a closed configuration come to an end if and only if the names of the pipelines
can be written, and the groups of each pipeline are nested to a finite depth. -/
theorem report_failure_eq_none_iff {document : Document} (h : document.isClosed) :
  (report document).failure = none ↔
    NamesWritable (document.get "pipelines") ∧
      ∀ s ∈ sections (document.get "pipelines"), s.steps.isList → FinitelyNested s.steps
  := by
  rw [report_eq, Outcome.append_of_failure_eq_none rfl,
    checkJobs_failure_eq_none_iff (Document.isClosed_get h "pipelines"), ← labelled_sections_iff]
  exact forall₂_and

/-- Without references, it is enough that the names can be written. -/
theorem report_failure_of_isTree {document : Document} (h : document.isTree) :
  (report document).failure = none ↔ NamesWritable (document.get "pipelines")
  := by
  have hp : (document.get "pipelines").isTree := (Document.get_of_isTree h "pipelines").1
  rw [report_failure_eq_none_iff (Document.isClosed_of_isTree h)]
  exact and_iff_left fun s hs _ => finitelyNested_of_isTree (isTree_of_mem_sections hp hs)

/-! ### Issues of a kind -/

theorem filedUnder_singleton_of_ne {id id' : String} {i : Issue} (hi : i.ruleId = some id')
    (hne : id ≠ id') :
  filedUnder id [i] = []
  := (HaveIds.single List.mem_cons_self hi).filedUnder_eq_nil (List.mem_singleton.not.mpr hne)

theorem filedUnder_structure (document : Document) :
  filedUnder "bb-missing-pipelines" (structureIssues document) = structureIssues document ∧
  ∀ id ≠ "bb-missing-pipelines", filedUnder id (structureIssues document) = []
  := by
  rw [structureIssues]
  split
  · exact ⟨rfl, fun id hid => filedUnder_singleton_of_ne rfl hid⟩
  · exact ⟨rfl, fun _ _ => rfl⟩

theorem filedUnder_singleStep (step : Document) (label : String) :
  filedUnder "bb-missing-step-name" (singleStepIssues step label) =
    (if step.sets "name" then [] else [missingStepName label]) ∧
  filedUnder "bb-missing-script" (singleStepIssues step label) =
    (if step.sets "script" then [] else [missingScript label]) ∧
  filedUnder "bb-missing-steps" (singleStepIssues step label) = [] ∧
  filedUnder "bb-missing-pipelines" (singleStepIssues step label) = []
  := by
  rw [singleStepIssues]
  cases step.sets "name" <;> cases step.sets "script" <;> exact ⟨rfl, rfl, rfl, rfl⟩

/-- The issues of a kind that is about steps are those of the steps in the sections. -/
theorem filedUnder_steps {id : String} {f : Document × String → List Issue}
    (hid : id ≠ "bb-missing-steps")
    (hf : ∀ step label, filedUnder id (singleStepIssues step label) = f (step, label))
    (l : List (Document × String)) :
  filedUnder id (l.flatMap sectionIssues) = (labelledSteps l).flatMap f
  := by
  rw [filedUnder_flatMap, labelledSteps, List.flatMap_assoc]
  apply List.flatMap_congr
  intro s _
  have hs : filedUnder id (if s.1.isList then [] else [missingSteps s.2]) = [] := by
    split
    · rfl
    · exact filedUnder_singleton_of_ne rfl hid
  rw [sectionIssues, filedUnder_append, hs, List.nil_append, placedIssues, filedUnder_flatMap,
    List.flatMap_map]
  simp only [hf]

theorem flatMap_unless {α β : Type} (l : List α) (c : α → Bool) (f : α → β) :
  (l.flatMap fun a => if c a then [] else [f a]) = (l.filter (!c ·)).map f
  := by
  induction l with
  | nil => rfl
  | cons a rest ih =>
    rw [List.flatMap_cons, ih, List.filter_cons]
    cases c a <;> rfl

theorem filedUnder_sections (l : List (Document × String)) :
  filedUnder "bb-missing-steps" (l.flatMap sectionIssues) =
    (l.filter (!·.1.isList)).map (missingSteps ·.2)
  := by
  rw [filedUnder_flatMap, ← flatMap_unless]
  apply List.flatMap_congr
  intro s _
  have hp : filedUnder "bb-missing-steps" (placedIssues (stepsOfList s.1) s.2) = [] := by
    rw [placedIssues, filedUnder_flatMap, List.flatMap_eq_nil_iff]
    exact fun p _ => (filedUnder_singleStep p.step (p.label s.2)).2.2.1
  rw [sectionIssues, filedUnder_append, hp, List.append_nil]
  split
  · rfl
  · rfl

/-- The checks of a configuration without references report on each step in the sections that they
reach once, at whatever depth in groups it lies, with its section and these groups in the label:
those without a name for it, and those without a script for that.  They report each such section
that is no list of steps once, and otherwise only that there are no pipelines.  They reach all
sections, and do not fail, if and only if the names of the pipelines can be written; otherwise they
reach those before the first whose name cannot. -/
theorem analyze_checks_each_step {document : Document} (h : document.isTree) :
  let report := ((PlatformChecks.bitbucket deepest).analyzeInto document).alone
  let issues := report.findings.issues
  let pipelines := document.get "pipelines"
  let sections := (pipelines.get? "default").toList.map (fun steps => .of (steps, "default")) ++
    namedPipelines pipelines "branches" "branch" ++
    namedPipelines pipelines "pull-requests" "pull-request" ++
    namedPipelines pipelines "tags" "tag" ++ namedPipelines pipelines "custom" "custom"
  let steps := labelledSteps (reached sections)
  (report.failure = none ↔ NamesWritable pipelines) ∧
  (reached sections).map .of <+: sections ∧
  (NamesWritable pipelines → (reached sections).map .of = sections) ∧
  filedUnder "bb-missing-step-name" issues =
    (steps.filter (!·.1.sets "name")).map (missingStepName ·.2) ∧
  filedUnder "bb-missing-script" issues =
    (steps.filter (!·.1.sets "script")).map (missingScript ·.2) ∧
  filedUnder "bb-missing-steps" issues =
    ((reached sections).filter (!·.1.isList)).map (missingSteps ·.2) ∧
  filedUnder "bb-missing-pipelines" issues = structureIssues document ∧
  HaveIds issueIds issues
  := by
  intro report issues pipelines sections steps
  have hsections : Bitbucket.sections pipelines = sections := sections_eq pipelines
  have hissues : issues = structureIssues document ++
      (reached sections).flatMap sectionIssues := by
    rw [← hsections]
    exact issues_report h
  have hunder : ∀ id, filedUnder id issues =
      filedUnder id (structureIssues document) ++
        filedUnder id ((reached sections).flatMap sectionIssues) := by
    intro id
    rw [hissues, filedUnder_append]
  obtain ⟨hstructure, hothers⟩ := filedUnder_structure document
  refine ⟨report_failure_of_isTree h, reached_prefix _, ?_, ?_, ?_, ?_, ?_, ?_⟩
  · intro hn
    apply reached_of_labelled
    rw [← hsections]
    exact labelled_sections_iff.mpr hn
  · rw [hunder, hothers _ (by decide), List.nil_append, ← flatMap_unless]
    exact filedUnder_steps (by decide) (fun step label => (filedUnder_singleStep step label).1) _
  · rw [hunder, hothers _ (by decide), List.nil_append, ← flatMap_unless]
    exact filedUnder_steps (by decide) (fun step label => (filedUnder_singleStep step label).2.1) _
  · rw [hunder, hothers _ (by decide), List.nil_append, filedUnder_sections]
  · have hnone : filedUnder "bb-missing-pipelines"
        ((reached sections).flatMap sectionIssues) = [] := by
      rw [filedUnder_steps (f := fun _ => []) (by decide)
        fun step label => (filedUnder_singleStep step label).2.2.2]
      simp
    rw [hunder, hstructure, hnone, List.append_nil]
  · exact (PlatformChecks.files_bitbucket deepest document).alone

/-- A stage in a parallel group, steps beside and after it, and a branch that is no list of steps.
-/
def nestedPipeline : Document :=
  .map [(.ofText "pipelines", .map [
    (.ofText "default", .list [
      .map [(.ofText "parallel", .map [(.ofText "steps", .list [
        .map [(.ofText "stage", .map [(.ofText "steps", .list [
          .map [(.ofText "step", .map [(.ofText "script", .list [.text "make deploy"])])]])])],
        .map [(.ofText "step", .map [(.ofText "name", .text "Lint")])]])])],
      .map [(.ofText "step", .null)]]),
    (.ofText "branches", .map [(.ofText "main", .text "make")])])]

theorem analyze_checks_each_step_nestedPipeline :
  let report := ((PlatformChecks.bitbucket deepest).analyzeInto nestedPipeline).alone
  let issues := report.findings.issues
  nestedPipeline.isTree ∧
  report.failure = none ∧
  filedUnder "bb-missing-step-name" issues =
    [missingStepName "default (parallel) (stage)", missingStepName "default"] ∧
  filedUnder "bb-missing-script" issues =
    [missingScript "default (parallel)", missingScript "default"] ∧
  filedUnder "bb-missing-steps" issues = [missingSteps "branch main"]
  := by
  have h : nestedPipeline.isTree := rfl
  obtain ⟨hf, -, -, hname, hscript, hlist, -, -⟩ := analyze_checks_each_step h
  have hnames : NamesWritable (nestedPipeline.get "pipelines") := by decide
  exact ⟨h, hf.mpr hnames, hname.trans (by decide), hscript.trans (by decide),
    hlist.trans (by decide)⟩

/-- A branch whose name is an integer that is too long to be written, and one after it that has a
step without a name. -/
def longBranch : Document :=
  .map [(.ofText "pipelines", .map [(.ofText "branches", .map [
    (.scalar (.int overlongInteger), .list []),
    (.ofText "main", .list [
      .map [(.ofText "step", .map [(.ofText "script", .list [.text "make"])])]])])])]

/-- The step of the second branch is not reported, because the checks fail on the first one. -/
theorem analyze_longBranch :
  let report := ((PlatformChecks.bitbucket deepest).analyzeInto longBranch).alone
  let main := ((longBranch.get "pipelines").get "branches").get "main"
  longBranch.isTree ∧
  (labelledSteps [(main, "branch main")]).map (fun s => (s.1.sets "name", s.2)) =
    [(false, "branch main")] ∧
  report.findings.issues = [] ∧ report.failure = some .longInteger
  := by
  intro report main
  refine ⟨rfl, by decide, ?_, ?_⟩ <;> decide +kernel

end PipelineAudit.Bitbucket
