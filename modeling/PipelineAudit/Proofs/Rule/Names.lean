import PipelineAudit.Proofs.Pattern.Language
import PipelineAudit.Proofs.Rule.Jobs
import PipelineAudit.Rule.Naming

/-!
# Names of jobs and environments

The names of jobs and of environments are words in small letters and digits, joined by hyphens or by
underscores.  The patterns for these names are tied to the end of the name, which a pattern also
sees before a line feed that ends it.  So a name in one of the two cases is let through also with a
line feed after it, and no other name is.

* `beginsIn_joinedWords_iff`: what the patterns for joined words match.
* `isKebabOrSnake_iff`: which names are let through.
* `namingConventions_reports_iff`: which names of jobs and environments are reported.
-/

namespace PipelineAudit

open Pattern

namespace Naming

/-! ### Joined words -/

/-- A name of words over a class of characters, joined by a separator.  Its first character is of
another class; the first word goes on with any number of characters, and each of the others has at
least one. -/
def IsJoined (first inside : Char → Bool) (separator : Char) (name : List Char) : Prop :=
  ∃ (c : Char) (word : List Char) (groups : List (List Char)), first c ∧ (∀ d ∈ word, inside d) ∧
    (∀ g ∈ groups, g ≠ [] ∧ ∀ d ∈ g, inside d) ∧
    name = c :: (word ++ groups.flatMap (separator :: ·))

variable {first inside : Char → Bool} {separator : Char} {name : List Char}

/-- A group of the pattern is a separator with a word after it. -/
theorem spells_group_iff {sep : String} (hsep : sep.toList = [separator]) {w : List Char}
    {texts : List (List Char)} :
  (group (seq (lit sep) (many1 (one inside)))).Spells w texts ↔
    ∃ g, (g ≠ [] ∧ ∀ d ∈ g, inside d) ∧ w = separator :: g ∧ texts = [w]
  := by
  constructor
  · rintro ⟨_, ⟨_, g, _, _, hlit, hg, rfl, rfl⟩, rfl⟩
    obtain ⟨rfl, rfl⟩ := spells_lit_iff.mp hlit
    obtain ⟨hword, rfl⟩ := spells_many1_iff.mp hg
    exact ⟨g, hword, by rw [hsep, List.singleton_append], rfl⟩
  · rintro ⟨g, hg, rfl, rfl⟩
    refine ⟨[], ⟨[separator], g, [], [], ?_, ?_, rfl, rfl⟩, rfl⟩
    · exact spells_lit_iff.mpr ⟨hsep.symm, rfl⟩
    · exact spells_many1_iff.mpr ⟨hg, rfl⟩

/-- Rounds of separators with words after them. -/
theorem exists_spells_groups_iff {sep : String} (hsep : sep.toList = [separator])
    {w : List Char} :
  (∃ texts, (many (group (seq (lit sep) (many1 (one inside))))).Spells w texts) ↔
    ∃ groups : List (List Char), (∀ g ∈ groups, g ≠ [] ∧ ∀ d ∈ g, inside d) ∧
      w = groups.flatMap (separator :: ·)
  := by
  constructor
  · rintro ⟨_, rounds, hr, -, -, rfl, -⟩
    induction rounds with
    | nil => exact ⟨[], List.forall_mem_nil _, rfl⟩
    | cons x rounds ih =>
      obtain ⟨⟨_, hx⟩, hr⟩ := List.forall_mem_cons.mp hr
      obtain ⟨g, hg, hxg, _⟩ := (spells_group_iff hsep).mp hx
      obtain ⟨groups, hgroups, he⟩ := ih hr
      refine ⟨g :: groups, List.forall_mem_cons.mpr ⟨hg, hgroups⟩, ?_⟩
      rw [List.flatMap_cons, List.flatMap_cons, he, hxg]
  · rintro ⟨groups, hgroups, rfl⟩
    refine ⟨_, groups.map fun g => (separator :: g, [separator :: g]), ?_, Nat.zero_le _, ?_, ?_,
      rfl⟩
    · intro x hx
      obtain ⟨g, hg, rfl⟩ := List.mem_map.mp hx
      exact ⟨List.cons_ne_nil _ _, (spells_group_iff hsep).mpr ⟨g, hgroups g hg, rfl, rfl⟩⟩
    · simp
    · rw [List.flatMap_map]

/-- The pattern for joined words matches these, also with a line feed after them. -/
theorem beginsIn_joinedWords_iff {sep : String} (hsep : sep.toList = [separator]) :
  (joinedWords first inside (lit sep)).beginsIn name ↔
    ∃ word, IsJoined first inside separator word ∧ (name = word ∨ name = word ++ ['\n'])
  := by
  let ps := [one first, many (one inside), many (group (seq (lit sep) (many1 (one inside))))]
  have hlit : (lit sep).isFree := by
    rw [lit, hsep]
    rfl
  have hfree : (inOrder ps).isFree := by simp [ps, inOrder, many, many1, isFree, hlit]
  have hspells : ∀ w, (∃ texts, (inOrder ps).Spells w texts) ↔
      IsJoined first inside separator w := by
    intro w
    constructor
    · rintro ⟨_, _, _, _, _, ⟨c, hc, rfl, rfl⟩, ⟨word, rest, _, texts, hword, hrest, rfl, rfl⟩, rfl,
        rfl⟩
      obtain ⟨groups, hgroups, rfl⟩ := (exists_spells_groups_iff hsep).mp ⟨texts, hrest⟩
      exact ⟨c, word, groups, hc, (spells_run_iff.mp hword).1, hgroups, rfl⟩
    · rintro ⟨c, word, groups, hc, hword, hgroups, rfl⟩
      obtain ⟨texts, hrest⟩ := (exists_spells_groups_iff hsep).mpr ⟨groups, hgroups, rfl⟩
      have hrun : (many (one inside)).Spells word [] :=
        spells_run_iff.mpr ⟨hword, Nat.zero_le _, by simp, rfl⟩
      exact ⟨_, [c], _, [], _, ⟨c, hc, rfl, rfl⟩, ⟨word, _, [], texts, hrun, hrest, rfl, rfl⟩, rfl,
        rfl⟩
  have hwhole : (joinedWords first inside (lit sep)).beginsIn name ↔
      ∃ w texts, (inOrder ps).Spells w texts ∧ (name = w ∨ name = w ++ ['\n']) :=
    beginsIn_whole_iff ps hfree
  rw [hwhole]
  constructor
  · rintro ⟨w, texts, hw, hname⟩
    exact ⟨w, (hspells w).mp ⟨texts, hw⟩, hname⟩
  · rintro ⟨w, hw, hname⟩
    obtain ⟨texts, hw⟩ := (hspells w).mpr hw
    exact ⟨w, texts, hw, hname⟩

/-- Only the characters of a joined name are in it. -/
theorem IsJoined.not_mem {d : Char} (h : IsJoined first inside separator name)
    (hfirst : first d = false) (hinside : inside d = false) (hseparator : d ≠ separator) :
  d ∉ name
  := by
  obtain ⟨c, word, groups, hc, hword, hgroups, rfl⟩ := h
  have hclass : ∀ {w : List Char}, (∀ e ∈ w, inside e) → d ∉ w := by
    intro w hw hd
    exact Bool.false_ne_true (hinside.symm.trans (hw d hd))
  rw [List.mem_cons, List.mem_append, List.mem_flatMap]
  rintro (rfl | hd | ⟨g, hg, hd⟩)
  · exact Bool.false_ne_true (hfirst.symm.trans hc)
  · exact hclass hword hd
  · obtain hd | hd := List.mem_cons.mp hd
    · exact hseparator hd
    · exact hclass (hgroups g hg).2 hd

/-! ### The two cases -/

/-- A name consists of small words joined by hyphens, or by underscores. -/
def IsKebabOrSnake (name : List Char) : Prop :=
  IsJoined isSmall isSmallOrDigit '-' name ∨ IsJoined isSmall isSmallOrDigit '_' name

/-- A name is in one of the two cases but for a line feed after it. -/
def EndsWithLineFeed (name : List Char) : Prop :=
  ∃ word, IsKebabOrSnake word ∧ name = word ++ ['\n']

theorem IsKebabOrSnake.lineFeed_not_mem (h : IsKebabOrSnake name) :
  '\n' ∉ name
  := by
  obtain h | h := h
  · exact h.not_mem (by decide) (by decide) (by decide)
  · exact h.not_mem (by decide) (by decide) (by decide)

theorem EndsWithLineFeed.not_isKebabOrSnake (h : EndsWithLineFeed name) :
  ¬ IsKebabOrSnake name
  := by
  obtain ⟨word, _, rfl⟩ := h
  intro hname
  exact hname.lineFeed_not_mem (by simp)

/-- The names that are let through. -/
theorem isKebabOrSnake_iff (name : List Char) :
  isKebabOrSnake name ↔ IsKebabOrSnake name ∨ EndsWithLineFeed name
  := by
  have hkebab : kebabCase.beginsIn name ↔
      ∃ word, IsJoined isSmall isSmallOrDigit '-' word ∧ (name = word ∨ name = word ++ ['\n']) :=
    beginsIn_joinedWords_iff rfl
  have hsnake : snakeCase.beginsIn name ↔
      ∃ word, IsJoined isSmall isSmallOrDigit '_' word ∧ (name = word ∨ name = word ++ ['\n']) :=
    beginsIn_joinedWords_iff rfl
  rw [isKebabOrSnake, Bool.or_eq_true, hkebab, hsnake]
  constructor
  · rintro (⟨word, hw, rfl | rfl⟩ | ⟨word, hw, rfl | rfl⟩)
    · exact .inl (.inl hw)
    · exact .inr ⟨word, .inl hw, rfl⟩
    · exact .inl (.inr hw)
    · exact .inr ⟨word, .inr hw, rfl⟩
  · rintro ((hw | hw) | ⟨word, hw | hw, rfl⟩)
    · exact .inl ⟨name, hw, .inl rfl⟩
    · exact .inr ⟨name, hw, .inl rfl⟩
    · exact .inl ⟨word, hw, .inr rfl⟩
    · exact .inr ⟨word, hw, .inr rfl⟩

/-! ### Reports -/

/-- The names of the jobs of a workflow up to the first that cannot be written. -/
def jobNames (document : Document) : List String :=
  ((Workflow.jobEntries document).takeWhile (·.1.isWritable)).map (·.1.display)

/-- The name of the environment of a job, if it has one; an empty text is no name. -/
def environmentName? (job : Document) : Option String :=
  (Workflow.environment job).text?.filter (!·.isEmpty)

/-- The names of the environments of the jobs of a workflow. -/
def environmentNames (document : Document) : List String :=
  (Workflow.jobEntries document).filterMap fun e => environmentName? e.2

/-- The title of the issue about the name of a job. -/
def jobTitle (name : String) : String :=
  "Inconsistent job naming: \"" ++ name ++ "\""

/-- The title of the issue about the name of an environment. -/
def environmentTitle (name : String) : String :=
  "Inconsistent environment naming: \"" ++ name ++ "\""

theorem jobIssues_ids (job : String) :
  HaveIds ["job-naming-convention", "non-descriptive-job-name"] (jobIssues job)
  := by
  apply HaveIds.append
  · exact .ite .nil (.single (by simp) rfl)
  · exact .ite (.single (by simp) rfl) .nil

theorem stepFindings_ids (job : String × Document) :
  HaveIds ["step-naming-convention"] (stepFindings job).issues
  := by
  have hc := Cumulative.haveIds ["step-naming-convention"]
  apply hc.concat
  intro f hf
  obtain ⟨name, _, rfl⟩ := List.mem_map.mp hf
  apply hc.both
  · exact hc.when fun _ => .single List.mem_cons_self rfl
  · exact hc.when fun _ => .nil

theorem referenceIssues_ids (text : List Char) :
  HaveIds ["env-var-naming"] (referenceIssues text)
  := .map List.mem_cons_self (fun _ => rfl) _

theorem checkVariables_ids (document : Document) :
  HaveIds ["workflow-var-naming"] (checkVariables document).findings.issues
  := by
  have hc := Cumulative.haveIds ["workflow-var-naming"]
  apply hc.each
  intro entry _
  apply hc.reading
  intro name _
  exact .ite .nil (.single List.mem_cons_self rfl)

theorem environmentIssue_ids (job : Document) :
  HaveIds ["environment-naming"] (environmentIssue? job).toList
  := by
  intro i hi
  obtain ⟨name, _, rfl⟩ := Option.map_eq_some_iff.mp (Option.mem_toList.mp hi)
  exact ⟨"environment-naming", List.mem_cons_self, rfl⟩

section

variable (document : Document) (text : List Char)

/-- The checks of the names of jobs and of their steps. -/
def checkJobs : Outcome :=
  Workflow.eachJob document (fun job => .done (.ofIssues (jobIssues job.1))) ++
    Workflow.eachJob document fun job => .done (stepFindings job)

/-- The check of the names of environments. -/
def checkEnvironments : Outcome :=
  Workflow.eachJob document fun job => .done (.ofIssues (environmentIssue? job.2).toList)

theorem check_eq :
  check document text = checkJobs document ++ .done (.ofIssues (referenceIssues text)) ++
    checkVariables document ++ checkEnvironments document
  := rfl

theorem checkJobs_ids :
  HaveIds ["job-naming-convention", "non-descriptive-job-name", "step-naming-convention"]
    (checkJobs document).findings.issues
  := by
  have hc := Cumulative.haveIds
    ["job-naming-convention", "non-descriptive-job-name", "step-naming-convention"]
  apply hc.append
  · exact hc.eachJob fun _ _ => (jobIssues_ids _).mono (by simp)
  · exact hc.eachJob fun _ _ => (stepFindings_ids _).mono (by simp)

theorem checkEnvironments_ids :
  HaveIds ["environment-naming"] (checkEnvironments document).findings.issues
  := (Cumulative.haveIds _).eachJob fun _ _ => environmentIssue_ids _

theorem checkJobs_failure_eq_none_iff :
  (checkJobs document).failure = none ↔ ∀ e ∈ Workflow.jobEntries document, e.1.isWritable
  := by
  rw [checkJobs, Outcome.failure_append, Option.or_eq_none_iff,
    Workflow.failure_eachJob_done_eq_none_iff, Workflow.failure_eachJob_done_eq_none_iff, and_self]

theorem filedUnder_jobs :
  filedUnder "job-naming-convention" (check document text).findings.issues =
    ((Workflow.jobEntries document).takeWhile (·.1.isWritable)).flatMap fun e =>
      filedUnder "job-naming-convention" (jobIssues e.1.display)
  := by
  have hsteps : HaveIds ["step-naming-convention"]
      (Workflow.eachJob document fun job => .done (stepFindings job)).findings.issues :=
    (Cumulative.haveIds _).eachJob fun _ _ => stepFindings_ids _
  rw [check_eq, Outcome.filedUnder_append_left (by decide) _ (checkEnvironments_ids document),
    Outcome.filedUnder_append_left (by decide) _ (checkVariables_ids document),
    Outcome.filedUnder_append_left (by decide) _ (referenceIssues_ids text), checkJobs,
    Outcome.filedUnder_append_left (by decide) _ hsteps, Workflow.issues_eachJob,
    filedUnder_flatMap]
  rfl

/-- What is filed on references to variables, if each job can be named. -/
theorem filedUnder_references (hn : ∀ e ∈ Workflow.jobEntries document, e.1.isWritable) :
  filedUnder "env-var-naming" (check document text).findings.issues = referenceIssues text
  := by
  rw [check_eq, Outcome.filedUnder_append_left (by decide) _ (checkEnvironments_ids document),
    Outcome.filedUnder_append_left (by decide) _ (checkVariables_ids document),
    Outcome.filedUnder_append_right (by decide) (checkJobs_ids document)
      ((checkJobs_failure_eq_none_iff document).mpr hn)]
  exact (referenceIssues_ids text).filedUnder_eq_self

/-- Checks that do not fail have named all jobs and all variables. -/
theorem named_of_failure_eq_none (hf : (check document text).failure = none) :
  (∀ e ∈ Workflow.jobEntries document, e.1.isWritable) ∧ (checkVariables document).failure = none
  := by
  rw [check_eq, Outcome.failure_append, Option.or_eq_none_iff, Outcome.failure_append,
    Option.or_eq_none_iff, Outcome.failure_append, Option.or_eq_none_iff,
    checkJobs_failure_eq_none_iff] at hf
  exact ⟨hf.1.1.1, hf.1.2⟩

/-- What is filed on environments, if nothing fails. -/
theorem filedUnder_environments (hf : (check document text).failure = none) :
  filedUnder "environment-naming" (check document text).findings.issues =
    (Workflow.jobEntries document).filterMap fun e => environmentIssue? e.2
  := by
  obtain ⟨hn, hvariables⟩ := named_of_failure_eq_none document text hf
  have hjobs := (checkJobs_failure_eq_none_iff document).mpr hn
  rw [check_eq, Outcome.append_assoc, Outcome.append_assoc,
    Outcome.filedUnder_append_right (by decide) (checkJobs_ids document) hjobs,
    Outcome.filedUnder_append_right (by decide) (referenceIssues_ids text) rfl,
    Outcome.filedUnder_append_right (by decide) (checkVariables_ids document) hvariables,
    (checkEnvironments_ids document).filedUnder_eq_self, checkEnvironments,
    Workflow.issues_eachJob, List.takeWhile_eq_self_iff.mpr hn, List.filterMap_eq_flatMap_toList]
  rfl

/-- The names of jobs that are not let through are reported, in order. -/
theorem titles_jobs :
  (filedUnder "job-naming-convention" (check document text).findings.issues).map (·.title) =
    ((jobNames document).filter fun name => !isKebabOrSnake name.toList).map jobTitle
  := by
  have hjob : ∀ job, (filedUnder "job-naming-convention" (jobIssues job)).map (·.title) =
      if isKebabOrSnake job.toList then [] else [jobTitle job] := by
    intro job
    have hgeneric : ∀ (generic : Bool) (i : Issue), i.ruleId = some "non-descriptive-job-name" →
        HaveIds ["non-descriptive-job-name"] (if generic then [i] else []) :=
      fun _ _ hi => .ite (.single List.mem_cons_self hi) .nil
    rw [jobIssues, filedUnder_append, (hgeneric _ _ rfl).filedUnder_eq_nil (by decide),
      List.append_nil]
    cases isKebabOrSnake job.toList with
    | true => rfl
    | false => rfl
  rw [filedUnder_jobs, jobNames]
  induction (Workflow.jobEntries document).takeWhile (·.1.isWritable) with
  | nil => rfl
  | cons e rest ih =>
    rw [List.flatMap_cons, List.map_append, hjob, ih, List.map_cons, List.filter_cons]
    cases isKebabOrSnake e.1.display.toList with
    | true => rfl
    | false => rfl

/-- The names of environments that are not let through are reported, in order, if nothing fails. -/
theorem titles_environments (hf : (check document text).failure = none) :
  (filedUnder "environment-naming" (check document text).findings.issues).map (·.title) =
    ((environmentNames document).filter fun name => !isKebabOrSnake name.toList).map
      environmentTitle
  := by
  rw [filedUnder_environments document text hf, environmentNames, List.map_filterMap,
    List.filter_filterMap, List.map_filterMap]
  apply List.filterMap_congr
  intro e _
  rw [environmentIssue?, environmentName?, Option.map_map, Option.filter_filter]
  rfl

end

/-- Among the titles of the names that are not let through, a name is found unless it is let
through itself. -/
theorem mem_titles_iff {a b name : String} {names : List String} (h : name ∈ names) :
  a ++ name ++ b ∈ (names.filter fun s => !isKebabOrSnake s.toList).map (fun s => a ++ s ++ b) ↔
    ¬ IsKebabOrSnake name.toList ∧ ¬ EndsWithLineFeed name.toList
  := by
  have hlet : (!isKebabOrSnake name.toList) ↔
      ¬ IsKebabOrSnake name.toList ∧ ¬ EndsWithLineFeed name.toList := by
    rw [← not_or, ← isKebabOrSnake_iff, Bool.not_eq_true', Bool.not_eq_true]
  rw [← hlet, List.mem_map]
  constructor
  · rintro ⟨s, hs, he⟩
    rw [String.append_left_inj, String.append_right_inj] at he
    subst he
    exact (List.mem_filter.mp hs).2
  · intro hn
    exact ⟨name, List.mem_filter.mpr ⟨h, hn⟩, rfl⟩

/-- The test for the two cases is right about every name but those in one of the cases with a line
feed after it, which it lets through.  The name of a job is reported if and only if it is neither in
one of the cases nor of that kind, up to the first job whose name cannot be written; so is the name
of an environment, if nothing fails. -/
theorem namingConventions_reports_iff (document : Document) (source : Source) :
  let report := Rule.namingConventions.check document source
  let found := report.findings.issues
  (∀ name, (isKebabOrSnake name ↔ IsKebabOrSnake name) ↔ ¬ EndsWithLineFeed name) ∧
  (∀ name ∈ jobNames document,
    jobTitle name ∈ (filedUnder "job-naming-convention" found).map (·.title) ↔
      ¬ IsKebabOrSnake name.toList ∧ ¬ EndsWithLineFeed name.toList) ∧
  (report.failure = none → ∀ name ∈ environmentNames document,
    environmentTitle name ∈ (filedUnder "environment-naming" found).map (·.title) ↔
      ¬ IsKebabOrSnake name.toList ∧ ¬ EndsWithLineFeed name.toList)
  := by
  intro report found
  refine ⟨?_, ?_, ?_⟩
  · intro name
    rw [isKebabOrSnake_iff]
    constructor
    · intro h hfeed
      exact hfeed.not_isKebabOrSnake (h.mp (.inr hfeed))
    · intro hfeed
      exact or_iff_left hfeed
  · intro name hname
    have hjobs : (filedUnder "job-naming-convention" found).map (·.title) = _ :=
      titles_jobs document source.text
    rw [hjobs]
    exact mem_titles_iff hname
  · intro hf name hname
    have henvironments : (filedUnder "environment-naming" found).map (·.title) = _ :=
      titles_environments document source.text hf
    rw [henvironments]
    exact mem_titles_iff hname

theorem namingConventions_reports_iff_capitals :
  let document : Document := .map [(.ofText "jobs", .map [(.ofText "Build_app", .map
    [(.ofText "environment", .map [(.ofText "name", .scalar (.text "eu--west"))])])])]
  let report := Rule.namingConventions.check document ⟨[], "github-actions"⟩
  let found := report.findings.issues
  report.failure = none ∧ "Build_app" ∈ jobNames document ∧ "eu--west" ∈ environmentNames document ∧
  jobTitle "Build_app" ∈ (filedUnder "job-naming-convention" found).map (·.title) ∧
  environmentTitle "eu--west" ∈ (filedUnder "environment-naming" found).map (·.title)
  := by
  intro document report found
  have hreturns : report.failure = none := by decide +kernel
  have hout : ∀ name : List Char, isKebabOrSnake name = false →
      ¬ IsKebabOrSnake name ∧ ¬ EndsWithLineFeed name := by
    intro name h
    rw [← not_or, ← isKebabOrSnake_iff, h]
    exact Bool.false_ne_true
  have hjob : "Build_app" ∈ jobNames document := by decide +kernel
  have henvironment : "eu--west" ∈ environmentNames document := by decide +kernel
  obtain ⟨-, hjobs, henvironments⟩ :=
    namingConventions_reports_iff document ⟨[], "github-actions"⟩
  exact ⟨hreturns, hjob, henvironment, (hjobs _ hjob).mpr (hout _ (by decide +kernel)),
    (henvironments hreturns _ henvironment).mpr (hout _ (by decide +kernel))⟩

/-- An environment whose name ends with a line feed is not reported, though its name is in neither
case. -/
theorem namingConventions_blockScalar :
  let document : Document := .map [(.ofText "jobs", .map [(.ofText "deploy", .map
    [(.ofText "environment", .scalar (.text "production\n"))])])]
  isKebabOrSnake "production\n".toList ∧ ¬ IsKebabOrSnake "production\n".toList ∧
  environmentNames document = ["production\n"] ∧
  (Rule.namingConventions.check document ⟨[], "github-actions"⟩).findings.issues = []
  := by
  intro document
  refine ⟨by decide +kernel, ?_, by decide +kernel, by decide +kernel⟩
  intro h
  exact h.lineFeed_not_mem (by decide)

end Naming

end PipelineAudit
