import PipelineAudit.Proofs.Rule.Composition
import PipelineAudit.Proofs.Rule.Jobs
import PipelineAudit.Proofs.Rule.LongIntegers
import PipelineAudit.Proofs.Rule.Quotations
import PipelineAudit.Proofs.Secret.Search

/-!
# Findings that conceal secrets

Rule by rule, no secret begins in the wording of a finding, nor in a number, nor in a masked secret,
and none that is not quoted begins in a quotation.

* `Catalog.execute_conceals`: a secret that is found and whose beginning is not quoted occurs in no
  title and in no description of a run of the default rules.
* `Catalog.execute_repeatsKey`: it may occur where a rule quotes the line that holds it.
-/

namespace PipelineAudit

open Secret

namespace Catalog

/-! ### Tables of wording -/

/-- No secret is in the title of a form of a command. -/
theorem isEnding_formTitles :
  ∀ form ∈ CommandForm.dangerous ++ CommandForm.permissionChanges, isEnding form.title.toList
  := by decide +kernel

/-- No secret is in a generic name of a variable. -/
theorem isEnding_genericNames :
  ∀ name ∈ Variable.genericNames, isEnding name.toList
  := by decide

/-- No secret is in the title of an anti-pattern, in either case. -/
theorem isEnding_antiPatternTitles :
  ∀ a ∈ AntiPattern.all, isEnding a.title.toList && isEnding (Text.lower a.title.toList)
  := by decide +kernel

/-- No secret is in a command that installs dependencies, nor in the title that its cache gives. -/
theorem isEnding_dependencyCommands :
  ∀ d ∈ DependencyCommand.all,
    isEnding (d.cache ++ " caching").toList && isEnding d.command.toList
  := by decide +kernel

/-- No secret is in the name of a heavy operation, nor begins in one that a comma follows. -/
theorem isOpening_heavyOperations :
  ∀ o ∈ Resources.heavyOperations, isOpening (o.2.toList ++ [',', ' ']) && isEnding o.2.toList
  := by decide

/-- No secret is in the name of a rule. -/
theorem isEnding_ruleNames :
  ∀ r ∈ default, isEnding r.name.toList
  := by decide +kernel

/-- No secret is in the text of the failure to read what nests too deeply. -/
theorem isEnding_nestedTooDeep (container : Container) :
  isEnding (Failure.nestedTooDeep container).text.toList
  := by cases container <;> decide +kernel

/-- No secret is in the title of a build shortcut. -/
theorem isEnding_buildShortcuts :
  ∀ b ∈ BuildShortcut.all, isEnding b.title.toList
  := by decide

variable {secret : List Char} (hm : Maskable secret) {document : Document} {source : Source}

include hm

/-! ### Secrets and commands -/

theorem hardcodedSecrets_conceals (hq : ∀ q ∈ quotedForms source, Unquoted secret q) :
  (Rule.hardcodedSecrets.check document source).findings.Conceal secret
  := by
  apply Findings.Each.ofVulnerabilities
  intro v hv
  obtain ⟨h, hh, rfl⟩ := List.mem_map.mp hv
  have hname : Unquoted secret h.signature.name :=
    hq _ (List.mem_flatMap.mpr ⟨h, hh, by simp⟩)
  have hlower : Unquoted secret (String.ofList (Text.lower h.signature.name.toList)) :=
    hq _ (List.mem_flatMap.mpr ⟨h, hh, by simp⟩)
  constructor
  · exact .lastQuotation hm (.wording hm rfl (by decide)) hname
  · apply Hidden.markedQuotation hm _ (.mask hm h.text)
    exact .quotation hm (.wording hm rfl (by decide)) hlower rfl (by decide)
      (fun _ => severs_of_mem (w := [' ', 'f', 'o', 'u', 'n', 'd', ':']) (by decide) _)

theorem highEntropyStrings_conceals :
  (Rule.highEntropyStrings.check document source).findings.Conceal secret
  := by
  apply Findings.Each.ofVulnerabilities
  intro v hv
  obtain ⟨l, _, hv⟩ := List.mem_flatMap.mp hv
  rw [tokenVulnerabilities] at hv
  split at hv
  case isFalse => cases hv
  case isTrue =>
    obtain ⟨token, _, rfl⟩ := List.mem_map.mp hv
    constructor
    · exact .wording hm rfl (by decide)
    · rw [tokenVulnerability, String.append_assoc]
      apply Hidden.append hm _ (.fixedFloat hm 2 (entropy token))
      exact .quotation hm (.wording hm rfl (by decide)) (.mask hm token) rfl
        (by decide) fun _ => severs_mark _

/-- What forms of commands report, if their titles and the beginning of the description hold no
secret. -/
theorem scan_conceals {forms : List CommandForm} {titled described : String}
    (hf : forms ⊆ CommandForm.dangerous ++ CommandForm.permissionChanges)
    (ht : ∀ form ∈ forms, Hidden secret (titled ++ form.title)) (hd : Apart secret described)
    (hq : ∀ q ∈ quotedLines source, Unquoted secret q) :
  (Findings.ofVulnerabilities (CommandForm.scan forms titled described source)).Conceal secret
  := by
  apply Findings.Each.ofVulnerabilities
  intro v hv
  obtain ⟨form, hform, hv⟩ := List.mem_flatMap.mp hv
  obtain ⟨⟨number, line⟩, hl, hv⟩ := List.mem_flatMap.mp hv
  obtain ⟨m, hmatch, rfl⟩ := List.mem_map.mp hv
  -- The line is quoted, so it is among the lines on which some form of a command matches.
  have hline : Unquoted secret (String.ofList (Text.trim line)) := by
    apply hq
    apply List.mem_map.mpr ⟨(number, line), List.mem_filter.mpr ⟨hl, ?_⟩, rfl⟩
    apply List.any_eq_true.mpr ⟨form, hf hform, ?_⟩
    rw [Bool.not_eq_true', List.isEmpty_eq_false_iff]
    exact List.ne_nil_of_mem hmatch
  constructor
  · exact ht form hform
  · exact .markedQuotation hm (hd.append (.wording hm rfl (by decide))) hline

theorem dangerousCommands_conceals (hq : ∀ q ∈ quotedLines source, Unquoted secret q) :
  (Rule.dangerousCommands.check document source).findings.Conceal secret
  := by
  apply scan_conceals hm (List.subset_append_left _ _) _ _ hq
  · intro form hform
    apply Hidden.append hm (.wording hm rfl (by decide))
    exact .of_isEnding hm (isEnding_formTitles form (List.mem_append_left _ hform))
  · exact .wording hm rfl (by decide)

theorem filePermissions_conceals (hq : ∀ q ∈ quotedLines source, Unquoted secret q) :
  (Rule.filePermissions.check document source).findings.Conceal secret
  := by
  apply scan_conceals hm (List.subset_append_right _ _) _ _ hq
  · intro form hform
    apply Hidden.append hm (.wording hm rfl (by decide))
    exact .of_isEnding hm (isEnding_formTitles form (List.mem_append_right _ hform))
  · exact .wording hm rfl (by decide)

/-! ### Security -/

theorem broadPermissions_conceals :
  (Rule.broadPermissions.check document source).findings.Conceal secret
  := by
  apply Findings.Each.ofIssues
  intro i hi
  simp only [List.mem_append, List.mem_ite_nil_left, List.mem_ite_nil_right,
    List.mem_singleton] at hi
  obtain ⟨_, rfl⟩ | ⟨_, rfl⟩ := hi
  · exact hidden_wordings hm rfl rfl (by decide)
  · exact hidden_wordings hm rfl rfl (by decide)

theorem unpinnedActionVersions_conceals (hq : ∀ q ∈ quotedActions source, Unquoted secret q) :
  (Rule.unpinnedActionVersions.check document source).findings.Conceal secret
  := by
  apply Findings.Each.ofIssues
  intro i hi
  obtain ⟨⟨action, version⟩, hr, hi⟩ := List.mem_filterMap.mp hi
  dsimp only at hi
  split at hi
  case isTrue => cases hi
  case isFalse hpin =>
    cases hi
    have hquoted : ∀ q ∈ [String.ofList action, String.ofList version], Unquoted secret q := by
      intro q hmem
      apply hq q (List.mem_flatMap.mpr ⟨(action, version), List.mem_filter.mpr ⟨hr, ?_⟩, hmem⟩)
      simpa using hpin
    obtain ⟨haction, hversion⟩ : Unquoted secret _ ∧ Unquoted secret _ := by simpa using hquoted
    constructor
    · exact .lastQuotation hm (.wording hm rfl (by decide)) haction
    · exact .quotation hm (.wording hm rfl (by decide)) hversion rfl (by decide)
        (severs_mark _)

theorem complianceStandards_conceals
    (hq : ∀ e ∈ Workflow.jobEntries document, Unquoted secret e.1.display) :
  (Rule.complianceStandards.check document source).findings.Conceal secret
  := by
  have hc := Findings.Conceal.cumulative secret
  apply hc.append
  · apply Findings.Each.ofIssues
    intro i hi
    simp only [Compliance.textIssues, List.mem_append, List.mem_ite_nil_left,
      List.mem_ite_nil_right, List.mem_singleton] at hi
    obtain (⟨_, rfl⟩ | ⟨_, rfl⟩) | ⟨_, rfl⟩ := hi
    · exact hidden_wordings hm rfl rfl (by decide)
    · exact hidden_wordings hm rfl rfl (by decide)
    · exact hidden_wordings hm rfl rfl (by decide)
  · apply hc.outcome_when
    intro _
    apply hc.append
    · apply hc.eachJob
      intro e he
      apply hc.when
      intro _
      exact .optimization (hidden_named hm (hq e he) rfl rfl (by decide))
    · apply hc.eachJob
      intro e he
      apply Findings.Each.ofOptimizations
      intro o ho
      obtain ⟨_, _, rfl⟩ := List.mem_map.mp ho
      exact hidden_named hm (hq e he) rfl rfl (by decide)

theorem securityScanning_conceals :
  (Rule.securityScanning.check document source).findings.Conceal secret
  := by
  constructor
  · intro i hi
    simp only [Rule.securityScanning, Outcome.done, Scanning.findings, List.mem_append,
      List.mem_ite_nil_left, List.mem_ite_nil_right, List.mem_singleton] at hi
    obtain (⟨_, rfl⟩ | ⟨_, rfl⟩) | ⟨_, rfl⟩ := hi
    · exact hidden_wordings hm rfl rfl (by decide)
    · exact hidden_wordings hm rfl rfl (by decide)
    · exact hidden_wordings hm rfl rfl (by decide)
  · intro o ho
    simp only [Rule.securityScanning, Outcome.done, Scanning.findings, List.mem_append,
      List.mem_ite_nil_left, List.mem_singleton] at ho
    obtain ⟨_, rfl⟩ | ⟨_, rfl⟩ := ho
    · exact hidden_wordings hm rfl rfl (by decide)
    · exact hidden_wordings hm rfl rfl (by decide)
  · intro v hv
    cases hv

theorem insecureEnvironmentVariables_conceals :
  (Rule.insecureEnvironmentVariables.check document source).findings.Conceal secret
  := by
  constructor
  · intro i hi
    obtain ⟨name, hname, rfl⟩ := List.mem_map.mp hi
    have hn : Unquoted secret name :=
      .of_isEnding hm (isEnding_genericNames name (List.mem_of_mem_filter hname))
    constructor
    · exact .lastQuotation hm (.wording hm rfl (by decide)) hn
    · exact .quotation hm (.wording hm rfl (by decide)) hn rfl (by decide)
        (severs_mark _)
  · intro o ho
    simp only [Rule.insecureEnvironmentVariables, Outcome.done, List.mem_ite_nil_right,
      List.mem_singleton] at ho
    obtain ⟨_, rfl⟩ := ho
    exact hidden_wordings hm rfl rfl (by decide)
  · intro v hv
    cases hv

/-! ### Practice and performance -/

theorem commonAntiPatterns_conceals :
  (Rule.commonAntiPatterns.check document source).findings.Conceal secret
  := by
  apply Findings.Each.ofIssues
  intro i hi
  obtain ⟨a, ha, hi⟩ := List.mem_filterMap.mp hi
  rw [AntiPattern.issue?] at hi
  split at hi
  case isTrue => cases hi
  case isFalse =>
    cases hi
    have ht := isEnding_antiPatternTitles a ha
    rw [Bool.and_eq_true] at ht
    constructor
    · exact .of_isEnding hm ht.1
    · apply Hidden.append hm _ (.of_isEnding hm (by rw [String.toList_ofList]; exact ht.2))
      exact ((Apart.wording hm rfl (by decide)).append (.nat hm _)).append
        (.wording hm rfl (by decide))

theorem cachingOptimization_conceals
    (hq : ∀ e ∈ Workflow.jobEntries document, Unquoted secret e.1.display) :
  (Rule.cachingOptimization.check document source).findings.Conceal secret
  := by
  have hc := Findings.Conceal.cumulative secret
  apply hc.append
  · rw [Outcome.done, Caching.textFindings]
    dsimp only
    split
    · apply Findings.Each.ofIssues
      intro i hi
      obtain ⟨_, _, rfl⟩ := List.mem_map.mp hi
      exact hidden_wordings hm rfl rfl (by decide)
    · apply Findings.Each.ofOptimizations
      intro o ho
      obtain ⟨d, hd, rfl⟩ := List.mem_map.mp ho
      have hd := isEnding_dependencyCommands d (List.mem_of_mem_filter hd)
      rw [Bool.and_eq_true] at hd
      constructor
      · rw [DependencyCommand.suggestion, String.append_assoc]
        exact .append hm (.wording hm rfl (by decide)) (.of_isEnding hm hd.1)
      · exact .quotation hm (.wording hm rfl (by decide)) (.of_isEnding hm hd.2) rfl (by decide)
          (severs_of_mem (w := [' ', 'w', 'i', 't', 'h', 'o', 'u', 't', ' ']) (by decide) _)
  · apply hc.outcome_when
    intro _
    apply hc.eachJob
    intro e he
    apply Findings.Each.ofOptimizations
    intro o ho
    obtain ⟨_, _, rfl⟩ := List.mem_map.mp ho
    exact hidden_named hm (hq e he) rfl rfl (by decide)

theorem buildOptimization_conceals :
  (Rule.buildOptimization.check document source).findings.Conceal secret
  := by
  apply Findings.Each.ofOptimizations
  intro o ho
  obtain ⟨b, hb, ho⟩ := List.mem_filterMap.mp ho
  simp only [BuildShortcut.optimization?] at ho
  split at ho
  case isTrue => cases ho
  case isFalse =>
    cases ho
    exact ⟨.of_isEnding hm (isEnding_buildShortcuts b hb), .wording hm rfl (by decide)⟩

theorem overview_conceals {dependencies : List (String × List String)}
    (hq : Unquoted secret (commaSeparated (Parallelism.independent dependencies))) :
  ∀ o ∈ Parallelism.overview dependencies, Hidden secret o.title ∧ Hidden secret o.description
  := by
  intro o ho
  simp only [Parallelism.overview] at ho
  split at ho
  · obtain rfl := List.mem_singleton.mp ho
    constructor
    · exact .wording hm rfl (by decide)
    · exact .lastQuotation hm ((Apart.nat hm _).append (.wording hm rfl (by decide))) hq
  · split at ho
    · obtain rfl := List.mem_singleton.mp ho
      exact hidden_wordings hm rfl rfl (by decide)
    · cases ho

theorem review_conceals {job : String × List String} {o : Optimization}
    (ho : Parallelism.review? job = some o) (hq : ∀ q ∈ job.1 :: job.2, Unquoted secret q) :
  Hidden secret o.title ∧ Hidden secret o.description
  := by
  obtain ⟨name, needs⟩ := job
  simp only [Parallelism.review?] at ho
  split at ho
  case h_2 => cases ho
  case h_1 needed =>
    cases ho
    have hname : Unquoted secret name := hq _ (by simp)
    have hneeded : Unquoted secret needed := hq _ (by simp)
    constructor
    · exact .markedQuotation hm (.wording hm rfl (by decide)) hname
    · apply Hidden.quotation hm _ hneeded rfl (by decide) (severs_mark _)
      exact .quotation hm (.wording hm rfl (by decide)) hname rfl (by decide)
        fun _ => severs_mark _

theorem stageNotes_conceals {stages : List (String × List String)}
    (hq : ∀ q ∈ stages.map (·.1), Unquoted secret q) :
  ∀ o ∈ Parallelism.stageNotes stages, Hidden secret o.title ∧ Hidden secret o.description
  := by
  intro o ho
  obtain ⟨s, hs, rfl⟩ := List.mem_map.mp ho
  have hstage : Unquoted secret s.1 := hq _ (List.mem_map_of_mem (List.mem_of_mem_filter hs))
  constructor
  · exact .markedQuotation hm (.wording hm rfl (by decide)) hstage
  · apply Hidden.append hm _ (.wording hm rfl (by decide))
    apply Apart.append _ (.nat hm _)
    exact .quotation hm (.wording hm rfl (by decide)) hstage rfl (by decide)
      fun _ => severs_mark _

theorem useMatrix_conceals {groups : List (List String)}
    (hq : ∀ q ∈ groups.map commaSeparated, Unquoted secret q) :
  ∀ o ∈ groups.map Parallelism.useMatrix, Hidden secret o.title ∧ Hidden secret o.description
  := by
  intro o ho
  obtain ⟨group, hg, rfl⟩ := List.mem_map.mp ho
  constructor
  · exact .wording hm rfl (by decide)
  · exact .quotation hm (.wording hm rfl (by decide)) (hq _ (List.mem_map_of_mem hg)) rfl
      (by decide) (severs_of_mem (w := [' ', 'a', 'p', 'p', 'e', 'a', 'r', ' ']) (by decide) _)

/-- The checks of the jobs of a workflow quote what is read of its dependencies and its groups. -/
theorem checkWorkflow_conceals (hq : ∀ q ∈ quotedDependencies document, Unquoted secret q) :
  (Parallelism.checkWorkflow document).findings.Conceal secret
  := by
  obtain ⟨hneeds, hgroups⟩ := List.forall_mem_append.mp hq
  have hc := Findings.Conceal.cumulative secret
  apply hc.reading
  intro dependencies hread
  obtain ⟨hfree, hneeds⟩ := List.forall_mem_cons.mp fun q hmem =>
    hneeds q (mem_of_eq_ok hread _ hmem)
  apply hc.outcome_when
  intro _
  apply hc.append
  · apply Findings.Each.ofOptimizations
    intro o ho
    obtain ho | ho := List.mem_append.mp ho
    · exact overview_conceals hm hfree o ho
    · obtain ⟨job, hj, ho⟩ := List.mem_filterMap.mp ho
      exact review_conceals hm ho fun q hq => hneeds q (List.mem_flatMap.mpr ⟨job, hj, hq⟩)
  · apply hc.reading
    intro groups hread
    exact .ofOptimizations (useMatrix_conceals hm fun q hmem =>
      hgroups q (mem_of_eq_ok hread (·.map commaSeparated) hmem))

theorem checkStages_conceals (hq : ∀ q ∈ quotedStages document, Unquoted secret q) :
  (Parallelism.checkStages document).findings.Conceal secret
  := by
  have hc := Findings.Conceal.cumulative secret
  apply hc.append
  · apply hc.when
    intro _
    apply Findings.Each.optimization
    constructor
    · exact .wording hm rfl (by decide)
    · exact .number hm rfl (.nat hm _) rfl (by decide)
  · apply hc.reading
    intro stages hread
    exact .ofOptimizations (stageNotes_conceals hm fun q hmem =>
      hq q (mem_of_eq_ok hread (·.map (·.1)) hmem))

theorem parallelizationAnalysis_conceals
    (hq : ∀ q ∈ quotedDependencies document, Unquoted secret q)
    (hs : ∀ q ∈ quotedStages document, Unquoted secret q) :
  (Rule.parallelizationAnalysis.check document source).findings.Conceal secret
  := by
  rw [Rule.parallelizationAnalysis]
  dsimp only
  split
  · exact checkWorkflow_conceals hm hq
  · exact (Findings.Conceal.cumulative secret).outcome_when fun _ => checkStages_conceals hm hs

theorem checkTimeout_conceals {job : String × Document}
    (hq : ∀ q ∈ quotedOfJob job, Unquoted secret q) :
  (Resources.checkTimeout job).findings.Conceal secret
  := by
  have hname : Unquoted secret job.1 := hq _ (name_mem_quotedOfJob job)
  have hc := Findings.Conceal.cumulative secret
  rw [Resources.checkTimeout]
  split
  · exact .optimization (hidden_named hm hname rfl rfl (by decide))
  · apply hc.outcome_when
    intro _
    apply hc.reading
    intro text htext
    have htime : Unquoted secret text := by
      rw [← (ifWritable_eq_ok.mp htext).2]
      exact hq _ (timeout_mem_quotedOfJob job)
    apply Findings.Each.issue
    constructor
    · exact .markedQuotation hm (.wording hm rfl (by decide)) hname
    · exact .quotation hm (.wording hm rfl (by decide)) htime rfl (by decide)
        (severs_of_mem (w := [' ', 'm', 'i', 'n', 'u', 't', 'e', 's', ' ']) (by decide) _)

theorem runnerFindings_conceals {job : String × Document} (hq : Unquoted secret job.1) :
  (Resources.runnerFindings job).Conceal secret
  := by
  apply (Findings.Conceal.cumulative secret).when
  intro _
  exact .optimization (hidden_named hm hq rfl rfl (by decide))

theorem heavyFindings_conceals (text : List Char) :
  (Resources.heavyFindings text).Conceal secret
  := by
  apply Findings.Each.ofOptimizations
  intro o ho
  simp only [List.mem_append, List.mem_ite_nil_right, List.mem_singleton] at ho
  obtain ⟨_, rfl⟩ | ⟨_, rfl⟩ := ho
  · constructor
    · exact .wording hm rfl (by decide)
    · apply Hidden.append hm (.wording hm rfl (by decide))
      apply Hidden.commaSeparated hm
      intro p hp
      obtain ⟨o, ho, rfl⟩ := List.mem_map.mp hp
      exact isOpening_heavyOperations o (List.mem_of_mem_filter ho)
  · exact hidden_wordings hm rfl rfl (by decide)

theorem resourceOptimization_conceals
    (hq : ∀ e ∈ Workflow.jobEntries document, ∀ q ∈ quotedOfJob (Document.displayed e),
      Unquoted secret q) :
  (Rule.resourceOptimization.check document source).findings.Conceal secret
  := by
  have hc := Findings.Conceal.cumulative secret
  apply hc.append _ (heavyFindings_conceals hm source.text)
  apply hc.outcome_when
  intro _
  apply hc.append
  · exact hc.eachJob fun e he => checkTimeout_conceals hm (hq e he)
  · exact hc.eachJob fun e he => runnerFindings_conceals hm (hq e he _ (name_mem_quotedOfJob _))

/-! ### Cost -/

theorem triggerSuggestions_conceals (triggers : List (Key × Document)) :
  ∀ o ∈ Spending.triggerSuggestions triggers, Hidden secret o.title ∧ Hidden secret o.description
  := by
  intro o ho
  simp only [Spending.triggerSuggestions, List.mem_append, List.mem_ite_nil_right,
    List.mem_singleton] at ho
  obtain (⟨_, rfl⟩ | ho) | ⟨_, rfl⟩ := ho
  · exact hidden_wordings hm rfl rfl (by decide)
  · obtain ⟨_, _, rfl⟩ := List.mem_map.mp ho
    exact hidden_wordings hm rfl rfl (by decide)
  · exact hidden_wordings hm rfl rfl (by decide)

theorem runnerSuggestion_conceals {job : String × Document}
    (hq : ∀ q ∈ quotedOfJob job, Unquoted secret q) :
  ∀ o ∈ (Spending.runnerSuggestion? job).toList, Hidden secret o.title ∧ Hidden secret o.description
  := by
  intro o ho
  rw [Option.mem_toList] at ho
  obtain ⟨runner, hr, rfl⟩ := Option.map_eq_some_iff.mp ho
  have hrunner : Unquoted secret runner :=
    hq _ (runner_mem_quotedOfJob (Option.filter_eq_some_iff.mp hr).1)
  constructor
  · exact .markedQuotation hm (.wording hm rfl (by decide)) (hq _ (name_mem_quotedOfJob job))
  · exact .quotation hm (.wording hm rfl (by decide)) hrunner rfl (by decide)
      (severs_of_mem (w := [' ', '-', ' ']) (by decide) _)

theorem checkMatrix_conceals {job : String × Document} (hq : Unquoted secret job.1) :
  (Spending.checkMatrix job).findings.Conceal secret
  := by
  have hc := Findings.Conceal.cumulative secret
  rw [Spending.checkMatrix]
  split
  · exact hc.none
  · apply hc.outcome_when
    intro _
    apply hc.reading
    intro text htext
    rw [← (ifWritable_eq_ok.mp htext).2]
    apply Findings.Each.issue
    constructor
    · exact .markedQuotation hm (.wording hm rfl (by decide)) hq
    · exact .number hm rfl (.int hm _) rfl (by decide)

theorem checkLongJob_conceals {job : String × Document}
    (hq : ∀ q ∈ quotedOfJob job, Unquoted secret q) :
  (Spending.checkLongJob job).findings.Conceal secret
  := by
  have hc := Findings.Conceal.cumulative secret
  apply hc.outcome_when
  intro _
  apply hc.reading
  intro _ _
  apply hc.outcome_when
  intro _
  apply hc.reading
  intro text htext
  have htime : Unquoted secret text := by
    rw [← (ifWritable_eq_ok.mp htext).2]
    exact hq _ (timeout_mem_quotedOfJob job)
  apply Findings.Each.optimization
  constructor
  · exact .markedQuotation hm (.wording hm rfl (by decide)) (hq _ (name_mem_quotedOfJob job))
  · exact .quotation hm (.wording hm rfl (by decide)) htime rfl (by decide)
      (severs_of_mem (w := [' ', 'm', 'i', 'n', 'u', 't', 'e', ' ']) (by decide) _)

theorem costOptimization_conceals
    (hq : ∀ e ∈ Workflow.jobEntries document, ∀ q ∈ quotedOfJob (Document.displayed e),
      Unquoted secret q) :
  (Rule.costOptimization.check document source).findings.Conceal secret
  := by
  have hc := Findings.Conceal.cumulative secret
  apply hc.append
  · split
    · apply hc.append
      · apply hc.append
        · apply hc.append
          · exact hc.reading fun triggers _ =>
              .ofOptimizations (triggerSuggestions_conceals hm triggers)
          · exact hc.eachJob fun e he => .ofOptimizations (runnerSuggestion_conceals hm (hq e he))
        · exact hc.eachJob fun e he => checkMatrix_conceals hm (hq e he _ (name_mem_quotedOfJob _))
      · exact hc.eachJob fun e he => checkLongJob_conceals hm (hq e he)
    · apply Findings.Each.ofOptimizations
      intro o ho
      simp only [Spending.runnerTextSuggestions, List.mem_ite_nil_right,
        List.mem_singleton] at ho
      obtain ⟨_, rfl⟩ := ho
      exact hidden_wordings hm rfl rfl (by decide)
  · apply Findings.Each.ofOptimizations
    intro o ho
    simp only [Spending.storageSuggestions, List.mem_append, List.mem_ite_nil_right,
      List.mem_singleton] at ho
    obtain ⟨_, rfl⟩ | ⟨_, rfl⟩ := ho
    · exact hidden_wordings hm rfl rfl (by decide)
    · exact hidden_wordings hm rfl rfl (by decide)

theorem concurrencyOptimization_conceals
    (hq : ∀ e ∈ Workflow.jobEntries document, Unquoted secret e.1.display) :
  (Rule.concurrencyOptimization.check document source).findings.Conceal secret
  := by
  have hc := Findings.Conceal.cumulative secret
  apply hc.append
  · rw [Concurrency.checkWorkflow]
    split
    · apply hc.reading
      intro _ _
      apply hc.reading
      intro _ _
      apply hc.when
      intro _
      exact .optimization (hidden_wordings hm rfl rfl (by decide))
    · apply hc.when
      intro _
      exact .optimization (hidden_wordings hm rfl rfl (by decide))
  · apply hc.eachJob
    intro e he
    apply hc.when
    intro _
    exact .optimization (hidden_named hm (hq e he) rfl rfl (by decide))

/-! ### Maintainability -/

theorem documentationStandards_conceals
    (hq : ∀ e ∈ Workflow.jobEntries document, Unquoted secret e.1.display) :
  (Rule.documentationStandards.check document source).findings.Conceal secret
  := by
  have hc := Findings.Conceal.cumulative secret
  apply hc.append
  · apply hc.append
    · apply hc.eachJob
      intro e he
      apply hc.both
      · exact hc.when fun _ => .issue (hidden_named hm (hq e he) rfl rfl (by decide))
      · exact hc.when fun _ => .optimization (hidden_named hm (hq e he) rfl rfl (by decide))
    · apply hc.eachJob
      intro e he
      apply Findings.Each.ofIssues
      intro i hi
      obtain ⟨_, _, rfl⟩ := List.mem_map.mp hi
      exact hidden_named hm (hq e he) rfl rfl (by decide)
  · apply hc.both
    · apply hc.when
      intro _
      apply Findings.Each.optimization
      constructor
      · exact .wording hm rfl (by decide)
      · exact .append hm (.wording hm rfl (by decide)) (.wording hm rfl (by decide))
    · exact hc.when fun _ => .optimization (hidden_wordings hm rfl rfl (by decide))

theorem jobIssues_conceals {job : String} (hq : Unquoted secret job) :
  ∀ i ∈ Naming.jobIssues job, Hidden secret i.title ∧ Hidden secret i.description
  := by
  intro i hi
  simp only [Naming.jobIssues, List.mem_append, List.mem_ite_nil_left, List.mem_ite_nil_right,
    List.mem_singleton] at hi
  obtain ⟨_, rfl⟩ | ⟨_, rfl⟩ := hi
  · exact hidden_named hm hq rfl rfl (by decide)
  · exact hidden_named hm hq rfl rfl (by decide)

theorem stepFindings_conceals {job : String × Document}
    (hq : ∀ q ∈ quotedOfJob job, Unquoted secret q) :
  (Naming.stepFindings job).Conceal secret
  := by
  have hc := Findings.Conceal.cumulative secret
  apply hc.concat
  intro f hf
  obtain ⟨name, hname, rfl⟩ := List.mem_map.mp hf
  have hstep : Unquoted secret name := hq _ (step_mem_quotedOfJob hname)
  apply hc.both
  · apply hc.when
    intro _
    apply Findings.Each.issue
    constructor
    · exact .markedQuotation hm (.wording hm rfl (by decide)) (hq _ (name_mem_quotedOfJob job))
    · exact .quotation hm (.wording hm rfl (by decide)) hstep rfl (by decide) (severs_mark _)
  · apply hc.when
    intro _
    apply Findings.Each.optimization
    constructor
    · exact .wording hm rfl (by decide)
    · exact .quotation hm (.wording hm rfl (by decide)) hstep rfl (by decide) (severs_mark _)

theorem namingConventions_conceals
    (hq : ∀ e ∈ Workflow.jobEntries document, ∀ q ∈ quotedOfJob (Document.displayed e),
      Unquoted secret q)
    (hvariables : ∀ q ∈ quotedVariables source, Unquoted secret q)
    (hset : ∀ q ∈ (document.get "env").entries.map (·.1.display), Unquoted secret q) :
  (Rule.namingConventions.check document source).findings.Conceal secret
  := by
  have hc := Findings.Conceal.cumulative secret
  apply hc.append
  · apply hc.append
    · apply hc.append
      · apply hc.append
        · exact hc.eachJob fun e he =>
            .ofIssues (jobIssues_conceals hm (hq e he _ (name_mem_quotedOfJob _)))
        · exact hc.eachJob fun e he => stepFindings_conceals hm (hq e he)
      · apply Findings.Each.ofIssues
        intro i hi
        obtain ⟨name, hname, rfl⟩ := List.mem_map.mp hi
        exact hidden_named hm (hvariables _ (List.mem_map_of_mem hname)) rfl rfl (by decide)
    · apply hc.each
      intro entry he
      apply hc.reading
      intro name hname
      rw [← (ifWritable_eq_ok.mp hname).2]
      apply Findings.Each.ofIssues
      intro i hi
      simp only [Naming.variableIssues, List.mem_ite_nil_left, List.mem_singleton] at hi
      obtain ⟨_, rfl⟩ := hi
      exact hidden_named hm (hset _ (List.mem_map_of_mem he)) rfl rfl (by decide)
  · apply hc.eachJob
    intro e he
    apply Findings.Each.ofIssues
    intro i hi
    rw [Option.mem_toList] at hi
    obtain ⟨name, hname, rfl⟩ := Option.map_eq_some_iff.mp hi
    have hn : Unquoted secret name :=
      hq e he _ (environment_mem_quotedOfJob (Option.filter_eq_some_iff.mp hname).1)
    exact hidden_named hm hn rfl rfl (by decide)

theorem jobIssue_conceals {job : String × Document} (hq : Unquoted secret job.1) :
  ∀ i ∈ (Complexity.jobIssue? job).toList, Hidden secret i.title ∧ Hidden secret i.description
  := by
  intro i hi
  simp only [Complexity.jobIssue?, Option.mem_toList, Option.ite_none_right_eq_some,
    Option.some.injEq] at hi
  obtain ⟨_, rfl⟩ := hi
  constructor
  · exact .markedQuotation hm (.wording hm rfl (by decide)) hq
  · exact .number hm rfl (.int hm _) rfl (by decide)

theorem runSuggestions_conceals {shared : List (String × List String)}
    (hq : ∀ q ∈ (shared.filter fun r => 2 < r.2.length).flatMap fun r =>
      [r.1, commaSeparated r.2], Unquoted secret q) :
  ∀ o ∈ Complexity.runSuggestions shared, Hidden secret o.title ∧ Hidden secret o.description
  := by
  intro o ho
  obtain ⟨r, hr, rfl⟩ := List.mem_map.mp ho
  have hrun : Unquoted secret r.1 := hq _ (List.mem_flatMap.mpr ⟨r, hr, by simp⟩)
  have hjobs : Unquoted secret (commaSeparated r.2) :=
    hq _ (List.mem_flatMap.mpr ⟨r, hr, by simp⟩)
  constructor
  · exact .wording hm rfl (by decide)
  · exact .lastQuotation hm (.quotation hm (.wording hm rfl (by decide)) hrun rfl (by decide)
      fun _ => severs_mark _) hjobs

theorem complexityAnalysis_conceals
    (hq : ∀ e ∈ Workflow.jobEntries document, Unquoted secret e.1.display)
    (hr : ∀ q ∈ quotedRuns document, Unquoted secret q) :
  (Rule.complexityAnalysis.check document source).findings.Conceal secret
  := by
  have hc := Findings.Conceal.cumulative secret
  apply hc.append
  · apply hc.append
    · exact hc.eachJob fun e he => .ofIssues (jobIssue_conceals hm (hq e he))
    · apply Findings.Each.ofIssues
      intro i hi
      simp only [Complexity.documentIssues, List.mem_append, List.mem_ite_nil_right,
        List.mem_singleton] at hi
      obtain ⟨_, rfl⟩ | ⟨_, rfl⟩ := hi
      · constructor
        · exact .wording hm rfl (by decide)
        · exact .number hm rfl (.nat hm _) rfl (by decide)
      · constructor
        · exact .wording hm rfl (by decide)
        · exact .number hm rfl (.nat hm _) rfl (by decide)
  · apply hc.reading
    intro shared hread
    exact .ofOptimizations (runSuggestions_conceals hm fun q hmem =>
      hr q (mem_of_eq_ok hread (fun shared => (shared.filter fun r => 2 < r.2.length).flatMap
        fun r => [r.1, commaSeparated r.2]) hmem))

/-! ### The catalog -/

/-- No default rule repeats a secret whose beginning is not quoted. -/
theorem check_conceals (hq : ∀ q ∈ quotations document source, Unquoted secret q) :
  ∀ r ∈ default, (r.check document source).findings.Conceal secret
  := by
  simp only [quotations, quotedOfSource, quotedOfDocument, List.forall_mem_append] at hq
  obtain ⟨⟨hforms, hlines, hactions, hvariables⟩, hjobs, hset, hneeds, hstages, hruns⟩ := hq
  have hjob : ∀ e ∈ Workflow.jobEntries document, ∀ q ∈ quotedOfJob (Document.displayed e),
      Unquoted secret q := fun e he q hqe => hjobs q (List.mem_flatMap.mpr ⟨e, he, hqe⟩)
  have hname : ∀ e ∈ Workflow.jobEntries document, Unquoted secret e.1.display :=
    fun e he => hjob e he _ (name_mem_quotedOfJob _)
  simp only [default, List.forall_mem_cons]
  refine ⟨hardcodedSecrets_conceals hm hforms, highEntropyStrings_conceals hm,
    dangerousCommands_conceals hm hlines, filePermissions_conceals hm hlines,
    broadPermissions_conceals hm, unpinnedActionVersions_conceals hm hactions,
    insecureEnvironmentVariables_conceals hm, complianceStandards_conceals hm hname,
    securityScanning_conceals hm, commonAntiPatterns_conceals hm,
    cachingOptimization_conceals hm hname, buildOptimization_conceals hm,
    parallelizationAnalysis_conceals hm hneeds hstages, resourceOptimization_conceals hm hjob,
    costOptimization_conceals hm hjob, concurrencyOptimization_conceals hm hname,
    documentationStandards_conceals hm hname,
    namingConventions_conceals hm hjob hvariables hset,
    complexityAnalysis_conceals hm hname hruns, by simp⟩

/-- The issue that stands for a default rule that fails names the rule and says why it failed, and
repeats no secret. -/
theorem contribution_conceals {r : Rule} (hr : r ∈ default)
    (hf : (r.check document source).findings.Conceal secret) :
  (r.contribution document source).Conceal secret
  := by
  have hc := Findings.Conceal.cumulative secret
  rw [Rule.contribution]
  apply hc.both hf
  cases he : (r.check document source).failure with
  | none => exact hc.none
  | some e =>
    apply Findings.Each.issue
    constructor
    · apply Hidden.append hm (.wording hm rfl (by decide))
      exact .of_isEnding hm (isEnding_ruleNames r hr)
    · apply Hidden.append hm (.wording hm rfl (by decide))
      obtain ⟨rfl, -⟩ | he := check_failure document source hr he
      · exact .of_isEnding hm (by decide +kernel)
      · obtain ⟨container, rfl⟩ := exists_container_of_failure? he
        exact .of_isEnding hm (isEnding_nestedTooDeep container)

omit hm

/-- A secret that is found is repeated in no title and in no description, if it has more than eight
characters, the fifth of them is no star, and its first nine characters are not quoted. -/
theorem execute_conceals {h : Hit} (hh : h ∈ hits source) (hlong : 8 < h.text.length)
    (hfifth : h.text[4]? ≠ some '*')
    (hq : ∀ q ∈ quotations document source, ¬ h.text.take 9 <:+: q.toList)
    (strictness : Strictness) (skipped : List Category) :
  ∀ t ∈ (default.execute document source strictness skipped).texts, ¬ h.text <:+: t.toList
  := by
  have hm := Hit.maskable hh hlong hfifth
  apply Findings.Conceal.hidden
  rw [execute_eq]
  apply (Findings.Conceal.cumulative h.text).concat
  intro f hf
  obtain ⟨r, hr, rfl⟩ := List.mem_map.mp hf
  have hr := List.mem_of_mem_filter hr
  exact contribution_conceals hm hr (check_conceals hm hq r hr)

/-- A workflow whose only step sets a key. -/
def keyedWorkflow : Document :=
  .map [(.ofText "jobs", .map [(.ofText "deploy", .map [(.ofText "steps",
    .list [.map [(.ofText "run", .text "export KEY=AKIA2B3C4D5E6F7G8H9J")]])])])]

theorem execute_conceals_keyedWorkflow :
  let source : Source := ⟨"run: export KEY=AKIA2B3C4D5E6F7G8H9J".toList, "github-actions"⟩
  ∃ h ∈ hits source, 8 < h.text.length ∧ h.text[4]? ≠ some '*' ∧
    (∀ q ∈ quotations keyedWorkflow source, ¬ h.text.take 9 <:+: q.toList) ∧
    ∀ t ∈ (default.execute keyedWorkflow source .everything []).texts, ¬ h.text <:+: t.toList
  := by
  intro source
  have hkey : ∃ h ∈ hits source, h.text = "AKIA2B3C4D5E6F7G8H9J".toList := by decide +kernel
  obtain ⟨h, hh, ht⟩ := hkey
  have hlong : 8 < h.text.length := by rw [ht]; decide
  have hfifth : h.text[4]? ≠ some '*' := by rw [ht]; decide
  have hq : ∀ q ∈ quotations keyedWorkflow source, ¬ h.text.take 9 <:+: q.toList := by
    rw [ht]
    decide +kernel
  exact ⟨h, hh, hlong, hfifth, hq, execute_conceals hh hlong hfifth hq .everything []⟩

/-- A key that is found, and masked there, is repeated in full where the command that sets it is
found dangerous. -/
theorem execute_repeatsKey :
  let source : Source :=
    ⟨"aws configure set aws_access_key_id AKIA2B3C4D5E6F7G8H9J".toList, "github-actions"⟩
  ∃ h ∈ hits source, 8 < h.text.length ∧
    (∃ c ∈ (h.text.drop 4).take (h.text.length - 8), c ≠ '*') ∧
    ∃ t ∈ (default.execute (.map []) source .everything []).texts, h.text <:+: t.toList
  := by
  intro source
  have hkey : ∃ h ∈ hits source, h.text = "AKIA2B3C4D5E6F7G8H9J".toList := by decide +kernel
  obtain ⟨h, hh, ht⟩ := hkey
  have hlong : 8 < h.text.length := by rw [ht]; decide
  have hopen : ∃ c ∈ (h.text.drop 4).take (h.text.length - 8), c ≠ '*' := by
    rw [ht]
    exact ⟨'2', List.mem_of_getElem? (i := 0) rfl, by decide⟩
  have hcommand : ∃ v ∈ (Rule.dangerousCommands.check (.map []) source).findings.vulnerabilities,
      "AKIA2B3C4D5E6F7G8H9J".toList <:+: v.description.toList := by decide +kernel
  obtain ⟨v, hv, hrepeated⟩ := hcommand
  have hv : v ∈ (default.execute (.map []) source .everything []).vulnerabilities := by
    rw [vulnerabilities_execute]
    have hr : Rule.dangerousCommands ∈ default := by simp [default]
    exact List.mem_flatMap.mpr ⟨_, List.mem_filter.mpr ⟨hr, rfl⟩, hv⟩
  refine ⟨h, hh, hlong, hopen, v.description, ?_, ?_⟩
  · simp only [Findings.texts, List.mem_append, List.mem_flatMap]
    exact .inr (.inr ⟨v, hv, by simp⟩)
  · rw [ht]
    exact hrepeated

end Catalog

end PipelineAudit
