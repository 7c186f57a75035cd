import PipelineAudit.Proofs.Finding.Streams
import PipelineAudit.Proofs.Pattern.Lines
import PipelineAudit.Proofs.Rule.Jobs
import PipelineAudit.Proofs.Secret.Search
import PipelineAudit.Rule.Engine

/-!
# Positions of findings

The default rules point at lines of the text only.  Most findings have no position; some list the
lines in which a pattern occurs; the others point at one line, which shows what they report.

* `Caching.exists_line_of_mem_staticKeys`: a key that never changes is reported on the line that
  sets it, though it is looked for in the whole text.
* `Catalog.check_placed`: every finding of a default rule is placed.
* `Catalog.execute_positions`: so is every finding of a run.
-/

namespace PipelineAudit

/-! ### Lines of a source -/

namespace Source

/-- A number is that of a line. -/
def HasLine (source : Source) (n : Int) : Prop :=
  1 ≤ n ∧ n ≤ source.text.count '\n' + 1

/-- Line numbers, if there are any, are those of lines from the first to the last. -/
def ListsLines (source : Source) (numbers : Option (List Int)) : Prop :=
  ∀ ns, numbers = some ns → (∀ n ∈ ns, source.HasLine n) ∧ ns.Pairwise (· < ·)

theorem hasLine_of_mem {source : Source} {l : Nat × List Char} (h : l ∈ source.numberedLines) :
  source.HasLine l.1
  := by
  obtain ⟨hl, hu⟩ := number_bounds h
  constructor
  · omega
  · omega

theorem listsLines_none (source : Source) :
  source.ListsLines none
  := by
  intro ns h
  cases h

/-- The numbers of the lines that pass a test. -/
theorem listsLines_filter (source : Source) (test : Nat × List Char → Bool) :
  source.ListsLines (asLineNumbers ((source.numberedLines.filter test).map (·.1)))
  := by
  intro ns h
  rw [asLineNumbers, Option.some.injEq] at h
  subst h
  constructor
  · intro n hn
    obtain ⟨k, hk, rfl⟩ := List.mem_map.mp hn
    obtain ⟨l, hl, rfl⟩ := List.mem_map.mp hk
    exact hasLine_of_mem (List.mem_of_mem_filter hl)
  · rw [List.pairwise_map, List.pairwise_map]
    apply ((pairwise_numberedLines source).filter test).imp
    intro l l' h
    exact Int.ofNat_lt.mpr h

end Source

/-! ### What a line shows -/

/-- A line sets a cache key that never changes. -/
def Caching.SetsStaticKey (line : List Char) : Prop :=
  ∃ m ∈ keyLine.findAll line, !(m.kept.head?.any fun key => isDynamic (Text.trim key))

/-- A line shows a vulnerability: a risky command of the form that the title names, a secret of the
signature that it names, or a token of suspicious entropy. -/
def Vulnerability.ShowsOn (v : Vulnerability) (line : List Char) : Prop :=
  (∃ form ∈ CommandForm.dangerous, v.title = form.title ∧
    ∃ m ∈ form.pattern.findAll line, form.accepts m.text) ∨
  (∃ form ∈ CommandForm.permissionChanges, v.title = "Insecure " ++ form.title ∧
    ∃ m ∈ form.pattern.findAll line, form.accepts m.text) ∨
  (∃ s ∈ Secret.signatures, v.title = "Exposed " ++ s.name ∧
    ∃ m ∈ s.pattern.findAll line, s.takes m.text) ∨
  (v.title = "High Entropy String" ∧ ∃ token, token ∈ Secret.suspiciousTokens line)

/-! ### Placed findings -/

/-- The ids of the issues that are reported on lines of a certain kind. -/
def Issue.idsOfLines : List String :=
  ["static-cache-key", "sudo-usage"]

/-- An issue is placed: the lines that it lists are lines of the source, and those that use `sudo`
if it is about that; and the line that it points at sets a cache key that never changes. -/
structure Issue.Placed (source : Source) (i : Issue) : Prop where
  numbers : source.ListsLines i.lineNumbers
  line : i.line = none ∧ i.ruleId ≠ some "static-cache-key" ∨
    ∃ l ∈ source.numberedLines, i = Caching.staticKeyIssue l.1 ∧ Caching.SetsStaticKey l.2
  sudoLines : i.ruleId = some "sudo-usage" → i = Rule.sudoIssue (source.linesWith Rule.sudoWord)

/-- An issue about the lines that it lists. -/
theorem Issue.Placed.of_lines {source : Source} {i : Issue} {id : String}
    (hn : source.ListsLines i.lineNumbers) (hl : i.line = none) (hi : i.ruleId = some id)
    (hid : id ∉ idsOfLines) :
  i.Placed source
  := by
  refine ⟨hn, .inl ⟨hl, ?_⟩, ?_⟩
  · intro hk
    rw [hi, Option.some.injEq] at hk
    rw [hk] at hid
    exact hid (by decide)
  · intro hs
    rw [hi, Option.some.injEq] at hs
    rw [hs] at hid
    exact absurd (by decide) hid

/-- An issue about no place. -/
theorem Issue.Placed.of_none {source : Source} {i : Issue} {id : String}
    (hn : i.lineNumbers = none) (hl : i.line = none) (hi : i.ruleId = some id)
    (hid : id ∉ idsOfLines) :
  i.Placed source
  := by
  apply Issue.Placed.of_lines _ hl hi hid
  rw [hn]
  apply source.listsLines_none

/-- An optimization is placed: the lines that it lists are lines of the source. -/
def Optimization.Placed (source : Source) (o : Optimization) : Prop :=
  source.ListsLines o.lineNumbers

/-- A suggestion about no place. -/
theorem Optimization.Placed.of_none {source : Source} {o : Optimization}
    (h : o.lineNumbers = none) :
  o.Placed source
  := by
  rw [Placed, h]
  apply source.listsLines_none

/-- A vulnerability is placed: it points at a line of the source that shows it. -/
def Vulnerability.Placed (source : Source) (v : Vulnerability) : Prop :=
  ∃ l ∈ source.numberedLines, v.line = some (l.1 : Int) ∧ v.ShowsOn l.2

/-- The lines at which findings point. -/
def Findings.lines (found : Findings) : List Int :=
  found.issues.filterMap (·.line) ++ found.vulnerabilities.filterMap (·.line)

/-- The lists of lines that findings carry. -/
def Findings.lineLists (found : Findings) : List (List Int) :=
  found.issues.filterMap (·.lineNumbers) ++ found.optimizations.filterMap (·.lineNumbers)

/-- Each finding is placed. -/
def Findings.Placed (source : Source) (found : Findings) : Prop :=
  found.Each (·.Placed source) (·.Placed source) (·.Placed source)

namespace Findings

variable {source : Source} {found : Findings}

/-- Findings together are placed if each of them is. -/
theorem Placed.cumulative (source : Source) :
  Cumulative (Findings.Placed source)
  := Each.cumulative _ _ _

/-- Placed findings point at lines of the source. -/
theorem Placed.hasLine_of_mem_lines (h : found.Placed source) {n : Int} (hn : n ∈ found.lines) :
  source.HasLine n
  := by
  obtain hn | hn := List.mem_append.mp hn
  · obtain ⟨i, hi, hline⟩ := List.mem_filterMap.mp hn
    obtain ⟨hnone, _⟩ | ⟨l, hl, rfl, _⟩ := (h.issues i hi).line
    · rw [hnone] at hline
      cases hline
    · cases hline
      exact Source.hasLine_of_mem hl
  · obtain ⟨v, hv, hline⟩ := List.mem_filterMap.mp hn
    obtain ⟨l, hl, hvl, _⟩ := h.vulnerabilities v hv
    rw [hvl] at hline
    cases hline
    exact Source.hasLine_of_mem hl

/-- Placed findings list lines of the source in order. -/
theorem Placed.listsLines_of_mem_lineLists (h : found.Placed source) {ns : List Int}
    (hns : ns ∈ found.lineLists) :
  source.ListsLines (some ns)
  := by
  obtain hns | hns := List.mem_append.mp hns
  · obtain ⟨i, hi, hnumbers⟩ := List.mem_filterMap.mp hns
    rw [← hnumbers]
    exact (h.issues i hi).numbers
  · obtain ⟨o, ho, hnumbers⟩ := List.mem_filterMap.mp hns
    rw [← hnumbers]
    exact h.optimizations o ho

end Findings

/-! ### Keys that never change -/

namespace Caching

open Pattern

/-- A key is set at the beginning of a line. -/
theorem before_of_matchAt?_keyLine {i : Nat} {place : Place} {m : Match}
    (h : keyLine.matchAt? i place = some m) :
  place.onLine.before = none
  := by
  obtain ⟨r, hr, _⟩ := Option.map_eq_some_iff.mp h
  obtain ⟨s, hs, _⟩ := List.mem_flatMap.mp (List.mem_of_mem_head? hr)
  rw [ends, condition, List.mem_ite_nil_right] at hs
  have hb := hs.1
  rw [Place.onLine]
  cases hp : place.before with
  | none => rfl
  | some c =>
    simp only [hp, Option.all_some, decide_eq_true_iff] at hb
    simp [Option.filter, hb]

/-- A key that never changes is reported on a line that sets it. -/
theorem exists_line_of_mem_staticKeys {source : Source} {i : Issue}
    (h : i ∈ staticKeys source.text) :
  ∃ l ∈ source.numberedLines, i = staticKeyIssue l.1 ∧ SetsStaticKey l.2
  := by
  obtain ⟨m, hm, rfl⟩ := List.mem_map.mp h
  obtain ⟨hm, hstatic⟩ := List.mem_filter.mp hm
  obtain ⟨a, b, ht, hs, hat⟩ := exists_of_mem_findAll hm
  have hl := Source.mem_numberedLines_append a b source.platform
  rw [← ht] at hl
  refine ⟨_, hl, ?_, ?_⟩
  · rw [lineOf, hs, ht, List.take_left]
  · -- The match begins where its line begins, so that the line alone begins with it.
    have hb := before_of_matchAt?_keyLine hat
    have hp : keyLine.staysInLine := by decide
    rw [← matchAt?_onLine hp, onLine_append] at hat
    rw [onLine_append, List.getLast?_eq_none_iff] at hb
    rw [hb, List.getLast?_nil] at hat
    rw [hb, List.nil_append]
    exact ⟨_, mem_findAll_of_matchAt? hat, hstatic⟩

theorem SetsStaticKey.occursIn {line : List Char} (h : SetsStaticKey line) :
  keyLine.occursIn line
  := by
  obtain ⟨m, hm, _⟩ := h
  exact occursIn_of_mem_findAll hm

end Caching

namespace Catalog

variable (document : Document) (source : Source)

/-! ### Secrets and commands -/

theorem hardcodedSecrets_placed :
  (Rule.hardcodedSecrets.check document source).findings.Placed source
  := by
  apply Findings.Each.ofVulnerabilities
  intro v hv
  obtain ⟨h, hh, rfl⟩ := List.mem_map.mp hv
  obtain ⟨s, hs, l, hl, hh⟩ := Secret.exists_of_mem_allHits (Secret.mem_of_mem_distinctHits hh)
  obtain ⟨-, m, hm, ht, rfl⟩ := Secret.Signature.mem_hitsOn_iff.mp hh
  exact ⟨l, hl, rfl, .inr (.inr (.inl ⟨s, hs, rfl, m, hm, ht⟩))⟩

theorem highEntropyStrings_placed :
  (Rule.highEntropyStrings.check document source).findings.Placed source
  := by
  apply Findings.Each.ofVulnerabilities
  intro v hv
  obtain ⟨l, hl, hv⟩ := List.mem_flatMap.mp hv
  rw [Secret.tokenVulnerabilities, List.mem_ite_nil_right] at hv
  obtain ⟨token, ht, rfl⟩ := List.mem_map.mp hv.2
  exact ⟨l, hl, rfl, .inr (.inr (.inr ⟨rfl, token, ht⟩))⟩

/-- A risky command is reported on a line with a match of its form. -/
theorem exists_line_of_mem_scan {forms : List CommandForm} {titled described : String}
    {v : Vulnerability} (h : v ∈ CommandForm.scan forms titled described source) :
  ∃ l ∈ source.numberedLines, v.line = some (l.1 : Int) ∧
    ∃ form ∈ forms, v.title = titled ++ form.title ∧
      ∃ m ∈ form.pattern.findAll l.2, form.accepts m.text
  := by
  obtain ⟨form, hform, h⟩ := List.mem_flatMap.mp h
  obtain ⟨l, hl, h⟩ := List.mem_flatMap.mp h
  obtain ⟨m, hm, rfl⟩ := List.mem_map.mp h
  rw [CommandForm.matchesOn, List.mem_ite_nil_left] at hm
  obtain ⟨hm, ha⟩ := List.mem_filter.mp hm.2
  exact ⟨l, hl, rfl, form, hform, rfl, m, hm, ha⟩

theorem dangerousCommands_placed :
  (Rule.dangerousCommands.check document source).findings.Placed source
  := by
  apply Findings.Each.ofVulnerabilities
  intro v hv
  obtain ⟨l, hl, hline, form, hform, ht, hm⟩ := exists_line_of_mem_scan source hv
  rw [String.empty_append] at ht
  exact ⟨l, hl, hline, .inl ⟨form, hform, ht, hm⟩⟩

theorem filePermissions_placed :
  (Rule.filePermissions.check document source).findings.Placed source
  := by
  apply Findings.Each.ofVulnerabilities
  intro v hv
  obtain ⟨l, hl, hline, form, hform, ht, hm⟩ := exists_line_of_mem_scan source hv
  exact ⟨l, hl, hline, .inr (.inl ⟨form, hform, ht, hm⟩)⟩

/-! ### Security -/

theorem broadPermissions_placed :
  (Rule.broadPermissions.check document source).findings.Placed source
  := by
  apply Findings.Each.ofIssues
  intro i hi
  simp only [List.mem_append, List.mem_ite_nil_left, List.mem_ite_nil_right,
    List.mem_singleton] at hi
  obtain ⟨_, rfl⟩ | ⟨_, rfl⟩ := hi
  · exact Issue.Placed.of_none rfl rfl rfl (by decide)
  · refine ⟨source.listsLines_filter _, .inl ⟨rfl, ?_⟩, fun _ => rfl⟩
    have hne : "sudo-usage" ≠ "static-cache-key" := by decide
    exact fun h => hne (Option.some.inj h)

theorem unpinnedActionVersions_placed :
  (Rule.unpinnedActionVersions.check document source).findings.Placed source
  := by
  apply Findings.Each.ofIssues
  intro i hi
  obtain ⟨⟨action, version⟩, _, hi⟩ := List.mem_filterMap.mp hi
  rw [Option.ite_none_left_eq_some, Option.some.injEq] at hi
  obtain ⟨_, rfl⟩ := hi
  exact Issue.Placed.of_lines (source.listsLines_filter _) rfl rfl (by decide)

theorem insecureEnvironmentVariables_placed :
  (Rule.insecureEnvironmentVariables.check document source).findings.Placed source
  := by
  constructor
  · intro i hi
    obtain ⟨name, _, rfl⟩ := List.mem_map.mp hi
    exact Issue.Placed.of_none rfl rfl rfl (by decide)
  · intro o ho
    simp only [Rule.insecureEnvironmentVariables, Outcome.done, List.mem_ite_nil_right,
      List.mem_singleton] at ho
    obtain ⟨_, rfl⟩ := ho
    exact Optimization.Placed.of_none rfl
  · apply List.forall_mem_nil

theorem complianceStandards_placed :
  (Rule.complianceStandards.check document source).findings.Placed source
  := by
  have hc := Findings.Placed.cumulative source
  apply hc.append
  · apply Findings.Each.ofIssues
    intro i hi
    simp only [Compliance.textIssues, List.mem_append, List.mem_ite_nil_left,
      List.mem_ite_nil_right, List.mem_singleton] at hi
    obtain (⟨_, rfl⟩ | ⟨_, rfl⟩) | ⟨_, rfl⟩ := hi
    · exact Issue.Placed.of_none rfl rfl rfl (by decide)
    · exact Issue.Placed.of_none rfl rfl rfl (by decide)
    · exact Issue.Placed.of_none rfl rfl rfl (by decide)
  · apply hc.outcome_when
    intro _
    apply hc.append
    · apply hc.eachJob
      intro _ _
      exact hc.when fun _ => .optimization (.of_none rfl)
    · apply hc.eachJob
      intro _ _
      apply Findings.Each.ofOptimizations
      intro o ho
      obtain ⟨_, _, rfl⟩ := List.mem_map.mp ho
      exact Optimization.Placed.of_none rfl

theorem securityScanning_placed :
  (Rule.securityScanning.check document source).findings.Placed source
  := by
  constructor
  · intro i hi
    simp only [Rule.securityScanning, Outcome.done, Scanning.findings, List.mem_append,
      List.mem_ite_nil_left, List.mem_ite_nil_right, List.mem_singleton] at hi
    obtain (⟨_, rfl⟩ | ⟨_, rfl⟩) | ⟨_, rfl⟩ := hi
    · exact Issue.Placed.of_none rfl rfl rfl (by decide)
    · exact Issue.Placed.of_none rfl rfl rfl (by decide)
    · exact Issue.Placed.of_none rfl rfl rfl (by decide)
  · intro o ho
    simp only [Rule.securityScanning, Outcome.done, Scanning.findings, List.mem_append,
      List.mem_ite_nil_left, List.mem_singleton] at ho
    obtain ⟨_, rfl⟩ | ⟨_, rfl⟩ := ho
    · exact Optimization.Placed.of_none rfl
    · exact Optimization.Placed.of_none rfl
  · apply List.forall_mem_nil

/-! ### Practice and performance -/

/-- No anti-pattern is taken for a key that never changes. -/
theorem slug_not_mem_idsOfLines :
  ∀ a ∈ AntiPattern.all, String.ofList (slug a.title.toList) ∉ Issue.idsOfLines
  := by decide

theorem commonAntiPatterns_placed :
  (Rule.commonAntiPatterns.check document source).findings.Placed source
  := by
  apply Findings.Each.ofIssues
  intro i hi
  obtain ⟨a, ha, hi⟩ := List.mem_filterMap.mp hi
  simp only [AntiPattern.issue?, Option.ite_none_left_eq_some, Option.some.injEq] at hi
  obtain ⟨_, rfl⟩ := hi
  exact Issue.Placed.of_lines (source.listsLines_filter _) rfl rfl (slug_not_mem_idsOfLines a ha)

theorem cachingOptimization_placed :
  (Rule.cachingOptimization.check document source).findings.Placed source
  := by
  have hc := Findings.Placed.cumulative source
  apply hc.append
  · rw [Outcome.done, Caching.textFindings]
    dsimp only
    split
    · apply Findings.Each.ofIssues
      intro i hi
      obtain ⟨l, hl, rfl, hk⟩ := Caching.exists_line_of_mem_staticKeys hi
      have hne : "static-cache-key" ≠ "sudo-usage" := by decide
      exact ⟨source.listsLines_none, .inr ⟨l, hl, rfl, hk⟩,
        fun h => absurd (Option.some.inj h) hne⟩
    · apply Findings.Each.ofOptimizations
      intro o ho
      obtain ⟨d, _, rfl⟩ := List.mem_map.mp ho
      exact Optimization.Placed.of_none rfl
  · apply hc.outcome_when
    intro _
    apply hc.eachJob
    intro _ _
    apply Findings.Each.ofOptimizations
    intro o ho
    obtain ⟨_, _, rfl⟩ := List.mem_map.mp ho
    exact Optimization.Placed.of_none rfl

theorem buildOptimization_placed :
  (Rule.buildOptimization.check document source).findings.Placed source
  := by
  apply Findings.Each.ofOptimizations
  intro o ho
  obtain ⟨b, _, ho⟩ := List.mem_filterMap.mp ho
  simp only [BuildShortcut.optimization?, Option.ite_none_left_eq_some, Option.some.injEq] at ho
  obtain ⟨_, rfl⟩ := ho
  exact source.listsLines_filter _

theorem overview_placed (dependencies : List (String × List String)) :
  ∀ o ∈ Parallelism.overview dependencies, o.Placed source
  := by
  intro o ho
  simp only [Parallelism.overview] at ho
  split at ho
  · obtain rfl := List.mem_singleton.mp ho
    exact .of_none rfl
  · rw [List.mem_ite_nil_right] at ho
    obtain rfl := List.mem_singleton.mp ho.2
    exact .of_none rfl

theorem review_placed {job : String × List String} {o : Optimization}
    (ho : Parallelism.review? job = some o) :
  o.Placed source
  := by
  rw [Parallelism.review?] at ho
  split at ho
  case h_1 =>
    cases ho
    exact .of_none rfl
  case h_2 => cases ho

theorem parallelizationAnalysis_placed :
  (Rule.parallelizationAnalysis.check document source).findings.Placed source
  := by
  have hc := Findings.Placed.cumulative source
  rw [Rule.parallelizationAnalysis]
  dsimp only
  split
  · apply hc.reading
    intro dependencies _
    apply hc.outcome_when
    intro _
    apply hc.append
    · apply Findings.Each.ofOptimizations
      intro o ho
      obtain ho | ho := List.mem_append.mp ho
      · exact overview_placed source dependencies o ho
      · obtain ⟨job, _, ho⟩ := List.mem_filterMap.mp ho
        exact review_placed source ho
    · apply hc.reading
      intro groups _
      apply Findings.Each.ofOptimizations
      intro o ho
      obtain ⟨group, _, rfl⟩ := List.mem_map.mp ho
      exact Optimization.Placed.of_none rfl
  · apply hc.outcome_when
    intro _
    apply hc.append
    · exact hc.when fun _ => .optimization (.of_none rfl)
    · apply hc.reading
      intro stages _
      apply Findings.Each.ofOptimizations
      intro o ho
      obtain ⟨s, _, rfl⟩ := List.mem_map.mp ho
      exact Optimization.Placed.of_none rfl

theorem checkTimeout_placed (job : String × Document) :
  (Resources.checkTimeout job).findings.Placed source
  := by
  have hc := Findings.Placed.cumulative source
  rw [Resources.checkTimeout]
  split
  · exact Findings.Each.optimization (.of_none rfl)
  · apply hc.outcome_when
    intro _
    apply hc.reading
    intro _ _
    exact Findings.Each.issue (.of_none rfl rfl rfl (by decide))

theorem resourceOptimization_placed :
  (Rule.resourceOptimization.check document source).findings.Placed source
  := by
  have hc := Findings.Placed.cumulative source
  apply hc.append
  · apply hc.outcome_when
    intro _
    apply hc.append
    · exact hc.eachJob fun _ _ => checkTimeout_placed source _
    · apply hc.eachJob
      intro _ _
      exact hc.when fun _ => .optimization (.of_none rfl)
  · apply Findings.Each.ofOptimizations
    intro o ho
    simp only [List.mem_append, List.mem_ite_nil_right, List.mem_singleton] at ho
    obtain ⟨_, rfl⟩ | ⟨_, rfl⟩ := ho
    · exact Optimization.Placed.of_none rfl
    · exact Optimization.Placed.of_none rfl

/-! ### Cost -/

theorem triggerSuggestions_placed (triggers : List (Key × Document)) :
  ∀ o ∈ Spending.triggerSuggestions triggers, o.Placed source
  := by
  intro o ho
  simp only [Spending.triggerSuggestions, List.mem_append, List.mem_ite_nil_right,
    List.mem_singleton] at ho
  obtain (⟨_, rfl⟩ | ho) | ⟨_, rfl⟩ := ho
  · exact .of_none rfl
  · obtain ⟨_, _, rfl⟩ := List.mem_map.mp ho
    exact .of_none rfl
  · exact .of_none rfl

theorem checkMatrix_placed (job : String × Document) :
  (Spending.checkMatrix job).findings.Placed source
  := by
  have hc := Findings.Placed.cumulative source
  rw [Spending.checkMatrix]
  split
  · exact hc.none
  · apply hc.outcome_when
    intro _
    apply hc.reading
    intro _ _
    exact Findings.Each.issue (.of_none rfl rfl rfl (by decide))

theorem checkLongJob_placed (job : String × Document) :
  (Spending.checkLongJob job).findings.Placed source
  := by
  have hc := Findings.Placed.cumulative source
  apply hc.outcome_when
  intro _
  apply hc.reading
  intro _ _
  apply hc.outcome_when
  intro _
  apply hc.reading
  intro _ _
  exact Findings.Each.optimization (.of_none rfl)

theorem costOptimization_placed :
  (Rule.costOptimization.check document source).findings.Placed source
  := by
  have hc := Findings.Placed.cumulative source
  apply hc.append
  · split
    · apply hc.append
      · apply hc.append
        · apply hc.append
          · exact hc.reading fun triggers _ =>
              Findings.Each.ofOptimizations (triggerSuggestions_placed source triggers)
          · apply hc.eachJob
            intro _ _
            apply Findings.Each.ofOptimizations
            intro o ho
            rw [Option.mem_toList] at ho
            obtain ⟨_, _, rfl⟩ := Option.map_eq_some_iff.mp ho
            exact Optimization.Placed.of_none rfl
        · exact hc.eachJob fun _ _ => checkMatrix_placed source _
      · exact hc.eachJob fun _ _ => checkLongJob_placed source _
    · apply Findings.Each.ofOptimizations
      intro o ho
      rw [Spending.runnerTextSuggestions, List.mem_ite_nil_right] at ho
      obtain rfl := List.mem_singleton.mp ho.2
      exact Optimization.Placed.of_none rfl
  · apply Findings.Each.ofOptimizations
    intro o ho
    simp only [Spending.storageSuggestions, List.mem_append, List.mem_ite_nil_right,
      List.mem_singleton] at ho
    obtain ⟨_, rfl⟩ | ⟨_, rfl⟩ := ho
    · exact Optimization.Placed.of_none rfl
    · exact Optimization.Placed.of_none rfl

theorem concurrencyOptimization_placed :
  (Rule.concurrencyOptimization.check document source).findings.Placed source
  := by
  have hc := Findings.Placed.cumulative source
  apply hc.append
  · rw [Concurrency.checkWorkflow]
    split
    · apply hc.reading
      intro _ _
      apply hc.reading
      intro _ _
      exact hc.when fun _ => .optimization (.of_none rfl)
    · exact hc.when fun _ => .optimization (.of_none rfl)
  · apply hc.eachJob
    intro _ _
    exact hc.when fun _ => .optimization (.of_none rfl)

/-! ### Maintainability -/

theorem documentationStandards_placed :
  (Rule.documentationStandards.check document source).findings.Placed source
  := by
  have hc := Findings.Placed.cumulative source
  apply hc.append
  · apply hc.append
    · apply hc.eachJob
      intro _ _
      apply hc.both
      · exact hc.when fun _ => .issue (.of_none rfl rfl rfl (by decide))
      · exact hc.when fun _ => .optimization (.of_none rfl)
    · apply hc.eachJob
      intro _ _
      apply Findings.Each.ofIssues
      intro i hi
      obtain ⟨_, _, rfl⟩ := List.mem_map.mp hi
      exact Issue.Placed.of_none rfl rfl rfl (by decide)
  · apply hc.both
    · exact hc.when fun _ => .optimization (.of_none rfl)
    · exact hc.when fun _ => .optimization (.of_none rfl)

theorem stepFindings_placed (job : String × Document) :
  (Naming.stepFindings job).Placed source
  := by
  have hc := Findings.Placed.cumulative source
  apply hc.concat
  intro f hf
  obtain ⟨_, _, rfl⟩ := List.mem_map.mp hf
  apply hc.both
  · exact hc.when fun _ => .issue (.of_none rfl rfl rfl (by decide))
  · exact hc.when fun _ => .optimization (.of_none rfl)

theorem namingConventions_placed :
  (Rule.namingConventions.check document source).findings.Placed source
  := by
  have hc := Findings.Placed.cumulative source
  apply hc.append
  · apply hc.append
    · apply hc.append
      · apply hc.append
        · apply hc.eachJob
          intro _ _
          apply Findings.Each.ofIssues
          intro i hi
          simp only [Naming.jobIssues, List.mem_append, List.mem_ite_nil_left,
            List.mem_ite_nil_right, List.mem_singleton] at hi
          obtain ⟨_, rfl⟩ | ⟨_, rfl⟩ := hi
          · exact Issue.Placed.of_none rfl rfl rfl (by decide)
          · exact Issue.Placed.of_none rfl rfl rfl (by decide)
        · exact hc.eachJob fun _ _ => stepFindings_placed source _
      · apply Findings.Each.ofIssues
        intro i hi
        obtain ⟨_, _, rfl⟩ := List.mem_map.mp hi
        exact Issue.Placed.of_none rfl rfl rfl (by decide)
    · apply hc.each
      intro _ _
      apply hc.reading
      intro _ _
      apply Findings.Each.ofIssues
      intro i hi
      rw [Naming.variableIssues, List.mem_ite_nil_left] at hi
      obtain rfl := List.mem_singleton.mp hi.2
      exact Issue.Placed.of_none rfl rfl rfl (by decide)
  · apply hc.eachJob
    intro _ _
    apply Findings.Each.ofIssues
    intro i hi
    rw [Option.mem_toList] at hi
    obtain ⟨_, _, rfl⟩ := Option.map_eq_some_iff.mp hi
    exact Issue.Placed.of_none rfl rfl rfl (by decide)

theorem complexityAnalysis_placed :
  (Rule.complexityAnalysis.check document source).findings.Placed source
  := by
  have hc := Findings.Placed.cumulative source
  apply hc.append
  · apply hc.append
    · apply hc.eachJob
      intro _ _
      apply Findings.Each.ofIssues
      intro i hi
      rw [Option.mem_toList] at hi
      simp only [Complexity.jobIssue?, Option.ite_none_right_eq_some, Option.some.injEq] at hi
      obtain ⟨_, rfl⟩ := hi
      exact Issue.Placed.of_none rfl rfl rfl (by decide)
    · apply Findings.Each.ofIssues
      intro i hi
      simp only [Complexity.documentIssues, List.mem_append, List.mem_ite_nil_right,
        List.mem_singleton] at hi
      obtain ⟨_, rfl⟩ | ⟨_, rfl⟩ := hi
      · exact Issue.Placed.of_none rfl rfl rfl (by decide)
      · exact Issue.Placed.of_none rfl rfl rfl (by decide)
  · apply hc.reading
    intro _ _
    apply Findings.Each.ofOptimizations
    intro o ho
    obtain ⟨r, _, rfl⟩ := List.mem_map.mp ho
    exact Optimization.Placed.of_none rfl

/-! ### The catalog -/

/-- The findings of the default rules are placed. -/
theorem check_placed :
  ∀ r ∈ default, (r.check document source).findings.Placed source
  := by
  simp only [default, List.forall_mem_cons]
  refine ⟨hardcodedSecrets_placed document source, highEntropyStrings_placed document source,
    dangerousCommands_placed document source, filePermissions_placed document source,
    broadPermissions_placed document source, unpinnedActionVersions_placed document source,
    insecureEnvironmentVariables_placed document source,
    complianceStandards_placed document source, securityScanning_placed document source,
    commonAntiPatterns_placed document source, cachingOptimization_placed document source,
    buildOptimization_placed document source, parallelizationAnalysis_placed document source,
    resourceOptimization_placed document source, costOptimization_placed document source,
    concurrencyOptimization_placed document source, documentationStandards_placed document source,
    namingConventions_placed document source, complexityAnalysis_placed document source, ?_⟩
  apply List.forall_mem_nil

/-- No default rule is called like an issue that is reported on lines. -/
theorem ruleError_not_mem_idsOfLines :
  ∀ r ∈ default, "rule-error-" ++ r.id ∉ Issue.idsOfLines
  := by decide

/-- What a default rule contributes is placed: the issue about its failure points at no line. -/
theorem contribution_placed {r : Rule} (hr : r ∈ default) :
  (r.contribution document source).Placed source
  := by
  have hc := Findings.Placed.cumulative source
  rw [Rule.contribution]
  apply hc.both (check_placed document source r hr)
  cases (r.check document source).failure with
  | none => exact hc.none
  | some e =>
    apply Findings.Each.issue
    exact .of_none rfl rfl rfl (ruleError_not_mem_idsOfLines r hr)

theorem execute_placed (strictness : Strictness) (skipped : List Category) :
  (default.execute document source strictness skipped).Placed source
  := by
  rw [execute_eq]
  apply (Findings.Placed.cumulative source).concat
  intro f hf
  obtain ⟨r, hr, rfl⟩ := List.mem_map.mp hf
  exact contribution_placed document source (List.mem_of_mem_filter hr)

/-- The positions that a run of the default rules reports are real.  The lines at which findings
point and those that they list are lines of the text; the lists are in order; a cache key that never
changes is reported on a line that sets it; the use of `sudo` is reported on lines with that word;
and each vulnerability is reported on a line that shows it. -/
theorem execute_positions (strictness : Strictness) (skipped : List Category) :
  let found := default.execute document source strictness skipped
  (∀ n ∈ found.lines ++ found.lineLists.flatten, 1 ≤ n ∧ n ≤ source.text.count '\n' + 1) ∧
  (∀ ns ∈ found.lineLists, ns.Pairwise (· < ·)) ∧
  (∀ i ∈ found.issues, i.ruleId = some "static-cache-key" →
    ∃ l ∈ source.numberedLines, i.line = some (l.1 : Int) ∧
      Caching.keyLine.occursIn l.2 ∧ Caching.SetsStaticKey l.2) ∧
  (∀ i ∈ found.issues, i.ruleId = some "sudo-usage" →
    ∃ ns, i.lineNumbers = some ns ∧
      ∀ n ∈ ns, ∃ l ∈ source.numberedLines, n = l.1 ∧ Rule.sudoWord.occursIn l.2) ∧
  (∀ v ∈ found.vulnerabilities,
    ∃ l ∈ source.numberedLines, v.line = some (l.1 : Int) ∧ v.ShowsOn l.2)
  := by
  intro found
  have h : found.Placed source := execute_placed document source strictness skipped
  refine ⟨?_, ?_, ?_, ?_, h.vulnerabilities⟩
  · intro n hn
    obtain hn | hn := List.mem_append.mp hn
    · exact h.hasLine_of_mem_lines hn
    · obtain ⟨ns, hns, hn⟩ := List.mem_flatten.mp hn
      exact (h.listsLines_of_mem_lineLists hns ns rfl).1 n hn
  · intro ns hns
    exact (h.listsLines_of_mem_lineLists hns ns rfl).2
  · intro i hi hid
    obtain ⟨_, hne⟩ | ⟨l, hl, rfl, hk⟩ := (h.issues i hi).line
    · exact absurd hid hne
    · exact ⟨l, hl, rfl, hk.occursIn, hk⟩
  · intro i hi hid
    rw [(h.issues i hi).sudoLines hid]
    refine ⟨_, rfl, ?_⟩
    intro n hn
    obtain ⟨k, hk, rfl⟩ := List.mem_map.mp hn
    obtain ⟨l, hl, rfl⟩ := List.mem_map.mp hk
    obtain ⟨hl, ho⟩ := List.mem_filter.mp hl
    exact ⟨l, hl, rfl, ho⟩

/-- A key that never changes is reported on the second line, and a command on the fourth one. -/
theorem execute_positions_cachedKey :
  let source : Source :=
    ⟨"cache:\n  key: deps\n\nrun: chmod 777 x".toList, "github-actions"⟩
  let found := default.execute (.map []) source .everything []
  (∃ i ∈ found.issues, i.ruleId = some "static-cache-key" ∧ i.line = some 2 ∧
    ∃ l ∈ source.numberedLines, i.line = some (l.1 : Int) ∧ Caching.keyLine.occursIn l.2) ∧
  (∃ v ∈ found.vulnerabilities, v.title = "Permissive permissions" ∧ v.line = some 4 ∧
    ∃ l ∈ source.numberedLines, v.line = some (l.1 : Int) ∧ v.ShowsOn l.2)
  := by
  intro source found
  obtain ⟨_, _, hkeys, _, hshown⟩ := execute_positions (.map []) source .everything []
  constructor
  · have hi : ∃ i ∈ found.issues, i.ruleId = some "static-cache-key" ∧ i.line = some 2 := by
      decide +kernel
    obtain ⟨i, hi, hid, hline⟩ := hi
    obtain ⟨l, hl, hn, hk, _⟩ := hkeys i hi hid
    exact ⟨i, hi, hid, hline, l, hl, hn, hk⟩
  · have hv : ∃ v ∈ found.vulnerabilities,
        v.title = "Permissive permissions" ∧ v.line = some 4 := by
      decide +kernel
    obtain ⟨v, hv, ht, hline⟩ := hv
    exact ⟨v, hv, ht, hline, hshown v hv⟩

end Catalog

end PipelineAudit
