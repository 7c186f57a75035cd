import PipelineAudit.Proofs.Rule.Composition
import PipelineAudit.Proofs.Rule.Jobs
import PipelineAudit.Proofs.Secret.DeepHeaders

/-!
# Vulnerabilities line by line

The vulnerabilities of a text are found line by line, on the lines that are no comments.
`LineLocal` says so of a function from texts to vulnerabilities, and is kept by the ways in which
the rules put their findings together.  Of the search for secrets it holds on texts on which the
search comes to its end: a header that nests too deeply on one line keeps it from other lines.

* `Secret.hits_append`: secrets that begin at the same place are reported once on each side of a
  line feed, whatever is found on the other side.
* `Catalog.vulnerabilities_lineLocal`: the vulnerabilities of the default rules depend on the text
  only, and on each of its lines apart.
* `Catalog.vulnerabilities_lineLocal_deepHeader`: a key that is found below one line is not found
  below another.
-/

namespace PipelineAudit

/-- A vulnerability some lines further down. -/
def Vulnerability.move (n : Nat) (v : Vulnerability) : Vulnerability :=
  { v with line := v.line.map (· + (n : Int)) }

/-- What is found in two texts with a line feed between them, if both are of a kind, is what is
found in each of them, the second one further down; and what is found in a text depends on its code
only. -/
structure LineLocal (kind : List Char → Prop) (found : List Char → List Vulnerability) : Prop where
  joined : ∀ a b : List Char, kind a → kind b →
    (found (a ++ '\n' :: b)).Perm
      (found a ++ (found b).map (Vulnerability.move (a.count '\n' + 1)))
  sameCode : ∀ a b : List Char, Text.SameCode a b → found a = found b

namespace LineLocal

variable {kind : List Char → Prop}

theorem nil :
  LineLocal kind fun _ => []
  := ⟨fun _ _ _ _ => .refl _, fun _ _ _ => rfl⟩

theorem append {f g : List Char → List Vulnerability} (hf : LineLocal kind f)
    (hg : LineLocal kind g) :
  LineLocal kind fun text => f text ++ g text
  := by
  constructor
  · intro a b ha hb
    apply ((hf.joined a b ha hb).append (hg.joined a b ha hb)).trans
    rw [List.map_append, List.append_assoc, List.append_assoc]
    apply List.Perm.append_left
    rw [← List.append_assoc, ← List.append_assoc]
    exact List.perm_append_comm.append_right _
  · intro a b h
    rw [hf.sameCode a b h, hg.sameCode a b h]

theorem flatMap {α : Type} (l : List α) {f : α → List Char → List Vulnerability}
    (hf : ∀ a ∈ l, LineLocal kind (f a)) :
  LineLocal kind fun text => l.flatMap fun a => f a text
  := by
  induction l with
  | nil => exact nil
  | cons a rest ih =>
    obtain ⟨ha, hr⟩ := List.forall_mem_cons.mp hf
    exact append ha (ih hr)

/-- What is collected from the lines of a text is line-local if comments yield nothing and a line
yields the same wherever it stands. -/
theorem ofLines {f : Nat × List Char → List Vulnerability}
    (hm : ∀ n l, f (Source.moveLine n l) = (f l).map (Vulnerability.move n))
    (hc : ∀ l, isComment l.2 → f l = []) (platform : String) :
  LineLocal kind fun text => (Source.numberedLines ⟨text, platform⟩).flatMap f
  := by
  constructor
  · intro a b _ _
    rw [Source.numberedLines_append, List.flatMap_append, List.flatMap_map, List.map_flatMap]
    simp only [hm]
    exact .refl _
  · intro a b h
    exact Source.flatMap_numberedLines hc h platform

end LineLocal

/-! ### Secrets -/

namespace Secret

/-- A secret some lines further down. -/
def Hit.move (n : Nat) (h : Hit) : Hit :=
  { h with line := h.line + n }

theorem matchesOn_moveLine (s : Signature) (n : Nat) (l : Nat × List Char) :
  s.matchesOn (Source.moveLine n l) = (s.matchesOn l).map (Hit.move n)
  := by
  rw [Signature.matchesOn, Signature.matchesOn, Source.moveLine]
  split
  · rfl
  · rw [List.map_map]
    rfl

theorem hitsOn_moveLine (s : Signature) (n : Nat) (l : Nat × List Char) :
  s.hitsOn (Source.moveLine n l) = (s.hitsOn l).map (Hit.move n)
  := by
  rw [Signature.hitsOn, Signature.hitsOn, matchesOn_moveLine, List.filter_map]
  rfl

/-- The search comes to its end in two texts with a line feed between them if it does in each. -/
theorem failure?_append_eq_none {a b : List Char} {platform : String}
    (ha : failure? ⟨a, platform⟩ = none) (hb : failure? ⟨b, platform⟩ = none) :
  failure? ⟨a ++ '\n' :: b, platform⟩ = none
  := by
  rw [failure?_eq_none_iff] at ha hb ⊢
  intro h hm
  obtain ⟨s, hs, l, hl, hm⟩ := mem_allMatches_iff.mp hm
  rw [Source.numberedLines_append, List.mem_append] at hl
  obtain hl | hl := hl
  · exact ha h (mem_allMatches_iff.mpr ⟨s, hs, l, hl, hm⟩)
  · obtain ⟨l', hl', rfl⟩ := List.mem_map.mp hl
    rw [matchesOn_moveLine] at hm
    obtain ⟨h', hm', rfl⟩ := List.mem_map.mp hm
    exact hb h' (mem_allMatches_iff.mpr ⟨s, hs, l', hl', hm'⟩)

/-- Which secrets are distinct depends only on which of their places were seen. -/
theorem distinctHits_congr {seen seen' : List (Nat × Nat)} {l : List Hit}
    (h : ∀ hit ∈ l, hit.place ∈ seen ↔ hit.place ∈ seen') :
  distinctHits seen l = distinctHits seen' l
  := by
  induction l generalizing seen seen' with
  | nil => rfl
  | cons hit rest ih =>
    obtain ⟨hh, hr⟩ := List.forall_mem_cons.mp h
    simp only [distinctHits, List.contains_eq_mem, hh]
    rw [ih hr]
    congr 2
    apply ih
    intro hit' hm
    rw [List.mem_cons, List.mem_cons, hr hit' hm]

/-- The distinct ones among the secrets that begin on some of the lines are those of all distinct
secrets that begin there. -/
theorem filter_distinctHits (on : Nat → Bool) (seen : List (Nat × Nat)) (l : List Hit) :
  (distinctHits seen l).filter (fun h => on h.line) =
    distinctHits seen (l.filter fun h => on h.line)
  := by
  induction l generalizing seen with
  | nil => rfl
  | cons hit rest ih =>
    cases ho : on hit.line with
    | true =>
      rw [List.filter_cons_of_pos (by simpa using ho), distinctHits, distinctHits]
      split
      · exact ih seen
      · rw [List.filter_cons_of_pos (by simpa using ho), ih]
    | false =>
      rw [List.filter_cons_of_neg (by simp [ho]), distinctHits]
      split
      · exact ih seen
      · rw [List.filter_cons_of_neg (by simp [ho]), ih]
        apply distinctHits_congr
        intro other hm
        have hl : on other.line := (List.mem_filter.mp hm).2
        have hne : other.place ≠ hit.place := by
          intro he
          have : other.line = hit.line := congrArg Prod.fst he
          rw [this, ho] at hl
          cases hl
        simp [hne]

/-- Secrets further down are distinct as they are where they stand. -/
theorem distinctHits_map_move (n : Nat) (seen : List (Nat × Nat)) (l : List Hit) :
  distinctHits (seen.map fun p => (p.1 + n, p.2)) (l.map (Hit.move n)) =
    (distinctHits seen l).map (Hit.move n)
  := by
  induction l generalizing seen with
  | nil => rfl
  | cons hit rest ih =>
    have hc : (seen.map fun p => (p.1 + n, p.2)).contains (hit.move n).place =
        seen.contains hit.place := by
      rw [Bool.eq_iff_iff]
      simp [Hit.place, Hit.move]
    rw [List.map_cons, distinctHits, distinctHits, hc]
    split
    · exact ih seen
    · rw [List.map_cons, ← ih]
      rfl

/-- What a signature finds in two texts with a line feed between them. -/
theorem flatMap_hitsOn_append (s : Signature) (a b : List Char) (platform : String) :
  (Source.numberedLines ⟨a ++ '\n' :: b, platform⟩).flatMap s.hitsOn =
    (Source.numberedLines ⟨a, platform⟩).flatMap s.hitsOn ++
      ((Source.numberedLines ⟨b, platform⟩).flatMap s.hitsOn).map
        (Hit.move (a.count '\n' + 1))
  := by
  rw [Source.numberedLines_append, List.flatMap_append, List.flatMap_map, List.map_flatMap]
  simp only [hitsOn_moveLine]

/-- What a signature finds in a text stands on one of its lines. -/
theorem line_bounds {s : Signature} {text : List Char} {platform : String} {h : Hit}
    (hm : h ∈ (Source.numberedLines ⟨text, platform⟩).flatMap s.hitsOn) :
  1 ≤ h.line ∧ h.line ≤ text.count '\n' + 1
  := by
  obtain ⟨l, hl, hh⟩ := List.mem_flatMap.mp hm
  rw [line_of_mem_hitsOn hh]
  exact Source.number_bounds hl

/-- What a signature finds in a text stands below any number of lines that come before it. -/
theorem not_line_le_of_mem {s : Signature} {text : List Char} {platform : String} {n : Nat}
    {h : Hit}
    (hm : h ∈ ((Source.numberedLines ⟨text, platform⟩).flatMap s.hitsOn).map (Hit.move n)) :
  ¬ h.line ≤ n
  := by
  obtain ⟨h', hm', rfl⟩ := List.mem_map.mp hm
  have hl : (h'.move n).line = h'.line + n := rfl
  have := (line_bounds hm').1
  omega

section

variable {a b : List Char} {platform : String} (ha : failure? ⟨a, platform⟩ = none)
  (hb : failure? ⟨b, platform⟩ = none)

include ha hb

/-- The secrets in two texts with a line feed between them that stand on the lines of the first text
are its secrets. -/
theorem filter_allHits_before :
  (allHits ⟨a ++ '\n' :: b, platform⟩).filter (fun h => h.line ≤ a.count '\n' + 1) =
    allHits ⟨a, platform⟩
  := by
  rw [allHits_eq_of_failure?_eq_none (failure?_append_eq_none ha hb), List.filter_flatMap,
    allHits_eq_of_failure?_eq_none ha]
  apply List.flatMap_congr
  intro s _
  rw [flatMap_hitsOn_append, List.filter_append]
  have hf : ∀ h ∈ (Source.numberedLines ⟨a, platform⟩).flatMap s.hitsOn,
      decide (h.line ≤ a.count '\n' + 1) := by
    intro h hm
    exact decide_eq_true (line_bounds hm).2
  have hs : ∀ h ∈ ((Source.numberedLines ⟨b, platform⟩).flatMap s.hitsOn).map
      (Hit.move (a.count '\n' + 1)), ¬ decide (h.line ≤ a.count '\n' + 1) := by
    intro h hm
    simp [not_line_le_of_mem hm]
  rw [List.filter_eq_self.mpr hf, List.filter_eq_nil_iff.mpr hs, List.append_nil]

/-- The secrets in two texts with a line feed between them that stand on the other lines are those
of the second text. -/
theorem filter_allHits_after :
  (allHits ⟨a ++ '\n' :: b, platform⟩).filter (fun h => !decide (h.line ≤ a.count '\n' + 1)) =
    (allHits ⟨b, platform⟩).map (Hit.move (a.count '\n' + 1))
  := by
  rw [allHits_eq_of_failure?_eq_none (failure?_append_eq_none ha hb), List.filter_flatMap,
    allHits_eq_of_failure?_eq_none hb, List.map_flatMap]
  apply List.flatMap_congr
  intro s _
  rw [flatMap_hitsOn_append, List.filter_append]
  have hf : ∀ h ∈ (Source.numberedLines ⟨a, platform⟩).flatMap s.hitsOn,
      ¬ (!decide (h.line ≤ a.count '\n' + 1)) = true := by
    intro h hm
    simp [(line_bounds hm).2]
  have hs : ∀ h ∈ ((Source.numberedLines ⟨b, platform⟩).flatMap s.hitsOn).map
      (Hit.move (a.count '\n' + 1)), (!decide (h.line ≤ a.count '\n' + 1)) = true := by
    intro h hm
    simp [not_line_le_of_mem hm]
  rw [List.filter_eq_nil_iff.mpr hf, List.filter_eq_self.mpr hs, List.nil_append]

/-- The distinct secrets in two texts with a line feed between them are those of the two texts. -/
theorem hits_append :
  (hits ⟨a ++ '\n' :: b, platform⟩).Perm
    (hits ⟨a, platform⟩ ++ (hits ⟨b, platform⟩).map (Hit.move (a.count '\n' + 1)))
  := by
  have hp := List.filter_append_perm (fun h : Hit => h.line ≤ a.count '\n' + 1)
    (hits ⟨a ++ '\n' :: b, platform⟩)
  apply hp.symm.trans
  rw [hits, filter_distinctHits (· ≤ a.count '\n' + 1), filter_allHits_before ha hb,
    filter_distinctHits (fun line => !decide (line ≤ a.count '\n' + 1)),
    filter_allHits_after ha hb, hits, hits, ← distinctHits_map_move]
  exact .refl _

end

/-- The vulnerabilities that secrets are, line by line. -/
theorem hits_lineLocal (platform : String) :
  LineLocal (fun text => failure? ⟨text, platform⟩ = none) fun text =>
    (hits ⟨text, platform⟩).map Hit.vulnerability
  := by
  constructor
  · intro a b ha hb
    apply ((hits_append ha hb).map _).trans
    rw [List.map_append, List.map_map, List.map_map]
    exact .refl _
  · intro a b h
    have ha : allMatches ⟨a, platform⟩ = allMatches ⟨b, platform⟩ := by
      apply List.flatMap_congr
      intro s _
      exact Source.flatMap_numberedLines (fun _ hc => matchesOn_of_isComment s hc) h platform
    rw [hits, allHits, ha, hits, allHits]

/-- The vulnerabilities that tokens of suspicious entropy are, line by line. -/
theorem tokens_lineLocal {kind : List Char → Prop} (platform : String) :
  LineLocal kind fun text =>
    (Source.numberedLines ⟨text, platform⟩).flatMap tokenVulnerabilities
  := by
  apply LineLocal.ofLines
  · intro n l
    rw [tokenVulnerabilities, tokenVulnerabilities, Source.moveLine]
    split
    · rw [List.map_map]
      rfl
    · rfl
  · intro l hc
    have hn : ¬ isScanned l.2 = true := by simp [isScanned, hc]
    rw [tokenVulnerabilities, if_neg hn]

end Secret

/-! ### Commands -/

/-- The vulnerabilities that risky commands are, line by line. -/
theorem CommandForm.scan_lineLocal {kind : List Char → Prop} (forms : List CommandForm)
    (titled described platform : String) :
  LineLocal kind fun text => scan forms titled described ⟨text, platform⟩
  := by
  apply LineLocal.flatMap
  intro form _
  apply LineLocal.ofLines
  · intro n l
    rw [List.map_map]
    rfl
  · intro ⟨number, line⟩ hc
    have hn : form.matchesOn line = [] := if_pos hc
    simp only [hn, List.map_nil]

theorem CommandForm.title_of_mem_scan {forms : List CommandForm} {titled described : String}
    {source : Source} {v : Vulnerability} (h : v ∈ scan forms titled described source) :
  ∃ form ∈ forms, v.title = titled ++ form.title
  := by
  obtain ⟨form, hform, h⟩ := List.mem_flatMap.mp h
  obtain ⟨l, _, h⟩ := List.mem_flatMap.mp h
  obtain ⟨m, _, rfl⟩ := List.mem_map.mp h
  exact ⟨form, hform, rfl⟩

/-! ### The default rules -/

/-- Findings without vulnerabilities have none together. -/
theorem Findings.noVulnerabilities :
  Cumulative fun found => found.vulnerabilities = []
  := ⟨rfl, fun hf hg => List.append_eq_nil_iff.mpr ⟨hf, hg⟩⟩

namespace Catalog

/-- The default rules that look for vulnerabilities. -/
def seekers : Catalog :=
  [.hardcodedSecrets, .highEntropyStrings, .dangerousCommands, .filePermissions]

/-- The other default rules. -/
def nonSeekers : Catalog :=
  default.drop seekers.length

section

variable (document document' : Document) (platform platform' : String)

/-- A rule that looks for vulnerabilities finds them line by line. -/
theorem check_lineLocal {r : Rule} (h : r ∈ seekers) :
  LineLocal (fun text => Secret.failure? ⟨text, platform⟩ = none) fun text =>
    (r.check document ⟨text, platform⟩).findings.vulnerabilities
  := by
  simp only [seekers, List.mem_cons, List.not_mem_nil, or_false] at h
  obtain rfl | rfl | rfl | rfl := h
  · exact Secret.hits_lineLocal platform
  · exact Secret.tokens_lineLocal platform
  · exact CommandForm.scan_lineLocal _ _ _ platform
  · exact CommandForm.scan_lineLocal _ _ _ platform

/-- A rule that looks for vulnerabilities looks at the text only. -/
theorem check_vulnerabilities_congr {r : Rule} (h : r ∈ seekers) (text : List Char) :
  (r.check document ⟨text, platform⟩).findings.vulnerabilities =
    (r.check document' ⟨text, platform'⟩).findings.vulnerabilities
  := by
  simp only [seekers, List.mem_cons, List.not_mem_nil, or_false] at h
  obtain rfl | rfl | rfl | rfl := h <;> rfl

/-- A rule that looks for vulnerabilities runs on every platform or on none. -/
theorem applies_congr {r : Rule} (h : r ∈ seekers) (strictness : Strictness)
    (skipped : List Category) :
  r.applies platform strictness skipped = r.applies platform' strictness skipped
  := by
  simp only [seekers, List.mem_cons, List.not_mem_nil, or_false] at h
  obtain rfl | rfl | rfl | rfl := h <;> rfl

theorem checkTimeout_vulnerabilities (job : String × Document) :
  (Resources.checkTimeout job).findings.vulnerabilities = []
  := by
  have hc := Findings.noVulnerabilities
  rw [Resources.checkTimeout]
  split
  · rfl
  · exact hc.outcome_when fun _ => hc.reading fun _ _ => rfl

theorem checkMatrix_vulnerabilities (job : String × Document) :
  (Spending.checkMatrix job).findings.vulnerabilities = []
  := by
  have hc := Findings.noVulnerabilities
  rw [Spending.checkMatrix]
  split
  · rfl
  · exact hc.outcome_when fun _ => hc.reading fun _ _ => rfl

theorem checkLongJob_vulnerabilities (job : String × Document) :
  (Spending.checkLongJob job).findings.vulnerabilities = []
  := by
  have hc := Findings.noVulnerabilities
  apply hc.outcome_when
  intro _
  apply hc.reading
  intro optimized _
  exact hc.outcome_when fun _ => hc.reading fun _ _ => rfl

theorem parallelizationAnalysis_vulnerabilities (source : Source) :
  (Rule.parallelizationAnalysis.check document source).findings.vulnerabilities = []
  := by
  have hc := Findings.noVulnerabilities
  rw [Rule.parallelizationAnalysis]
  dsimp only
  split
  · apply hc.reading
    intro dependencies _
    exact hc.outcome_when fun _ => hc.append rfl (hc.reading fun _ _ => rfl)
  · apply hc.outcome_when
    intro _
    exact hc.append (hc.when fun _ => rfl) (hc.reading fun _ _ => rfl)

theorem costOptimization_vulnerabilities (source : Source) :
  (Rule.costOptimization.check document source).findings.vulnerabilities = []
  := by
  have hc := Findings.noVulnerabilities
  apply hc.append _ rfl
  split
  · apply hc.append
    · apply hc.append
      · exact hc.append (hc.reading fun _ _ => rfl) (hc.eachJob fun _ _ => rfl)
      · exact hc.eachJob fun _ _ => checkMatrix_vulnerabilities _
    · exact hc.eachJob fun _ _ => checkLongJob_vulnerabilities _
  · rfl

theorem concurrencyOptimization_vulnerabilities (source : Source) :
  (Rule.concurrencyOptimization.check document source).findings.vulnerabilities = []
  := by
  have hc := Findings.noVulnerabilities
  apply hc.append _ (hc.eachJob fun _ _ => hc.when fun _ => rfl)
  rw [Concurrency.checkWorkflow]
  split
  · apply hc.reading
    intro triggers _
    exact hc.reading fun _ _ => hc.when fun _ => rfl
  · exact hc.when fun _ => rfl

theorem namingConventions_vulnerabilities (source : Source) :
  (Rule.namingConventions.check document source).findings.vulnerabilities = []
  := by
  have hc := Findings.noVulnerabilities
  apply hc.append _ (hc.eachJob fun _ _ => rfl)
  apply hc.append _ (hc.each fun _ _ => hc.reading fun _ _ => rfl)
  apply hc.append _ rfl
  apply hc.append (hc.eachJob fun _ _ => rfl)
  apply hc.eachJob
  intro e _
  apply hc.concat
  intro f hf
  obtain ⟨name, _, rfl⟩ := List.mem_map.mp hf
  exact hc.both (hc.when fun _ => rfl) (hc.when fun _ => rfl)

/-- The other rules report no vulnerabilities. -/
theorem check_vulnerabilities_eq_nil {r : Rule} (h : r ∈ nonSeekers) (source : Source) :
  (r.check document source).findings.vulnerabilities = []
  := by
  have hc := Findings.noVulnerabilities
  simp only [nonSeekers, default, seekers, List.length_cons, List.length_nil, List.drop_succ_cons,
    List.drop_zero, List.mem_cons, List.not_mem_nil, or_false] at h
  obtain rfl | rfl | rfl | rfl | rfl | rfl | rfl | rfl | rfl | rfl | rfl | rfl | rfl | rfl |
    rfl := h
  · rfl
  · rfl
  · rfl
  · apply hc.append rfl
    apply hc.outcome_when
    intro _
    exact hc.append (hc.eachJob fun _ _ => hc.when fun _ => rfl) (hc.eachJob fun _ _ => rfl)
  · rfl
  · rfl
  · apply hc.append
    · rw [Caching.textFindings]
      split <;> rfl
    · exact hc.outcome_when fun _ => hc.eachJob fun _ _ => rfl
  · rfl
  · exact parallelizationAnalysis_vulnerabilities document source
  · apply hc.append _ rfl
    apply hc.outcome_when
    intro _
    apply hc.append
    · exact hc.eachJob fun _ _ => checkTimeout_vulnerabilities _
    · exact hc.eachJob fun _ _ => hc.when fun _ => rfl
  · exact costOptimization_vulnerabilities document source
  · exact concurrencyOptimization_vulnerabilities document source
  · apply hc.append
    · apply hc.append
      · exact hc.eachJob fun _ _ => hc.both (hc.when fun _ => rfl) (hc.when fun _ => rfl)
      · exact hc.eachJob fun _ _ => rfl
    · exact hc.both (hc.when fun _ => rfl) (hc.when fun _ => rfl)
  · exact namingConventions_vulnerabilities document source
  · exact hc.append (hc.append (hc.eachJob fun _ _ => rfl) rfl) (hc.reading fun _ _ => rfl)

end

/-- The vulnerabilities of a run of the default rules are those of the rules that look for them. -/
theorem vulnerabilities_execute_default (document : Document) (source : Source)
    (strictness : Strictness) (skipped : List Category) :
  (default.execute document source strictness skipped).vulnerabilities =
    (seekers.execute document source strictness skipped).vulnerabilities
  := by
  have hd : default = seekers ++ nonSeekers := rfl
  have hn : (nonSeekers.execute document source strictness skipped).vulnerabilities = [] := by
    rw [vulnerabilities_execute, List.flatMap_eq_nil_iff]
    intro r hr
    exact check_vulnerabilities_eq_nil document (List.mem_of_mem_filter hr) source
  rw [hd, execute_append, Findings.vulnerabilities_append, hn, List.append_nil]

/-- The vulnerabilities that a run of the default rules finds are a line-local function of the text:
they depend neither on the document nor on the platform; those of two texts with a line feed between
them are those of the first text and those of the second one, further down by as many lines as the
first text has, if the search for secrets comes to its end in both; and they are the same for texts
that differ only in comments. -/
theorem vulnerabilities_lineLocal (strictness : Strictness) (skipped : List Category) :
  let found := fun (document : Document) (platform : String) (text : List Char) =>
    (default.execute document ⟨text, platform⟩ strictness skipped).vulnerabilities
  (∀ document document' platform platform' text,
    found document platform text = found document' platform' text) ∧
  (∀ document platform (a b : List Char),
    Secret.failure? ⟨a, platform⟩ = none → Secret.failure? ⟨b, platform⟩ = none →
    (found document platform (a ++ '\n' :: b)).Perm
      (found document platform a ++
        (found document platform b).map (Vulnerability.move (a.count '\n' + 1)))) ∧
  (∀ document platform (a b : List Char), Text.SameCode a b →
    found document platform a = found document platform b)
  := by
  intro found
  have hf : ∀ document platform text, found document platform text =
      (seekers.filter (·.applies platform strictness skipped)).flatMap fun r =>
        (r.check document ⟨text, platform⟩).findings.vulnerabilities := by
    intro document platform text
    rw [← vulnerabilities_execute document ⟨text, platform⟩ strictness skipped seekers]
    exact vulnerabilities_execute_default document ⟨text, platform⟩ strictness skipped
  have hl : ∀ document platform, LineLocal
      (fun text => Secret.failure? ⟨text, platform⟩ = none) (found document platform) := by
    intro document platform
    rw [funext (hf document platform)]
    apply LineLocal.flatMap
    intro r hr
    exact check_lineLocal document platform (List.mem_of_mem_filter hr)
  refine ⟨?_, fun document platform => (hl document platform).joined,
    fun document platform => (hl document platform).sameCode⟩
  intro document document' platform platform' text
  rw [hf, hf, List.filter_congr fun r hr => applies_congr platform platform' hr strictness skipped]
  apply List.flatMap_congr
  intro r hr
  exact check_vulnerabilities_congr _ _ _ _ (List.mem_of_mem_filter hr) text

/-- A command below a comment is found whatever the comment says, and below another text as it is
alone. -/
theorem vulnerabilities_lineLocal_otherComment :
  let found := fun text : List Char =>
    (default.execute (.map []) ⟨text, "github-actions"⟩ .everything []).vulnerabilities
  let first := "password=Hunter2Battery9".toList
  let second := "# clean up\nrm -rf /srv".toList
  let other := "  # chmod 777 x\nrm -rf /srv".toList
  Text.SameCode second other ∧
    Secret.failure? ⟨first, "github-actions"⟩ = none ∧
    Secret.failure? ⟨second, "github-actions"⟩ = none ∧
    found second = found other ∧
    (found (first ++ '\n' :: second)).Perm
      (found first ++ (found second).map (Vulnerability.move 1)) ∧
    (found first).map (·.line) = [some 1] ∧ (found second).map (·.line) = [some 2]
  := by
  intro found first second other
  have hs : Text.SameCode second other :=
    .cons (.inr ⟨rfl, rfl⟩) (.cons (.inl rfl) .nil)
  have hfirst : Secret.failure? ⟨first, "github-actions"⟩ = none := by decide +kernel
  have hsecond : Secret.failure? ⟨second, "github-actions"⟩ = none := by decide +kernel
  obtain ⟨-, hjoined, hsame⟩ := vulnerabilities_lineLocal .everything []
  exact ⟨hs, hfirst, hsecond, hsame (.map []) "github-actions" _ _ hs,
    hjoined (.map []) "github-actions" _ _ hfirst hsecond, by decide +kernel, by decide +kernel⟩

/-- Below a token whose header nests too deeply, no vulnerability has the title of a key that only a
later signature takes. -/
theorem title_ne_of_deepToken {document : Document} {source : Source} {line : Nat}
    (hl : (line, Secret.deepToken Json.deepest) ∈ source.numberedLines) (strictness : Strictness)
    (skipped : List Category) :
  ∀ v ∈ (default.execute document source strictness skipped).vulnerabilities,
    v.title ≠ "Exposed Slack Token"
  := by
  have hcommands : ∀ form ∈ CommandForm.dangerous ++ CommandForm.permissionChanges,
      "" ++ form.title ≠ "Exposed Slack Token" ∧
        "Insecure " ++ form.title ≠ "Exposed Slack Token" := by
    decide +kernel
  have hsignatures : ∀ s ∈ Secret.signaturesBefore ++ [Secret.webTokenSignature],
      "Exposed " ++ s.name ≠ "Exposed Slack Token" := by
    decide +kernel
  intro v hv
  rw [vulnerabilities_execute_default, vulnerabilities_execute] at hv
  obtain ⟨r, hr, hv⟩ := List.mem_flatMap.mp hv
  have hr := List.mem_of_mem_filter hr
  simp only [seekers, List.mem_cons, List.not_mem_nil, or_false] at hr
  obtain rfl | rfl | rfl | rfl := hr
  · obtain ⟨h, hh, rfl⟩ := List.mem_map.mp hv
    exact hsignatures _ (Secret.signature_mem_of_deepToken (Nat.le_refl _) hl hh)
  · obtain ⟨l, _, hv⟩ := List.mem_flatMap.mp hv
    rw [Secret.tokenVulnerabilities, List.mem_ite_nil_right] at hv
    obtain ⟨token, _, rfl⟩ := List.mem_map.mp hv.2
    exact show "High Entropy String" ≠ "Exposed Slack Token" by decide
  · obtain ⟨form, hform, ht⟩ := CommandForm.title_of_mem_scan hv
    rw [ht]
    exact (hcommands form (List.mem_append_left _ hform)).1
  · obtain ⟨form, hform, ht⟩ := CommandForm.title_of_mem_scan hv
    rw [ht]
    exact (hcommands form (List.mem_append_right _ hform)).2

/-- A key below a token whose header nests too deeply is not found, though it is found alone. -/
theorem vulnerabilities_lineLocal_deepHeader :
  let found := fun text : List Char =>
    (default.execute (.map []) ⟨text, "github-actions"⟩ .everything []).vulnerabilities
  let first := Secret.deepToken Json.deepest
  ¬ (found (first ++ '\n' :: Secret.laterKey)).Perm
    (found first ++ (found Secret.laterKey).map (Vulnerability.move (first.count '\n' + 1)))
  := by
  intro found first hp
  have hl : (1, Secret.deepToken Json.deepest) ∈
      Source.numberedLines ⟨Secret.tokenThenKey, "github-actions"⟩ := by
    rw [Secret.numberedLines_tokenThenKey]
    exact List.mem_cons_self
  have hkey : ∃ v ∈ (Rule.hardcodedSecrets.check (.map [])
      ⟨Secret.laterKey, "github-actions"⟩).findings.vulnerabilities,
      v.title = "Exposed Slack Token" := by
    decide +kernel
  obtain ⟨v, hv, ht⟩ := hkey
  have hv : v ∈ found Secret.laterKey := by
    have hr : Rule.hardcodedSecrets ∈ default := List.mem_cons_self
    change v ∈ (default.execute _ _ _ _).vulnerabilities
    rw [vulnerabilities_execute]
    exact List.mem_flatMap.mpr ⟨_, List.mem_filter.mpr ⟨hr, rfl⟩, hv⟩
  have hmoved := hp.symm.subset (List.mem_append_right _ (List.mem_map_of_mem hv))
  exact title_ne_of_deepToken hl .everything [] _ hmoved ht

end Catalog

end PipelineAudit
