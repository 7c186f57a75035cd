import PipelineAudit.Proofs.Pattern.Runs
import PipelineAudit.Rule.ExposedSecrets

/-!
# Tokens of a line

The tokens of a line are its maximal runs free of separators, and they are all that the search for
tokens of suspicious entropy sees of a line that it does not pass over.

* `tokens_append_left`, `tokens_append_right`: a line is cut into tokens before and after each
  separator.
* `tokens_eq_iff`, `mem_tokens_iff`: the tokens are the maximal runs, in order.
* `highEntropyStrings_sees_tokens`: lines with the same tokens are reported alike, and only maximal
  runs are reported.
-/

namespace PipelineAudit

namespace Secret

/-! ### Maximal runs -/

/-- A stretch of a line is a maximal run free of separators. -/
def IsMaximalRun (run line : List Char) : Prop :=
  run ≠ [] ∧ (∀ c ∈ run, ¬ isTokenSeparator c) ∧
    ∃ before after, line = before ++ run ++ after ∧
      (∀ c ∈ before.getLast?, isTokenSeparator c) ∧ (∀ c ∈ after.head?, isTokenSeparator c)

/-- The maximal runs of a line free of separators, in order. -/
inductive MaximalRuns : List Char → List (List Char) → Prop where
  | none {gap : List Char} (hgap : ∀ c ∈ gap, isTokenSeparator c) : MaximalRuns gap []
  | cons {gap run rest : List Char} {runs : List (List Char)}
      (hgap : ∀ c ∈ gap, isTokenSeparator c) (hne : run ≠ [])
      (hrun : ∀ c ∈ run, ¬ isTokenSeparator c) (hrest : ∀ c ∈ rest.head?, isTokenSeparator c)
      (hruns : MaximalRuns rest runs) : MaximalRuns (gap ++ run ++ rest) (run :: runs)

/-! ### Cutting a line -/

theorem tokens_append_cons {c : Char} (hc : isTokenSeparator c) (a b : List Char) :
  tokens (a ++ c :: b) = tokens a ++ tokens b
  := by
  rw [tokens, List.splitOnP_append_cons a b hc, List.filter_append]
  rfl

theorem tokens_cons {c : Char} (hc : isTokenSeparator c) (rest : List Char) :
  tokens (c :: rest) = tokens rest
  := tokens_append_cons hc [] rest

/-- A line is cut before a separator. -/
theorem tokens_append_left {b : List Char} (hb : ∀ c ∈ b.head?, isTokenSeparator c)
    (a : List Char) :
  tokens (a ++ b) = tokens a ++ tokens b
  := by
  cases b with
  | nil => rw [List.append_nil, show tokens [] = [] from rfl, List.append_nil]
  | cons c b =>
    have hc : isTokenSeparator c := hb c rfl
    rw [tokens_append_cons hc, tokens_cons hc]

/-- A line is cut after a separator. -/
theorem tokens_append_right {a : List Char} (ha : ∀ c ∈ a.getLast?, isTokenSeparator c)
    (b : List Char) :
  tokens (a ++ b) = tokens a ++ tokens b
  := by
  cases a using List.reverseRecOn with
  | nil => rfl
  | append_singleton a c =>
    have hc : isTokenSeparator c := ha c List.getLast?_concat
    have hz : tokens (a ++ [c]) = tokens a := by
      rw [tokens_append_cons hc, show tokens [] = [] from rfl, List.append_nil]
    rw [hz, List.append_assoc, List.singleton_append, tokens_append_cons hc]

theorem tokens_of_gap {gap : List Char} (h : ∀ c ∈ gap, isTokenSeparator c) :
  tokens gap = []
  := by
  induction gap with
  | nil => rfl
  | cons c gap ih =>
    obtain ⟨hc, hgap⟩ := List.forall_mem_cons.mp h
    rw [tokens_cons hc, ih hgap]

theorem tokens_of_run {run : List Char} (hne : run ≠ []) (h : ∀ c ∈ run, ¬ isTokenSeparator c) :
  tokens run = [run]
  := by
  rw [tokens, List.splitOnP_eq_singleton (by simpa using h)]
  simpa using hne

/-! ### The tokens are the maximal runs -/

theorem MaximalRuns.tokens_eq {line : List Char} {runs : List (List Char)}
    (h : MaximalRuns line runs) :
  tokens line = runs
  := by
  induction h with
  | none hgap => exact tokens_of_gap hgap
  | cons hgap hne hrun hrest _ ih =>
    have hlast := fun c hc => hgap c (List.mem_of_mem_getLast? hc)
    rw [tokens_append_left hrest, tokens_append_right hlast, tokens_of_gap hgap,
      tokens_of_run hne hrun, ih]
    rfl

/-- Each line is a row of maximal runs. -/
theorem exists_maximalRuns (line : List Char) :
  ∃ runs, MaximalRuns line runs
  := by
  obtain ⟨gap, others, hl, hgap, hothers⟩ := Pattern.exists_run isTokenSeparator line
  obtain ⟨run, rest, ho, hrun, hrest⟩ := Pattern.exists_run (!isTokenSeparator ·) others
  have hrest' : ∀ c ∈ rest.head?, isTokenSeparator c := by simpa using hrest
  rw [ho, ← List.append_assoc] at hl
  by_cases hne : run = []
  · -- no run begins after the gap, so that nothing does
    rw [hne, List.nil_append] at ho
    have hnil : rest = [] := by
      cases hr : rest with
      | nil => rfl
      | cons c rest' =>
        have hc : isTokenSeparator c = false := hothers c (by rw [ho, hr]; rfl)
        exact absurd (hrest' c (by rw [hr]; rfl)) (by simp [hc])
    rw [hl, hne, hnil, List.append_nil, List.append_nil]
    exact ⟨[], .none hgap⟩
  · have hshort : rest.length < line.length := by
      have hpos := List.length_pos_of_ne_nil hne
      rw [hl, List.length_append, List.length_append]
      omega
    obtain ⟨runs, hruns⟩ := exists_maximalRuns rest
    rw [hl]
    exact ⟨run :: runs, .cons hgap hne (by simpa using hrun) hrest' hruns⟩
termination_by line.length

/-- The tokens of a line are its maximal runs in order. -/
theorem tokens_eq_iff {line : List Char} {runs : List (List Char)} :
  tokens line = runs ↔ MaximalRuns line runs
  := by
  constructor
  · rintro rfl
    obtain ⟨runs, h⟩ := exists_maximalRuns line
    rwa [h.tokens_eq]
  · exact MaximalRuns.tokens_eq

/-- The tokens of a line are its maximal runs. -/
theorem mem_tokens_iff {line token : List Char} :
  token ∈ tokens line ↔ IsMaximalRun token line
  := by
  constructor
  · intro h
    obtain ⟨runs, hruns⟩ := exists_maximalRuns line
    rw [hruns.tokens_eq] at h
    induction hruns with
    | none => cases h
    | @cons gap run rest runs hgap hne hrun hrest hruns ih =>
      cases h with
      | head =>
        exact ⟨hne, hrun, gap, rest, rfl,
          fun c hc => hgap c (List.mem_of_mem_getLast? hc), hrest⟩
      | tail _ h =>
        obtain ⟨hne', hrun', before, after, rfl, hbefore, hafter⟩ := ih h
        refine ⟨hne', hrun', gap ++ run ++ before, after, by simp, ?_, hafter⟩
        -- a later run comes after a separator, because the first run is maximal
        cases before with
        | nil =>
          obtain ⟨c, others, rfl⟩ := List.exists_cons_of_ne_nil hne'
          exact absurd (hrest c rfl) (hrun' c List.mem_cons_self)
        | cons c others => rwa [List.getLast?_append_of_ne_nil _ (List.cons_ne_nil c others)]
  · rintro ⟨hne, hrun, before, after, rfl, hbefore, hafter⟩
    rw [tokens_append_left hafter, tokens_append_right hbefore, tokens_of_run hne hrun]
    simp

/-! ### What is seen of a line -/

/-- A line is passed over: it is a comment, its first character that is not blank being a number
sign, or it refers to a variable. -/
def IsPassed (line : List Char) : Prop :=
  (∃ indent comment, line = indent ++ '#' :: comment ∧ ∀ c ∈ indent, Text.isBlank c) ∨
    "$\x7b".toList <:+: line

theorem isComment_iff {line : List Char} :
  isComment line ↔
    ∃ indent comment, line = indent ++ '#' :: comment ∧ ∀ c ∈ indent, Text.isBlank c
  := by
  rw [isComment, Text.startsWith, Text.trimLeft, List.isPrefixOf_iff_prefix]
  constructor
  · rintro ⟨comment, h⟩
    refine ⟨line.takeWhile Text.isBlank, comment, ?_, fun c hc => List.mem_takeWhile_imp hc⟩
    conv_lhs => rw [← List.takeWhile_append_dropWhile (p := Text.isBlank) (l := line), ← h]
    rfl
  · rintro ⟨indent, comment, rfl, h⟩
    rw [List.dropWhile_append_of_pos h, List.dropWhile_cons_of_neg (by decide)]
    exact ⟨comment, rfl⟩

theorem isScanned_iff {line : List Char} :
  isScanned line ↔ ¬ IsPassed line
  := by
  rw [isScanned, IsPassed, ← isComment_iff, ← Text.has_iff]
  simp

/-- Two lines are the same to the search for tokens: both are passed over, or neither is and they
have the same maximal runs in order. -/
inductive SameTokens (line line' : List Char) : Prop where
  | passed (h : IsPassed line) (h' : IsPassed line')
  | scanned (h : ¬ IsPassed line) (h' : ¬ IsPassed line') {runs : List (List Char)}
      (hruns : MaximalRuns line runs) (hruns' : MaximalRuns line' runs)

theorem tokenVulnerabilities_of_isPassed {l : Nat × List Char} (h : IsPassed l.2) :
  tokenVulnerabilities l = []
  := if_neg fun hs => isScanned_iff.mp hs h

theorem tokenVulnerabilities_congr {line line' : List Char} (h : SameTokens line line')
    (number : Nat) :
  tokenVulnerabilities (number, line) = tokenVulnerabilities (number, line')
  := by
  cases h with
  | passed h h' => rw [tokenVulnerabilities_of_isPassed h, tokenVulnerabilities_of_isPassed h']
  | scanned h h' hruns hruns' =>
    rw [tokenVulnerabilities, tokenVulnerabilities, if_pos (isScanned_iff.mpr h),
      if_pos (isScanned_iff.mpr h'), suspiciousTokens, suspiciousTokens, hruns.tokens_eq,
      hruns'.tokens_eq]

theorem mem_tokenVulnerabilities_iff {l : Nat × List Char} {v : Vulnerability} :
  v ∈ tokenVulnerabilities l ↔
    ¬ IsPassed l.2 ∧ ∃ token, IsMaximalRun token l.2 ∧ 20 ≤ token.length ∧
      suspiciousEntropy ≤ entropy token ∧ tokenVulnerability l.1 token = v
  := by
  rw [tokenVulnerabilities, List.mem_ite_nil_right, isScanned_iff, List.mem_map]
  simp only [suspiciousTokens, List.mem_filter, mem_tokens_iff, Bool.and_eq_true,
    decide_eq_true_iff, and_assoc]
  rfl

/-- The search for tokens of suspicious entropy sees nothing of a text but the maximal runs of the
lines that it does not pass over: it reports the same in two texts with the same number of lines if
each line of the one is the same to it as that of the other, and what it reports is a maximal run of
at least twenty characters on such a line. -/
theorem highEntropyStrings_sees_tokens (document : Document) (source : Source) :
  (∀ document' source', List.Forall₂ SameTokens source.lines source'.lines →
    (Rule.highEntropyStrings.check document source).findings.vulnerabilities =
      (Rule.highEntropyStrings.check document' source').findings.vulnerabilities) ∧
  (∀ v, v ∈ (Rule.highEntropyStrings.check document source).findings.vulnerabilities ↔
    ∃ l ∈ source.numberedLines, ¬ IsPassed l.2 ∧ ∃ token, IsMaximalRun token l.2 ∧
      20 ≤ token.length ∧ suspiciousEntropy ≤ entropy token ∧ tokenVulnerability l.1 token = v)
  := by
  constructor
  · intro document' source' h
    exact Source.flatMap_numberedLines_congr (fun n _ _ h => tokenVulnerabilities_congr h n) h
  · intro v
    exact List.mem_flatMap.trans (exists_congr fun l => and_congr_right fun _ =>
      mem_tokenVulnerabilities_iff)

/-- A token in quotation marks, below a comment. -/
def quotedToken : Source :=
  ⟨"# deployment\n  token: 'aB3xQ9zL7mK2pR5tW8yN4cV6'".toList, "github-actions"⟩

/-- The same token in brackets, below a line that refers to a variable. -/
def bracketedToken : Source :=
  ⟨"export T=$\x7bTOKEN\x7d\n[token, <aB3xQ9zL7mK2pR5tW8yN4cV6>]".toList, "gitlab-ci"⟩

theorem highEntropyStrings_sees_tokens_quotedToken :
  List.Forall₂ SameTokens quotedToken.lines bracketedToken.lines ∧
  (Rule.highEntropyStrings.check .null quotedToken).findings.vulnerabilities =
    (Rule.highEntropyStrings.check (.map []) bracketedToken).findings.vulnerabilities
  := by
  have hlines : quotedToken.lines =
      ["# deployment".toList, "  token: 'aB3xQ9zL7mK2pR5tW8yN4cV6'".toList] := by
    decide
  have hlines' : bracketedToken.lines =
      ["export T=$\x7bTOKEN\x7d".toList, "[token, <aB3xQ9zL7mK2pR5tW8yN4cV6>]".toList] := by
    decide
  have hcomment : IsPassed "# deployment".toList :=
    .inl ⟨[], " deployment".toList, rfl, List.forall_mem_nil _⟩
  have hvariable : IsPassed "export T=$\x7bTOKEN\x7d".toList :=
    .inr (Text.has_iff.mp (by decide))
  have hruns : MaximalRuns "  token: 'aB3xQ9zL7mK2pR5tW8yN4cV6'".toList
      ["token".toList, "aB3xQ9zL7mK2pR5tW8yN4cV6".toList] :=
    tokens_eq_iff.mp (by decide)
  have hruns' : MaximalRuns "[token, <aB3xQ9zL7mK2pR5tW8yN4cV6>]".toList
      ["token".toList, "aB3xQ9zL7mK2pR5tW8yN4cV6".toList] :=
    tokens_eq_iff.mp (by decide)
  have h : List.Forall₂ SameTokens quotedToken.lines bracketedToken.lines := by
    rw [hlines, hlines']
    exact .cons (.passed hcomment hvariable)
      (.cons (.scanned (isScanned_iff.mp (by decide)) (isScanned_iff.mp (by decide)) hruns hruns')
        .nil)
  exact ⟨h, (highEntropyStrings_sees_tokens .null quotedToken).1 (.map []) bracketedToken h⟩

end Secret

end PipelineAudit
