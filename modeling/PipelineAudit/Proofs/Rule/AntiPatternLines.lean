import PipelineAudit.Proofs.Pattern.Occurrences
import PipelineAudit.Rule.AntiPatterns

/-!
# The lines of anti-patterns

The occurrences of an anti-pattern are counted in the whole text, but its lines are found by looking
at each line alone.  The two agree for the patterns that stay in a line.  The fixed delay does not:
the blanks after its word may hold line feeds, so that it is counted, but on no line.

* `mem_linesWith_delay_iff`: the lines that are listed for delays.
* `commonAntiPatterns_complete_iff`: when the issues list every line on which an occurrence starts.
-/

namespace PipelineAudit

open Pattern

namespace AntiPattern

/-! ### Delays -/

/-- A fixed delay: `sleep`, blanks and the number of seconds. -/
def delay : Pattern :=
  inOrder [lit "sleep", many1 blank, many1 digit]

/-- A text goes on with a fixed delay that has these blanks between its word and its number. -/
def DelaysWith (blanks text : List Char) : Prop :=
  (blanks ≠ [] ∧ ∀ c ∈ blanks, Text.isBlank c) ∧
  ∃ d rest, Text.isDecimal d ∧ text = "sleep".toList ++ (blanks ++ d :: rest)

theorem spells_delay_iff {w : List Char} {texts : List (List Char)} :
  delay.Spells w texts ↔ ∃ blanks digits, (blanks ≠ [] ∧ ∀ c ∈ blanks, Text.isBlank c) ∧
    (digits ≠ [] ∧ ∀ c ∈ digits, Text.isDecimal c) ∧
    w = "sleep".toList ++ (blanks ++ digits) ∧ texts = []
  := by
  constructor
  · rintro ⟨_, _, _, _, hword, ⟨blanks, digits, _, _, hblanks, hdigits, rfl, rfl⟩, rfl, rfl⟩
    obtain ⟨rfl, rfl⟩ := spells_lit_iff.mp hword
    obtain ⟨hb, rfl⟩ := spells_many1_iff.mp hblanks
    obtain ⟨hd, rfl⟩ := spells_many1_iff.mp hdigits
    exact ⟨blanks, digits, hb, hd, rfl, rfl⟩
  · rintro ⟨blanks, digits, hb, hd, rfl, rfl⟩
    exact ⟨_, _, [], [], spells_lit_iff.mpr ⟨rfl, rfl⟩, ⟨blanks, digits, [], [],
      spells_many1_iff.mpr ⟨hb, rfl⟩, spells_many1_iff.mpr ⟨hd, rfl⟩, rfl, rfl⟩, rfl, rfl⟩

/-- The first letter of a delay does not come back in it. -/
theorem exists_tail_of_spells_delay {w : List Char} {texts : List (List Char)}
    (h : delay.Spells w texts) :
  ∃ tail, w = 's' :: tail ∧ 's' ∉ tail
  := by
  obtain ⟨blanks, digits, ⟨_, hb⟩, ⟨_, hd⟩, rfl, _⟩ := spells_delay_iff.mp h
  refine ⟨"leep".toList ++ (blanks ++ digits), rfl, ?_⟩
  rw [List.mem_append, List.mem_append]
  rintro (hm | hm | hm)
  · exact absurd hm (by decide)
  · exact absurd (hb 's' hm) (by decide)
  · exact absurd (hd 's' hm) (by decide)

/-- A delay occurs where the text goes on with one. -/
theorem occursAfter_delay_iff {a b : List Char} :
  delay.OccursAfter a b ↔ ∃ blanks, DelaysWith blanks b
  := by
  have hfree : delay.isFree := by decide
  rw [OccursAfter, isSome_matchAt?_iff hfree]
  constructor
  · rintro ⟨w, texts, rest, hw, rfl⟩
    obtain ⟨blanks, digits, hb, ⟨hne, hd⟩, rfl, rfl⟩ := spells_delay_iff.mp hw
    obtain ⟨d, digits, rfl⟩ := List.exists_cons_of_ne_nil hne
    refine ⟨blanks, hb, d, digits ++ rest, hd d List.mem_cons_self, ?_⟩
    simp only [List.append_assoc, List.cons_append]
  · rintro ⟨blanks, hb, d, rest, hd, rfl⟩
    have hw : delay.Spells ("sleep".toList ++ (blanks ++ [d])) [] :=
      spells_delay_iff.mpr ⟨blanks, [d], hb, ⟨List.cons_ne_nil d [], by simpa using hd⟩, rfl, rfl⟩
    exact ⟨_, [], rest, hw, by simp only [List.append_assoc, List.singleton_append]⟩

/-- A delay starts on its line of a number, with these blanks between its word and its number. -/
def DelayOn (text : List Char) (n : Nat) (blanks : List Char) : Prop :=
  ∃ a b, text = a ++ b ∧ a.count '\n' + 1 = n ∧ DelaysWith blanks b

theorem startsOn_delay_iff {text : List Char} {n : Nat} :
  delay.StartsOn text n ↔ ∃ blanks, DelayOn text n blanks
  := by
  constructor
  · rintro ⟨a, b, ht, hn, ho⟩
    obtain ⟨blanks, hb⟩ := occursAfter_delay_iff.mp ho
    exact ⟨blanks, a, b, ht, hn, hb⟩
  · rintro ⟨blanks, a, b, ht, hn, hb⟩
    exact ⟨a, b, ht, hn, occursAfter_delay_iff.mpr ⟨blanks, hb⟩⟩

/-- A line is listed for a delay if one starts and ends on it. -/
theorem mem_linesWith_delay_iff {source : Source} {n : Nat} :
  n ∈ source.linesWith delay ↔ ∃ blanks, DelayOn source.text n blanks ∧ '\n' ∉ blanks
  := by
  rw [mem_linesWith_iff_occursAfter]
  constructor
  · rintro ⟨a, b, ht, hn, ho⟩
    obtain ⟨blanks, hb, d, rest, hd, hline⟩ := occursAfter_delay_iff.mp ho
    obtain ⟨later, hlater, _⟩ := Text.exists_eq_upTo_append '\n' b
    refine ⟨blanks, ⟨a, b, ht, hn, hb, d, rest ++ later, hd, ?_⟩, ?_⟩
    · rw [hlater, hline]
      simp only [List.append_assoc, List.cons_append]
    · have hnot := Text.not_mem_upTo '\n' b
      rw [hline] at hnot
      simp only [List.mem_append, not_or] at hnot
      exact hnot.2.1
  · rintro ⟨blanks, ⟨a, b, ht, hn, hb, d, rest, hd, rfl⟩, hnot⟩
    have hword : '\n' ∉ "sleep".toList := by decide
    have hdigit : '\n' ∉ [d] := by
      rw [List.mem_singleton]
      rintro rfl
      exact absurd hd (by decide)
    have hline : Text.upTo '\n' ("sleep".toList ++ (blanks ++ d :: rest)) =
        "sleep".toList ++ (blanks ++ d :: Text.upTo '\n' rest) := by
      rw [← List.singleton_append, Text.upTo_append hword, Text.upTo_append hnot,
        Text.upTo_append hdigit, List.singleton_append]
    exact ⟨a, _, ht, hn, occursAfter_delay_iff.mpr ⟨blanks, hb, d, _, hd, hline⟩⟩

/-- Every delay that occurs is found, as none begins inside of another. -/
theorem exists_delay_found {text : List Char} {n : Nat} (h : delay.StartsOn text n) :
  ∃ m ∈ delay.findAll text, (text.take m.start).count '\n' + 1 = n
  := by
  obtain ⟨a, b, rfl, rfl, ho⟩ := h
  obtain ⟨m, hm, hs, _⟩ := exists_mem_findAll_at
    (fun hat => exists_tail_of_spells_delay (spells_of_matchAt? (by decide) hat).1) ho
  exact ⟨m, hm, by rw [hs, List.take_left]⟩

/-- An anti-pattern stays in a line, or it is the delay. -/
theorem staysInLine_or_delay :
  ∀ a ∈ all, a.pattern.staysInLine ∨ a.pattern = delay
  := by
  simp only [all, List.forall_mem_cons]
  refine ⟨.inl ?_, .inl ?_, .inl ?_, .inl ?_, .inr rfl, .inl ?_, List.forall_mem_nil _⟩
  all_goals decide

/-! ### Issues -/

/-- The issues with a title are those of the anti-patterns with it. -/
theorem filter_filterMap_issue? (l : List AntiPattern) (title : String) (source : Source) :
  (l.filterMap (·.issue? source)).filter (·.title = title) =
    (l.filter (·.title = title)).filterMap (·.issue? source)
  := by
  rw [List.filter_filterMap, List.filterMap_filter]
  apply List.filterMap_congr
  intro a _
  rw [issue?]
  by_cases hcount : (a.pattern.findAll source.text).length = 0
  · simp [hcount]
  · by_cases htitle : a.title = title <;> simp [hcount, htitle, issue]

/-- The titles are distinct. -/
theorem filter_title_eq :
  ∀ a ∈ all, all.filter (·.title = a.title) = [a]
  := by
  simp only [all, List.forall_mem_cons]
  exact ⟨rfl, rfl, rfl, rfl, rfl, rfl, List.forall_mem_nil _⟩

/-- An anti-pattern is reported exactly if an occurrence starts on some line, with the number of its
occurrences. -/
theorem issue?_cases (a : AntiPattern) (source : Source) :
  (a.issue? source = some (a.issue (a.pattern.findAll source.text).length source) ∧
    ∃ n, a.pattern.StartsOn source.text n) ∨
  (a.issue? source = none ∧ ∀ n, ¬ a.pattern.StartsOn source.text n)
  := by
  have hstarts : a.pattern.findAll source.text ≠ [] ↔ ∃ n, a.pattern.StartsOn source.text n := by
    rw [findAll_ne_nil_iff]
    constructor
    · rintro ⟨a, b, ht, ho⟩
      exact ⟨_, a, b, ht, rfl, ho⟩
    · rintro ⟨_, a, b, ht, _, ho⟩
      exact ⟨a, b, ht, ho⟩
  by_cases hn : a.pattern.findAll source.text = []
  · refine .inr ⟨?_, ?_⟩
    · rw [issue?, if_pos (List.length_eq_zero_iff.mpr hn)]
    · rw [← not_exists, ← hstarts]
      exact fun h => h hn
  · exact .inl ⟨if_neg fun h => hn (List.length_eq_zero_iff.mp h), hstarts.mp hn⟩

/-- No more lines are listed for an anti-pattern than it has occurrences, and an occurrence starts
on each of them. -/
theorem listed_of_mem_all {a : AntiPattern} (ha : a ∈ all) (source : Source) :
  (source.linesWith a.pattern).length ≤ (a.pattern.findAll source.text).length ∧
  ∀ n ∈ source.linesWith a.pattern, a.pattern.StartsOn source.text n
  := by
  obtain hp | hp := staysInLine_or_delay a ha
  · have hs : ∀ n ∈ source.linesWith a.pattern, a.pattern.StartsOn source.text n :=
      fun n => (mem_linesWith_iff hp).mp
    exact ⟨length_linesWith_le fun n h => exists_mem_findAll_of_startsOn hp (hs n h), hs⟩
  · rw [hp]
    have hs : ∀ n ∈ source.linesWith delay, delay.StartsOn source.text n :=
      fun n => startsOn_of_mem_linesWith (by decide)
    exact ⟨length_linesWith_le fun n h => exists_delay_found (hs n h), hs⟩

/-- Each anti-pattern is reported in one issue exactly if it occurs, with as many instances as lines
or more, and each of these lines is one on which an occurrence starts.  The issues list every line
on which an occurrence starts if and only if each line on which a delay starts that is broken over
several lines has another delay on it, which is not. -/
theorem commonAntiPatterns_complete_iff (document : Document) (source : Source) :
  let found := (Rule.commonAntiPatterns.check document source).findings.issues
  (∀ a ∈ all,
    let count := (a.pattern.findAll source.text).length
    let listed := source.linesWith a.pattern
    ((found.filter (·.title = a.title) = [a.issue count source] ∧
        ∃ n, a.pattern.StartsOn source.text n) ∨
      (found.filter (·.title = a.title) = [] ∧ ∀ n, ¬ a.pattern.StartsOn source.text n)) ∧
    listed.length ≤ count ∧ ∀ n ∈ listed, a.pattern.StartsOn source.text n) ∧
  ((∀ a ∈ all, ∀ n, a.pattern.StartsOn source.text n → n ∈ source.linesWith a.pattern) ↔
    ∀ n blanks, DelayOn source.text n blanks → '\n' ∈ blanks →
      ∃ blanks', DelayOn source.text n blanks' ∧ '\n' ∉ blanks')
  := by
  intro found
  constructor
  · intro a ha count listed
    have hfound : found.filter (·.title = a.title) = [a].filterMap (·.issue? source) := by
      rw [← filter_title_eq a ha]
      exact filter_filterMap_issue? all a.title source
    rw [hfound]
    refine ⟨?_, listed_of_mem_all ha source⟩
    obtain ⟨hi, hs⟩ | ⟨hi, hs⟩ := a.issue?_cases source
    · exact .inl ⟨List.filterMap_cons_some hi, hs⟩
    · exact .inr ⟨List.filterMap_cons_none hi, hs⟩
  · constructor
    · intro h n blanks hd _
      have hdelay : ∃ a ∈ all, a.pattern = delay := by simp [all, delay]
      obtain ⟨a, ha, hp⟩ := hdelay
      have hn := h a ha n
      rw [hp] at hn
      exact mem_linesWith_delay_iff.mp (hn (startsOn_delay_iff.mpr ⟨blanks, hd⟩))
    · intro h a ha n hs
      obtain hp | hp := staysInLine_or_delay a ha
      · exact (mem_linesWith_iff hp).mpr hs
      · rw [hp] at hs ⊢
        obtain ⟨blanks, hd⟩ := startsOn_delay_iff.mp hs
        rw [mem_linesWith_delay_iff]
        by_cases hb : '\n' ∈ blanks
        · exact h n blanks hd hb
        · exact ⟨blanks, hd, hb⟩

/-- A delay whose number stands on the next line is counted and listed on no line. -/
theorem commonAntiPatterns_brokenDelay :
  let source : Source := ⟨"sleep\n5".toList, "github-actions"⟩
  delay.StartsOn source.text 1 ∧
  (Rule.commonAntiPatterns.check .null source).findings.issues.map
    (fun i => (i.description, i.lineNumbers)) =
      [("Found 1 instance(s) of hard-coded sleep delays", some [])]
  := by
  intro source
  have hs : delay.OccursAfter [] source.text := by decide +kernel
  exact ⟨⟨[], source.text, rfl, rfl, hs⟩, by decide +kernel⟩

end AntiPattern

end PipelineAudit
