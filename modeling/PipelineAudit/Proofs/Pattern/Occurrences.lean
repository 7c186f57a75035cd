import PipelineAudit.Proofs.Pattern.Language
import Mathlib.Data.List.Perm.Subperm

/-!
# Occurrences in a text and on its lines

A pattern occurs after a part of a text if it matches there.  The matches that are found in the text
are some of its occurrences: the first one, then the first one after that, and so on, so that every
occurrence is one of them or begins inside of one.  The lines of a text are searched one by one,
each as a text of its own, which finds the occurrences that keep to their line.

* `exists_mem_findAll`: every occurrence is found, or begins inside of a match that is.
* `exists_mem_findAll_at`: every occurrence is found, if none can begin inside of another.
* `pairwise_findAll`: the matches that are found do not overlap.
* `mem_linesWith_iff`: the lines on which an occurrence starts, for a pattern that stays in a line.
* `length_linesWith_le`: there are no more such lines than matches.
-/

namespace PipelineAudit

namespace Pattern

/-! ### Occurrences -/

/-- A pattern matches in a text `a ++ b` after its part `a`. -/
def OccursAfter (p : Pattern) (a b : List Char) : Prop :=
  (p.matchAt? 0 ⟨a.getLast?, b⟩).isSome

instance (p : Pattern) (a b : List Char) : Decidable (p.OccursAfter a b) :=
  inferInstanceAs (Decidable ((p.matchAt? 0 ⟨a.getLast?, b⟩).isSome = true))

theorem occursAfter_iff {p : Pattern} {a b : List Char} (i : Nat) :
  p.OccursAfter a b ↔ (p.matchAt? i ⟨a.getLast?, b⟩).isSome
  := by
  rw [OccursAfter, matchAt?_start p i 0, Option.isSome_map]

/-- A pattern that is found in a text from a place on occurs after some part of it. -/
theorem exists_of_searchFrom {p : Pattern} {index : Nat} {before : Option Char} {text : List Char}
    (h : (p.searchFrom index before text).isSome) :
  ∃ a b, text = a ++ b ∧ (p.matchAt? 0 ⟨a.getLast?.or before, b⟩).isSome
  := by
  have hhere : ∀ {index : Nat} {place : Place}, (p.matchAt? index place).isSome →
      (p.matchAt? 0 place).isSome := by
    intro index place h
    rw [matchAt?_start p index, Option.isSome_map]
    exact h
  induction text generalizing index before with
  | nil => exact ⟨[], [], rfl, hhere h⟩
  | cons c rest ih =>
    rw [searchFrom, Option.isSome_or, Bool.or_eq_true] at h
    obtain h | h := h
    · exact ⟨[], c :: rest, rfl, hhere h⟩
    · obtain ⟨a, b, rfl, hm⟩ := ih h
      exact ⟨c :: a, b, rfl, by rw [getLast?_cons_or]; exact hm⟩

theorem occursIn_iff {p : Pattern} {text : List Char} :
  p.occursIn text ↔ ∃ a b, text = a ++ b ∧ p.OccursAfter a b
  := by
  constructor
  · intro h
    obtain ⟨a, b, ht, hm⟩ := exists_of_searchFrom h
    rw [Option.or_none] at hm
    exact ⟨a, b, ht, hm⟩
  · rintro ⟨a, b, rfl, h⟩
    exact occursIn_append h

/-! ### Matches that are found -/

/-- Every occurrence in a text from a place on is found, or begins inside of a match that is. -/
theorem exists_mem_findFrom {p : Pattern} {a b : List Char} {skip : Nat} (index : Nat)
    {before : Option Char} (hskip : skip ≤ a.length)
    (h : (p.matchAt? 0 ⟨a.getLast?.or before, b⟩).isSome) :
  ∃ m ∈ p.findFrom skip index before (a ++ b), ∃ a₁ a₂, a = a₁ ++ a₂ ∧
    m.start = index + a₁.length ∧
    p.matchAt? m.start ⟨a₁.getLast?.or before, a₂ ++ b⟩ = some m ∧
    (a₂ = [] ∨ a₂.length < m.text.length)
  := by
  induction a generalizing skip index before with
  | nil =>
    obtain rfl := Nat.le_zero.mp hskip
    have hm : (p.matchAt? index ⟨before, b⟩).isSome := by
      rw [matchAt?_start p 0, Option.isSome_map]
      exact h
    obtain ⟨m, hm⟩ := Option.isSome_iff_exists.mp hm
    have hs := start_of_matchAt? hm
    refine ⟨m, ?_, [], [], rfl, hs, by rw [hs]; exact hm, .inl rfl⟩
    cases b with
    | nil => rw [List.nil_append, findFrom, hm]; exact List.mem_singleton_self m
    | cons c rest => rw [List.nil_append, findFrom, hm]; exact List.mem_cons_self
  | cons c a ih =>
    rw [getLast?_cons_or] at h
    -- What is found after the next character begins one character later.
    have hlater : ∀ {skip : Nat}, skip ≤ a.length →
        ∃ m ∈ p.findFrom skip (index + 1) (some c) (a ++ b), ∃ a₁ a₂, c :: a = a₁ ++ a₂ ∧
          m.start = index + a₁.length ∧
          p.matchAt? m.start ⟨a₁.getLast?.or before, a₂ ++ b⟩ = some m ∧
          (a₂ = [] ∨ a₂.length < m.text.length) := by
      intro skip hskip
      obtain ⟨m, hm, a₁, a₂, rfl, hs, hat, hcover⟩ := ih (index + 1) hskip h
      refine ⟨m, hm, c :: a₁, a₂, rfl, ?_, ?_, hcover⟩
      · rw [hs, List.length_cons]
        omega
      · rw [getLast?_cons_or]
        exact hat
    cases skip with
    | succ skip => exact hlater (Nat.le_of_succ_le_succ hskip)
    | zero =>
      rw [List.cons_append, findFrom]
      cases hm : p.matchAt? index ⟨before, c :: (a ++ b)⟩ with
      | none => exact hlater (Nat.zero_le _)
      | some m =>
        by_cases hl : m.text.length - 1 ≤ a.length
        · obtain ⟨m', hm', hplace⟩ := hlater hl
          exact ⟨m', List.mem_cons_of_mem m hm', hplace⟩
        · have hs := start_of_matchAt? hm
          refine ⟨m, List.mem_cons_self, [], c :: a, rfl, hs, by rw [hs]; exact hm, .inr ?_⟩
          rw [List.length_cons]
          omega

/-- Every occurrence in a text is found, or begins inside of a match that is. -/
theorem exists_mem_findAll {p : Pattern} {a b : List Char} (h : p.OccursAfter a b) :
  ∃ m ∈ p.findAll (a ++ b), ∃ a₁ a₂, a = a₁ ++ a₂ ∧ m.start = a₁.length ∧
    p.matchAt? m.start ⟨a₁.getLast?, a₂ ++ b⟩ = some m ∧
    (a₂ = [] ∨ a₂.length < m.text.length)
  := by
  rw [OccursAfter, ← Option.or_none (o := a.getLast?)] at h
  obtain ⟨m, hm, a₁, a₂, ha, hs, hat, hcover⟩ := exists_mem_findFrom 0 (Nat.zero_le _) h
  rw [Nat.zero_add] at hs
  rw [Option.or_none] at hat
  exact ⟨m, hm, a₁, a₂, ha, hs, hat, hcover⟩

/-- What a match takes stands where the match is. -/
theorem text_prefix_of_matchAt? {p : Pattern} {index : Nat} {place : Place} {m : Match}
    (h : p.matchAt? index place = some m) :
  m.text <+: place.rest
  := by
  obtain ⟨s, _, rfl⟩ := Option.map_eq_some_iff.mp h
  exact List.take_prefix _ _

/-- Every occurrence in a text is found if no match comes back to the character that it begins
with. -/
theorem exists_mem_findAll_at {p : Pattern} {first : Char}
    (hfirst : ∀ {index : Nat} {place : Place} {m : Match}, p.matchAt? index place = some m →
      ∃ tail, m.text = first :: tail ∧ first ∉ tail)
    {a b : List Char} (h : p.OccursAfter a b) :
  ∃ m ∈ p.findAll (a ++ b), m.start = a.length ∧ p.matchAt? m.start ⟨a.getLast?, b⟩ = some m
  := by
  obtain ⟨m, hm, a₁, a₂, rfl, hs, hat, hcover⟩ := exists_mem_findAll h
  cases a₂ with
  | nil =>
    rw [List.append_nil]
    rw [List.append_nil] at hm
    exact ⟨m, hm, hs, hat⟩
  | cons c a₂ =>
    -- The match inside of the other one would bring its first character back.
    obtain ⟨later, rfl⟩ : ∃ later, b = first :: later := by
      obtain ⟨m', hm'⟩ := Option.isSome_iff_exists.mp h
      obtain ⟨tail, ht, _⟩ := hfirst hm'
      obtain ⟨rest, hrest⟩ : m'.text <+: b := text_prefix_of_matchAt? hm'
      exact ⟨tail ++ rest, by rw [← hrest, ht, List.cons_append]⟩
    obtain ⟨tail, ht, hnot⟩ := hfirst hat
    have hl : a₂.length < tail.length := by simpa [ht] using hcover
    have htail : tail <+: a₂ ++ first :: later := by
      have hbegins := text_prefix_of_matchAt? hat
      rw [ht] at hbegins
      exact (List.cons_prefix_cons.mp hbegins).2
    have hinside : a₂ ++ [first] <+: tail := by
      apply List.prefix_of_prefix_length_le _ htail
      · rw [List.length_append]
        exact hl
      · rw [← List.singleton_append (l := later), ← List.append_assoc]
        exact List.prefix_append _ _
    exact absurd (hinside.subset (by simp)) hnot

/-- Something is found in a text exactly if the pattern occurs in it. -/
theorem findAll_ne_nil_iff {p : Pattern} {text : List Char} :
  p.findAll text ≠ [] ↔ ∃ a b, text = a ++ b ∧ p.OccursAfter a b
  := by
  constructor
  · intro h
    obtain ⟨m, hm⟩ := List.exists_mem_of_ne_nil _ h
    obtain ⟨a, b, ht, _, hat⟩ := exists_of_mem_findAll hm
    exact ⟨a, b, ht, (occursAfter_iff m.start).mpr (Option.isSome_of_eq_some hat)⟩
  · rintro ⟨a, b, rfl, h⟩
    obtain ⟨m, hm, _⟩ := exists_mem_findAll h
    exact List.ne_nil_of_mem hm

/-- What is found in a text from a place on lies after the characters that are passed over. -/
theorem start_of_mem_findFrom {p : Pattern} {skip index : Nat} {before : Option Char}
    {text : List Char} {m : Match} (h : m ∈ p.findFrom skip index before text) :
  index + skip ≤ m.start
  := by
  fun_induction findFrom p skip index before text with
  | case1 index before => exact Nat.le_of_eq (start_of_matchAt? (Option.mem_toList.mp h)).symm
  | case2 => cases h
  | case3 skip index before c rest ih =>
    have hs := ih h
    omega
  | case4 index before c rest m' hm ih =>
    obtain rfl | h := List.mem_cons.mp h
    · exact Nat.le_of_eq (start_of_matchAt? hm).symm
    · have hs := ih h
      omega
  | case5 index before c rest hm ih =>
    have hs := ih h
    omega

/-- The matches that are found in a text do not overlap. -/
theorem pairwise_findAll (p : Pattern) (text : List Char) :
  (p.findAll text).Pairwise fun m m' => m.start + m.text.length ≤ m'.start
  := by
  have hf : ∀ skip index before, (p.findFrom skip index before text).Pairwise
      fun m m' => m.start + m.text.length ≤ m'.start := by
    intro skip index before
    fun_induction findFrom p skip index before text with
    | case1 index before =>
      cases p.matchAt? index ⟨before, []⟩ with
      | none => exact .nil
      | some m => exact List.pairwise_singleton _ m
    | case2 => exact .nil
    | case3 skip index before c rest ih => exact ih
    | case4 index before c rest m hm ih =>
      refine List.pairwise_cons.mpr ⟨fun m' hm' => ?_, ih⟩
      have hs := start_of_mem_findFrom hm'
      rw [start_of_matchAt? hm]
      omega
    | case5 index before c rest hm ih => exact ih
  exact hf 0 0 none

/-- Of two matches that are found, the later one begins after the earlier one. -/
theorem le_start_of_mem_findAll {p : Pattern} {text : List Char} {m m' : Match}
    (hm : m ∈ p.findAll text) (hm' : m' ∈ p.findAll text) (h : m.start < m'.start) :
  m.start + m.text.length ≤ m'.start
  := by
  obtain ⟨i, hi, rfl⟩ := List.getElem_of_mem hm
  obtain ⟨j, hj, rfl⟩ := List.getElem_of_mem hm'
  have hp := List.pairwise_iff_getElem.mp (pairwise_findAll p text)
  obtain hij | rfl | hij := Nat.lt_trichotomy i j
  · exact hp i j hi hj hij
  · exact absurd h (Nat.lt_irrefl _)
  · have hle := hp j i hj hi hij
    omega

/-! ### Occurrences on lines -/

/-- An occurrence in a text starts on its line of a number. -/
def StartsOn (p : Pattern) (text : List Char) (n : Nat) : Prop :=
  ∃ a b, text = a ++ b ∧ a.count '\n' + 1 = n ∧ p.OccursAfter a b

/-- A pattern that stays in a line occurs in a text where it occurs on the line alone. -/
theorem occursAfter_line_iff {p : Pattern} (hp : p.staysInLine) {a b : List Char} :
  p.OccursAfter (Text.afterLast '\n' a) (Text.upTo '\n' b) ↔ p.OccursAfter a b
  := by
  rw [OccursAfter, ← onLine_append, matchAt?_onLine hp, OccursAfter]

/-- A pattern without conditions occurs in a text where it occurs on the line alone. -/
theorem OccursAfter.of_line {p : Pattern} (hp : p.isFree) {a b : List Char}
    (h : p.OccursAfter (Text.afterLast '\n' a) (Text.upTo '\n' b)) :
  p.OccursAfter a b
  := by
  obtain ⟨w, texts, rest, hw, hr⟩ := (isSome_matchAt?_iff hp).mp h
  obtain ⟨rest', hb, _⟩ := Text.exists_eq_upTo_append '\n' b
  refine (isSome_matchAt?_iff hp).mpr ⟨w, texts, rest ++ rest', hw, ?_⟩
  rw [← List.append_assoc, ← hr, ← hb]

/-- The lines in which a pattern occurs, each as a text of its own. -/
theorem mem_linesWith_iff_occursAfter {p : Pattern} {source : Source} {n : Nat} :
  n ∈ source.linesWith p ↔ ∃ a b, source.text = a ++ b ∧ a.count '\n' + 1 = n ∧
    p.OccursAfter (Text.afterLast '\n' a) (Text.upTo '\n' b)
  := by
  rw [Source.linesWith, List.mem_map]
  constructor
  · rintro ⟨⟨n, line⟩, hl, rfl⟩
    obtain ⟨hl, hline⟩ := List.mem_filter.mp hl
    obtain ⟨u, v, rfl, ho⟩ := occursIn_iff.mp hline
    obtain ⟨a, b, ht, hn, rfl, rfl⟩ := Source.mem_numberedLines_iff.mp hl
    exact ⟨a, b, ht, hn, ho⟩
  · rintro ⟨a, b, ht, hn, ho⟩
    have hl := Source.mem_numberedLines_iff.mpr ⟨a, b, ht, hn, rfl, rfl⟩
    exact ⟨_, List.mem_filter.mpr ⟨hl, occursIn_iff.mpr ⟨_, _, rfl, ho⟩⟩, rfl⟩

/-- The lines in which a pattern that stays in a line occurs are those on which it starts. -/
theorem mem_linesWith_iff {p : Pattern} (hp : p.staysInLine) {source : Source} {n : Nat} :
  n ∈ source.linesWith p ↔ p.StartsOn source.text n
  := by
  rw [mem_linesWith_iff_occursAfter]
  simp only [occursAfter_line_iff hp, StartsOn]

/-- A pattern without conditions starts on the lines in which it occurs. -/
theorem startsOn_of_mem_linesWith {p : Pattern} (hp : p.isFree) {source : Source} {n : Nat}
    (h : n ∈ source.linesWith p) :
  p.StartsOn source.text n
  := by
  obtain ⟨a, b, ht, hn, ho⟩ := mem_linesWith_iff_occursAfter.mp h
  exact ⟨a, b, ht, hn, ho.of_line hp⟩

/-- If a pattern that stays in a line starts on a line, a match is found that does so. -/
theorem exists_mem_findAll_of_startsOn {p : Pattern} (hp : p.staysInLine) {text : List Char}
    {n : Nat} (h : p.StartsOn text n) :
  ∃ m ∈ p.findAll text, (text.take m.start).count '\n' + 1 = n
  := by
  obtain ⟨a, b, rfl, rfl, ho⟩ := h
  obtain ⟨m, hm, a₁, a₂, rfl, hs, hat, hcover⟩ := exists_mem_findAll ho
  obtain ⟨hbegins, hnot⟩ := text_of_matchAt? hp hat
  refine ⟨m, hm, ?_⟩
  have hzero : a₂.count '\n' = 0 := by
    rw [List.count_eq_zero]
    obtain rfl | hl := hcover
    · exact List.not_mem_nil
    · have ha : a₂ <+: m.text :=
        List.prefix_of_prefix_length_le (List.prefix_append a₂ b) hbegins (Nat.le_of_lt hl)
      exact fun h => hnot (ha.subset h)
  rw [hs, List.append_assoc, List.take_left, List.count_append, hzero, Nat.add_zero]

/-- No more lines are listed than matches found, if one starts on each line. -/
theorem length_linesWith_le {p : Pattern} {source : Source}
    (h : ∀ n ∈ source.linesWith p,
      ∃ m ∈ p.findAll source.text, (source.text.take m.start).count '\n' + 1 = n) :
  (source.linesWith p).length ≤ (p.findAll source.text).length
  := by
  have hn : (source.linesWith p).Nodup := by
    have hp := (Source.pairwise_numberedLines source).filter fun l => p.occursIn l.2
    exact List.pairwise_map.mpr (hp.imp Nat.ne_of_lt)
  have hsub : source.linesWith p ⊆
      (p.findAll source.text).map fun m => (source.text.take m.start).count '\n' + 1 :=
    fun n hl => List.mem_map.mpr (h n hl)
  have hle := (List.subperm_of_subset hn hsub).length_le
  rw [List.length_map] at hle
  exact hle

end Pattern

end PipelineAudit
