import PipelineAudit.Rule.Source
import Mathlib.Data.List.Forall2
import Mathlib.Data.List.Induction
import Mathlib.Data.List.Nodup
import Mathlib.Data.List.TakeWhile

/-!
# Lines

The lines of a text and their numbers when texts are put together.  Two texts have the same code if
they have the same number of lines and differ only in lines that are comments in both.
-/

namespace PipelineAudit

namespace Text

/-- The lines of two texts with a line feed between them. -/
theorem lines_append (a b : List Char) :
  lines (a ++ '\n' :: b) = lines a ++ lines b
  := List.splitOnP_append_cons a b (beq_self_eq_true '\n')

/-- A text has one line more than line feeds. -/
theorem length_lines (text : List Char) :
  (lines text).length = text.count '\n' + 1
  := by
  induction text with
  | nil => simp [lines]
  | cons c rest ih =>
    rw [lines, List.splitOn] at ih ⊢
    rw [List.splitOnP_cons_eq_if_modifyHead, List.count_cons]
    split
    · rw [List.length_cons, ih]
    · rw [List.length_modifyHead, ih, Nat.add_zero]

/-- The first line of a text. -/
theorem getElem?_zero_lines (text : List Char) :
  (lines text)[0]? = some (upTo '\n' text)
  := by
  induction text with
  | nil => simp [lines, upTo]
  | cons c rest ih =>
    rw [lines, List.splitOn] at ih ⊢
    rw [List.splitOnP_cons_eq_if_modifyHead]
    by_cases hc : c = '\n'
    · simp [hc, upTo]
    · rw [if_neg (by simpa using hc), List.getElem?_modifyHead_zero, ih]
      simp [upTo, hc]

theorem afterLast_concat (c d : Char) (text : List Char) :
  afterLast c (text ++ [d]) = if d = c then [] else afterLast c text ++ [d]
  := by
  by_cases h : d = c <;> simp [afterLast, h]

theorem getLast?_afterLast (c : Char) (text : List Char) :
  (afterLast c text).getLast? = text.getLast?.filter (· ≠ c)
  := by
  cases text using List.reverseRecOn with
  | nil => rfl
  | append_singleton text d =>
    rw [afterLast_concat, List.getLast?_concat]
    by_cases h : d = c <;> simp [h, Option.filter]

theorem not_mem_upTo (c : Char) (text : List Char) :
  c ∉ upTo c text
  := by
  intro h
  have hc := List.mem_takeWhile_imp (show c ∈ text.takeWhile (fun d => d ≠ c) from h)
  exact of_decide_eq_true hc rfl

theorem not_mem_afterLast (c : Char) (text : List Char) :
  c ∉ afterLast c text
  := fun h => not_mem_upTo c text.reverse (List.mem_reverse.mp h)

theorem upTo_append {c : Char} {a : List Char} (h : c ∉ a) (b : List Char) :
  upTo c (a ++ b) = a ++ upTo c b
  := by
  apply List.takeWhile_append_of_pos
  intro d hd
  exact decide_eq_true fun he => h (he ▸ hd)

theorem afterLast_append (a : List Char) {c : Char} {b : List Char} (h : c ∉ b) :
  afterLast c (a ++ b) = afterLast c a ++ b
  := by
  have hu : upTo c (b.reverse ++ a.reverse) = b.reverse ++ upTo c a.reverse :=
    upTo_append (fun hb => h (List.mem_reverse.mp hb)) _
  rw [upTo, upTo] at hu
  rw [afterLast, afterLast, List.reverse_append, hu, List.reverse_append, List.reverse_reverse]

/-- A text goes on with the character that its part is cut at. -/
theorem exists_eq_upTo_append (c : Char) (text : List Char) :
  ∃ rest, text = upTo c text ++ rest ∧ upTo c rest = []
  := by
  refine ⟨text.dropWhile (· ≠ c), List.takeWhile_append_dropWhile.symm, ?_⟩
  rw [upTo, List.takeWhile_eq_nil_iff]
  intro hl
  exact List.dropWhile_get_zero_not _ _ hl

/-- What stands before the last part of a text ends with the character that it is cut at. -/
theorem exists_eq_append_afterLast (c : Char) (text : List Char) :
  ∃ first, text = first ++ afterLast c text ∧ afterLast c first = []
  := by
  obtain ⟨rest, ht, hr⟩ := exists_eq_upTo_append c text.reverse
  refine ⟨rest.reverse, ?_, ?_⟩
  · rw [afterLast, ← upTo, ← List.reverse_append, ← ht, List.reverse_reverse]
  · rw [afterLast, List.reverse_reverse, ← upTo, hr, List.reverse_nil]

/-- The line on which a place in a text lies, and which it is. -/
theorem getElem?_lines_append (a b : List Char) :
  (lines (a ++ b))[a.count '\n']? = some (afterLast '\n' a ++ upTo '\n' b)
  := by
  induction a using List.reverseRecOn generalizing b with
  | nil => exact getElem?_zero_lines b
  | append_singleton a c ih =>
    rw [List.append_assoc, List.singleton_append, afterLast_concat, List.count_append]
    by_cases hc : c = '\n'
    · rw [hc, lines_append, List.count_singleton_self, ← length_lines,
        List.getElem?_append_right (Nat.le_refl _), Nat.sub_self, getElem?_zero_lines, if_pos rfl,
        List.nil_append]
    · rw [List.count_singleton, if_neg (by simpa using hc), Nat.add_zero, ih, if_neg hc,
        List.append_assoc]
      simp [upTo, hc]

/-- A text has a part with each number of line feeds up to its own. -/
theorem exists_prefix_count {text : List Char} {i : Nat} (h : i ≤ text.count '\n') :
  ∃ a b, text = a ++ b ∧ a.count '\n' = i
  := by
  induction text generalizing i with
  | nil => exact ⟨[], [], rfl, (Nat.le_zero.mp h).symm⟩
  | cons c rest ih =>
    by_cases hi : i = 0
    · exact ⟨[], c :: rest, rfl, hi.symm⟩
    · rw [List.count_cons] at h
      have hle : i - (if c == '\n' then 1 else 0) ≤ rest.count '\n' := by omega
      obtain ⟨a, b, rfl, ha⟩ := ih hle
      refine ⟨c :: a, b, rfl, ?_⟩
      rw [List.count_cons, ha]
      split <;> omega

/-- The places on a line of a text. -/
theorem getElem?_lines_iff {text u v : List Char} {i : Nat} :
  (lines text)[i]? = some (u ++ v) ↔
    ∃ a b, text = a ++ b ∧ a.count '\n' = i ∧ afterLast '\n' a = u ∧ upTo '\n' b = v
  := by
  constructor
  · intro h
    have hi : i ≤ text.count '\n' := by
      obtain ⟨hi, _⟩ := List.getElem?_eq_some_iff.mp h
      rw [length_lines] at hi
      exact Nat.le_of_lt_succ hi
    obtain ⟨a, b, rfl, hcount⟩ := exists_prefix_count hi
    obtain ⟨first, ha, hfirst⟩ := exists_eq_append_afterLast '\n' a
    obtain ⟨rest, hb, hrest⟩ := exists_eq_upTo_append '\n' b
    have hline : afterLast '\n' a ++ upTo '\n' b = u ++ v := by
      rw [← hcount, getElem?_lines_append] at h
      exact Option.some.inj h
    have hnot : '\n' ∉ u ++ v := by
      rw [← hline, List.mem_append, not_or]
      exact ⟨not_mem_afterLast _ _, not_mem_upTo _ _⟩
    rw [List.mem_append, not_or] at hnot
    refine ⟨first ++ u, v ++ rest, ?_, ?_, ?_, ?_⟩
    · rw [List.append_assoc, ← List.append_assoc u, ← hline, List.append_assoc, ← hb,
        ← List.append_assoc, ← ha]
    · have hc : (afterLast '\n' a).count '\n' = 0 :=
        List.count_eq_zero.mpr (not_mem_afterLast _ _)
      rw [ha, List.count_append, hc] at hcount
      rw [List.count_append, List.count_eq_zero.mpr hnot.1]
      exact hcount
    · rw [afterLast_append _ hnot.1, hfirst, List.nil_append]
    · rw [upTo_append hnot.2, hrest, List.append_nil]
  · rintro ⟨a, b, rfl, rfl, rfl, rfl⟩
    exact getElem?_lines_append a b

/-- Two texts have the same number of lines and differ only in lines that are comments in both. -/
def SameCode (a b : List Char) : Prop :=
  List.Forall₂ (fun l l' => l = l' ∨ isComment l ∧ isComment l') (lines a) (lines b)

end Text

namespace Source

/-- A numbered line some lines further down. -/
def moveLine (n : Nat) (l : Nat × List Char) : Nat × List Char :=
  (l.1 + n, l.2)

/-- The numbered lines of two texts with a line feed between them: those of the second text come
further down by as many lines as the first text has. -/
theorem numberedLines_append (a b : List Char) (platform : String) :
  numberedLines ⟨a ++ '\n' :: b, platform⟩ =
    numberedLines ⟨a, platform⟩ ++
      (numberedLines ⟨b, platform⟩).map (moveLine (a.count '\n' + 1))
  := by
  simp only [numberedLines, lines, Text.lines_append]
  rw [List.mapIdx_append, Text.length_lines]
  congr 1
  apply List.ext_getElem
  · simp
  · intro i _ _
    simp [moveLine, Nat.add_right_comm]

/-- The lines are numbered from one to the number of lines. -/
theorem number_bounds {text : List Char} {platform : String} {l : Nat × List Char}
    (h : l ∈ numberedLines ⟨text, platform⟩) :
  1 ≤ l.1 ∧ l.1 ≤ text.count '\n' + 1
  := by
  obtain ⟨i, hi, rfl⟩ := List.mem_mapIdx.mp h
  rw [lines, Text.length_lines] at hi
  exact ⟨Nat.le_add_left 1 i, hi⟩

/-- Each line has a number. -/
theorem mem_lines_iff {source : Source} {line : List Char} :
  line ∈ source.lines ↔ ∃ n, (n, line) ∈ source.numberedLines
  := by
  constructor
  · intro h
    obtain ⟨i, hi, rfl⟩ := List.getElem_of_mem h
    exact ⟨i + 1, List.mem_mapIdx.mpr ⟨i, hi, rfl⟩⟩
  · rintro ⟨n, h⟩
    obtain ⟨i, hi, he⟩ := List.mem_mapIdx.mp h
    rw [← (Prod.mk.inj he).2]
    exact List.getElem_mem hi

/-- The numbered line on which a place in a text lies. -/
theorem mem_numberedLines_append (a b : List Char) (platform : String) :
  (a.count '\n' + 1, Text.afterLast '\n' a ++ Text.upTo '\n' b) ∈
    numberedLines ⟨a ++ b, platform⟩
  := by
  obtain ⟨hi, hl⟩ := List.getElem?_eq_some_iff.mp (Text.getElem?_lines_append a b)
  apply List.mem_mapIdx.mpr
  exact ⟨a.count '\n', hi, by rw [← hl]; rfl⟩

/-- The places on a numbered line. -/
theorem mem_numberedLines_iff {source : Source} {n : Nat} {u v : List Char} :
  (n, u ++ v) ∈ source.numberedLines ↔
    ∃ a b, source.text = a ++ b ∧ a.count '\n' + 1 = n ∧
      Text.afterLast '\n' a = u ∧ Text.upTo '\n' b = v
  := by
  constructor
  · intro h
    obtain ⟨i, hi, he⟩ := List.mem_mapIdx.mp h
    obtain ⟨rfl, hline⟩ := Prod.mk.inj he
    have hl : (Text.lines source.text)[i]? = some (u ++ v) :=
      List.getElem?_eq_some_iff.mpr ⟨hi, hline⟩
    obtain ⟨a, b, ht, rfl, hu, hv⟩ := Text.getElem?_lines_iff.mp hl
    exact ⟨a, b, ht, rfl, hu, hv⟩
  · rintro ⟨a, b, ht, rfl, rfl, rfl⟩
    have hl := mem_numberedLines_append a b source.platform
    rw [← ht] at hl
    exact hl

/-- The lines are numbered in order. -/
theorem pairwise_numberedLines (source : Source) :
  source.numberedLines.Pairwise fun l l' => l.1 < l'.1
  := by
  rw [numberedLines, List.pairwise_iff_getElem]
  intro i j hi hj hij
  simpa using hij

/-- A number is that of one line. -/
theorem eq_of_mem_numberedLines {source : Source} {l l' : Nat × List Char}
    (hl : l ∈ source.numberedLines) (hl' : l' ∈ source.numberedLines) (h : l.1 = l'.1) :
  l = l'
  := by
  have hn : (source.numberedLines.map (·.1)).Nodup :=
    List.pairwise_map.mpr ((pairwise_numberedLines source).imp Nat.ne_of_lt)
  exact List.inj_on_of_nodup_map hn hl hl' h

/-- What is collected from the lines of two texts is the same if it is the same for each line of the
one and that of the other. -/
theorem flatMap_numberedLines_congr {α : Type} {f : Nat × List Char → List α}
    {R : List Char → List Char → Prop} (hf : ∀ n l l', R l l' → f (n, l) = f (n, l'))
    {s s' : Source} (h : List.Forall₂ R s.lines s'.lines) :
  s.numberedLines.flatMap f = s'.numberedLines.flatMap f
  := by
  -- The numbers are generalized, so that the induction goes from one line to the next.
  suffices hn : ∀ number : Nat → Nat,
      (s.lines.mapIdx fun i line => (number i, line)).flatMap f =
        (s'.lines.mapIdx fun i line => (number i, line)).flatMap f from hn (· + 1)
  generalize s.lines = ls, s'.lines = ls' at h ⊢
  induction h with
  | nil => exact fun _ => rfl
  | cons hl _ ih =>
    intro number
    rw [List.mapIdx_cons, List.mapIdx_cons, List.flatMap_cons, List.flatMap_cons, ih, hf _ _ _ hl]

/-- What is collected from the lines of a text that are no comments depends on its code only. -/
theorem flatMap_numberedLines {α : Type} {f : Nat × List Char → List α}
    (hf : ∀ l, isComment l.2 → f l = []) {a b : List Char} (h : Text.SameCode a b)
    (platform : String) :
  (numberedLines ⟨a, platform⟩).flatMap f = (numberedLines ⟨b, platform⟩).flatMap f
  := by
  have hl : ∀ n l l', l = l' ∨ isComment l ∧ isComment l' → f (n, l) = f (n, l') := by
    rintro n l l' (rfl | ⟨hc, hc'⟩)
    · rfl
    · rw [hf (n, l) hc, hf (n, l') hc']
  exact flatMap_numberedLines_congr hl h

end Source

end PipelineAudit
