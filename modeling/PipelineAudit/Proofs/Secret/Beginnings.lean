import PipelineAudit.Proofs.Pattern.Outlines
import PipelineAudit.Proofs.Text.Case
import PipelineAudit.Rule.ExposedSecrets

/-!
# How secrets begin

The first characters of a secret are marked: a letter in either case, a letter for which one beyond
ASCII may stand, a blank, or any character.

* `exists_beginning`: every text of a signature, if it is not short, begins as some marks say of a
  small stock.  So no signature has to be read to see that no secret begins at a place of a wording.
-/

namespace PipelineAudit.Secret

open Outline Pattern

/-! ### Letters without their case -/

/-- The number that the two cases of an ASCII letter have in common. -/
def caseless (c : Char) : Nat :=
  c.toNat ||| 32

theorem caseless_toLower (c : Char) :
  caseless c.toLower = caseless c
  := by
  obtain h | ⟨k, hk, rfl⟩ := Text.toLower_eq_or_capital c
  · rw [h]
  · revert k
    decide

theorem caseless_of_sameLetter {c d : Char} (h : sameLetter c d) (hd : foldsTo d.toLower = []) :
  caseless c = caseless d
  := by
  rw [sameLetter, hd, List.contains_nil, Bool.or_false, Bool.or_eq_true, decide_eq_true_iff,
    decide_eq_true_iff] at h
  rcases h with rfl | h
  · rfl
  · rw [← caseless_toLower c, h, caseless_toLower]

/-! ### Beginnings -/

/-- What is known of a character at the beginning of a secret. -/
inductive Mark where
  | letter (c : Char)
  /-- A letter for which one beyond ASCII may stand. -/
  | folded (c : Char)
  | blank
  | any
  deriving DecidableEq

namespace Mark

/-- Whether a character is as a mark says. -/
def fits : Mark → Char → Bool
  | letter d, c => caseless c == caseless d
  | folded d, c => sameLetter c d
  | blank, c => Text.isBlank c
  | any, _ => true

end Mark

/-- How texts of the signatures go on after their first letter. -/
def afterLetter : List (Char × List (List Mark)) := [
  ('a', [[.letter 'k', .letter 'i', .letter 'a'],
    [.letter 'w', .folded 's', .letter '_'],
    [.letter 'r', .letter 'g', .blank],
    [.letter 'p', .folded 'i'],
    [.letter 'u', .letter 't', .letter 'h'],
    [.letter 'i', .letter 'z', .letter 'a']]),
  ('e', [[.letter 'n', .letter 'v', .blank], [.letter 'y', .letter 'j']]),
  ('f', [[.letter 'w', .letter 'o', .letter 'g']]),
  ('g', [[.letter 'h', .any, .letter '_']]),
  ('m', [[.letter 'o', .letter 'n', .letter 'g'], [.letter 'y', .folded 's', .letter 'q']]),
  ('p', [[.letter 'a', .folded 's', .folded 's', .letter 'w'],
    [.letter 'w', .letter 'd'],
    [.letter 'o', .folded 's', .letter 't', .letter 'g'],
    [.letter 'k']]),
  ('s', [[.letter 'k']]),
  ('t', [[.letter 'o', .folded 'k', .letter 'e', .letter 'n']]),
  ('x', [[.letter 'o', .letter 'x']]),
  ('-', [[.letter '-', .letter '-', .letter '-']])]

/-- The ways in which texts of the signatures begin. -/
def beginnings : List (List Mark) :=
  afterLetter.flatMap fun b => b.2.map (.letter b.1 :: ·)

/-- Whether a text begins as some marks say. -/
def begins : List Mark → List Char → Bool
  | [], _ => true
  | mark :: marks, c :: text => mark.fits c && begins marks text
  | _ :: _, [] => false

theorem begins_append {marks marks' : List Mark} {text : List Char} (h : begins marks text)
    (h' : begins marks' (text.drop marks.length)) :
  begins (marks ++ marks') text
  := by
  induction marks generalizing text with
  | nil => exact h'
  | cons mark marks ih =>
    cases text with
    | nil => cases h
    | cons c text =>
      rw [begins, Bool.and_eq_true] at h
      rw [List.cons_append, begins, h.1, Bool.true_and]
      exact ih h.2 h'

theorem begins_take {marks : List Mark} {text : List Char} {n : Nat} (h : begins marks text)
    (hn : marks.length ≤ n) :
  begins marks (text.take n)
  := by
  induction marks generalizing text n with
  | nil => cases text.take n <;> rfl
  | cons mark marks ih =>
    cases text with
    | nil => cases h
    | cons c text =>
      obtain ⟨n, rfl⟩ := Nat.exists_eq_succ_of_ne_zero (Nat.ne_zero_of_lt hn)
      rw [begins, Bool.and_eq_true] at h
      rw [List.take_succ_cons, begins, h.1, Bool.true_and]
      exact ih h.2 (Nat.le_of_succ_le_succ hn)

/-- Whether a word begins as some marks say.  A letter in either case has to be fixed: no letter
beyond ASCII stands for it. -/
def isHead (fixed : Char → Bool) : List Mark → List Char → Bool
  | [], _ => true
  | .any :: marks, _ :: word => isHead fixed marks word
  | .letter c :: marks, d :: word => fixed d && caseless d == caseless c && isHead fixed marks word
  | .folded c :: marks, d :: word => d == c && isHead fixed marks word
  | .blank :: _, _ => false
  | _ :: _, [] => false

/-- A text that begins with characters of the classes of a word begins as the word does.  The
induction is on the marks; they end before the text does. -/
theorem begins_of_isHead {allowed : Char → Char → Bool} {fixed : Char → Bool}
    (hf : ∀ c d, fixed d → allowed c d → caseless c = caseless d)
    (hs : ∀ c d, allowed c d → sameLetter c d) {marks : List Mark} {word text : List Char}
    (h : isHead fixed marks word) (hl : marks.length ≤ text.length)
    (hz : ((word.map fun d => (allowed · d)).zip text).all fun p => p.1 p.2) :
  begins marks text
  := by
  induction marks generalizing word text with
  | nil => rfl
  | cons mark marks ih =>
    cases word with
    | nil => cases mark <;> cases h
    | cons d word =>
      cases text with
      | nil => cases hl
      | cons c text =>
        rw [List.map_cons, List.zip_cons_cons, List.all_cons, Bool.and_eq_true] at hz
        have hl' : marks.length ≤ text.length := Nat.le_of_succ_le_succ hl
        cases mark with
        | any =>
          rw [begins, Mark.fits, Bool.true_and]
          exact ih h hl' hz.2
        | letter x =>
          rw [isHead, Bool.and_eq_true, Bool.and_eq_true] at h
          have hc : caseless c = caseless x := (hf c d h.1.1 hz.1).trans (eq_of_beq h.1.2)
          rw [begins, Mark.fits, hc, beq_self_eq_true, Bool.true_and]
          exact ih h.2 hl' hz.2
        | folded x =>
          rw [isHead, Bool.and_eq_true, beq_iff_eq] at h
          rw [begins, Mark.fits, ← h.1, hs c d hz.1, Bool.true_and]
          exact ih h.2 hl' hz.2
        | blank => cases h

/-! ### The signatures -/

theorem lit_eq (word : String) :
  lit word = inOrder ((word.toList.map fun d => (decide <| · = d)).map one)
  := by
  rw [List.map_map]
  rfl

theorem litFolded_eq (word : String) :
  litFolded word = inOrder ((word.toList.map fun d => (sameLetter · d)).map one)
  := by
  rw [List.map_map]
  rfl

/-- A text begins in one of the ways in which texts of the signatures do. -/
def HasBeginning (text : List Char) : Prop :=
  ∃ marks ∈ beginnings, begins marks text

theorem length_le_of_mem_beginnings :
  ∀ marks ∈ beginnings, marks.length ≤ 8
  := by decide

section

variable {text : List Char} (hlong : 8 < text.length)

include hlong

theorem begins_of_lit {word : String} {marks : List Mark}
    (h : word.toList ≠ [] ∧ marks.length ≤ 8 ∧ isHead (fun _ => true) marks word.toList)
    (hr : (lit word).read (known text) ≠ []) :
  begins marks text
  := by
  rw [lit_eq] at hr
  have hz := all_of_read_inOrder_one_ne_nil (by simpa using h.1) hr
  exact begins_of_isHead (fun c d _ hc => by rw [of_decide_eq_true hc])
    (fun c d hc => by rw [of_decide_eq_true hc]; simp [sameLetter]) h.2.2 (by omega) hz

/-- The letters for which none beyond ASCII stand are fixed. -/
theorem begins_of_litFolded {word : String} {marks : List Mark}
    (h : word.toList ≠ [] ∧ marks.length ≤ 8 ∧
      isHead (fun d => (foldsTo d.toLower).isEmpty) marks word.toList)
    (hr : (litFolded word).read (known text) ≠ []) :
  begins marks text
  := by
  rw [litFolded_eq] at hr
  have hz := all_of_read_inOrder_one_ne_nil (by simpa using h.1) hr
  exact begins_of_isHead (fun c d hd hc => caseless_of_sameLetter hc (List.isEmpty_iff.mp hd))
    (fun _ _ hc => hc) h.2.2 (by omega) hz

theorem hasBeginning_of_lit {word : String}
    (h : word.toList ≠ [] ∧ ∃ marks ∈ beginnings, isHead (fun _ => true) marks word.toList)
    (hr : (lit word).read (known text) ≠ []) :
  HasBeginning text
  := by
  obtain ⟨hn, marks, hm, hh⟩ := h
  exact ⟨marks, hm, begins_of_lit hlong ⟨hn, length_le_of_mem_beginnings marks hm, hh⟩ hr⟩

theorem hasBeginning_of_litFolded {word : String}
    (h : word.toList ≠ [] ∧
      ∃ marks ∈ beginnings, isHead (fun d => (foldsTo d.toLower).isEmpty) marks word.toList)
    (hr : (litFolded word).read (known text) ≠ []) :
  HasBeginning text
  := by
  obtain ⟨hn, marks, hm, hh⟩ := h
  exact ⟨marks, hm, begins_of_litFolded hlong ⟨hn, length_le_of_mem_beginnings marks hm, hh⟩ hr⟩

/-- A word and a blank. -/
theorem hasBeginning_of_blankAfter {word : String} {next : Pattern}
    (h : word.toList ≠ [] ∧ ∃ marks ∈ beginnings, marks.length = word.toList.length + 1 ∧
      isHead (fun d => (foldsTo d.toLower).isEmpty) (marks.take word.toList.length) word.toList ∧
      marks.drop word.toList.length = [.blank])
    (hr : (seq (litFolded word) (seq (many1 blank) next)).read (known text) ≠ []) :
  HasBeginning text
  := by
  obtain ⟨hn, marks, hm, hlen, hh, hblank⟩ := h
  have hshort := length_le_of_mem_beginnings marks hm
  refine ⟨marks, hm, ?_⟩
  rw [← List.take_append_drop word.toList.length marks]
  have htake : (marks.take word.toList.length).length = word.toList.length := by
    rw [List.length_take]
    omega
  apply begins_append
  · exact begins_of_litFolded hlong ⟨hn, by omega, hh⟩ (read_seq_ne_nil hr)
  · rw [litFolded_eq] at hr
    have hr := read_seq_ne_nil (read_drop_ne_nil (by simpa using hn) hr (by simp; omega))
    obtain ⟨c, rest, hd⟩ : ∃ c rest, text.drop word.toList.length = c :: rest :=
      List.exists_cons_of_ne_nil (by rw [ne_eq, List.drop_eq_nil_iff]; omega)
    rw [List.length_map, hd] at hr
    rw [htake, hd, hblank, begins, Mark.fits, begins, Bool.and_true]
    exact read_many1_one_ne_nil hr

/-- Two letters, one of some, and an underscore. -/
theorem hasBeginning_of_hubToken {chars : String} {next : Pattern}
    (hr : (seq (lit "gh") (seq (oneOfChars chars) (seq (lit "_") next))).read (known text) ≠ []) :
  HasBeginning text
  := by
  obtain ⟨a, b, c, d, rest, rfl⟩ : ∃ a b c d rest, text = a :: b :: c :: d :: rest := by
    match text with
    | a :: b :: c :: d :: rest => exact ⟨a, b, c, d, rest, rfl⟩
    | [] | [_] | [_, _] | [_, _, _] => simp at hlong
  refine ⟨[.letter 'g', .letter 'h', .any, .letter '_'], by decide, ?_⟩
  simp [inOrder, lit, oneOfChars, Pattern.read, Readings.followedBy, known] at hr
  obtain ⟨rfl, rfl, _, rfl, _⟩ := hr
  simp [begins, Mark.fits]

/-- Every text of a signature that is long enough has one of the beginnings. -/
theorem exists_beginning {s : Signature} (hs : s ∈ signatures)
    (hr : s.pattern.read (known text) ≠ []) :
  HasBeginning text
  := by
  simp only [signatures, List.mem_cons, List.not_mem_nil, or_false] at hs
  rcases hs with rfl | rfl | rfl | rfl | rfl | rfl | rfl | rfl | rfl | rfl | rfl | rfl | rfl |
    rfl | rfl | rfl
  · exact hasBeginning_of_lit hlong (by decide) (read_seq_ne_nil hr)
  · exact hasBeginning_of_litFolded hlong (by decide) (read_seq_ne_nil hr)
  · exact hasBeginning_of_lit hlong (by decide) (read_seq_ne_nil hr)
  · exact hasBeginning_of_hubToken hlong hr
  · exact hasBeginning_of_lit hlong (by decide) (read_seq_ne_nil hr)
  · exact hasBeginning_of_lit hlong (by decide) (read_seq_ne_nil hr)
  · rcases read_seq_either_ne_nil hr with hr | hr
    · exact hasBeginning_of_blankAfter hlong (by decide) hr
    · exact hasBeginning_of_blankAfter hlong (by decide) hr
  · rcases read_either_ne_nil (read_seq_ne_nil hr) with hr | hr
    · exact hasBeginning_of_litFolded hlong (by decide) (read_seq_ne_nil hr)
    · exact hasBeginning_of_litFolded hlong (by decide) hr
  · rcases read_either_ne_nil (read_seq_ne_nil hr) with hr | hr
    · exact hasBeginning_of_litFolded hlong (by decide) hr
    · rcases read_either_ne_nil hr with hr | hr
      · exact hasBeginning_of_litFolded hlong (by decide) hr
      · exact hasBeginning_of_litFolded hlong (by decide) hr
  · rcases read_either_ne_nil (read_seq_ne_nil hr) with hr | hr
    · exact hasBeginning_of_litFolded hlong (by decide) hr
    · exact hasBeginning_of_litFolded hlong (by decide) (read_seq_ne_nil hr)
  · exact hasBeginning_of_litFolded hlong (by decide) (read_seq_ne_nil hr)
  · rcases read_either_ne_nil (read_seq_ne_nil hr) with hr | hr
    · exact hasBeginning_of_litFolded hlong (by decide) hr
    · rcases read_either_ne_nil hr with hr | hr
      · exact hasBeginning_of_litFolded hlong (by decide) hr
      · rcases read_either_ne_nil hr with hr | hr
        · exact hasBeginning_of_litFolded hlong (by decide) hr
        · exact hasBeginning_of_litFolded hlong (by decide) hr
  · exact hasBeginning_of_lit hlong (by decide) (read_seq_ne_nil hr)
  · exact hasBeginning_of_lit hlong (by decide) (read_seq_ne_nil hr)
  · exact hasBeginning_of_lit hlong (by decide) (read_seq_ne_nil hr)
  · rcases read_either_ne_nil (read_seq_ne_nil hr) with hr | hr
    · exact hasBeginning_of_lit hlong (by decide) hr
    · exact hasBeginning_of_lit hlong (by decide) hr

end

end PipelineAudit.Secret
