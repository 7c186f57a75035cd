import PipelineAudit.Text.Basic
import PipelineAudit.Text.Blank
import PipelineAudit.Text.Case
import Mathlib.Data.List.Basic

/-!
# Lower case

The lower case of a text without a capital sigma is found character by character, in ASCII as the
lower case of the letters.

* `lower_append`, `lower_of_ascii`, `lower_eq_self`: the lower case of the parts of a text.
* `forall_isBlank`: a property of blanks is checked one by one.
* `infix_append_cons`: a word lies on one side of a character that it does not have.
-/

namespace PipelineAudit

namespace Text

/-- A character that has a lower case of its own in ASCII is one of the capitals. -/
theorem toLower_eq_or_capital (c : Char) :
  c.toLower = c ∨ ∃ k < 26, c = Char.ofNat (65 + k)
  := by
  by_cases h : 65 ≤ c.toNat ∧ c.toNat ≤ 90
  case pos =>
    refine .inr ⟨c.toNat - 65, by omega, ?_⟩
    rw [Nat.add_sub_cancel' h.1, Char.ofNat_toNat]
  case neg => exact .inl (dif_neg (by simpa [UInt32.le_iff_toNat_le] using h))

theorem toLower_toLower (c : Char) :
  c.toLower.toLower = c.toLower
  := by
  obtain h | ⟨k, hk, rfl⟩ := toLower_eq_or_capital c
  · rw [h, h]
  · revert k
    decide

theorem toLower_ascii {c : Char} (h : c.toNat < 128) :
  c.toLower.toNat < 128
  := by
  obtain hl | ⟨k, hk, rfl⟩ := toLower_eq_or_capital c
  · rwa [hl]
  · clear h
    revert k
    decide

theorem lower_eq_flatMap {text : List Char} (h : 'Σ' ∉ text) :
  lower text = text.flatMap lowerChar
  := by
  have ha : ∀ before, lowerAfter before text = text.flatMap lowerChar := by
    induction text with
    | nil => exact fun _ => rfl
    | cons c rest ih =>
      rw [List.mem_cons, not_or] at h
      intro before
      rw [lowerAfter, if_neg (Ne.symm h.1), ih h.2, List.flatMap_cons]
  exact ha []

theorem lower_append {a b : List Char} (h : 'Σ' ∉ a ++ b) :
  lower (a ++ b) = lower a ++ lower b
  := by
  have hab := h
  rw [List.mem_append, not_or] at hab
  rw [lower_eq_flatMap h, lower_eq_flatMap hab.1, lower_eq_flatMap hab.2, List.flatMap_append]

theorem lower_of_ascii {text : List Char} (h : ∀ c ∈ text, c.toNat < 128) :
  lower text = text.map Char.toLower
  := by
  have hs : 'Σ' ∉ text := fun hs => absurd (h 'Σ' hs) (by decide)
  rw [lower_eq_flatMap hs, List.map_eq_flatMap, List.flatMap_congr]
  intro c hc
  rw [lowerChar, if_pos (h c hc)]

/-- What holds of the characters of the ranges, one by one, holds of every blank. -/
theorem forall_isBlank (P : Char → Prop)
    (h : ∀ r ∈ blankRanges, ∀ k < r.2 + 1 - r.1, P (Char.ofNat (r.1 + k))) {c : Char}
    (hc : isBlank c) :
  P c
  := by
  obtain ⟨r, hr, hc⟩ := List.any_eq_true.mp hc
  rw [Bool.and_eq_true, decide_eq_true_iff, decide_eq_true_iff] at hc
  have hp := h r hr (c.toNat - r.1) (by omega)
  rw [Nat.add_sub_cancel' hc.1, Char.ofNat_toNat] at hp
  exact hp

theorem lower_eq_self {text : List Char} (h : ∀ c ∈ text, c ≠ 'Σ' ∧ lowerChar c = [c]) :
  lower text = text
  := by
  have hs : 'Σ' ∉ text := fun hs => (h 'Σ' hs).1 rfl
  rw [lower_eq_flatMap hs, List.flatMap_congr fun c hc => (h c hc).2, List.flatMap_singleton']

/-- A word in a text with a character that it does not have lies before the character or after
it. -/
theorem infix_append_cons {word a b : List Char} {c : Char} (hc : c ∉ word)
    (h : word <:+: a ++ c :: b) :
  word <:+: a ∨ word <:+: b
  := by
  have hp : ∀ w, c ∉ w → w <+: c :: b → w = [] := by
    intro w hw hp
    obtain hn | ⟨_, rfl, _⟩ := List.prefix_cons_iff.mp hp
    · exact hn
    · exact absurd List.mem_cons_self hw
  obtain ha | hb | ⟨w, w', rfl, hw, hw'⟩ := List.infix_append_iff.mp h
  · exact .inl ha
  · obtain hw | hb := List.infix_cons_iff.mp hb
    · rw [hp word hc hw]
      exact .inl (List.nil_infix)
    · exact .inr hb
  · rw [List.mem_append, not_or] at hc
    rw [hp w' hc.2 hw', List.append_nil]
    exact .inl hw.isInfix

/-- A word in a text that begins with characters that it does not have lies after these. -/
theorem infix_of_infix_append {word gap b : List Char} (hgap : ∀ c ∈ gap, c ∉ word)
    (h : word <:+: gap ++ b) :
  word <:+: b
  := by
  induction gap with
  | nil => exact h
  | cons c gap ih =>
    rw [List.forall_mem_cons] at hgap
    obtain hn | hb := infix_append_cons (a := []) hgap.1 h
    · rw [List.infix_nil.mp hn]
      exact List.nil_infix
    · exact ih hgap.2 hb

end Text

end PipelineAudit
