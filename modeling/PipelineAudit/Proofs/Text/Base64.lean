import Mathlib.Data.List.Basic
import PipelineAudit.Text.Base64

/-!
# Encoding and decoding base64

What the spelling for addresses writes is read back, once the padding is put in place again.

* `decode?_padded_encodeUrl`: decoding undoes encoding.
* `dot_not_mem_encodeUrl`: no spelling holds a dot.
-/

namespace PipelineAudit.Text.Base64

/-! ### The alphabet -/

theorem value?_urlChar {v : Nat} (hv : v < 64) :
  value? (urlChar v) = some v
  := by
  have hall : ∀ v < 64, value? (urlChar v) = some v := by decide
  exact hall v hv

/-- The letters of the alphabet are plain characters, other than the padding and the dot. -/
theorem urlChar_plain {v : Nat} (hv : v < 64) :
  urlChar v ≠ '=' ∧ urlChar v ≠ '.' ∧ (urlChar v).toNat < 128
  := by
  have hall : ∀ v < 64, urlChar v ≠ '=' ∧ urlChar v ≠ '.' ∧ (urlChar v).toNat < 128 := by decide
  exact hall v hv

/-- The characters of a spelling are those of the values below sixty-four. -/
theorem exists_of_mem_encodeUrl {bytes : List UInt8} {c : Char} (h : c ∈ encodeUrl bytes) :
  ∃ v < 64, c = urlChar v
  := by
  induction bytes using encodeUrl.induct with
  | case1 => cases h
  | case2 a =>
    have ha := a.toNat_lt
    simp only [encodeUrl, List.mem_cons, List.not_mem_nil, or_false] at h
    obtain rfl | rfl := h
    · exact ⟨_, by omega, rfl⟩
    · exact ⟨_, by omega, rfl⟩
  | case3 a b =>
    have ha := a.toNat_lt
    have hb := b.toNat_lt
    simp only [encodeUrl, List.mem_cons, List.not_mem_nil, or_false] at h
    obtain rfl | rfl | rfl := h
    · exact ⟨_, by omega, rfl⟩
    · exact ⟨_, by omega, rfl⟩
    · exact ⟨_, by omega, rfl⟩
  | case4 a b c' rest ih =>
    have ha := a.toNat_lt
    have hb := b.toNat_lt
    have hc := c'.toNat_lt
    simp only [encodeUrl, List.mem_cons] at h
    obtain rfl | rfl | rfl | rfl | h := h
    · exact ⟨_, by omega, rfl⟩
    · exact ⟨_, by omega, rfl⟩
    · exact ⟨_, by omega, rfl⟩
    · exact ⟨_, by omega, rfl⟩
    · exact ih h

theorem dot_not_mem_encodeUrl (bytes : List UInt8) :
  '.' ∉ encodeUrl bytes
  := by
  intro h
  obtain ⟨v, hv, he⟩ := exists_of_mem_encodeUrl h
  exact (urlChar_plain hv).2.1 he.symm

/-! ### Decoding a group of four -/

/-- A character of the alphabet that completes no byte. -/
theorem decodeFrom_of_add_none {g g' : Group} {v : Nat} (hv : v < 64) (h : g.add v = (none, g'))
    (rest : List Char) :
  decodeFrom g (urlChar v :: rest) = decodeFrom g' rest
  := by
  rw [decodeFrom]
  · simp only [value?_urlChar hv, h]
  · exact (urlChar_plain hv).1

/-- A character of the alphabet that completes a byte. -/
theorem decodeFrom_of_add_some {g g' : Group} {v : Nat} {b : UInt8} (hv : v < 64)
    (h : g.add v = (some b, g')) (rest : List Char) :
  decodeFrom g (urlChar v :: rest) = (decodeFrom g' rest).map (b :: ·)
  := by
  rw [decodeFrom]
  · simp only [value?_urlChar hv, h]
  · exact (urlChar_plain hv).1

/-- The first two characters make the first byte of a group. -/
theorem decodeFrom_first (a : UInt8) {low : Nat} (hlow : low < 16) (rest : List Char) :
  decodeFrom ⟨0, 0, 0⟩ (urlChar (a.toNat / 4) :: urlChar (a.toNat % 4 * 16 + low) :: rest) =
    (decodeFrom ⟨2, low, 0⟩ rest).map (a :: ·)
  := by
  have ha := a.toNat_lt
  have hadd : Group.add ⟨1, a.toNat / 4, 0⟩ (a.toNat % 4 * 16 + low) = (some a, ⟨2, low, 0⟩) := by
    have hbyte : a.toNat / 4 * 4 + (a.toNat % 4 * 16 + low) / 16 = a.toNat := by omega
    have hbits : (a.toNat % 4 * 16 + low) % 16 = low := by omega
    simp only [Group.add, hbyte, hbits, UInt8.ofNat_toNat]
  rw [decodeFrom_of_add_none (by omega) rfl, decodeFrom_of_add_some (by omega) hadd]

/-- The third character makes the second byte. -/
theorem decodeFrom_second (b : UInt8) {low : Nat} (hlow : low < 4) (rest : List Char) :
  decodeFrom ⟨2, b.toNat / 16, 0⟩ (urlChar (b.toNat % 16 * 4 + low) :: rest) =
    (decodeFrom ⟨3, low, 0⟩ rest).map (b :: ·)
  := by
  have hadd : Group.add ⟨2, b.toNat / 16, 0⟩ (b.toNat % 16 * 4 + low) =
      (some b, ⟨3, low, 0⟩) := by
    have hbyte : b.toNat / 16 * 16 + (b.toNat % 16 * 4 + low) / 4 = b.toNat := by omega
    have hbits : (b.toNat % 16 * 4 + low) % 4 = low := by omega
    simp only [Group.add, hbyte, hbits, UInt8.ofNat_toNat]
  exact decodeFrom_of_add_some (by omega) hadd rest

/-- The fourth character makes the third byte and ends the group. -/
theorem decodeFrom_third (c : UInt8) (rest : List Char) :
  decodeFrom ⟨3, c.toNat / 64, 0⟩ (urlChar (c.toNat % 64) :: rest) =
    (decodeFrom ⟨0, 0, 0⟩ rest).map (c :: ·)
  := by
  have hadd : Group.add ⟨3, c.toNat / 64, 0⟩ (c.toNat % 64) = (some c, ⟨0, 0, 0⟩) := by
    have hbyte : c.toNat / 64 * 64 + c.toNat % 64 = c.toNat := by omega
    simp only [Group.add, hbyte, UInt8.ofNat_toNat]
  exact decodeFrom_of_add_some (by omega) hadd rest

/-! ### Whole texts -/

/-- A group of four characters needs no padding of its own. -/
theorem padded_cons_four (a b c d : Char) (text : List Char) :
  padded (a :: b :: c :: d :: text) = a :: b :: c :: d :: padded text
  := by
  have hlength : (a :: b :: c :: d :: text).length % 4 = text.length % 4 := by
    rw [List.length_cons, List.length_cons, List.length_cons, List.length_cons]
    omega
  rw [padded, padded, hlength]
  rfl

theorem decodeFrom_padded_encodeUrl (bytes : List UInt8) :
  decodeFrom ⟨0, 0, 0⟩ (padded (encodeUrl bytes)) = some bytes
  := by
  induction bytes using encodeUrl.induct with
  | case1 => rfl
  | case2 a =>
    have hpads : decodeFrom ⟨2, 0, 0⟩ ['=', '='] = some [] := rfl
    have hfirst := decodeFrom_first a (by decide : 0 < 16) ['=', '=']
    rw [hpads] at hfirst
    exact hfirst
  | case3 a b =>
    have hb := b.toNat_lt
    have hpads : decodeFrom ⟨3, 0, 0⟩ ['='] = some [] := rfl
    have hsecond := decodeFrom_second b (by decide : 0 < 4) ['=']
    rw [hpads] at hsecond
    have hfirst := decodeFrom_first a (by omega : b.toNat / 16 < 16)
      [urlChar (b.toNat % 16 * 4 + 0), '=']
    rw [hsecond] at hfirst
    exact hfirst
  | case4 a b c rest ih =>
    have hb := b.toNat_lt
    have hc := c.toNat_lt
    rw [encodeUrl, padded_cons_four, decodeFrom_first a (by omega),
      decodeFrom_second b (by omega), decodeFrom_third, ih]
    rfl

/-- Decoding undoes encoding. -/
theorem decode?_padded_encodeUrl (bytes : List UInt8) :
  decode? (padded (encodeUrl bytes)) = some bytes
  := by
  have hascii : (padded (encodeUrl bytes)).all (·.toNat < 128) := by
    rw [padded, List.all_append, Bool.and_eq_true, List.all_eq_true, List.all_eq_true]
    constructor
    · intro c hc
      obtain ⟨v, hv, rfl⟩ := exists_of_mem_encodeUrl hc
      exact decide_eq_true (urlChar_plain hv).2.2
    · intro c hc
      rw [List.eq_of_mem_replicate hc]
      rfl
  rw [decode?, if_pos hascii]
  exact decodeFrom_padded_encodeUrl bytes

end PipelineAudit.Text.Base64
