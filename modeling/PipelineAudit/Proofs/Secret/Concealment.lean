import Mathlib.Data.List.Infix
import PipelineAudit.Decimal.Binary
import PipelineAudit.Document.Text
import PipelineAudit.Proofs.Secret.Beginnings
import PipelineAudit.Proofs.Secret.Search

/-!
# Texts that conceal secrets

A text conceals a secret if the secret does not occur in it.  Texts are put together from wording,
quotations, masked secrets and numbers, and a secret could begin in one part and end in another.  It
does not if

* no secret begins in the wording (`isOpening`, `isEnding`) or in a number;
* the first nine characters of the secret do not occur in a quotation (`Unquoted`), and none of the
  last eight characters of a quotation begins a secret that goes on into the wording that follows
  (`Severs`);
* the fifth character of the secret is no star, so that its first nine characters do not occur in a
  masked secret (`Unquoted.mask`).
-/

namespace PipelineAudit.Secret

open Outline

/-- A secret that masking can hide: a text of a signature, of more than eight characters, the fifth
of which is no star. -/
structure Maskable (secret : List Char) : Prop where
  covered : ∃ s ∈ signatures, Covers s.pattern.read secret
  long : 8 < secret.length
  fifth : secret[4]? ≠ some '*'

/-- A secret that is found is a match of its signature, which is one of those known. -/
theorem Hit.exists_match {source : Source} {h : Hit} (hm : h ∈ hits source) :
  h.signature ∈ signatures ∧
    ∃ line, ∃ m ∈ h.signature.pattern.findAll line, m.text = h.text
  := by
  obtain ⟨hs, line, _, hm⟩ := exists_of_mem_hits hm
  obtain ⟨-, m, hf, -, he⟩ := Signature.mem_hitsOn_iff.mp hm
  exact ⟨hs, line.2, m, hf, congrArg Hit.text he⟩

/-- A secret that is found is one that masking can hide, if it is long and its fifth character is no
star. -/
theorem Hit.maskable {source : Source} {h : Hit} (hm : h ∈ hits source) (hlong : 8 < h.text.length)
    (hfifth : h.text[4]? ≠ some '*') :
  Maskable h.text
  := by
  obtain ⟨hs, line, m, hf, ht⟩ := Hit.exists_match hm
  exact ⟨⟨h.signature, hs, ht ▸ Pattern.covers_of_mem_findAll hf⟩, hlong, hfifth⟩

/-! ### Parts of texts -/

/-- A secret begins in a part of a text, given what follows the part. -/
def BeginsIn (secret part rest : List Char) : Prop :=
  ∃ s, s <:+ part ∧ s ≠ [] ∧ secret <+: s ++ rest

theorem beginsIn_append {secret a b rest : List Char} (h : BeginsIn secret (a ++ b) rest) :
  BeginsIn secret a (b ++ rest) ∨ BeginsIn secret b rest
  := by
  obtain ⟨s, hs, hn, hp⟩ := h
  rcases List.suffix_or_suffix_of_suffix hs (List.suffix_append a b) with hb | ⟨t, rfl⟩
  · exact .inr ⟨s, hb, hn, hp⟩
  · cases t with
    | nil => exact .inr ⟨b, List.suffix_refl b, hn, hp⟩
    | cons c t =>
      rw [List.append_assoc] at hp
      exact .inl ⟨c :: t, List.suffix_append_self_iff.mp hs, List.cons_ne_nil c t, hp⟩

theorem beginsIn_cons {secret part rest : List Char} {c : Char}
    (h : BeginsIn secret (c :: part) rest) :
  secret <+: c :: (part ++ rest) ∨ BeginsIn secret part rest
  := by
  obtain ⟨s, hs, hn, hp⟩ := h
  rcases List.suffix_cons_iff.mp hs with rfl | hs
  · exact .inl hp
  · exact .inr ⟨s, hs, hn, hp⟩

theorem not_beginsIn_nil {secret rest : List Char} :
  ¬ BeginsIn secret [] rest
  := by
  rintro ⟨s, hs, hn, _⟩
  exact hn (List.suffix_nil.mp hs)

/-- The beginning of a secret, as long as the shortest secrets that are masked in part, occurs in no
place of a quotation. -/
def Unquoted (secret : List Char) (quotation : String) : Prop :=
  ¬ secret.take 9 <:+: quotation.toList

/-- Whatever follows a text, a secret does not begin in it. -/
def Apart (secret : List Char) (t : String) : Prop :=
  ∀ rest, ¬ BeginsIn secret t.toList rest

/-- A secret does not occur in a text. -/
def Hidden (secret : List Char) (t : String) : Prop :=
  ¬ secret <:+: t.toList

theorem hidden_iff {secret : List Char} (hm : Maskable secret) {t : String} :
  Hidden secret t ↔ ¬ BeginsIn secret t.toList []
  := by
  rw [Hidden, List.infix_iff_prefix_suffix]
  constructor
  · rintro h ⟨s, hs, _, hp⟩
    exact h ⟨s, by simpa using hp, hs⟩
  · rintro h ⟨s, hp, hs⟩
    refine h ⟨s, hs, ?_, by simpa using hp⟩
    rintro rfl
    have := hm.long
    rw [List.prefix_nil.mp hp] at this
    simp at this

/-! ### Wording -/

/-- Whether a text departs from some marks, as far as both of them go. -/
def departs : List Mark → List Char → Bool
  | mark :: marks, c :: text => !mark.fits c || departs marks text
  | _, _ => false

/-- Whether no secret begins where a text does, whatever follows the text. -/
def isStartless : List Char → Bool
  | [] => false
  | c :: text => afterLetter.all fun b => caseless c != caseless b.1 || b.2.all (departs · text)

/-- Whether no secret begins in a text, whatever follows the text. -/
def isOpening : List Char → Bool
  | [] => true
  | c :: rest => isStartless (c :: rest) && isOpening rest

/-- Whether no secret begins in a text that nothing follows; the last eight characters hold none. -/
def isEnding : List Char → Bool
  | [] => true
  | c :: rest => (rest.length < 8 || isStartless (c :: rest)) && isEnding rest

/-- What begins as a text does that departs from some marks does not begin as they say. -/
theorem not_begins_of_departs {marks : List Mark} {part text rest : List Char}
    (h : departs marks text) (hp : part <+: text ++ rest) :
  ¬ begins marks part
  := by
  induction marks generalizing part text with
  | nil => cases h
  | cons mark marks ih =>
    cases text with
    | nil => cases h
    | cons c text =>
      cases part with
      | nil => exact Bool.false_ne_true
      | cons d part =>
        obtain ⟨rfl, hp'⟩ := List.cons_prefix_cons.mp hp
        rw [departs, Bool.or_eq_true, Bool.not_eq_true'] at h
        rw [begins, Bool.and_eq_true]
        rintro ⟨hfits, hb⟩
        rcases h with h | h
        · rw [h] at hfits
          cases hfits
        · exact ih h hp' hb

theorem departs_of_isStartless {text : List Char} (h : isStartless text) :
  ∀ marks ∈ beginnings, departs marks text
  := by
  intro marks hmarks
  obtain ⟨b, hb, hmarks⟩ := List.mem_flatMap.mp hmarks
  obtain ⟨marks, hmem, rfl⟩ := List.mem_map.mp hmarks
  cases text with
  | nil => cases h
  | cons c text =>
    have hall := List.all_eq_true.mp h b hb
    rw [Bool.or_eq_true] at hall
    rw [departs, Bool.or_eq_true]
    exact hall.imp_right fun hrest => List.all_eq_true.mp hrest marks hmem

section

variable {secret : List Char} (hm : Maskable secret)

include hm

theorem Maskable.hasBeginning :
  HasBeginning secret
  := by
  obtain ⟨s, hs, hc⟩ := hm.covered
  have ha : (known secret).Agrees secret := agrees_known (List.prefix_append secret [])
  have hr := (hc _ ha).1 (by simp [known])
  exact exists_beginning hm.long hs (List.ne_nil_of_mem hr)

/-- The first nine characters of a secret do not stand where no secret begins. -/
theorem Maskable.not_take_prefix_of_isStartless {w rest : List Char} (h : isStartless w) :
  ¬ secret.take 9 <+: w ++ rest
  := by
  intro hp
  obtain ⟨marks, hmarks, hb⟩ := hm.hasBeginning
  have hshort := length_le_of_mem_beginnings marks hmarks
  apply not_begins_of_departs (departs_of_isStartless h marks hmarks) hp
  exact begins_take hb (by omega)

theorem Maskable.not_prefix_of_isStartless {w rest : List Char} (h : isStartless w) :
  ¬ secret <+: w ++ rest
  := fun hp => hm.not_take_prefix_of_isStartless h ((List.take_prefix 9 secret).trans hp)

theorem Maskable.not_beginsIn_opening {w : List Char} (h : isOpening w) (rest : List Char) :
  ¬ BeginsIn secret w rest
  := by
  induction w with
  | nil => exact not_beginsIn_nil
  | cons c w ih =>
    rw [isOpening, Bool.and_eq_true] at h
    intro hb
    rcases beginsIn_cons hb with hp | hb
    · exact hm.not_prefix_of_isStartless h.1 hp
    · exact ih h.2 hb

theorem Maskable.not_beginsIn_ending {w : List Char} (h : isEnding w) :
  ¬ BeginsIn secret w []
  := by
  induction w with
  | nil => exact not_beginsIn_nil
  | cons c w ih =>
    rw [isEnding, Bool.and_eq_true, Bool.or_eq_true, decide_eq_true_iff] at h
    intro hb
    rcases beginsIn_cons hb with hp | hb
    · rcases h.1 with hs | hs
      · have hl := hp.length_le
        have := hm.long
        rw [List.append_nil, List.length_cons] at hl
        omega
      · exact hm.not_prefix_of_isStartless hs hp
    · exact ih h.2 hb

end

/-! ### Quotations -/

/-- Whether no signature can be read along an outline. -/
def isUnread (o : Outline) : Bool :=
  signatures.all fun s => (s.pattern.read o).isEmpty

/-- Whether no signature can be read along an outline without going on beyond its end. -/
def isUnreadWithin (o : Outline) : Bool :=
  signatures.all fun s => (s.pattern.read o).all (·.isNone)

/-- The lengths of the parts of a quotation that are shorter than the beginning of a secret. -/
def shortLengths : List Nat :=
  [1, 2, 3, 4, 5, 6, 7, 8]

/-- Whether no secret that begins in the last characters before a text goes on into the text. -/
def isSevering (text : List Char) : Bool :=
  shortLengths.all fun n => isUnread (unknown n ++ known text)

/-- Whether no secret that begins in the last characters before a text ends in the text. -/
def isSeveringWithin (text : List Char) : Bool :=
  shortLengths.all fun n => isUnreadWithin (unknown n ++ known text)

/-- No secret agrees with an outline along which no signature can be read. -/
theorem Maskable.not_agrees_of_isUnread {secret : List Char} (hm : Maskable secret) {o : Outline}
    (h : isUnread o) :
  ¬ o.Agrees secret
  := by
  intro ha
  obtain ⟨s, hs, hc⟩ := hm.covered
  have hr := hc o ha
  rw [List.isEmpty_iff.mp (List.all_eq_true.mp h s hs)] at hr
  rcases Nat.lt_or_ge o.length secret.length with hl | hl
  · cases hr.2 hl
  · cases hr.1 hl

/-- A secret whose beginning is not quoted begins in a quotation at one of its last eight characters
at the earliest. -/
theorem Unquoted.length_mem {secret : List Char} {q : String} (hq : Unquoted secret q)
    {s rest : List Char} (hs : s <:+ q.toList) (hn : s ≠ []) (hp : secret <+: s ++ rest) :
  s.length ∈ shortLengths
  := by
  -- A longer part of the quotation would hold the whole beginning of the secret.
  have hlt : s.length < 9 := by
    by_contra hlong
    have ht : secret.take 9 <+: s := by
      apply List.prefix_of_prefix_length_le ((List.take_prefix 9 secret).trans hp)
        (List.prefix_append s rest)
      rw [List.length_take]
      omega
    exact hq (ht.isInfix.trans hs.isInfix)
  have hpos : 0 < s.length := List.length_pos_of_ne_nil hn
  generalize s.length = n at hlt hpos
  rw [shortLengths]
  simp
  omega

/-- A text that follows a quotation severs it: no secret whose beginning is not quoted begins in the
quotation and goes on into the text. -/
def Severs (text : List Char) : Prop :=
  ∀ (secret : List Char) (q : String), Maskable secret → Unquoted secret q →
    ¬ BeginsIn secret q.toList text

theorem severs_of_isSevering {w : List Char} (h : isSevering w) (rest : List Char) :
  Severs (w ++ rest)
  := by
  rintro secret q hm hq ⟨s, hs, hn, hp⟩
  have hu := List.all_eq_true.mp h _ (hq.length_mem hs hn hp)
  exact hm.not_agrees_of_isUnread hu (agrees_unknown_known hp)

theorem severs_of_isSeveringWithin {w : List Char} (h : isSeveringWithin w) :
  Severs w
  := by
  rintro secret q hm hq ⟨s, hs, hn, hp⟩
  obtain ⟨signature, hsig, hc⟩ := hm.covered
  have hu := List.all_eq_true.mp h _ (hq.length_mem hs hn hp)
  have hl : secret.length ≤ (unknown s.length ++ known w).length := by
    simpa [unknown, known] using hp.length_le
  rw [← List.append_nil w] at hp
  have hr := (hc _ (agrees_unknown_known hp)).1 hl
  cases List.all_eq_true.mp (List.all_eq_true.mp hu signature hsig) _ hr

/-- Wording after quotations. -/
def severing : List (List Char) := [
  ['"', ' '],
  [' ', '-', ' '],
  [' ', 'a', 'p', 'p', 'e', 'a', 'r', ' '],
  [' ', 'f', 'o', 'u', 'n', 'd', ':'],
  [' ', 'm', 'i', 'n', 'u', 't', 'e', ' '],
  [' ', 'm', 'i', 'n', 'u', 't', 'e', 's', ' '],
  [' ', 'w', 'i', 't', 'h', 'o', 'u', 't', ' ']]

theorem isSevering_of_mem :
  ∀ w ∈ severing, isSevering w
  := by decide +kernel

theorem severs_of_mem {w : List Char} (h : w ∈ severing) (rest : List Char) :
  Severs (w ++ rest)
  := severs_of_isSevering (isSevering_of_mem w h) rest

/-- A closing quotation mark and a blank sever a quotation. -/
theorem severs_mark (rest : List Char) :
  Severs ('"' :: ' ' :: rest)
  := severs_of_mem (w := ['"', ' ']) (by decide) rest

/-- So does a closing quotation mark at the end of a text. -/
theorem severs_lastMark :
  Severs ['"']
  := severs_of_isSeveringWithin (by decide +kernel)

/-- A masked secret shows a star for each character that is neither among its first four nor among
its last four. -/
theorem getElem?_mask {secret : List Char} {i : Nat} (hfirst : 4 ≤ i)
    (hlast : i + 4 < secret.length) :
  (Secret.mask secret)[i]? = some '*'
  := by
  have htake : (secret.take 4).length = 4 := by
    rw [List.length_take]
    omega
  have hmiddle : i - (secret.take 4).length < secret.length - 8 := by omega
  rw [Secret.mask, if_neg (by omega), List.append_assoc, List.getElem?_append_right (by omega),
    List.getElem?_append_left (by rwa [List.length_replicate]),
    List.getElem?_replicate_of_lt hmiddle]

/-- The beginning of a secret whose fifth character is no star does not occur in a masked secret. -/
theorem Unquoted.mask {secret : List Char} (hm : Maskable secret) (other : List Char) :
  Unquoted secret (String.ofList (Secret.mask other))
  := by
  rw [Unquoted, String.toList_ofList]
  rintro ⟨before, after, h⟩
  have hl : (secret.take 9).length = 9 := by
    have := hm.long
    rw [List.length_take]
    omega
  have hlen := congrArg List.length h
  rw [List.length_append, List.length_append, hl, length_mask] at hlen
  -- The fifth of nine characters in a row is neither among the first four nor among the last four.
  have hstar : (Secret.mask other)[before.length + 4]? = some '*' :=
    getElem?_mask (by omega) (by omega)
  rw [← h, List.append_assoc, List.getElem?_append_right (by omega), Nat.add_sub_cancel_left,
    List.getElem?_append_left (by omega), List.getElem?_take_of_lt (by omega)] at hstar
  exact hm.fifth hstar

/-- The first nine characters of a secret do not occur in a text in which no secret begins. -/
theorem Unquoted.of_isEnding {secret : List Char} (hm : Maskable secret) {q : String}
    (h : isEnding q.toList) :
  Unquoted secret q
  := by
  rw [Unquoted]
  generalize q.toList = l at h ⊢
  have hl : (secret.take 9).length = 9 := by
    have := hm.long
    rw [List.length_take]
    omega
  induction l with
  | nil =>
    intro hi
    have := hi.length_le
    simp [hl] at this
  | cons c l ih =>
    rw [isEnding, Bool.and_eq_true, Bool.or_eq_true, decide_eq_true_iff] at h
    intro hi
    rcases List.infix_cons_iff.mp hi with hp | hi
    · rcases h.1 with hs | hs
      · have := hp.length_le
        rw [hl, List.length_cons] at this
        omega
      · rw [← List.append_nil (c :: l)] at hp
        exact hm.not_take_prefix_of_isStartless hs hp
    · exact ih h.2 hi

/-! ### Texts -/

section

variable {secret : List Char} (hm : Maskable secret)

/-- Text after text in which no secret begins. -/
theorem Apart.append {t u : String} (ht : Apart secret t) (hu : Apart secret u) :
  Apart secret (t ++ u)
  := by
  intro rest hb
  rw [String.toList_append] at hb
  rcases beginsIn_append hb with h | h
  · exact ht _ h
  · exact hu _ h

include hm

theorem Apart.of_isOpening {w : String} (h : isOpening w.toList) :
  Apart secret w
  := hm.not_beginsIn_opening h

/-- Wording in which no secret begins, given by its characters, on which the check is quick. -/
theorem Apart.wording {w : String} {l : List Char} (hw : w = String.ofList l)
    (h : isOpening l) :
  Apart secret w
  := by
  apply Apart.of_isOpening hm
  rw [hw, String.toList_ofList]
  exact h

/-- A quotation between texts. -/
theorem Apart.quotation {t q w : String} {l : List Char} (ht : Apart secret t)
    (hq : Unquoted secret q) (hw : w = String.ofList l) (h : isOpening l)
    (hs : ∀ rest, Severs (l ++ rest)) :
  Apart secret (t ++ q ++ w)
  := by
  intro rest hb
  rw [String.toList_append, String.toList_append, hw, String.toList_ofList] at hb
  rcases beginsIn_append hb with hb | hb
  · rcases beginsIn_append hb with hb | hb
    · exact ht _ hb
    · exact hs rest secret q hm hq hb
  · exact hm.not_beginsIn_opening h rest hb

theorem Hidden.of_isEnding {w : String} (h : isEnding w.toList) :
  Hidden secret w
  := by
  rw [hidden_iff hm]
  exact hm.not_beginsIn_ending h

/-- A text that is all wording. -/
theorem Hidden.wording {w : String} {l : List Char} (hw : w = String.ofList l)
    (h : isEnding l) :
  Hidden secret w
  := by
  apply Hidden.of_isEnding hm
  rw [hw, String.toList_ofList]
  exact h

/-- A text that is too short for a secret. -/
theorem Hidden.short {t : String} (h : t.toList.length ≤ 8) :
  Hidden secret t
  := by
  intro hi
  have := hm.long
  have := hi.length_le
  omega

/-- A text after one in which no secret begins. -/
theorem Hidden.append {t u : String} (ht : Apart secret t) (hu : Hidden secret u) :
  Hidden secret (t ++ u)
  := by
  rw [hidden_iff hm] at hu ⊢
  intro hb
  rw [String.toList_append] at hb
  rcases beginsIn_append hb with h | h
  · exact ht _ h
  · exact hu h

/-- A quotation before the last wording of a text. -/
theorem Hidden.quotation {t q w : String} {l : List Char} (ht : Apart secret t)
    (hq : Unquoted secret q) (hw : w = String.ofList l) (h : isEnding l) (hs : Severs l) :
  Hidden secret (t ++ q ++ w)
  := by
  rw [hidden_iff hm]
  intro hb
  rw [String.toList_append, String.toList_append, hw, String.toList_ofList] at hb
  rcases beginsIn_append hb with hb | hb
  · rcases beginsIn_append hb with hb | hb
    · exact ht _ hb
    · rw [List.append_nil] at hb
      exact hs secret q hm hq hb
  · exact hm.not_beginsIn_ending h hb

/-- A quotation in quotation marks at the end of a text. -/
theorem Hidden.markedQuotation {t q : String} (ht : Apart secret t) (hq : Unquoted secret q) :
  Hidden secret (t ++ q ++ "\"")
  := .quotation hm ht hq rfl (by decide) severs_lastMark

/-- A quotation at the end of a text. -/
theorem Hidden.lastQuotation {t q : String} (ht : Apart secret t) (hq : Unquoted secret q) :
  Hidden secret (t ++ q)
  := by
  apply Hidden.append hm ht
  intro hi
  exact hq ((List.take_prefix 9 secret).isInfix.trans hi)

/-- Pieces of wording separated by commas. -/
theorem Hidden.commaSeparated {parts : List String}
    (h : ∀ p ∈ parts, isOpening (p.toList ++ [',', ' ']) && isEnding p.toList) :
  Hidden secret (PipelineAudit.commaSeparated parts)
  := by
  rw [hidden_iff hm, PipelineAudit.commaSeparated, String.toList_intercalate]
  induction parts with
  | nil => exact not_beginsIn_nil
  | cons p rest ih =>
    obtain ⟨hp, hr⟩ := List.forall_mem_cons.mp h
    rw [Bool.and_eq_true] at hp
    cases rest with
    | nil =>
      rw [List.map_singleton, List.intercalate_singleton]
      exact hm.not_beginsIn_ending hp.2
    | cons q rest =>
      rw [List.map_cons, List.map_cons, List.intercalate_cons_cons]
      intro hb
      rcases beginsIn_append hb with hb | hb
      · exact hm.not_beginsIn_opening hp.1 _ hb
      · exact ih hr hb

/-- A number in wording. -/
theorem Hidden.number {w n w' : String} {l k : List Char} (hw : w = String.ofList l)
    (hn : Apart secret n) (hw' : w' = String.ofList k) (h : isOpening l && isEnding k) :
  Hidden secret (w ++ n ++ w')
  := by
  rw [Bool.and_eq_true] at h
  exact .append hm ((Apart.wording hm hw h.1).append hn) (.wording hm hw' h.2)

/-- A title and a description that are all wording. -/
theorem hidden_wordings {title description : String} {l k : List Char}
    (ht : title = String.ofList l) (hd : description = String.ofList k)
    (h : isEnding l && isEnding k) :
  Hidden secret title ∧ Hidden secret description
  := by
  rw [Bool.and_eq_true] at h
  exact ⟨.wording hm ht h.1, .wording hm hd h.2⟩

/-- A title that ends with a name in quotation marks, and a description that is all wording. -/
theorem hidden_named {w name description : String} {l k : List Char} (hn : Unquoted secret name)
    (hw : w = String.ofList l) (hd : description = String.ofList k)
    (h : isOpening l && isEnding k) :
  Hidden secret (w ++ name ++ "\"") ∧ Hidden secret description
  := by
  rw [Bool.and_eq_true] at h
  exact ⟨.markedQuotation hm (.wording hm hw h.1) hn, .wording hm hd h.2⟩

end

/-! ### Numbers -/

/-- The characters of numbers apart from the sign. -/
def numeralChars : List Char :=
  ['0', '1', '2', '3', '4', '5', '6', '7', '8', '9', '.']

theorem mem_numeralChars {c : Char} (h : c.isDigit) :
  c ∈ numeralChars
  := by
  have hb : 48 ≤ c.toNat ∧ c.toNat ≤ 57 := by
    simpa [Char.isDigit, UInt32.le_iff_toNat_le] using h
  obtain ⟨k, hk, hc⟩ : ∃ k, k < 10 ∧ c.toNat = 48 + k := ⟨c.toNat - 48, by omega, by omega⟩
  rw [← Char.ofNat_toNat c, hc]
  clear h hb hc
  revert k
  decide

theorem mem_numeralChars_of_mem_toDigits {n : Nat} {c : Char} (h : c ∈ Nat.toDigits 10 n) :
  c ∈ numeralChars
  := mem_numeralChars (Nat.isDigit_of_mem_toDigits (by decide) (by decide) h)

theorem mem_numeralChars_of_mem_digitsPadded {width n : Nat} {c : Char}
    (h : c ∈ Decimal.digitsPadded width n) :
  c ∈ numeralChars
  := by
  rcases List.mem_append.mp h with h | h
  · rw [List.eq_of_mem_replicate h]
    exact List.mem_cons_self
  · exact mem_numeralChars_of_mem_toDigits h

theorem mem_numeralChars_of_mem_fixedDiv {places num den : Nat} {c : Char}
    (h : c ∈ Decimal.fixedDiv places num den) :
  c ∈ numeralChars
  := by
  rw [Decimal.fixedDiv, Decimal.placeText] at h
  split at h
  · exact mem_numeralChars_of_mem_toDigits h
  · rcases List.mem_append.mp h with h | h
    · exact mem_numeralChars_of_mem_toDigits h
    · rcases List.mem_cons.mp h with rfl | h
      · decide
      · exact mem_numeralChars_of_mem_digitsPadded h

theorem fixedDiv_ne_nil (places num den : Nat) :
  Decimal.fixedDiv places num den ≠ []
  := by
  rw [Decimal.fixedDiv, Decimal.placeText]
  split
  · exact Nat.toDigits_ne_nil
  · simp

/-- No secret begins with a character of a number, nor with one after a sign. -/
theorem isStartless_of_mem_numeralChars {c : Char} (hc : c ∈ numeralChars) :
  isStartless [c] ∧ isStartless ['-', c]
  := by
  have hall : numeralChars.all fun c => isStartless [c] && isStartless ['-', c] := by decide
  exact (Bool.and_eq_true _ _).mp (List.all_eq_true.mp hall c hc)

section

variable {secret : List Char} (hm : Maskable secret)

include hm

theorem Maskable.not_beginsIn_numeral {l : List Char} (h : ∀ c ∈ l, c ∈ numeralChars)
    (rest : List Char) :
  ¬ BeginsIn secret l rest
  := by
  induction l with
  | nil => exact not_beginsIn_nil
  | cons c l ih =>
    obtain ⟨hc, hl⟩ := List.forall_mem_cons.mp h
    intro hb
    rcases beginsIn_cons hb with hp | hb
    · exact hm.not_prefix_of_isStartless (w := [c]) (isStartless_of_mem_numeralChars hc).1 hp
    · exact ih hl hb

/-- A number without a sign. -/
theorem Apart.numeral {t : String} (h : ∀ c ∈ t.toList, c ∈ numeralChars) :
  Apart secret t
  := hm.not_beginsIn_numeral h

/-- A number with a sign. -/
theorem Apart.negative {t : String} {l : List Char} (ht : t.toList = '-' :: l) (hn : l ≠ [])
    (h : ∀ c ∈ l, c ∈ numeralChars) :
  Apart secret t
  := by
  intro rest hb
  rw [ht] at hb
  rcases beginsIn_cons hb with hp | hb
  · obtain ⟨c, l, rfl⟩ := List.exists_cons_of_ne_nil hn
    have hc := (isStartless_of_mem_numeralChars (h c List.mem_cons_self)).2
    exact hm.not_prefix_of_isStartless (w := ['-', c]) hc hp
  · exact hm.not_beginsIn_numeral h rest hb

theorem Apart.nat (n : Nat) :
  Apart secret (toString n)
  := by
  apply Apart.numeral hm
  intro c hc
  rw [Nat.toString_eq_repr, Nat.toList_repr] at hc
  exact mem_numeralChars_of_mem_toDigits hc

theorem Apart.int (n : Int) :
  Apart secret (toString n)
  := by
  cases n with
  | ofNat n => exact Apart.nat hm n
  | negSucc n =>
    have ht : (toString (Int.negSucc n)).toList = '-' :: Nat.toDigits 10 n.succ := by
      rw [← Nat.toList_repr]
      exact String.toList_append
    exact Apart.negative hm ht Nat.toDigits_ne_nil fun c => mem_numeralChars_of_mem_toDigits

/-- The text of a double before a closing bracket. -/
theorem Hidden.fixedFloat (places : Nat) (x : Float) :
  Hidden secret (Decimal.fixedFloat places x ++ ")")
  := by
  rw [Decimal.fixedFloat]
  split
  · exact Hidden.short hm (by decide)
  · split
    · exact Hidden.short hm (by decide)
    · exact Hidden.short hm (by decide)
  · apply Hidden.append hm _ (Hidden.short hm (by decide))
    split
    · apply Apart.negative hm String.toList_ofList (fixedDiv_ne_nil _ _ _)
      exact fun c => mem_numeralChars_of_mem_fixedDiv
    · apply Apart.numeral hm
      rw [String.toList_ofList]
      exact fun c => mem_numeralChars_of_mem_fixedDiv

end

end PipelineAudit.Secret
