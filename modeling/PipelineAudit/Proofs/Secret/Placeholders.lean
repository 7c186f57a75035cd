import PipelineAudit.Proofs.Pattern.Runs
import Mathlib.Data.Bool.AllAny

/-!
# Placeholders

Most forms of placeholders say how a text begins.  A text that begins otherwise is a placeholder if
it holds a word for a sample, and no such word reaches over an equality sign.

* `isPlaceholder_eq`: when a text is a placeholder for its words only.
* `namesSample_append_cons`: the words of a text lie between its equality signs.
-/

namespace PipelineAudit.Secret

open Pattern

/-- The words for samples. -/
def sampleNames : List String :=
  ["placeholder", "example", "test", "demo", "sample"]

/-- Whether a text holds a word for a sample, in any case. -/
def namesSample (text : List Char) : Bool :=
  text.tails.any fun rest => sampleNames.any fun name => beginsAlike name.toList rest

/-- The beginnings that tell placeholders: characters that are repeated, and words for whose value
is to come. -/
def placeholderBeginnings : List String :=
  ["x", "0", "1", "your", "my", "the"]

/-- Whether a text begins as placeholders do. -/
def beginsAsPlaceholder (text : List Char) : Bool :=
  placeholderBeginnings.any fun word => beginsAlike word.toList text

theorem occursIn_sampleNames (text : List Char) :
  (oneOf (sampleNames.map litFolded)).occursIn text = namesSample text
  := by
  apply occursIn_eq_any_tails
  intro index place
  rw [isSome_matchAt?_oneOf, List.any_map]
  congr 1
  funext name
  exact isSome_matchAt?_litFolded name index place

theorem refuses_lit_of_litFolded {c : Char} {text : List Char}
    (h : beginsAlike [c] text = false) :
  Refuses (one (· = c)) text
  := by
  apply refuses_one
  intro d hd
  rw [decide_eq_false_iff_not]
  rintro rfl
  obtain ⟨rest, rfl⟩ := List.head?_eq_some_iff.mp hd
  simp [beginsAlike, sameLetter] at h

/-- A text that does not begin as placeholders do is one if and only if it holds a word for a
sample. -/
theorem isPlaceholder_eq {text : List Char} (h : beginsAsPlaceholder text = false) :
  isPlaceholder text = namesSample text
  := by
  have hw : ∀ word ∈ placeholderBeginnings, beginsAlike word.toList text = false := by
    rw [beginsAsPlaceholder, List.any_eq_false] at h
    exact fun word hm => eq_false_of_ne_true (h word hm)
  have hl : ∀ word ∈ placeholderBeginnings, Refuses (litFolded word) text :=
    fun word hm => refuses_letters (hw word hm)
  have hx : Refuses (seq (atLeast 8 (litFolded "x")) textEnd) text :=
    ((hl "x" (by decide)).repeated true (by decide) none).seq _
  have hzero : Refuses (seq (atLeast 8 (lit "0")) textEnd) text :=
    ((refuses_lit_of_litFolded (hw "0" (by decide))).repeated true (by decide) none).seq _
  have hone : Refuses (seq (atLeast 8 (lit "1")) textEnd) text :=
    ((refuses_lit_of_litFolded (hw "1" (by decide))).repeated true (by decide) none).seq _
  have howner : Refuses (seq (oneOf [litFolded "your", litFolded "my", litFolded "the"])
      (oneOfChars "_-")) text :=
    ((hl "your" (by decide)).either
      ((hl "my" (by decide)).either (hl "the" (by decide)))).seq _
  have hforms : placeholderForms = [
      seq textStart (seq (atLeast 8 (litFolded "x")) textEnd),
      seq textStart (seq (atLeast 8 (lit "0")) textEnd),
      seq textStart (seq (atLeast 8 (lit "1")) textEnd),
      seq textStart (seq (oneOf [litFolded "your", litFolded "my", litFolded "the"])
        (oneOfChars "_-")),
      oneOf (sampleNames.map litFolded)] := rfl
  simp only [isPlaceholder, hforms, List.any_cons, List.any_nil, occursIn_textStart hx,
    occursIn_textStart hzero, occursIn_textStart hone, occursIn_textStart howner,
    occursIn_sampleNames, Bool.false_or, Bool.or_false]

theorem isPlaceholder_of_namesSample {text : List Char} (h : namesSample text) :
  isPlaceholder text
  := by
  rw [← occursIn_sampleNames] at h
  have hf : oneOf (sampleNames.map litFolded) ∈ placeholderForms :=
    .tail _ (.tail _ (.tail _ (.tail _ (.head _))))
  exact List.any_eq_true.mpr ⟨_, hf, h⟩

/-! ### Words between equality signs -/

theorem beginsAlike_append_cons {word : List Char} {c : Char}
    (hc : ∀ d ∈ word, sameLetter c d = false) (a b : List Char) :
  beginsAlike word (a ++ c :: b) = beginsAlike word a
  := by
  induction word generalizing a with
  | nil => rfl
  | cons d word ih =>
    rw [List.forall_mem_cons] at hc
    cases a with
    | nil => rw [List.nil_append, beginsAlike, beginsAlike, hc.1, Bool.false_and]
    | cons x a => rw [List.cons_append, beginsAlike, beginsAlike, ih hc.2]

theorem namesSample_cons (c : Char) (rest : List Char) :
  namesSample (c :: rest) =
    (sampleNames.any (fun name => beginsAlike name.toList (c :: rest)) || namesSample rest)
  := by
  rw [namesSample, List.tails, List.any_cons, namesSample]

/-- The case of an ASCII text does not matter. -/
theorem namesSample_map_toLower {text : List Char} (h : ∀ c ∈ text, c.toNat < 128) :
  namesSample (text.map Char.toLower) = namesSample text
  := by
  induction text with
  | nil => rfl
  | cons c rest ih =>
    have hb : ∀ word, beginsAlike word ((c :: rest).map Char.toLower) =
        beginsAlike word (c :: rest) := fun word => by
      simpa only [List.append_nil] using beginsAlike_map_toLower h word []
    rw [List.map_cons, namesSample_cons, namesSample_cons, ← List.map_cons,
      ih (List.forall_mem_cons.mp h).2]
    simp only [hb]

/-- A word for a sample in a text lies before an equality sign or after it. -/
theorem namesSample_append_cons (a b : List Char) :
  namesSample (a ++ '=' :: b) = (namesSample a || namesSample b)
  := by
  have hc : ∀ name ∈ sampleNames, name.toList.all fun d => sameLetter '=' d = false := by decide
  have hb : ∀ a, sampleNames.any (fun name => beginsAlike name.toList (a ++ '=' :: b)) =
      sampleNames.any fun name => beginsAlike name.toList a := by
    intro a
    rw [Bool.eq_iff_iff, List.any_eq_true, List.any_eq_true]
    exact exists_congr fun name => and_congr_right fun hn => by
      rw [beginsAlike_append_cons (List.all_iff_forall_prop.mp (hc name hn)) a b]
  induction a with
  | nil => rw [List.nil_append, namesSample_cons, ← List.nil_append ('=' :: b), hb]; rfl
  | cons x a ih =>
    rw [List.cons_append, namesSample_cons, ← List.cons_append, hb, ih, ← Bool.or_assoc,
      ← namesSample_cons]

end PipelineAudit.Secret
