import Mathlib.Data.List.Induction
import PipelineAudit.Document.Basic

/-!
# Entries under different keys

A mapping is made from pairs one by one.  A pair whose key equals that of an entry takes the place
of the entry, so that the pairs stay as they are exactly if no two of them have equal keys.

* `keysApart_distinctEntries`: no two entries of a mapping have equal keys.
* `distinctEntries_eq_self_iff`: which pairs are the entries of a mapping as they are.
* `forall_distinctEntries`: what holds of all keys and all values of the pairs holds of the entries.
-/

namespace PipelineAudit

variable {α : Type}

/-- Whether no two of some entries have equal keys. -/
def KeysApart (entries : List (Key × α)) : Prop :=
  entries.Pairwise fun e f => ¬ e.1.same f.1

instance (entries : List (Key × α)) : Decidable (KeysApart entries) :=
  inferInstanceAs (Decidable (entries.Pairwise _))

/-- An entry with a new key comes last. -/
theorem insertEntry_of_forall {entries : List (Key × α)} {key : Key}
    (h : ∀ e ∈ entries, ¬ e.1.same key) (value : α) :
  insertEntry entries key value = entries ++ [(key, value)]
  := by
  rw [insertEntry, if_neg]
  rw [List.any_eq_true]
  rintro ⟨e, he, hs⟩
  exact h e he hs

/-- An entry with a key that is there already keeps all keys. -/
theorem map_fst_insertEntry_of_any {entries : List (Key × α)} {key : Key}
    (h : entries.any (·.1.same key)) (value : α) :
  (insertEntry entries key value).map (·.1) = entries.map (·.1)
  := by
  rw [insertEntry, if_pos h, List.map_map]
  apply List.map_congr_left
  intro e _
  rw [Function.comp_apply]
  split
  · rfl
  · rfl

theorem keysApart_iff_map_fst {entries : List (Key × α)} :
  KeysApart entries ↔ (entries.map (·.1)).Pairwise fun k l => ¬ k.same l
  := by
  rw [KeysApart, List.pairwise_map]

theorem keysApart_concat_iff {entries : List (Key × α)} {e : Key × α} :
  KeysApart (entries ++ [e]) ↔ KeysApart entries ∧ ∀ f ∈ entries, ¬ f.1.same e.1
  := by
  simp [KeysApart, List.pairwise_append]

theorem KeysApart.insertEntry {entries : List (Key × α)} (h : KeysApart entries) (key : Key)
    (value : α) :
  KeysApart (insertEntry entries key value)
  := by
  by_cases hany : entries.any (·.1.same key)
  · rw [keysApart_iff_map_fst, map_fst_insertEntry_of_any hany, ← keysApart_iff_map_fst]
    exact h
  · have hnew : ∀ e ∈ entries, ¬ e.1.same key := by simpa using hany
    rw [insertEntry_of_forall hnew, keysApart_concat_iff]
    exact ⟨h, hnew⟩

theorem distinctEntries_concat (pairs : List (Key × α)) (p : Key × α) :
  distinctEntries (pairs ++ [p]) = insertEntry (distinctEntries pairs) p.1 p.2
  := by
  rw [distinctEntries, List.foldl_append]
  rfl

/-- No two entries of a mapping have equal keys. -/
theorem keysApart_distinctEntries (pairs : List (Key × α)) :
  KeysApart (distinctEntries pairs)
  := by
  induction pairs using List.reverseRecOn with
  | nil => exact .nil
  | append_singleton pairs p ih =>
    rw [distinctEntries_concat]
    exact ih.insertEntry p.1 p.2

/-- Pairs with different keys are the entries of a mapping as they are. -/
theorem KeysApart.distinctEntries_eq {pairs : List (Key × α)} (h : KeysApart pairs) :
  distinctEntries pairs = pairs
  := by
  induction pairs using List.reverseRecOn with
  | nil => rfl
  | append_singleton pairs p ih =>
    obtain ⟨hpairs, hnew⟩ := keysApart_concat_iff.mp h
    rw [distinctEntries_concat, ih hpairs, insertEntry_of_forall hnew]

/-- Pairs are the entries of a mapping as they are if and only if no two have equal keys. -/
theorem distinctEntries_eq_self_iff {pairs : List (Key × α)} :
  distinctEntries pairs = pairs ↔ KeysApart pairs
  := by
  constructor
  · intro h
    rw [← h]
    exact keysApart_distinctEntries pairs
  · exact KeysApart.distinctEntries_eq

/-- What holds of all keys and of all values of some pairs holds of the entries. -/
theorem forall_distinctEntries {P : Key → Prop} {Q : α → Prop} {pairs : List (Key × α)}
    (h : ∀ e ∈ pairs, P e.1 ∧ Q e.2) :
  ∀ e ∈ distinctEntries pairs, P e.1 ∧ Q e.2
  := by
  induction pairs using List.reverseRecOn with
  | nil => exact List.forall_mem_nil _
  | append_singleton pairs p ih =>
    rw [List.forall_mem_append, List.forall_mem_singleton] at h
    have hpairs := ih h.1
    rw [distinctEntries_concat, insertEntry]
    split
    case isTrue =>
      rw [List.forall_mem_map]
      intro e he
      split
      · exact ⟨(hpairs e he).1, h.2.2⟩
      · exact hpairs e he
    case isFalse =>
      rw [List.forall_mem_append, List.forall_mem_singleton]
      exact ⟨hpairs, h.2⟩

end PipelineAudit
