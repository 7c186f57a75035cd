import PipelineAudit.Proofs.Document.Unions
import PipelineAudit.Proofs.Document.Writing
import PipelineAudit.Text.Basic

/-!
# Copies for JSON

The copy of a document for JSON has other keys where JSON cannot write them: dates, times and tuples
become their texts.  Two different keys of a mapping may have the same text, and then the copy has a
single entry for both, under the place of the first and with the value of the last.

* `Key.same_jsonSafe_iff`: which different keys have equal copies.
* `jsonSafe_eq_entrywise_iff`: when the copy has all entries.
* `copiedText_infix`: all parts are in the JSON text of a document whose copy has all entries.
* `jsonSafe_keeps_iff`: the three together.
-/

namespace PipelineAudit

/-! ### Keys -/

namespace Key

/-- Whether a key is a text in JSON: it is a text, or JSON cannot write it as it is. -/
def isTextual : Key → Bool
  | scalar (.text _) => true
  | scalar (.date _) => true
  | scalar (.moment _) => true
  | scalar _ => false
  | tuple _ => true

theorem jsonSafe_of_isTextual {key : Key} (h : key.isTextual) :
  key.jsonSafe = ofText key.display
  := by
  cases key with
  | tuple parts => rfl
  | scalar s =>
    cases s with
    | text t => rfl
    | date d => rfl
    | moment m => rfl
    | _ => cases h

theorem jsonSafe_of_not_isTextual {key : Key} (h : ¬ key.isTextual) :
  key.jsonSafe = key
  := by
  cases key with
  | tuple parts => exact absurd rfl h
  | scalar s =>
    cases s with
    | date d => exact absurd rfl h
    | moment m => exact absurd rfl h
    | _ => rfl

/-- A key that is no text in JSON is no text. -/
theorem not_same_ofText {key : Key} (h : ¬ key.isTextual) (t : String) :
  ¬ key.same (ofText t) ∧ ¬ (ofText t).same key
  := by
  cases key with
  | tuple parts => exact absurd rfl h
  | scalar s =>
    cases s with
    | text t' => exact absurd rfl h
    | date d => exact absurd rfl h
    | moment m => exact absurd rfl h
    | _ => simp [ofText, same, Scalar.same, Scalar.number?, Scalar.infinite?]

/-- Different keys have equal copies if and only if both are texts in JSON, and the same text. -/
theorem same_jsonSafe_iff {k l : Key} (h : ¬ k.same l) :
  k.jsonSafe.same l.jsonSafe ↔ k.isTextual ∧ l.isTextual ∧ k.display = l.display
  := by
  by_cases hk : k.isTextual
  · by_cases hl : l.isTextual
    · rw [jsonSafe_of_isTextual hk, jsonSafe_of_isTextual hl, same_ofText, decide_eq_true_iff]
      simp [hk, hl]
    · rw [jsonSafe_of_isTextual hk, jsonSafe_of_not_isTextual hl]
      simp [hl, not_same_ofText hl]
  · by_cases hl : l.isTextual
    · rw [jsonSafe_of_not_isTextual hk, jsonSafe_of_isTextual hl]
      simp [hk, not_same_ofText hk]
    · rw [jsonSafe_of_not_isTextual hk, jsonSafe_of_not_isTextual hl]
      simp [hk, h]

end Key

namespace Json

/-! ### Parts of a text -/

theorem compact_infix_items {x : Json} {xs : List Json} (h : x ∈ xs) :
  x.compact <:+: compactItems xs
  := by
  induction h with
  | head rest => exact ⟨[','], compactItems rest, rfl⟩
  | tail y _ ih =>
    rw [compactItems]
    exact ih.trans (List.suffix_append _ _).isInfix

theorem member_infix_members {m : String × Json} {ms : List (String × Json)} (h : m ∈ ms) :
  quotedText m.1 ++ ':' :: m.2.compact <:+: compactMembers ms
  := by
  induction h with
  | head rest => exact ⟨[','], compactMembers rest, by simp [compactMembers]⟩
  | tail m' _ ih =>
    rw [compactMembers]
    exact ih.trans (List.suffix_append _ _).isInfix

/-- The text of an item is in that of the list. -/
theorem compact_infix_list {x : Json} {xs : List Json} (h : x ∈ xs) :
  x.compact <:+: (list xs).compact
  := by
  cases xs with
  | nil => cases h
  | cons y ys =>
    cases h with
    | head => exact ⟨['['], compactItems ys ++ [']'], by simp [compact]⟩
    | tail _ h =>
      apply (compact_infix_items h).trans
      exact ⟨'[' :: y.compact, [']'], by simp [compact]⟩

/-- The text of a member is in that of the object. -/
theorem member_infix_object {m : String × Json} {ms : List (String × Json)} (h : m ∈ ms) :
  quotedText m.1 ++ ':' :: m.2.compact <:+: (object ms).compact
  := by
  cases ms with
  | nil => cases h
  | cons m' rest =>
    cases h with
    | head => exact ⟨['\x7b'], compactMembers rest ++ ['\x7d'], by simp [compact]⟩
    | tail _ h =>
      apply (member_infix_members h).trans
      exact ⟨'\x7b' :: quotedText m'.1 ++ ':' :: m'.2.compact, ['\x7d'], by simp [compact]⟩

end Json

namespace Document

/-! ### Copies of all entries -/

/-- The copy of a document that has all of its entries. -/
def Walk.entrywise : Walk Document where
  scalar := .scalar
  again := null
  list := .list
  map es := .map (es.map fun e => (e.1.jsonSafe, e.2))

/-- Whether the keys of some entries have different copies. -/
def CopiedApart (es : List (Key × Document)) : Prop :=
  es.Pairwise fun e f => ¬ e.1.jsonSafe.same f.1.jsonSafe

instance (es : List (Key × Document)) : Decidable (CopiedApart es) :=
  inferInstanceAs (Decidable (es.Pairwise _))

theorem keysApart_copies_iff {es : List (Key × Document)} (f : Document → Document) :
  KeysApart (es.map fun e => (e.1.jsonSafe, f e.2)) ↔ CopiedApart es
  := by
  rw [KeysApart, List.pairwise_map, CopiedApart]

theorem entrywise_list (ds : List Document) :
  Walk.entrywise.fold (list ds) = list (ds.map Walk.entrywise.fold)
  := Walk.fold_list ds Walk.entrywise

theorem entrywise_map (es : List (Key × Document)) :
  Walk.entrywise.fold (map es) = map (es.map fun e => (e.1.jsonSafe, Walk.entrywise.fold e.2))
  := by
  rw [Walk.fold_map]
  simp only [Walk.entrywise, List.map_map, Function.comp_def]

/-- The copy of a mapping has all of its entries if and only if the keys have different copies, and
the copies of the values have all of theirs. -/
theorem jsonSafe_map_eq_entrywise_iff {es : List (Key × Document)} :
  (map es).jsonSafe = Walk.entrywise.fold (map es) ↔
    CopiedApart es ∧ ∀ e ∈ es, e.2.jsonSafe = Walk.entrywise.fold e.2
  := by
  have hvalues : (es.map fun e => (e.1.jsonSafe, e.2.jsonSafe)) =
      (es.map fun e => (e.1.jsonSafe, Walk.entrywise.fold e.2)) ↔
        ∀ e ∈ es, e.2.jsonSafe = Walk.entrywise.fold e.2 := by
    rw [List.map_inj_left]
    simp only [Prod.mk.injEq, true_and]
  rw [jsonSafe_map, entrywise_map, map.injEq, ← hvalues]
  constructor
  · intro h
    have hapart : CopiedApart es := by
      rw [← keysApart_copies_iff Walk.entrywise.fold, ← h]
      exact keysApart_distinctEntries _
    rw [((keysApart_copies_iff jsonSafe).mpr hapart).distinctEntries_eq] at h
    exact ⟨hapart, h⟩
  · rintro ⟨hapart, h⟩
    rw [((keysApart_copies_iff jsonSafe).mpr hapart).distinctEntries_eq]
    exact h

/-- The copy of a document has all entries if and only if the keys of each mapping in the document
have different copies. -/
theorem jsonSafe_eq_entrywise_iff (d : Document) :
  d.jsonSafe = Walk.entrywise.fold d ↔ ∀ part ∈ d.allParts, CopiedApart part.ownEntries
  := by
  induction d using induction_parts with
  | scalar s => simp [allParts, ownEntries, CopiedApart, jsonSafe, Walk.fold, Walk.entrywise]
  | up level => simp [allParts, ownEntries, CopiedApart, jsonSafe, Walk.fold, Walk.entrywise]
  | list ds ih =>
    have hown : CopiedApart (list ds).ownEntries := .nil
    rw [forall_allParts_list, jsonSafe_list, entrywise_list, list.injEq, List.map_inj_left]
    rw [and_iff_right hown]
    exact forall₂_congr ih
  | map es ih =>
    rw [forall_allParts_map, jsonSafe_map_eq_entrywise_iff]
    exact and_congr_right fun _ => forall₂_congr ih

/-! ### The text of a copy -/

/-- The text of the copy of a document, on one line. -/
def copiedText (d : Document) : List Char :=
  d.jsonSafe.toJson.compact

theorem compactJson_eq (d : Document) :
  d.compactJson = ifWritable d.hasJson d.copiedText
  := jsonText_eq Json.compact d

theorem compactJson_of_hasJson {d : Document} (h : d.hasJson) :
  d.compactJson = .ok d.copiedText
  := by
  rw [compactJson_eq, h]
  rfl

theorem copiedText_list (ds : List Document) :
  (list ds).copiedText = (Json.list (ds.map fun d => d.jsonSafe.toJson)).compact
  := by
  rw [copiedText, jsonSafe_list, toJson_list, List.map_map]
  rfl

theorem jsonSafe_map_of_copiedApart {es : List (Key × Document)} (h : CopiedApart es) :
  (map es).jsonSafe = map (es.map fun e => (e.1.jsonSafe, e.2.jsonSafe))
  := by
  rw [jsonSafe_map, ((keysApart_copies_iff jsonSafe).mpr h).distinctEntries_eq]

theorem copiedText_map {es : List (Key × Document)} (h : CopiedApart es) :
  (map es).copiedText =
    (Json.object (es.map fun e => (e.1.jsonSafe.jsonName, e.2.jsonSafe.toJson))).compact
  := by
  rw [copiedText, jsonSafe_map_of_copiedApart h, toJson_map, List.map_map]
  rfl

theorem entry_infix_copiedText_map {es : List (Key × Document)} (h : CopiedApart es)
    {e : Key × Document} (he : e ∈ es) :
  Json.quotedText e.1.jsonSafe.jsonName ++ ':' :: e.2.copiedText <:+: (map es).copiedText
  := by
  have hm : (e.1.jsonSafe.jsonName, e.2.jsonSafe.toJson) ∈
      es.map fun e => (e.1.jsonSafe.jsonName, e.2.jsonSafe.toJson) := by
    rw [List.mem_map]
    exact ⟨e, he, rfl⟩
  have hi := Json.member_infix_object hm
  rw [← copiedText_map h] at hi
  exact hi

/-- The text of a mapping has each entry: the name of the key, and the text of the value. -/
theorem entry_infix_copiedText {d : Document} (h : CopiedApart d.ownEntries)
    {e : Key × Document} (he : e ∈ d.ownEntries) :
  Json.quotedText e.1.jsonSafe.jsonName ++ ':' :: e.2.copiedText <:+: d.copiedText
  := by
  cases d with
  | map es => exact entry_infix_copiedText_map h he
  | _ => cases he

/-- The texts of all parts are in the text of a document whose copy has all entries. -/
theorem copiedText_infix {d : Document} (h : ∀ part ∈ d.allParts, CopiedApart part.ownEntries) :
  ∀ part ∈ d.allParts, part.copiedText <:+: d.copiedText
  := by
  induction d using induction_parts with
  | scalar s => exact List.forall_mem_singleton.mpr List.infix_rfl
  | up level => exact List.forall_mem_singleton.mpr List.infix_rfl
  | list ds ih =>
    rw [forall_allParts_list] at h ⊢
    refine ⟨List.infix_rfl, ?_⟩
    intro d hd part hp
    apply (ih d hd (h.2 d hd) part hp).trans
    rw [copiedText_list]
    exact Json.compact_infix_list (List.mem_map_of_mem hd)
  | map es ih =>
    rw [forall_allParts_map] at h ⊢
    refine ⟨List.infix_rfl, ?_⟩
    intro e he part hp
    apply (ih e he (h.2 e he) part hp).trans
    apply List.IsInfix.trans _ (entry_infix_copiedText h.1 he)
    rw [← List.concat_append]
    exact (List.suffix_append _ _).isInfix

theorem hasJson_list {ds : List Document} :
  (list ds).hasJson ↔ ∀ d ∈ ds, d.hasJson
  := by
  simp only [hasJson, isCopyable_list, jsonSafe_list, isWritable_list, List.all_map,
    Bool.and_eq_true, List.all_eq_true, Function.comp_apply, forall₂_and]

/-- The values of a mapping whose copy has all entries have a text as JSON if the mapping has. -/
theorem hasJson_values {d : Document} (hapart : CopiedApart d.ownEntries) (h : d.hasJson) :
  ∀ e ∈ d.ownEntries, e.2.hasJson
  := by
  cases d with
  | map es =>
    rw [ownEntries] at hapart
    simp only [hasJson, isCopyable_map, jsonSafe_map_of_copiedApart hapart, isWritable_map,
      List.all_map, Bool.and_eq_true, List.all_eq_true, Function.comp_apply] at h ⊢
    intro e he
    exact ⟨(h.1 e he).2, (h.2 e he).2⟩
  | _ => exact List.forall_mem_nil _

/-- All parts of a document whose copy has all entries have a text as JSON if the document has. -/
theorem hasJson_parts {d : Document} (hapart : ∀ part ∈ d.allParts, CopiedApart part.ownEntries)
    (h : d.hasJson) :
  ∀ part ∈ d.allParts, part.hasJson
  := by
  induction d using induction_parts with
  | scalar s => exact List.forall_mem_singleton.mpr h
  | up level => exact List.forall_mem_singleton.mpr h
  | list ds ih =>
    rw [forall_allParts_list] at hapart ⊢
    refine ⟨h, ?_⟩
    intro d hd
    exact ih d hd (hapart.2 d hd) (hasJson_list.mp h d hd)
  | map es ih =>
    rw [forall_allParts_map] at hapart ⊢
    refine ⟨h, ?_⟩
    intro e he
    exact ih e he (hapart.2 e he) (hasJson_values hapart.1 h e he)

/-! ### What a copy keeps -/

/-- Whether no two keys of some entries are the same text in JSON. -/
def TextsApart (es : List (Key × Document)) : Prop :=
  es.Pairwise fun e f => ¬ (e.1.isTextual ∧ f.1.isTextual ∧ e.1.display = f.1.display)

instance (es : List (Key × Document)) : Decidable (TextsApart es) :=
  inferInstanceAs (Decidable (es.Pairwise _))

theorem copiedApart_iff {es : List (Key × Document)} (h : KeysApart es) :
  CopiedApart es ↔ TextsApart es
  := by
  constructor
  · intro hc
    apply (h.and hc).imp
    rintro e f ⟨hef, hne⟩
    rwa [← Key.same_jsonSafe_iff hef]
  · intro ht
    apply (h.and ht).imp
    rintro e f ⟨hef, hne⟩
    rwa [Key.same_jsonSafe_iff hef]

/-- The copy of a document for JSON has all entries of all mappings, in order, if and only if no
mapping in the document has two keys that are the same text in JSON: texts, dates, times and tuples
with the same display.  Then its JSON text, if it can be written, has the texts of all parts of the
document, and each entry of a mapping with the name of its key. -/
theorem jsonSafe_keeps_iff (d : Document) (h : ∀ part ∈ d.allParts, KeysApart part.ownEntries) :
  (d.jsonSafe = Walk.entrywise.fold d ↔ ∀ part ∈ d.allParts, TextsApart part.ownEntries) ∧
  (d.jsonSafe = Walk.entrywise.fold d → ∀ text, d.compactJson = .ok text →
    ∀ part ∈ d.allParts, (∃ inner, part.compactJson = .ok inner ∧ inner <:+: text) ∧
      ∀ e ∈ part.ownEntries, ∃ inner, e.2.compactJson = .ok inner ∧
        Json.quotedText e.1.jsonSafe.jsonName ++ ':' :: inner <:+: text)
  := by
  constructor
  · rw [jsonSafe_eq_entrywise_iff]
    apply forall₂_congr
    intro part hp
    exact copiedApart_iff (h part hp)
  · intro hall text ht part hp
    rw [jsonSafe_eq_entrywise_iff] at hall
    rw [compactJson_eq, ifWritable_eq_ok] at ht
    obtain ⟨hd, rfl⟩ := ht
    have hpart := copiedText_infix hall part hp
    have hjson := hasJson_parts hall hd part hp
    refine ⟨⟨part.copiedText, compactJson_of_hasJson hjson, hpart⟩, ?_⟩
    intro e he
    refine ⟨e.2.copiedText, compactJson_of_hasJson (hasJson_values (hall part hp) hjson e he), ?_⟩
    exact (entry_infix_copiedText (hall part hp) he).trans hpart

/-- A mapping with a date among its keys, that contains itself. -/
def releases : Document :=
  .map [(.scalar (.date ⟨2024, 1, 1⟩), .text "cache"), (.scalar (.bool true), .list [.up 1])]

theorem jsonSafe_keeps_iff_releases :
  (∀ part ∈ releases.allParts, KeysApart part.ownEntries) ∧
  releases.jsonSafe = Walk.entrywise.fold releases ∧
  ∃ text, releases.compactJson = .ok text ∧ "\"2024-01-01\":\"cache\"".toList <:+: text
  := by
  have hdistinct : ∀ part ∈ releases.allParts, KeysApart part.ownEntries := by decide +kernel
  obtain ⟨hiff, hkeeps⟩ := jsonSafe_keeps_iff releases hdistinct
  have hall : releases.jsonSafe = Walk.entrywise.fold releases := hiff.mpr (by decide +kernel)
  obtain ⟨_, hwritten, hentry⟩ := (hkeeps hall _ rfl releases (.head _)).2 _ (.head _)
  cases hwritten
  exact ⟨hdistinct, hall, _, rfl, hentry⟩

/-- A mapping with a date among its keys, and with the text of the date. -/
def dateAndText : Document :=
  .map [(.scalar (.date ⟨2024, 1, 1⟩), .text "cache"), (.ofText "2024-01-01", .text "b"),
    (.ofText "build", .map [(.ofText "script", .list [.text "make"])])]

/-- Under a date and under its text there is a single entry in the copy, with the later value. -/
theorem jsonSafe_dateAndText :
  (∀ part ∈ dateAndText.allParts, KeysApart part.ownEntries) ∧
  dateAndText.jsonSafe = .map [(.ofText "2024-01-01", .text "b"),
    (.ofText "build", .map [(.ofText "script", .list [.text "make"])])] ∧
  dateAndText.jsonSafe ≠ Walk.entrywise.fold dateAndText ∧
  dateAndText.compactJson.map (Text.occurrences "cache") = .ok 0
  := by
  refine ⟨by decide +kernel, rfl, ?_, by decide +kernel⟩
  rw [ne_eq, jsonSafe_eq_entrywise_iff]
  decide +kernel

end Document

end PipelineAudit
