import PipelineAudit.Proofs.Document.Places

/-!
# Unions of mappings

The entries of a closed mapping are closed themselves, so that nothing in them refers to the
mapping. So two mappings can be put together entry by entry, and a mapping can be given another
value under a name.

* `entries_union`: the entries of two mappings without a common key are those of their union.
* `get_setting_self`, `get_setting_of_ne`: what a mapping has under a name after one value was set.
-/

namespace PipelineAudit

theorem Key.same_ofText (name name' : String) :
  (Key.ofText name).same (.ofText name') = decide (name = name')
  := by
  rw [ofText, ofText, same, Scalar.same]

/-- A key equals a name as a value if and only if it is that name. -/
theorem Key.same_ofText_eq_isText (name : String) (key : Key) :
  key.same (.ofText name) = key.isText name
  := by
  match key with
  | .scalar (.text s) => exact Key.same_ofText s name
  | .scalar .null => rfl
  | .scalar (.bool b) => rfl
  | .scalar (.int n) => rfl
  | .scalar (.float x) =>
    rw [Key.ofText, Key.same, Scalar.same]
    · cases (Scalar.float x).number? <;> cases (Scalar.float x).infinite? <;> rfl
    all_goals nofun
  | .scalar (.date _) => rfl
  | .scalar (.moment _) => rfl
  | .tuple _ => rfl

theorem Key.isText_of_ne {name other : String} (hne : other ≠ name) {key : Key}
    (h : key.isText other) :
  ¬ key.isText name
  := by
  match key with
  | .scalar (.text s) =>
    rw [Key.isText, decide_eq_true_iff] at h ⊢
    rw [h]
    exact hne

namespace Document

/-! ### Closed containers -/

mutual

theorem closedUnder_mono {m n : Nat} (hmn : m ≤ n) {d : Document} (h : d.closedUnder m) :
  d.closedUnder n
  := by
  match d with
  | scalar _ => rfl
  | list ds => exact allClosedUnder_mono (Nat.succ_le_succ hmn) h
  | map es => exact allEntriesClosedUnder_mono (Nat.succ_le_succ hmn) h
  | up level => exact decide_eq_true (Nat.lt_of_lt_of_le (of_decide_eq_true h) hmn)

theorem allClosedUnder_mono {m n : Nat} (hmn : m ≤ n) {ds : List Document}
    (h : allClosedUnder m ds) :
  allClosedUnder n ds
  := by
  match ds with
  | [] => rfl
  | d :: rest =>
    rw [allClosedUnder, Bool.and_eq_true] at h ⊢
    exact ⟨closedUnder_mono hmn h.1, allClosedUnder_mono hmn h.2⟩

theorem allEntriesClosedUnder_mono {m n : Nat} (hmn : m ≤ n) {es : List (Key × Document)}
    (h : allEntriesClosedUnder m es) :
  allEntriesClosedUnder n es
  := by
  match es with
  | [] => rfl
  | (_, d) :: rest =>
    rw [allEntriesClosedUnder, Bool.and_eq_true] at h ⊢
    exact ⟨closedUnder_mono hmn h.1, allEntriesClosedUnder_mono hmn h.2⟩

end

/-- A mapping that is written with closed values is closed. -/
theorem isClosed_map {es : List (Key × Document)} (h : ∀ e ∈ es, e.2.isClosed) :
  (map es).isClosed
  := by
  rw [isClosed, closedUnder]
  induction es with
  | nil => rfl
  | cons e rest ih =>
    rw [List.forall_mem_cons] at h
    rw [allEntriesClosedUnder, Bool.and_eq_true]
    exact ⟨closedUnder_mono (Nat.zero_le _) h.1, ih h.2⟩

theorem isClosed_list {ds : List Document} (h : ∀ d ∈ ds, d.isClosed) :
  (list ds).isClosed
  := by
  rw [isClosed, closedUnder]
  induction ds with
  | nil => rfl
  | cons d rest ih =>
    rw [List.forall_mem_cons] at h
    rw [allClosedUnder, Bool.and_eq_true]
    exact ⟨closedUnder_mono (Nat.zero_le _) h.1, ih h.2⟩

/-! ### Two mappings put together -/

/-- The mapping with the entries of two: those of the first, with the value of the second where both
have a key, and then the others of the second. -/
def union (first second : Document) : Document :=
  map ((first.entries.map fun e => (e.1, (second.find? e.1).getD e.2)) ++
    second.entries.filter fun e => (first.find? e.1).isNone)

/-- Whether neither of two mappings has a key of the other. -/
structure DisjointKeys (first second : Document) : Prop where
  left : ∀ e ∈ first.entries, second.find? e.1 = none
  right : ∀ e ∈ second.entries, first.find? e.1 = none

/-- Without a common key, the entries of two mappings are kept as they are. -/
theorem union_of_disjointKeys {first second : Document} (h : first.DisjointKeys second) :
  first.union second = map (first.entries ++ second.entries)
  := by
  have hl : first.entries.map (fun e => (e.1, (second.find? e.1).getD e.2)) = first.entries := by
    apply Eq.trans _ (List.map_id' _)
    apply List.map_congr_left
    intro e he
    rw [h.left e he, Option.getD_none]
  have hr : second.entries.filter (fun e => (first.find? e.1).isNone) = second.entries := by
    rw [List.filter_eq_self]
    intro e he
    rw [h.right e he, Option.isNone_none]
  rw [union, hl, hr]

theorem entries_union {first second : Document} (hf : first.isClosed) (hs : second.isClosed)
    (h : first.DisjointKeys second) :
  (first.union second).entries = first.entries ++ second.entries
  := by
  rw [union_of_disjointKeys h]
  apply entries_map_of_isClosed
  intro e he
  rw [List.mem_append] at he
  cases he with
  | inl he => exact isClosed_of_mem_entries hf he
  | inr he => exact isClosed_of_mem_entries hs he

/-! ### A value set under a name -/

/-- The mapping with another value under a name, at the end if it had none. -/
def setting (d : Document) (name : String) (value : Document) : Document :=
  map (insertEntry d.entries (.ofText name) value)

/-- An entry that is inserted under a name is the one found there, and under other names the entries
are found as before. -/
theorem find?_insertEntry (es : List (Key × Document)) (name other : String) (value : Document) :
  ((insertEntry es (.ofText name) value).find? (·.1.isText other)).map (·.2) =
    if other = name then some value else (es.find? (·.1.isText other)).map (·.2)
  := by
  have hname : (Key.ofText name).isText other = decide (other = name) := by
    rw [← Key.same_ofText_eq_isText, Key.same_ofText, decide_eq_decide, eq_comm]
  simp only [insertEntry, Key.same_ofText_eq_isText]
  split
  case isTrue h =>
    have hkey : ∀ e : Key × Document,
        (if e.1.isText name then (e.1, value) else e).1 = e.1 := fun e => by split <;> rfl
    rw [List.find?_map, Option.map_map]
    simp only [Function.comp_def, hkey]
    by_cases hn : other = name
    · obtain ⟨e, he⟩ := Option.isSome_iff_exists.mp (List.find?_isSome.mpr (List.any_eq_true.mp h))
      have ht : e.1.isText name := by simpa using List.find?_some he
      rw [hn, he, Option.map_some, if_pos ht, if_pos rfl]
    · rw [if_neg hn]
      apply Option.map_congr
      intro e he
      have ht : e.1.isText other := by simpa using List.find?_some he
      rw [if_neg (Key.isText_of_ne hn ht)]
  case isFalse h =>
    rw [List.find?_append, List.find?_singleton, hname]
    by_cases hn : other = name
    · have hnone : es.find? (·.1.isText name) = none := by
        rw [← Option.not_isSome_iff_eq_none, List.find?_isSome, ← List.any_eq_true]
        exact h
      rw [hn, hnone, Option.none_or, if_pos (decide_eq_true rfl), Option.map_some, if_pos rfl]
    · rw [if_neg (mt of_decide_eq_true hn), Option.or_none, if_neg hn]

theorem mem_insertEntry {es : List (Key × Document)} {key : Key} {value : Document}
    {e : Key × Document} (he : e ∈ insertEntry es key value) :
  e ∈ es ∨ e.2 = value
  := by
  rw [insertEntry] at he
  split at he
  case isTrue =>
    obtain ⟨e', he', rfl⟩ := List.mem_map.mp he
    split
    · exact .inr rfl
    · exact .inl he'
  case isFalse =>
    rw [List.mem_append, List.mem_singleton] at he
    obtain he | rfl := he
    · exact .inl he
    · exact .inr rfl

section

variable {d value : Document}

theorem isClosed_of_mem_insertEntry (hd : d.isClosed) (hv : value.isClosed) (key : Key) :
  ∀ e ∈ insertEntry d.entries key value, e.2.isClosed
  := by
  intro e he
  obtain he | rfl := mem_insertEntry he
  · exact isClosed_of_mem_entries hd he
  · exact hv

theorem isClosed_setting (hd : d.isClosed) (hv : value.isClosed) (name : String) :
  (d.setting name value).isClosed
  := isClosed_map (isClosed_of_mem_insertEntry hd hv _)

theorem entries_setting (hd : d.isClosed) (hv : value.isClosed) (name : String) :
  (d.setting name value).entries = insertEntry d.entries (.ofText name) value
  := entries_map_of_isClosed (isClosed_of_mem_insertEntry hd hv _)

/-- After a value was set under a name, a mapping has it there, and under other names what it had
before. -/
theorem get?_setting (hd : d.isClosed) (hv : value.isClosed) (name other : String) :
  (d.setting name value).get? other = if other = name then some value else d.get? other
  := by
  rw [get?, entries_setting hd hv, find?_insertEntry, get?]

theorem get_setting_self (hd : d.isClosed) (hv : value.isClosed) (name : String) :
  (d.setting name value).get name = value
  := by
  rw [get, get?_setting hd hv, if_pos rfl, Option.getD_some]

theorem get_setting_of_ne (hd : d.isClosed) (hv : value.isClosed) {name other : String}
    (hne : other ≠ name) :
  (d.setting name value).get other = d.get other
  := by
  rw [get, get?_setting hd hv, if_neg hne, get]

end

end Document

end PipelineAudit
