import PipelineAudit.Document.Access

/-!
# Documents without references

The parts of a tree are trees with fewer containers, so that whatever goes down in a tree comes to
an end.  A tree is closed.
-/

namespace PipelineAudit.Document

mutual

theorem closedUnder_of_isTree (depth : Nat) {d : Document} (h : d.isTree) :
  d.closedUnder depth
  := by
  match d with
  | scalar _ => rfl
  | list ds => exact allClosedUnder_of_allTrees (depth + 1) h
  | map es => exact allEntriesClosedUnder_of_allTreeEntries (depth + 1) h

theorem allClosedUnder_of_allTrees (depth : Nat) {ds : List Document} (h : allTrees ds) :
  allClosedUnder depth ds
  := by
  match ds with
  | [] => rfl
  | d :: rest =>
    rw [allTrees, Bool.and_eq_true] at h
    rw [allClosedUnder, Bool.and_eq_true]
    exact ⟨closedUnder_of_isTree depth h.1, allClosedUnder_of_allTrees depth h.2⟩

theorem allEntriesClosedUnder_of_allTreeEntries (depth : Nat) {es : List (Key × Document)}
    (h : allTreeEntries es) :
  allEntriesClosedUnder depth es
  := by
  match es with
  | [] => rfl
  | (k, d) :: rest =>
    rw [allTreeEntries, Bool.and_eq_true] at h
    rw [allEntriesClosedUnder, Bool.and_eq_true]
    exact ⟨closedUnder_of_isTree depth h.1, allEntriesClosedUnder_of_allTreeEntries depth h.2⟩

end

/-- A tree is closed. -/
theorem isClosed_of_isTree {d : Document} (h : d.isTree) :
  d.isClosed
  := closedUnder_of_isTree 0 h

theorem allTreeEntries_iff {es : List (Key × Document)} :
  allTreeEntries es ↔ ∀ e ∈ es, e.2.isTree
  := by
  induction es with
  | nil => simp [allTreeEntries]
  | cons e rest ih => simp [allTreeEntries, ih]

theorem allTrees_iff {ds : List Document} :
  allTrees ds ↔ ∀ d ∈ ds, d.isTree
  := by
  induction ds with
  | nil => simp [allTrees]
  | cons d rest ih => simp [allTrees, ih]

/-- The entries of a mapping without references are those it is written with. -/
theorem entries_of_isTree {es : List (Key × Document)} (h : (map es).isTree) :
  (map es).entries = es
  := by
  rw [isTree, allTreeEntries_iff] at h
  exact entries_map_of_isClosed fun e he => isClosed_of_isTree (h e he)

/-- The items of a list without references are those it is written with. -/
theorem items_of_isTree {ds : List Document} (h : (list ds).isTree) :
  (list ds).items = ds
  := by
  rw [isTree, allTrees_iff] at h
  exact items_list_of_isClosed fun d hd => isClosed_of_isTree (h d hd)

theorem containers_le_of_mem {ds : List Document} {d : Document} (h : d ∈ ds) :
  d.containers ≤ itemContainers ds
  := by
  induction h with
  | head rest => exact Nat.le_add_right _ _
  | tail d' _ ih => exact Nat.le_trans ih (Nat.le_add_left _ _)

theorem containers_le_of_mem_entries {es : List (Key × Document)} {e : Key × Document}
    (h : e ∈ es) :
  e.2.containers ≤ entryContainers es
  := by
  induction h with
  | head rest => exact Nat.le_add_right _ _
  | tail d' _ ih => exact Nat.le_trans ih (Nat.le_add_left _ _)

/-- An item of a tree is a tree with fewer containers. -/
theorem item_of_isTree {d item : Document} (h : d.isTree) (hi : item ∈ d.items) :
  item.isTree ∧ item.containers < d.containers
  := by
  cases d with
  | list ds =>
    rw [items_of_isTree h] at hi
    rw [isTree, allTrees_iff] at h
    rw [containers, Nat.add_comm]
    exact ⟨h item hi, Nat.lt_succ_of_le (containers_le_of_mem hi)⟩
  | scalar s => cases hi
  | map es => cases hi
  | up level => cases hi

/-- A value of a tree is a tree with fewer containers. -/
theorem entry_of_isTree {d : Document} {e : Key × Document} (h : d.isTree)
    (he : e ∈ d.entries) :
  e.2.isTree ∧ e.2.containers < d.containers
  := by
  cases d with
  | map es =>
    rw [entries_of_isTree h] at he
    rw [isTree, allTreeEntries_iff] at h
    rw [containers, Nat.add_comm]
    exact ⟨h e he, Nat.lt_succ_of_le (containers_le_of_mem_entries he)⟩
  | scalar s => cases he
  | list ds => cases he
  | up level => cases he

theorem get?_of_isTree {d part : Document} {name : String} (h : d.isTree)
    (hp : d.get? name = some part) :
  part.isTree ∧ part.containers < d.containers
  := by
  obtain ⟨e, he, rfl⟩ := Option.map_eq_some_iff.mp hp
  apply entry_of_isTree h (List.mem_of_find?_eq_some he)

theorem get_of_isTree {d : Document} (h : d.isTree) (name : String) :
  (d.get name).isTree ∧ (d.get name).containers ≤ d.containers
  := by
  rw [get]
  cases hp : d.get? name with
  | none => exact ⟨rfl, Nat.zero_le _⟩
  | some part =>
    obtain ⟨ht, hc⟩ := get?_of_isTree h hp
    exact ⟨ht, Nat.le_of_lt hc⟩

end PipelineAudit.Document
