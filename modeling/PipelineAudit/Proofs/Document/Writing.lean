import PipelineAudit.Document.Json
import PipelineAudit.Proofs.Document.Entries
import PipelineAudit.Proofs.Document.Parts

/-!
# Documents that can be written

A document can be written if each integer in it can, among its keys or its values.  For its text as
JSON less is needed: a copy is written there, in which some keys are texts already and some entries
may be missing.

* `isWritable_list`, `isWritable_map`: what can be written, part by part.
* `hasJson`, `jsonText_eq`: which documents have a text as JSON, and which text.
* `hasJson_of_isWritable`: what can be written has a text as JSON.
-/

namespace PipelineAudit

theorem Key.isWritable_jsonSafe {k : Key} (h : k.isWritable) :
  k.jsonSafe.isWritable
  := by
  cases k with
  | tuple parts => rfl
  | scalar s =>
    cases s with
    | int n => exact h
    | _ => rfl

theorem Key.isCopyable_of_isWritable {k : Key} (h : k.isWritable) :
  k.isCopyable
  := by
  cases k with
  | tuple parts => exact h
  | scalar s => rfl

namespace Document

/-! ### Part by part -/

section

variable (ds : List Document) (es : List (Key × Document))

theorem isWritable_list :
  (list ds).isWritable = ds.all isWritable
  := by
  rw [isWritable]
  induction ds with
  | nil => rfl
  | cons d rest ih => rw [itemsWritable, ih, List.all_cons]

theorem isWritable_map :
  (map es).isWritable = es.all fun e => e.1.isWritable && e.2.isWritable
  := by
  rw [isWritable]
  induction es with
  | nil => rfl
  | cons e rest ih => rw [entriesWritable, ih, List.all_cons]

theorem isCopyable_list :
  (list ds).isCopyable = ds.all isCopyable
  := by
  rw [isCopyable]
  induction ds with
  | nil => rfl
  | cons d rest ih => rw [itemsCopyable, ih, List.all_cons]

theorem isCopyable_map :
  (map es).isCopyable = es.all fun e => e.1.isCopyable && e.2.isCopyable
  := by
  rw [isCopyable]
  induction es with
  | nil => rfl
  | cons e rest ih => rw [entriesCopyable, ih, List.all_cons]

end

/-! ### Texts as JSON -/

/-- Whether a document has a text as JSON: it can be copied, and the copy can be written. -/
def hasJson (d : Document) : Bool :=
  d.isCopyable && d.jsonSafe.isWritable

theorem jsonText_eq (form : Json → List Char) (d : Document) :
  d.jsonText form = ifWritable d.hasJson (form d.jsonSafe.toJson)
  := by
  rw [jsonText, copy, hasJson]
  cases d.isCopyable <;> rfl

theorem isCopyable_of_isWritable {d : Document} (h : d.isWritable) :
  d.isCopyable
  := by
  induction d using induction_parts with
  | scalar s => rfl
  | up level => rfl
  | list ds ih =>
    rw [isWritable_list, List.all_eq_true] at h
    rw [isCopyable_list, List.all_eq_true]
    exact fun d hd => ih d hd (h d hd)
  | map es ih =>
    rw [isWritable_map, List.all_eq_true] at h
    rw [isCopyable_map, List.all_eq_true]
    intro e he
    obtain ⟨hk, hd⟩ := Bool.and_eq_true_iff.mp (h e he)
    rw [Key.isCopyable_of_isWritable hk, ih e he hd]
    rfl

theorem isWritable_jsonSafe {d : Document} (h : d.isWritable) :
  d.jsonSafe.isWritable
  := by
  induction d using induction_parts with
  | scalar s => exact h
  | up level => rfl
  | list ds ih =>
    rw [isWritable_list, List.all_eq_true] at h
    rw [jsonSafe_list, isWritable_list, List.all_map, List.all_eq_true]
    exact fun d hd => ih d hd (h d hd)
  | map es ih =>
    rw [isWritable_map, List.all_eq_true] at h
    have hpairs : ∀ e ∈ es.map fun e => (e.1.jsonSafe, e.2.jsonSafe),
        e.1.isWritable ∧ e.2.isWritable := by
      rw [List.forall_mem_map]
      intro e he
      obtain ⟨hk, hd⟩ := Bool.and_eq_true_iff.mp (h e he)
      exact ⟨Key.isWritable_jsonSafe hk, ih e he hd⟩
    rw [jsonSafe_map, isWritable_map, List.all_eq_true]
    intro e he
    rw [Bool.and_eq_true]
    exact forall_distinctEntries (P := (·.isWritable)) (Q := (·.isWritable)) hpairs e he

/-- A document that can be written has a text as JSON. -/
theorem hasJson_of_isWritable {d : Document} (h : d.isWritable) :
  d.hasJson
  := by
  rw [hasJson, isCopyable_of_isWritable h, isWritable_jsonSafe h]
  rfl

/-! ### Parts taken out -/

section

variable {around : Nat → Document}

theorem graftItems_eq_map (depth : Nat) (ds : List Document) :
  graftItems around depth ds = ds.map (graft around depth)
  := by
  induction ds with
  | nil => rfl
  | cons d rest ih => rw [graftItems, ih, List.map_cons]

theorem graftEntries_eq_map (depth : Nat) (es : List (Key × Document)) :
  graftEntries around depth es = es.map fun e => (e.1, e.2.graft around depth)
  := by
  induction es with
  | nil => rfl
  | cons e rest ih => rw [graftEntries, ih, List.map_cons]

theorem isWritable_graft (ha : ∀ level, (around level).isWritable) {d : Document}
    (h : d.isWritable) (depth : Nat) :
  (d.graft around depth).isWritable
  := by
  induction d using induction_parts generalizing depth with
  | scalar s => exact h
  | up level =>
    rw [graft]
    split
    · exact ha depth
    · rfl
  | list ds ih =>
    rw [isWritable_list, List.all_eq_true] at h
    rw [graft, graftItems_eq_map, isWritable_list, List.all_map, List.all_eq_true]
    exact fun d hd => ih d hd (h d hd) (depth + 1)
  | map es ih =>
    rw [isWritable_map, List.all_eq_true] at h
    rw [graft, graftEntries_eq_map, isWritable_map, List.all_map, List.all_eq_true]
    intro e he
    obtain ⟨hk, hd⟩ := Bool.and_eq_true_iff.mp (h e he)
    exact Bool.and_eq_true_iff.mpr ⟨hk, ih e he hd (depth + 1)⟩

end

theorem isWritable_withPart {container part : Document} (h : container.isWritable)
    (hp : part.isWritable) (i : Nat) :
  (container.withPart i part).isWritable
  := by
  cases container with
  | scalar s => exact h
  | up level => rfl
  | list ds =>
    rw [isWritable_list, List.all_eq_true] at h
    rw [withPart, isWritable_list, List.all_eq_true]
    intro d hd
    obtain hd | rfl := List.mem_or_eq_of_mem_set hd
    · exact h d hd
    · exact hp
  | map es =>
    rw [isWritable_map, List.all_eq_true] at h
    rw [withPart, isWritable_map, List.all_eq_true]
    intro e he
    obtain ⟨j, hj⟩ := List.mem_iff_getElem?.mp he
    rw [List.getElem?_modify, Option.map_eq_map, Option.map_eq_some_iff] at hj
    obtain ⟨e', he', rfl⟩ := hj
    have he' := h e' (List.mem_of_getElem? he')
    split
    · exact Bool.and_eq_true_iff.mpr ⟨(Bool.and_eq_true_iff.mp he').1, hp⟩
    · exact he'

theorem isWritable_takeOut {container part : Document} (h : container.isWritable)
    (hp : part.isWritable) (i : Nat) :
  (container.takeOut i part).isWritable
  := isWritable_graft (fun _ => isWritable_withPart h rfl i) hp 0

/-- The items of a document that can be written can be written. -/
theorem isWritable_of_mem_items {d item : Document} (h : d.isWritable) (hi : item ∈ d.items) :
  item.isWritable
  := by
  cases d with
  | list ds =>
    obtain ⟨i, hlt, rfl⟩ := List.mem_mapIdx.mp hi
    apply isWritable_takeOut h
    rw [isWritable_list, List.all_eq_true] at h
    exact h _ (List.getElem_mem hlt)
  | scalar s => cases hi
  | map es => cases hi
  | up level => cases hi

/-- The entries of a document that can be written can be written. -/
theorem isWritable_of_mem_entries {d : Document} {e : Key × Document} (h : d.isWritable)
    (he : e ∈ d.entries) :
  e.1.isWritable ∧ e.2.isWritable
  := by
  cases d with
  | map es =>
    obtain ⟨i, hlt, rfl⟩ := List.mem_mapIdx.mp he
    have hall := h
    rw [isWritable_map, List.all_eq_true] at hall
    obtain ⟨hk, hd⟩ := Bool.and_eq_true_iff.mp (hall _ (List.getElem_mem hlt))
    exact ⟨hk, isWritable_takeOut h hd i⟩
  | scalar s => cases he
  | list ds => cases he
  | up level => cases he

/-- What is found in a document that can be written can be written, and null where nothing is. -/
theorem isWritable_find {d : Document} (h : d.isWritable) (p : Key × Document → Bool) :
  (((d.entries.find? p).map (·.2)).getD null).isWritable
  := by
  cases hf : d.entries.find? p with
  | none => rfl
  | some e => exact (isWritable_of_mem_entries h (List.mem_of_find?_eq_some hf)).2

theorem isWritable_get {d : Document} (h : d.isWritable) (name : String) :
  (d.get name).isWritable
  := isWritable_find h _

end Document

/-! ### An integer that cannot be written -/

/-- An integer of 4302 digits. -/
def overlongInteger : Int :=
  Nat.pow 16 3572

end PipelineAudit
