import PipelineAudit.Finding.Basic

/-!
# The ids of issues

`HaveIds ids issues` says that each issue is filed under one of the given ids.  It is built up in
the way in which lists of issues are.  `filedUnder id issues` are the issues that are filed under
one id.
-/

namespace PipelineAudit

/-- Whether each issue is filed under one of some ids. -/
def HaveIds (ids : List String) (issues : List Issue) : Prop :=
  ∀ i ∈ issues, ∃ id ∈ ids, i.ruleId = some id

namespace HaveIds

variable {α : Type} {ids : List String}

theorem nil :
  HaveIds ids []
  := by
  intro i hi
  cases hi

theorem single {id : String} (hm : id ∈ ids) {i : Issue} (hi : i.ruleId = some id) :
  HaveIds ids [i]
  := by
  intro j hj
  cases List.mem_singleton.mp hj
  exact ⟨id, hm, hi⟩

theorem append {issues issues' : List Issue} (h : HaveIds ids issues) (k : HaveIds ids issues') :
  HaveIds ids (issues ++ issues')
  := by
  intro i hi
  obtain hi | hi := List.mem_append.mp hi
  · exact h i hi
  · exact k i hi

theorem ite {c : Prop} [Decidable c] {issues issues' : List Issue} (h : HaveIds ids issues)
    (k : HaveIds ids issues') :
  HaveIds ids (if c then issues else issues')
  := by
  split
  · exact h
  · exact k

theorem map {id : String} (hm : id ∈ ids) {f : α → Issue} (hf : ∀ a, (f a).ruleId = some id)
    (l : List α) :
  HaveIds ids (l.map f)
  := by
  intro i hi
  obtain ⟨a, _, rfl⟩ := List.mem_map.mp hi
  exact ⟨id, hm, hf a⟩

theorem filterMap {f : α → Option Issue}
    (hf : ∀ a i, f a = some i → ∃ id ∈ ids, i.ruleId = some id) (l : List α) :
  HaveIds ids (l.filterMap f)
  := by
  intro i hi
  obtain ⟨a, _, ha⟩ := List.mem_filterMap.mp hi
  exact hf a i ha

theorem mono {ids' : List String} (hs : ids ⊆ ids') {issues : List Issue}
    (h : HaveIds ids issues) :
  HaveIds ids' issues
  := by
  intro i hi
  obtain ⟨id, hm, hid⟩ := h i hi
  exact ⟨id, hs hm, hid⟩

end HaveIds

/-- The issues that are filed under an id. -/
def filedUnder (id : String) (issues : List Issue) : List Issue :=
  issues.filter (·.ruleId = some id)

section

variable {α : Type} {id : String} {issues : List Issue}

theorem filedUnder_append (id : String) (issues issues' : List Issue) :
  filedUnder id (issues ++ issues') = filedUnder id issues ++ filedUnder id issues'
  := List.filter_append ..

theorem filedUnder_flatMap (id : String) (f : α → List Issue) (l : List α) :
  filedUnder id (l.flatMap f) = l.flatMap fun a => filedUnder id (f a)
  := List.filter_flatMap ..

/-- Issues of other ids are left out. -/
theorem HaveIds.filedUnder_eq_nil {ids : List String} (h : HaveIds ids issues) (hid : id ∉ ids) :
  filedUnder id issues = []
  := by
  rw [filedUnder, List.filter_eq_nil_iff]
  intro i hi hf
  obtain ⟨id', hm, hi'⟩ := h i hi
  rw [decide_eq_true_iff, hi', Option.some_inj] at hf
  exact hid (hf ▸ hm)

/-- Issues of the id alone are all there. -/
theorem HaveIds.filedUnder_eq_self (h : HaveIds [id] issues) :
  filedUnder id issues = issues
  := by
  rw [filedUnder, List.filter_eq_self]
  intro i hi
  obtain ⟨id', hm, hi'⟩ := h i hi
  rw [decide_eq_true_iff, hi', List.mem_singleton.mp hm]

end

end PipelineAudit
