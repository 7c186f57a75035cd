import PipelineAudit.Rule.Engine
import Mathlib.Data.List.Nodup
import Mathlib.Data.List.Perm.Basic

/-!
# Views of a catalog

A catalog can be looked at by category, by level and by platform, and it can be run.  The groups of
a view are built rule by rule, and so is a run, which passes over the rules that do not apply.
`Groups` is what the groups of the members gone through so far satisfy, and `Progress` is a run with
the rules that it has checked.

* `Groups.add`, `groupBy_groups`: the members with the same key form a group, in their order, and
  the groups stand in the order of their first members.
* `observe_eq`: a run checks the rules that apply, in their order.
* `introspection_agrees`: the views of a catalog describe what its runs check.
-/

namespace PipelineAudit.Catalog

/-! ### Groups -/

/-- Groups of members by a key: the keys in the order of their first members, each once, the members
of each group in their order, and every member in a group. -/
structure Groups {κ α : Type} [DecidableEq κ] (key : α → κ) (members : List α)
    (groups : List (κ × List α)) : Prop where
  keys : groups.map (·.1) = (members.map key).eraseDups
  nodup : (groups.map (·.1)).Nodup
  group : ∀ g ∈ groups, g.2 = members.filter fun a => key a = g.1
  perm : (groups.flatMap (·.2)).Perm members

section

variable {κ α : Type} [DecidableEq κ]

theorem eraseDups_concat (l : List κ) (k : κ) :
  (l ++ [k]).eraseDups = if k ∈ l then l.eraseDups else l.eraseDups ++ [k]
  := by
  rw [List.eraseDups_append, List.removeAll, List.filter_singleton]
  by_cases hk : k ∈ l
  · simp [hk]
  · simp [hk, List.eraseDups_cons]

/-- A key with a group gets no other. -/
theorem keys_addToGroup_of_mem {k : κ} {groups : List (κ × List α)} (h : k ∈ groups.map (·.1))
    (a : α) :
  (addToGroup k a groups).map (·.1) = groups.map (·.1)
  := by
  induction groups with
  | nil => cases h
  | cons g rest ih =>
    rw [addToGroup]
    split
    case isTrue => rfl
    case isFalse hk =>
      rw [List.map_cons, List.map_cons, ih (List.mem_of_ne_of_mem (Ne.symm hk) h)]

/-- A key without a group gets one after the others. -/
theorem keys_addToGroup_of_not_mem {k : κ} {groups : List (κ × List α)}
    (h : k ∉ groups.map (·.1)) (a : α) :
  (addToGroup k a groups).map (·.1) = groups.map (·.1) ++ [k]
  := by
  induction groups with
  | nil => rfl
  | cons g rest ih =>
    rw [List.map_cons, List.mem_cons, not_or] at h
    rw [addToGroup, if_neg (Ne.symm h.1), List.map_cons, ih h.2, List.map_cons, List.cons_append]

/-- Adding to a group leaves the groups with other keys as they are. -/
theorem mem_addToGroup {k : κ} {a : α} {groups : List (κ × List α)}
    (hn : (groups.map (·.1)).Nodup) {g : κ × List α} (hg : g ∈ addToGroup k a groups) :
  (g.1 ≠ k ∧ g ∈ groups) ∨
  (g.1 = k ∧ ∃ h ∈ groups, h.1 = k ∧ g.2 = h.2 ++ [a]) ∨
  (g.1 = k ∧ k ∉ groups.map (·.1) ∧ g.2 = [a])
  := by
  induction groups with
  | nil =>
    rw [addToGroup, List.mem_singleton] at hg
    subst hg
    simp
  | cons h rest ih =>
    rw [List.map_cons, List.nodup_cons] at hn
    rw [addToGroup] at hg
    split at hg
    case isTrue hk =>
      rw [List.mem_cons] at hg
      obtain rfl | hg := hg
      · exact .inr (.inl ⟨hk, h, .head _, hk, rfl⟩)
      · refine .inl ⟨?_, .tail _ hg⟩
        rintro rfl
        exact hn.1 (hk ▸ List.mem_map_of_mem hg)
    case isFalse hk =>
      rw [List.mem_cons] at hg
      obtain rfl | hg := hg
      · exact .inl ⟨hk, .head _⟩
      · obtain ⟨hne, hg⟩ | ⟨he, f, hf, hfk, hfa⟩ | ⟨he, hnew, ha⟩ := ih hn.2 hg
        · exact .inl ⟨hne, .tail _ hg⟩
        · exact .inr (.inl ⟨he, f, .tail _ hf, hfk, hfa⟩)
        · refine .inr (.inr ⟨he, ?_, ha⟩)
          rw [List.map_cons, List.mem_cons, not_or]
          exact ⟨Ne.symm hk, hnew⟩

theorem flatMap_addToGroup_perm (k : κ) (a : α) (groups : List (κ × List α)) :
  ((addToGroup k a groups).flatMap (·.2)).Perm (groups.flatMap (·.2) ++ [a])
  := by
  induction groups with
  | nil => exact .refl _
  | cons g rest ih =>
    rw [addToGroup]
    split
    · simp only [List.flatMap_cons, List.append_assoc]
      exact List.perm_append_comm.append_left _
    · simp only [List.flatMap_cons, List.append_assoc]
      exact ih.append_left _

variable {key : α → κ} {members : List α} {groups : List (κ × List α)}

theorem Groups.nil :
  Groups key [] []
  := ⟨rfl, List.nodup_nil, by simp, .refl _⟩

/-- Groups remain groups with one more member. -/
theorem Groups.add (h : Groups key members groups) (a : α) :
  Groups key (members ++ [a]) (addToGroup (key a) a groups)
  where
  keys := by
    rw [List.map_append, List.map_singleton, eraseDups_concat, ← h.keys]
    by_cases hk : key a ∈ groups.map (·.1)
    · rw [keys_addToGroup_of_mem hk, if_pos]
      rwa [h.keys, List.mem_eraseDups] at hk
    · rw [keys_addToGroup_of_not_mem hk, if_neg]
      rwa [h.keys, List.mem_eraseDups] at hk
  nodup := by
    by_cases hk : key a ∈ groups.map (·.1)
    · rw [keys_addToGroup_of_mem hk]
      exact h.nodup
    · rw [keys_addToGroup_of_not_mem hk, ← List.concat_eq_append]
      exact h.nodup.concat hk
  group := by
    intro g hg
    rw [List.filter_append]
    obtain ⟨hne, hg⟩ | ⟨he, f, hf, hfk, hfa⟩ | ⟨he, hnew, ha⟩ := mem_addToGroup h.nodup hg
    · simp [← h.group g hg, Ne.symm hne]
    · rw [hfa, h.group f hf, hfk, he]
      simp
    · have hnone : members.filter (fun b => key b = key a) = [] := by
        rw [List.filter_eq_nil_iff]
        intro b hb hk
        rw [h.keys, List.mem_eraseDups, ← of_decide_eq_true hk] at hnew
        exact hnew (List.mem_map_of_mem hb)
      rw [ha, he, hnone]
      simp
  perm := (flatMap_addToGroup_perm _ a groups).trans (h.perm.append_right [a])

/-- Groups of some members become groups of those and of all members that are added. -/
theorem Groups.addAll (h : Groups key members groups) (more : List α) :
  Groups key (members ++ more)
    (more.foldl (fun groups a => addToGroup (key a) a groups) groups)
  := by
  induction more generalizing members groups with
  | nil =>
    rw [List.append_nil]
    exact h
  | cons a rest ih =>
    rw [List.foldl_cons, List.append_cons]
    exact ih (h.add a)

theorem groupBy_groups (key : α → κ) (members : List α) :
  Groups key members (groupBy key members)
  := Groups.nil.addAll members

/-- A member lies in the group of its key and in no other. -/
theorem Groups.exists_mem_iff (h : Groups key members groups) {a : α} (ha : a ∈ members)
    (property : κ → Prop) :
  (∃ g ∈ groups, property g.1 ∧ a ∈ g.2) ↔ property (key a)
  := by
  constructor
  · rintro ⟨g, hg, hp, hag⟩
    rw [h.group g hg, List.mem_filter, decide_eq_true_eq] at hag
    rw [hag.2]
    exact hp
  · intro hp
    have hk : key a ∈ groups.map (·.1) := by
      rw [h.keys, List.mem_eraseDups]
      exact List.mem_map_of_mem ha
    obtain ⟨g, hg, hgk⟩ := List.mem_map.mp hk
    refine ⟨g, hg, hgk ▸ hp, ?_⟩
    rw [h.group g hg, List.mem_filter, decide_eq_true_eq]
    exact ⟨ha, hgk.symm⟩

end

/-! ### Runs -/

/-- How far a run has come: what it found, and the rules that it checked. -/
structure Progress where
  found : Findings := .none
  checked : List Rule := []

section

variable (document : Document) (source : Source) (strictness : Strictness)
  (skipped : List Category)

/-- A run after the next rule of the catalog. -/
def Progress.next (p : Progress) (r : Rule) : Progress :=
  if !r.isFor source.platform then p
  else if !strictness.allows r.level then p
  else if skipped.contains r.category then p
  else { found := r.reportInto document source p.found, checked := p.checked ++ [r] }

/-- A run through a catalog, with the rules that it checks. -/
def observe (rules : Catalog) : Progress :=
  rules.foldl (Progress.next document source strictness skipped) {}

/-- A rule that applies is checked, and the findings are those of a round of the run. -/
theorem Progress.next_eq (p : Progress) (r : Rule) :
  p.next document source strictness skipped r =
    { found := round document source strictness skipped p.found r
      checked := p.checked ++ [r].filter (·.applies source.platform strictness skipped) }
  := by
  rw [next, round, List.filter_cons, List.filter_nil, Rule.applies]
  cases r.isFor source.platform with
  | false => simp
  | true =>
    cases strictness.allows r.level with
    | false => simp
    | true =>
      cases skipped.contains r.category with
      | true => simp
      | false => simp

theorem foldl_next (rules : Catalog) (p : Progress) :
  rules.foldl (Progress.next document source strictness skipped) p =
    { found := rules.foldl (round document source strictness skipped) p.found
      checked := p.checked ++ rules.filter (·.applies source.platform strictness skipped) }
  := by
  induction rules generalizing p with
  | nil => simp
  | cons r rest ih =>
    rw [List.foldl_cons, ih, Progress.next_eq, List.foldl_cons, List.append_assoc,
      ← List.filter_append, List.singleton_append]

/-- A run finds what `execute` finds, and checks the rules that apply, in their order. -/
theorem observe_eq (rules : Catalog) :
  rules.observe document source strictness skipped =
    { found := rules.execute document source strictness skipped
      checked := rules.filter (·.applies source.platform strictness skipped) }
  := foldl_next document source strictness skipped rules {}

end

theorem ofName?_name (level : Level) :
  Strictness.ofName? level.name = some (.upTo level)
  := by
  cases level <;> rfl

open Classical in
/-- The views of a catalog and its runs agree, whatever its rules are.  The groups by category and
by level are groups of all rules.  For a platform, a run of every level without categories to skip
checks the rules for the platform, in their order, each as often as it is listed; and a run at any
level and with categories to skip checks those among them that lie in the group of an allowed level
and in the group of no skipped category.  What such a run finds is what a run finds that is given
the name of its level. -/
theorem introspection_agrees (rules : Catalog) :
  Groups Rule.category rules rules.byCategory ∧
  Groups Rule.level rules rules.byLevel ∧
  ∀ (document : Document) (source : Source),
    let listed := rules.forPlatform source.platform
    let run := rules.observe document source
    (run .everything []).checked = listed ∧
    (∀ (strictness : Strictness) (skipped : List Category),
      (run strictness skipped).checked = listed.filter fun r =>
        (∃ g ∈ rules.byLevel, strictness.allows g.1 ∧ r ∈ g.2) ∧
        ¬ ∃ g ∈ rules.byCategory, skipped.contains g.1 ∧ r ∈ g.2) ∧
    (∀ skipped : List Category,
      rules.executeNamed document source "all" skipped = .ok (run .everything skipped).found ∧
      ∀ level : Level, rules.executeNamed document source level.name skipped =
        .ok (run (.upTo level) skipped).found)
  := by
  have hcategory : Groups Rule.category rules rules.byCategory := groupBy_groups _ _
  have hlevel : Groups Rule.level rules rules.byLevel := groupBy_groups _ _
  refine ⟨hcategory, hlevel, ?_⟩
  intro document source listed run
  refine ⟨?_, ?_, ?_⟩
  · simp only [run, observe_eq, listed, forPlatform]
    apply List.filter_congr
    intro r _
    simp [Rule.applies, Strictness.allows]
  · intro strictness skipped
    simp only [run, observe_eq, listed, forPlatform]
    rw [List.filter_filter]
    apply List.filter_congr
    intro r hr
    simp only [hlevel.exists_mem_iff hr fun level => strictness.allows level,
      hcategory.exists_mem_iff hr fun category => skipped.contains category]
    rw [Rule.applies, Bool.and_assoc, Bool.and_comm, Bool.decide_and, decide_not,
      Bool.decide_eq_true, Bool.decide_eq_true]
  · intro skipped
    simp only [run, observe_eq]
    refine ⟨rfl, ?_⟩
    intro level
    rw [executeNamed, ofName?_name]

end PipelineAudit.Catalog
