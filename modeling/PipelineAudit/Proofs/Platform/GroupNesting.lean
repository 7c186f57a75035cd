import PipelineAudit.Proofs.Document.Containers
import PipelineAudit.Proofs.Document.Trees
import PipelineAudit.Proofs.Platform.Reporting
import Mathlib.Logic.Relation

/-!
# Nested groups of steps

The lists of steps of a pipeline form a graph: those of the groups in a list of steps lie one level
deeper.  The steps of a pipeline come to an end if its groups are nested to a finite depth, and only
then.

* `finitelyNested_of_failure_eq_none`: checks with any bound that come to an end show a finite
  depth.
* `finitelyNested_iff_acyclic`: in a closed document, the depth is finite unless a group lies inside
  of itself.
* `stepReport_failure_eq_none_iff`: in a closed document, the bound by the number of containers
  suffices.
* `stepReport_eq`: the checks of a list of steps report what those of its entries do in order, a
  group what the checks of its own list do.
* `finitelyNested_of_isTree`: without references, groups are nested to a finite depth.
-/

namespace PipelineAudit.Bitbucket

open Document (depicts)

/-! ### Groups in a list of steps -/

/-- The list of steps of the group that an entry is. -/
def groupOf? (entry : Document) : Option Document :=
  match Entry.of entry with
  | .group steps _ => some steps
  | _ => none

/-- The lists of steps of the groups in a list of steps. -/
def groups (steps : Document) : List Document :=
  steps.items.filterMap groupOf?

/-- Whether a list of steps is that of a group in another one. -/
def Nested (inner steps : Document) : Prop :=
  inner ∈ groups steps

/-- Whether each way down the groups in a list of steps comes to an end. -/
def FinitelyNested (steps : Document) : Prop :=
  Acc Nested steps

/-- What the checks of a list of steps report with a bound, and their failure. -/
def stepReportWithin (fuel : Nat) (steps : Document) (label : String) : Outcome :=
  (checkStepsWithin fuel steps label).alone

/-- What the checks of a list of steps report, and their failure. -/
def stepReport (steps : Document) (label : String) : Outcome :=
  stepReportWithin (deepest steps) steps label

/-- The issues of a single step. -/
def singleStepIssues (step : Document) (label : String) : List Issue :=
  (if step.sets "name" then [] else [missingStepName label]) ++
    (if step.sets "script" then [] else [missingScript label])

/-- What the checks of an entry report, given what those of the lists of steps in it do. -/
def entryReport (inside : Document → String → Outcome) (label : String) (entry : Document) :
    Outcome :=
  match Entry.of entry with
  | .group inner suffix => inside inner (label ++ suffix)
  | .step single => .done (.ofIssues (singleStepIssues single label))
  | .other => .done .none

theorem alone_checkSingleStep (step : Document) (label : String) :
  (checkSingleStep step label).alone = .done (.ofIssues (singleStepIssues step label))
  := by
  rw [checkSingleStep, Reporter.alone_andThen (Reporter.adds_reportIf _ _),
    Reporter.alone_reportIf, Reporter.alone_reportIf, singleStepIssues]
  cases step.sets "name" <;> cases step.sets "script" <;> rfl

theorem stepReportWithin_succ (fuel : Nat) (steps : Document) (label : String) :
  stepReportWithin (fuel + 1) steps label =
    .each (entryReport (stepReportWithin fuel) label) steps.items
  := by
  have hadds : ∀ entry, Reporter.Adds (match Entry.of entry with
      | .group inner suffix => checkStepsWithin fuel inner (label ++ suffix)
      | .step single => checkSingleStep single label
      | .other => .silent) := by
    intro entry
    cases Entry.of entry with
    | group inner suffix => exact adds_checkStepsWithin fuel inner _
    | step single => exact adds_checkSingleStep single label
    | other => exact Reporter.adds_silent
  refine (Reporter.alone_each fun entry _ => hadds entry).trans ?_
  congr 1
  funext entry
  rw [entryReport]
  cases Entry.of entry with
  | group inner suffix => rfl
  | step single => exact alone_checkSingleStep single label
  | other => rfl

theorem groupOf?_eq_some_iff {entry inner : Document} :
  groupOf? entry = some inner ↔ ∃ suffix, Entry.of entry = .group inner suffix
  := by
  rw [groupOf?]
  cases Entry.of entry <;> simp

/-- The checks of an entry do not fail, unless it is a group and those of its list do. -/
theorem entryReport_failure_eq_none_iff {inside : Document → String → Outcome} {label : String}
    {entry : Document} :
  (entryReport inside label entry).failure = none ↔
    ∀ inner suffix, Entry.of entry = .group inner suffix →
      (inside inner (label ++ suffix)).failure = none
  := by
  rw [entryReport]
  cases Entry.of entry <;> simp [Outcome.done]

/-- The checks of a list of steps do not fail if those of the groups in it do not. -/
theorem stepReportWithin_succ_failure_eq_none_iff {fuel : Nat} {steps : Document}
    {label : String} :
  (stepReportWithin (fuel + 1) steps label).failure = none ↔
    ∀ entry ∈ steps.items, ∀ inner suffix, Entry.of entry = .group inner suffix →
      (stepReportWithin fuel inner (label ++ suffix)).failure = none
  := by
  rw [stepReportWithin_succ, Outcome.failure_each_eq_none_iff]
  apply forall₂_congr
  intro entry _
  apply entryReport_failure_eq_none_iff

theorem nested_of_mem_items {steps entry inner : Document} {suffix : String}
    (he : entry ∈ steps.items) (hg : Entry.of entry = .group inner suffix) :
  Nested inner steps
  := List.mem_filterMap.mpr ⟨entry, he, groupOf?_eq_some_iff.mpr ⟨suffix, hg⟩⟩

/-- Checks with any bound that come to an end show that the groups end. -/
theorem finitelyNested_of_failure_eq_none {fuel : Nat} {steps : Document} {label : String}
    (h : (stepReportWithin fuel steps label).failure = none) :
  FinitelyNested steps
  := by
  induction fuel generalizing steps label with
  | zero => cases h
  | succ fuel ih =>
    rw [stepReportWithin_succ_failure_eq_none_iff] at h
    constructor
    intro inner hn
    obtain ⟨entry, he, hg⟩ := List.mem_filterMap.mp hn
    obtain ⟨suffix, hs⟩ := groupOf?_eq_some_iff.mp hg
    apply ih (h entry he inner suffix hs)

/-! ### Groups in place -/

/-- The place of the list of steps of the group that lies at a place. -/
def groupAt? (entry : Document.Place) : Option Document.Place :=
  match entry.get? "parallel" with
  | some steps => some (if steps.written.isMap then steps.get "steps" else steps)
  | none => (entry.get? "stage").map (·.get "steps")

/-- The places of the lists of steps of the groups in a list of steps. -/
def groupsAt (steps : Document.Place) : List Document.Place :=
  steps.items.filterMap groupAt?

/-- Whether a place is that of the list of steps of a group in another one. -/
def Below (q p : Document.Place) : Prop :=
  q ∈ groupsAt p

/-- Whether no list of steps that a way down the groups comes to lies inside of itself. -/
def Acyclic (p : Document.Place) : Prop :=
  ∀ q, Relation.ReflTransGen Below q p → ¬ Relation.TransGen Below q q

theorem isMap_of_depicts {d : Document} {p : Document.Place} (h : d.depicts [] p) :
  d.isMap = p.written.isMap
  := by
  cases d with
  | scalar s => rw [depicts] at h; rw [h]
  | list ds =>
    rw [depicts] at h
    cases hw : p.written <;> simp_all [Document.isList, Document.isMap]
  | map es => exact h.1.symm
  | up level => cases h

theorem groupOf?_depicts {entry : Document} {p : Document.Place} (h : entry.depicts [] p) :
  Option.Rel (depicts []) (groupOf? entry) (groupAt? p)
  := by
  have hparallel := Document.get?_depicts h "parallel"
  have hstage := Document.get?_depicts h "stage"
  rw [groupOf?, Entry.of, groupAt?]
  generalize entry.get? "parallel" = v, p.get? "parallel" = w at hparallel
  cases hparallel with
  | some hs =>
    apply Option.Rel.some
    rw [isMap_of_depicts hs]
    split
    · apply Document.get_depicts hs
    · exact hs
  | none =>
    generalize entry.get? "stage" = v, p.get? "stage" = w at hstage
    cases hstage with
    | some hs => exact .some (Document.get_depicts hs "steps")
    | none => cases entry.get? "step" <;> exact .none

/-- The groups in a document that depicts a place depict the groups there. -/
theorem groups_depict {steps : Document} {p : Document.Place} (h : steps.depicts [] p) :
  List.Forall₂ (depicts []) (groups steps) (groupsAt p)
  := by
  apply List.rel_filterMap _ (Document.items_depict h)
  intro entry q he
  apply groupOf?_depicts he

theorem isClosed_of_nested {inner steps : Document} (h : steps.isClosed)
    (hn : Nested inner steps) :
  inner.isClosed
  := by
  obtain ⟨p, _, hp⟩ := exists_of_mem_left (groups_depict (Document.depicts_self h)) hn
  apply Document.isClosed_of_depicts hp

/-- If the groups of a document end, so do those at the place it depicts. -/
theorem acc_below {steps : Document} (hn : FinitelyNested steps) {p : Document.Place}
    (h : steps.depicts [] p) :
  Acc Below p
  := by
  induction hn generalizing p with
  | intro steps _ ih =>
    constructor
    intro q hq
    obtain ⟨inner, hi, hd⟩ := exists_of_mem_right (groups_depict h) hq
    apply ih inner hi hd

theorem holds_groupAt {d : Document} {p q : Document.Place} (h : d.Holds p)
    (hq : groupAt? p = some q) :
  d.Holds q
  := by
  rw [groupAt?] at hq
  split at hq
  case h_1 steps hs =>
    cases hq
    split
    · apply (h.get? hs).get
    · exact h.get? hs
  case h_2 =>
    obtain ⟨stage, hs, rfl⟩ := Option.map_eq_some_iff.mp hq
    apply (h.get? hs).get

theorem holds_of_below {d : Document} {p q : Document.Place} (h : d.Holds p) (hq : Below q p) :
  d.Holds q
  := by
  obtain ⟨entry, he, hg⟩ := List.mem_filterMap.mp hq
  apply holds_groupAt (h.items he) hg

theorem isContainer_of_below {p q : Document.Place} (hq : Below q p) :
  p.written.isContainer
  := by
  obtain ⟨entry, he, _⟩ := List.mem_filterMap.mp hq
  rw [Document.Place.items] at he
  split at he
  case h_1 ds hw =>
    rw [hw]
    rfl
  case h_2 => cases he

theorem not_self_of_acc {α : Type} {R : α → α → Prop} {a : α} (h : Acc R a) :
  ¬ R a a
  := by
  induction h with
  | intro a _ ih =>
    intro ha
    apply ih a ha ha

/-- If each way down comes to an end, none of them comes to a place below itself. -/
theorem acyclic_of_acc {p : Document.Place} (h : Acc Below p) :
  Acyclic p
  := by
  intro q hq
  have ha : Acc Below q := by
    obtain rfl | ht := Relation.reflTransGen_iff_eq_or_transGen.mp hq
    · exact h
    · exact h.inv_of_transGen ht
  apply not_self_of_acc ha.transGen

theorem Acyclic.below {p q : Document.Place} (h : Acyclic p) (hq : Below q p) :
  Acyclic q
  := fun r hr => h r (hr.tail hq)

/-! ### The bound -/

/-- A bound suffices if it is larger than the number of places of containers that were not on the
way.  The places on the way differ from each other, because each of them lies below those before. -/
theorem failure_eq_none_of_acyclic {d : Document} {steps : Document} {p : Document.Place}
    {way : List Document.Place} {fuel : Nat} (hd : steps.depicts [] p) (hp : d.Holds p)
    (hn : Acyclic p) (hw : way.Nodup) (hs : way ⊆ Document.containersIn [] d)
    (hb : ∀ q ∈ way, Relation.TransGen Below p q)
    (hf : (Document.containersIn [] d).length + 1 < fuel + way.length) (label : String) :
  (stepReportWithin fuel steps label).failure = none
  := by
  induction fuel generalizing steps p way label with
  | zero =>
    have := hw.length_le_of_subset hs
    omega
  | succ fuel ih =>
    rw [stepReportWithin_succ_failure_eq_none_iff]
    intro entry he inner suffix hg
    have hi := nested_of_mem_items he hg
    obtain ⟨q, hq, hdq⟩ := exists_of_mem_left (groups_depict hd) hi
    -- a place that was already on the way would lie below itself
    have hnew : p ∉ way := fun hm => hn p .refl (hb p hm)
    apply ih hdq (holds_of_below hp hq) (hn.below hq) (List.nodup_cons.mpr ⟨hnew, hw⟩)
    · apply List.cons_subset.mpr
      exact ⟨hp.mem_containersIn (isContainer_of_below hq), hs⟩
    · intro r hr
      cases hr with
      | head => exact .single hq
      | tail _ hr => exact .head hq (hb r hr)
    · rw [List.length_cons]
      omega

theorem stepReport_failure_of_acyclic {steps : Document} (h : steps.isClosed)
    (hn : Acyclic ⟨steps, []⟩) (label : String) :
  (stepReport steps label).failure = none
  := by
  apply failure_eq_none_of_acyclic (Document.depicts_self h) .root hn List.nodup_nil
    (List.nil_subset _)
  · intro q hq
    cases hq
  · rw [Document.length_containersIn]
    exact Nat.lt_succ_self _

/-- In a closed document, groups are nested to a finite depth if and only if none of them lies
inside of itself. -/
theorem finitelyNested_iff_acyclic {steps : Document} (h : steps.isClosed) :
  FinitelyNested steps ↔ Acyclic ⟨steps, []⟩
  := by
  constructor
  · intro hn
    apply acyclic_of_acc (acc_below hn (Document.depicts_self h))
  · intro hn
    apply finitelyNested_of_failure_eq_none (stepReport_failure_of_acyclic h hn "")

/-- In a closed document, the checks of a list of steps come to an end if and only if its groups are
nested to a finite depth. -/
theorem stepReport_failure_eq_none_iff {steps : Document} (h : steps.isClosed) (label : String) :
  (stepReport steps label).failure = none ↔ FinitelyNested steps
  := by
  constructor
  · apply finitelyNested_of_failure_eq_none
  · intro hn
    apply stepReport_failure_of_acyclic h ((finitelyNested_iff_acyclic h).mp hn)

/-! ### Steps without a bound -/

/-- Checks that come to an end report the same with a larger bound. -/
theorem stepReportWithin_mono {fuel fuel' : Nat} (hf : fuel ≤ fuel') {steps : Document}
    {label : String} (h : (stepReportWithin fuel steps label).failure = none) :
  stepReportWithin fuel' steps label = stepReportWithin fuel steps label
  := by
  induction fuel generalizing fuel' steps label with
  | zero => cases h
  | succ fuel ih =>
    obtain ⟨more, rfl⟩ : ∃ more, fuel' = more + 1 := ⟨fuel' - 1, by omega⟩
    rw [stepReportWithin_succ_failure_eq_none_iff] at h
    rw [stepReportWithin_succ, stepReportWithin_succ]
    apply Outcome.each_congr
    intro entry he
    rw [entryReport, entryReport]
    split
    case h_1 inner suffix hg =>
      exact ih (Nat.le_of_succ_le_succ hf) (h entry he inner suffix hg)
    case h_2 => rfl
    case h_3 => rfl

/-- Checks with any bounds that come to an end report the same. -/
theorem stepReportWithin_unique {fuel fuel' : Nat} {steps : Document} {label : String}
    (h : (stepReportWithin fuel steps label).failure = none)
    (h' : (stepReportWithin fuel' steps label).failure = none) :
  stepReportWithin fuel steps label = stepReportWithin fuel' steps label
  := by
  rw [← stepReportWithin_mono (Nat.le_max_left fuel fuel') h,
    stepReportWithin_mono (Nat.le_max_right fuel fuel') h']

/-- The checks of a list of steps report what those of its entries do in order, and a group what the
checks of its own list do under its label. -/
theorem stepReport_eq {steps : Document} (h : steps.isClosed) (hn : FinitelyNested steps)
    (label : String) :
  stepReport steps label = .each (entryReport stepReport label) steps.items
  := by
  have hs := (stepReport_failure_eq_none_iff h label).mpr hn
  rw [stepReport, deepest, stepReportWithin_succ_failure_eq_none_iff] at hs
  rw [stepReport, deepest, stepReportWithin_succ]
  apply Outcome.each_congr
  intro entry he
  rw [entryReport, entryReport]
  split
  case h_1 inner suffix hg =>
    have hi := nested_of_mem_items he hg
    have hc := isClosed_of_nested h hi
    apply stepReportWithin_unique (hs entry he inner suffix hg)
    exact (stepReport_failure_eq_none_iff hc _).mpr (hn.inv hi)
  case h_2 => rfl
  case h_3 => rfl

/-! ### Trees -/

/-- The groups in a tree are trees with fewer containers. -/
theorem nested_of_isTree {inner steps : Document} (h : steps.isTree) (hn : Nested inner steps) :
  inner.isTree ∧ inner.containers < steps.containers
  := by
  obtain ⟨entry, he, hg⟩ := List.mem_filterMap.mp hn
  obtain ⟨hte, hce⟩ := Document.item_of_isTree h he
  rw [groupOf?, Entry.of] at hg
  cases hp : entry.get? "parallel" with
  | some group =>
    obtain ⟨htg, hcg⟩ := Document.get?_of_isTree hte hp
    obtain ⟨htl, hcl⟩ := Document.get_of_isTree htg "steps"
    simp only [hp, Option.some.injEq] at hg
    subst hg
    split
    · exact ⟨htl, by omega⟩
    · exact ⟨htg, by omega⟩
  | none =>
    cases hs : entry.get? "stage" with
    | some stage =>
      obtain ⟨htg, hcg⟩ := Document.get?_of_isTree hte hs
      obtain ⟨htl, hcl⟩ := Document.get_of_isTree htg "steps"
      simp only [hp, hs, Option.some.injEq] at hg
      subst hg
      exact ⟨htl, by omega⟩
    | none => cases hx : entry.get? "step" <;> simp [hp, hs, hx] at hg

/-- Without references, groups are nested to a finite depth. -/
theorem finitelyNested_of_isTree {steps : Document} (h : steps.isTree) :
  FinitelyNested steps
  := by
  constructor
  intro inner hn
  obtain ⟨ht, hc⟩ := nested_of_isTree h hn
  apply finitelyNested_of_isTree ht
termination_by steps.containers

/-! ### Sections -/

theorem mem_sections {pipelines : Document} {s : Section} (h : s ∈ sections pipelines) :
  pipelines.get? "default" = some s.steps ∨
    ∃ key, ∃ e ∈ (pipelines.get key).entries, e.2 = s.steps
  := by
  rw [sections, List.mem_append] at h
  obtain h | h := h
  · obtain ⟨steps, hs, rfl⟩ := List.mem_map.mp h
    exact .inl (Option.mem_toList.mp hs)
  · obtain ⟨⟨key, called⟩, _, h⟩ := List.mem_flatMap.mp h
    obtain ⟨e, he, rfl⟩ := List.mem_map.mp h
    exact .inr ⟨key, e, he, rfl⟩

theorem isClosed_of_mem_sections {pipelines : Document} (h : pipelines.isClosed)
    {s : Section} (hs : s ∈ sections pipelines) :
  s.steps.isClosed
  := by
  obtain hd | ⟨key, e, he, hd⟩ := mem_sections hs
  · exact Document.isClosed_get? h hd
  · rw [← hd]
    apply Document.isClosed_of_mem_entries (Document.isClosed_get h key) he

theorem isTree_of_mem_sections {pipelines : Document} (h : pipelines.isTree)
    {s : Section} (hs : s ∈ sections pipelines) :
  s.steps.isTree
  := by
  obtain hd | ⟨key, e, he, hd⟩ := mem_sections hs
  · exact (Document.get?_of_isTree h hd).1
  · rw [← hd]
    exact (Document.entry_of_isTree (Document.get_of_isTree h key).1 he).1

/-- What the checks of a section report that has a label. -/
def labelledReport (steps : Document) (label : String) : Outcome :=
  if steps.isList then stepReport steps label else .done (.issue (missingSteps label))

/-- The sections are reported on one after the other. -/
theorem alone_checkJobs (pipelines : Document) :
  (checkJobs deepest pipelines).alone =
    .each (fun s => .reading s.label (labelledReport s.steps)) (sections pipelines)
  := by
  rw [checkJobs, Reporter.alone_each fun s _ => adds_checkSection deepest s]
  congr 1
  funext s
  rw [checkSection, Reporter.alone_reading]
  congr 1
  funext label
  rw [checkLabelled, labelledReport]
  split <;> rfl

theorem labelledReport_failure_eq_none_iff {steps : Document} (h : steps.isClosed)
    (label : String) :
  (labelledReport steps label).failure = none ↔ (steps.isList → FinitelyNested steps)
  := by
  rw [labelledReport]
  split
  case isTrue hl =>
    rw [stepReport_failure_eq_none_iff h]
    exact ⟨fun hn _ => hn, fun hn => hn hl⟩
  case isFalse hl => exact ⟨fun _ hl' => absurd hl' hl, fun _ => rfl⟩

/-- In a closed document, the checks of the sections come to an end if and only if each section has
a label, and the groups of each pipeline are nested to a finite depth. -/
theorem checkJobs_failure_eq_none_iff {pipelines : Document} (h : pipelines.isClosed) :
  (checkJobs deepest pipelines).alone.failure = none ↔
    ∀ s ∈ sections pipelines,
      (∃ label, s.label = .ok label) ∧ (s.steps.isList → FinitelyNested s.steps)
  := by
  rw [alone_checkJobs, Outcome.failure_each_eq_none_iff]
  apply forall₂_congr
  intro s hs
  cases s.label with
  | error failure => simp [Outcome.failed]
  | ok label => simp [labelledReport_failure_eq_none_iff (isClosed_of_mem_sections h hs)]

end PipelineAudit.Bitbucket
