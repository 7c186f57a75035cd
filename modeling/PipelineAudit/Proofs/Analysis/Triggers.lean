import PipelineAudit.Analysis.Metrics
import PipelineAudit.Proofs.Document.Entries
import PipelineAudit.Proofs.Document.Unions
import PipelineAudit.Proofs.Finding.Outcomes
import PipelineAudit.Proofs.Platform.IssueIds
import Mathlib.Data.List.Induction
import Mathlib.Data.List.Nodup

/-!
# Triggers of workflows

A workflow declares its triggers under `on`, or under the key `true`.  Three readers look there: the
platform checks report that triggers are missing, the rules read the triggers by name, and the
metrics count them.  A null under `on` counts for the checks and the metrics, while the rules go on
to the key `true`; and a trigger without a name counts for the rules only.

* `reports_missingTriggers_iff`: when the checks report that triggers are missing.
* `length_triggers`: how many triggers the rules read.
* `triggers_agree_iff`: when the three agree on whether there are triggers, and on their number.
-/

namespace PipelineAudit

/-! ### Entries by name -/

theorem insertEntry_ne_nil {α : Type} (entries : List (Key × α)) (key : Key) (value : α) :
  insertEntry entries key value ≠ []
  := by
  rw [insertEntry]
  split
  case isTrue h =>
    rw [ne_eq, List.map_eq_nil_iff]
    rintro rfl
    cases h
  case isFalse => exact List.append_ne_nil_of_right_ne_nil _ (List.cons_ne_nil _ _)

/-- A mapping written with at least one pair has an entry. -/
theorem distinctEntries_eq_nil_iff {α : Type} {pairs : List (Key × α)} :
  distinctEntries pairs = [] ↔ pairs = []
  := by
  cases pairs using List.reverseRecOn with
  | nil => simp [distinctEntries]
  | append_singleton pairs p =>
    rw [distinctEntries_concat]
    simp [insertEntry_ne_nil]

/-- Pairs under different names are entries as they are. -/
theorem distinctEntries_of_nodup {α : Type} {pairs : List (String × α)}
    (hn : (pairs.map (·.1)).Nodup) :
  distinctEntries (pairs.map fun p => (Key.ofText p.1, p.2)) =
    pairs.map fun p => (.ofText p.1, p.2)
  := by
  have hapart : KeysApart (pairs.map fun p => (Key.ofText p.1, p.2)) := by
    rw [List.Nodup, List.pairwise_map] at hn
    rw [KeysApart, List.pairwise_map]
    apply hn.imp
    intro p q hne
    rw [Key.same_ofText, decide_eq_true_iff]
    exact hne
  exact hapart.distinctEntries_eq

theorem Document.map_fst_entries (entries : List (Key × Document)) :
  (map entries).entries.map (·.1) = entries.map (·.1)
  := by
  apply List.ext_getElem
  · simp [Document.entries]
  · intro i _ _
    simp [Document.entries]

theorem Document.items_texts (names : List String) :
  (list (names.map text)).items = names.map text
  := by
  apply items_list_of_isClosed
  intro d hd
  obtain ⟨name, _, rfl⟩ := List.mem_map.mp hd
  rfl

theorem Document.mapM_write_texts (names : List String) :
  (names.map text).mapM write = .ok names
  := by
  rw [List.mapM_map]
  refine (mapM_ifWritable (fun _ => true) id names).trans ?_
  rw [List.map_id, List.all_eq_true.mpr fun _ _ => rfl, ifWritable_true]

/-! ### The checks -/

namespace Validation

variable {v : Validation} {i : Issue}

/-- What a validation has reported stays reported. -/
theorem mem_reportIf_of_mem (h : i ∈ v.found.issues) (condition : Bool) (j : Issue) :
  i ∈ (v.reportIf condition j).found.issues
  := by
  cases condition with
  | true => exact List.mem_append_left _ h
  | false => exact h

theorem mem_reportIf (v : Validation) {condition : Bool} (h : condition) (i : Issue) :
  i ∈ (v.reportIf condition i).found.issues
  := by
  rw [reportIf, if_pos h]
  exact List.mem_append_right _ List.mem_cons_self

end Validation

namespace GitHub

/-- The issues that the analyzer of workflows reports. -/
def reportedOn (document : Document) : List Issue :=
  (PlatformChecks.gitHub.analyzeInto document).alone.findings.issues

theorem missingTriggers_mem_validateInto {document : Document}
    (ht : (rawTriggers document).truthy = false) (found : Findings) :
  missingTriggers ∈ (validateInto document found).found.issues
  := by
  have hcondition : !(rawTriggers document).truthy := by simp [ht]
  have hmem := Validation.mem_reportIf_of_mem
    (Validation.mem_reportIf (Validation.reportIf { found } (!document.sets "name") missingName)
      hcondition missingTriggers)
    (document.get "jobs").entries.isEmpty missingJobs
  rw [validateInto]
  cases Workflow.triggers document with
  | ok triggers => exact Validation.mem_reportIf_of_mem hmem _ unsafeTrigger
  | error failure => exact hmem

theorem missingTriggers_mem_reportedOn {document : Document}
    (ht : (rawTriggers document).truthy = false) :
  missingTriggers ∈ reportedOn document
  := by
  have hmem := missingTriggers_mem_validateInto ht .none
  rw [reportedOn, (PlatformChecks.adding_gitHub document).alone_analyzeInto]
  exact Outcome.mem_issues_append_of_mem hmem _

/-- The ids of the checks of workflows, except for the one of missing triggers. -/
def otherIssueIds : List String :=
  issueIds.filter (· ≠ "gh-missing-triggers")

theorem validateInto_files_of_truthy {document : Document}
    (ht : (rawTriggers document).truthy) (found : Findings) :
  (validateInto document found).Files otherIssueIds found
  := by
  have hstart : Validation.Files otherIssueIds found { found } := Validation.files_start found
  have hname := hstart.reportIf (!document.sets "name") missingName ⟨_, by decide, rfl⟩
  have hjobs := hname.reportIf (document.get "jobs").entries.isEmpty missingJobs
    ⟨_, by decide, rfl⟩
  rw [validateInto, ht]
  exact hjobs.reading _ fun _ => hjobs.reportIf _ unsafeTrigger ⟨_, by decide, rfl⟩

/-- The checks report that triggers are missing if what stands first under the two keys does not
count as true. -/
theorem reports_missingTriggers_iff (document : Document) :
  (∃ i ∈ reportedOn document, i.ruleId = some "gh-missing-triggers") ↔
    (rawTriggers document).truthy = false
  := by
  constructor
  · rintro ⟨i, hi, hid⟩
    by_contra ht
    have hfiles : (PlatformChecks.gitHub.analyzeInto document).Files otherIssueIds :=
      PlatformChecks.files_analyzeInto
        (validateInto_files_of_truthy (Bool.not_eq_false _ ▸ ht))
        ((checkJobs_files _).mono (by decide)) Reporter.files_silent
    obtain ⟨id, hm, hid'⟩ := hfiles.alone i hi
    rw [hid] at hid'
    obtain rfl := Option.some.inj hid'
    exact absurd hm (by decide)
  · exact fun ht => ⟨missingTriggers, missingTriggers_mem_reportedOn ht, rfl⟩

end GitHub

/-! ### Trigger fields -/

namespace Workflow

/-- The forms of a field that declares triggers: null, the name of a trigger, a list of names, or a
mapping under names of its own. -/
inductive IsTriggerField : Document → Prop where
  | nothing : IsTriggerField .null
  | one (name : String) : IsTriggerField (.text name)
  | several (names : List String) : IsTriggerField (.list (names.map .text))
  | configured {entries : List (Key × Document)} {names : List String}
      (h : entries.map (·.1) = names.map .ofText) (hn : names.Nodup) :
    IsTriggerField (.map entries)

/-- The triggers that the rules read from a field. -/
def triggersOf (field : Document) : List (Key × Document) :=
  match field with
  | .scalar (.text s) => triggersNamed [(s, .null)]
  | .list _ => triggersNamed (field.items.map fun x => (x.display, .null))
  | .map _ => triggersNamed (field.entries.map Document.displayed)
  | _ => []

/-- A trigger field can be read: all names in it can be written. -/
theorem triggers_eq {document : Document} (h : IsTriggerField (declaredTriggers document)) :
  triggers document = .ok (triggersOf (declaredTriggers document))
  := by
  rw [triggers]
  revert h
  generalize declaredTriggers document = field
  rintro (_ | ⟨name⟩ | ⟨names⟩ | @⟨entries, names, hk, hn⟩)
  · rfl
  · rfl
  · rw [triggersOf, Document.items_texts, Document.mapM_write_texts, List.map_map]
    rfl
  · have hw : (Document.map entries).entries.mapM Document.named =
        .ok ((Document.map entries).entries.map Document.displayed) := by
      have hwritable : ((Document.map entries).entries.all fun e => e.1.isWritable) = true := by
        have hall := congrArg (List.all · Key.isWritable)
          ((Document.map_fst_entries entries).trans hk)
        rw [List.all_map, List.all_map] at hall
        exact hall.trans (by simp [Key.ofText, Key.isWritable, Scalar.isWritable])
      rw [funext Document.named_eq, mapM_ifWritable, hwritable, ifWritable_true]
    simp [hw, triggersOf, Except.map]

/-- The number of triggers that the metrics count in a field. -/
def countOf (field : Document) : Nat :=
  match field.text? with
  | some name => if name.isEmpty then 0 else 1
  | none => field.entries.length + field.items.length

theorem triggersNamed_eq_nil_iff {named : List (String × Document)} :
  triggersNamed named = [] ↔ named = []
  := by
  rw [triggersNamed, distinctEntries_eq_nil_iff, List.map_eq_nil_iff]

/-- The rules read no trigger from a field that does not count as true, unless it is the empty
name. -/
theorem triggersOf_eq_nil_iff {field : Document} (h : IsTriggerField field) :
  triggersOf field = [] ↔ field.truthy = false ∧ field ≠ .text ""
  := by
  cases h with
  | nothing => simp [triggersOf, Document.truthy, Scalar.truthy]
  | one name => simp [triggersOf, triggersNamed_eq_nil_iff, Document.truthy, Scalar.truthy]
  | several names =>
    simp [triggersOf, triggersNamed_eq_nil_iff, Document.items_texts, Document.truthy]
  | @configured entries names hk hn =>
    simp [triggersOf, triggersNamed_eq_nil_iff, Document.entries, Document.truthy]

/-- The metrics count no trigger in a field that does not count as true. -/
theorem countOf_eq_zero_iff {field : Document} (h : IsTriggerField field) :
  countOf field = 0 ↔ field.truthy = false
  := by
  cases h with
  | nothing =>
    simp [countOf, Document.text?, Document.truthy, Scalar.truthy, Document.entries, Document.items]
  | one name => simp [countOf, Document.text?, Document.truthy, Scalar.truthy]
  | several names =>
    simp [countOf, Document.text?, Document.entries, Document.items, Document.truthy]
  | @configured entries names hk hn =>
    simp [countOf, Document.text?, Document.entries, Document.items, Document.truthy]

/-- All triggers under different names count. -/
theorem length_triggersNamed {named : List (String × Document)} (hn : (named.map (·.1)).Nodup) :
  (triggersNamed named).length = named.length
  := by
  rw [triggersNamed, distinctEntries_of_nodup hn, List.length_map]

/-- The rules read as many triggers from a field as the metrics count, if no listed name is repeated
and the name is not empty. -/
theorem length_triggersOf {field : Document} (h : IsTriggerField field) (hne : field ≠ .text "")
    (hn : ∀ names : List String, field = .list (names.map .text) → names.Nodup) :
  (triggersOf field).length = countOf field
  := by
  cases h with
  | nothing => rfl
  | one name =>
    have he : name ≠ "" := fun he => hne (congrArg Document.text he)
    simp [triggersOf, length_triggersNamed, countOf, Document.text?, he]
  | several names =>
    have hd : (((Document.list (names.map .text)).items.map fun x =>
        (x.display, Document.null)).map (·.1)).Nodup := by
      rw [Document.items_texts, List.map_map, List.map_map]
      exact (List.map_id names).symm ▸ hn names rfl
    rw [triggersOf, length_triggersNamed hd]
    simp [countOf, Document.text?, Document.entries, Document.items_texts]
  | @configured entries names hk hd =>
    have hd : (((Document.map entries).entries.map Document.displayed).map (·.1)).Nodup := by
      have hm : (Document.map entries).entries.map (fun e => e.1.display) = names := by
        have hf := congrArg (List.map Key.display) ((Document.map_fst_entries entries).trans hk)
        rw [List.map_map, List.map_map] at hf
        exact hf.trans (List.map_id names)
      rw [List.map_map]
      exact hm ▸ hd
    rw [triggersOf, length_triggersNamed hd]
    simp [countOf, Document.text?, Document.items]

/-! ### The keys of triggers -/

/-- Both keys of a workflow hold trigger fields, if there is anything under them. -/
structure DeclaresTriggers (document : Document) : Prop where
  named : ∀ field, document.get? "on" = some field → IsTriggerField field
  quoted : ∀ field, document.getTrue? = some field → IsTriggerField field

/-- The rules look where the checks and the metrics do, unless there is a null under `on`. -/
theorem declaredTriggers_eq {document : Document} (h : document.get? "on" ≠ some .null) :
  declaredTriggers document = GitHub.rawTriggers document
  := by
  rw [declaredTriggers, GitHub.rawTriggers, Document.get]
  cases hf : document.get? "on" with
  | none => rfl
  | some field =>
    rw [Option.getD_some, Option.getD_some]
    split
    case h_1 => exact absurd hf h
    case h_2 => rfl

/-- With a null under `on`, the rules look under the key `true`. -/
theorem declaredTriggers_of_null {document : Document} (h : document.get? "on" = some .null) :
  declaredTriggers document = document.getTrue?.getD .null
  := by
  rw [declaredTriggers, Document.get, h]
  rfl

theorem DeclaresTriggers.raw {document : Document} (h : DeclaresTriggers document) :
  IsTriggerField (GitHub.rawTriggers document)
  := by
  rw [GitHub.rawTriggers]
  cases hf : document.get? "on" with
  | some field => exact h.named field hf
  | none =>
    cases hq : document.getTrue? with
    | some field => exact h.quoted field hq
    | none => exact .nothing

/-- The keys of triggers are at odds: the trigger has no name, or a null under `on` hides triggers
under the key `true`. -/
inductive AtOdds (document : Document) : Prop where
  | unnamed (h : GitHub.rawTriggers document = .text "")
  | hidden (h : document.get? "on" = some .null) {field : Document}
      (hf : document.getTrue? = some field) (ht : field.truthy ∨ field = .text "")

theorem rawTriggers_of_null {document : Document} (h : document.get? "on" = some .null) :
  GitHub.rawTriggers document = .null
  := by
  rw [GitHub.rawTriggers, h]
  rfl

/-- If what stands first under the two keys counts as true, the rules look there. -/
theorem declaredTriggers_of_truthy {document : Document}
    (ht : (GitHub.rawTriggers document).truthy) :
  declaredTriggers document = GitHub.rawTriggers document
  := by
  apply declaredTriggers_eq
  intro hn
  rw [rawTriggers_of_null hn] at ht
  cases ht

/-- The keys of triggers are at odds if and only if the rules read a trigger, although what stands
first under the two keys does not count as true. -/
theorem atOdds_iff {document : Document} (h : DeclaresTriggers document) :
  AtOdds document ↔
    (GitHub.rawTriggers document).truthy = false ∧ triggersOf (declaredTriggers document) ≠ []
  := by
  constructor
  · rintro (hr | ⟨hn, hf, ht⟩)
    · have hd : document.get? "on" ≠ some .null := by
        intro hn
        rw [rawTriggers_of_null hn] at hr
        cases hr
      rw [declaredTriggers_eq hd, hr]
      exact ⟨rfl, List.cons_ne_nil _ _⟩
    · rw [rawTriggers_of_null hn, declaredTriggers_of_null hn, hf, Option.getD_some, ne_eq,
        triggersOf_eq_nil_iff (h.quoted _ hf)]
      refine ⟨rfl, ?_⟩
      rintro ⟨hfalse, hne⟩
      obtain ht | ht := ht
      · rw [ht] at hfalse
        cases hfalse
      · exact hne ht
  · rintro ⟨hfalse, hne⟩
    by_cases hn : document.get? "on" = some .null
    · rw [declaredTriggers_of_null hn] at hne
      cases hf : document.getTrue? with
      | none =>
        rw [hf] at hne
        exact absurd rfl hne
      | some field =>
        rw [hf, Option.getD_some, ne_eq, triggersOf_eq_nil_iff (h.quoted _ hf), not_and_or,
          Bool.not_eq_false, not_not] at hne
        exact .hidden hn hf hne
    · rw [declaredTriggers_eq hn, ne_eq, triggersOf_eq_nil_iff h.raw, not_and_or, not_not] at hne
      exact .unnamed (hne.resolve_left (not_not_intro hfalse))

/-- The field that the rules look at is one of the two. -/
theorem DeclaresTriggers.declared {document : Document} (h : DeclaresTriggers document) :
  IsTriggerField (declaredTriggers document)
  := by
  by_cases hn : document.get? "on" = some .null
  · rw [declaredTriggers_of_null hn]
    cases hq : document.getTrue? with
    | some field => exact h.quoted field hq
    | none => exact .nothing
  · rw [declaredTriggers_eq hn]
    exact h.raw

/-- Whether a workflow has triggers, and how many, if its trigger fields are null, a name, a list of
names or a mapping.  The rules can read the triggers then.  The checks report that triggers are
missing if and only if the metrics count none.  They report it if and only if the rules read none,
unless the keys of triggers are at odds: then it is reported, and the metrics count none, but the
rules read a trigger.  If they are not, the metrics count as many triggers as the rules read,
provided that no listed name is repeated. -/
theorem triggers_agree_iff {document : Document} (h : DeclaresTriggers document) :
  let reported := ∃ i ∈ GitHub.reportedOn document, i.ruleId = some "gh-missing-triggers"
  let count := Measure.countTriggers document
  ∃ read, triggers document = .ok read ∧
  (reported ↔ count = 0) ∧
  ((reported ↔ read = []) ↔ ¬ AtOdds document) ∧
  (AtOdds document → reported ∧ count = 0 ∧ read ≠ []) ∧
  (¬ AtOdds document →
    (∀ names : List String, declaredTriggers document = .list (names.map .text) → names.Nodup) →
      count = read.length)
  := by
  intro reported count
  have hr : reported ↔ (GitHub.rawTriggers document).truthy = false :=
    GitHub.reports_missingTriggers_iff document
  have hcount : count = countOf (GitHub.rawTriggers document) := rfl
  have hc : count = 0 ↔ (GitHub.rawTriggers document).truthy = false := by
    rw [hcount]
    exact countOf_eq_zero_iff h.raw
  have ho : AtOdds document ↔ (GitHub.rawTriggers document).truthy = false ∧
      triggersOf (declaredTriggers document) ≠ [] :=
    atOdds_iff h
  have hread : triggersOf (declaredTriggers document) = [] →
      (GitHub.rawTriggers document).truthy = false := by
    intro he
    by_contra ht
    have hd := declaredTriggers_of_truthy (Bool.not_eq_false _ ▸ ht)
    have he : triggersOf (GitHub.rawTriggers document) = [] := hd ▸ he
    exact ht ((triggersOf_eq_nil_iff h.raw).mp he).1
  refine ⟨_, triggers_eq h.declared, hr.trans hc.symm, ?_, ?_, ?_⟩
  · rw [hr, ho, not_and, not_not]
    exact ⟨fun hi => hi.mp, fun hi => ⟨hi, hread⟩⟩
  · rw [ho, hr, hc]
    exact fun ⟨hfalse, hne⟩ => ⟨hfalse, hfalse, hne⟩
  · intro hnot hn
    cases ht : (GitHub.rawTriggers document).truthy with
    | true =>
      have hd := declaredTriggers_of_truthy ht
      have hne : GitHub.rawTriggers document ≠ .text "" := by
        intro he
        rw [he] at ht
        cases ht
      rw [hd, hcount]
      exact (length_triggersOf h.raw hne (hd ▸ hn)).symm
    | false =>
      have he : triggersOf (declaredTriggers document) = [] := by
        by_contra hne
        exact hnot (ho.mpr ⟨ht, hne⟩)
      rw [hc.mpr ht, he, List.length_nil]

/-- A workflow with its triggers under the key `true`. -/
def quotedWorkflow : Document :=
  .map [(.ofText "name", .text "CI"),
    (.scalar (.bool true), .map [(.ofText "push", .null), (.ofText "release", .map [])])]

theorem triggers_agree_iff_quotedWorkflow :
  DeclaresTriggers quotedWorkflow ∧ ¬ AtOdds quotedWorkflow ∧
  Measure.countTriggers quotedWorkflow = 2 ∧
  triggers quotedWorkflow = .ok [(.ofText "push", .null), (.ofText "release", .map [])] ∧
  ¬ ∃ i ∈ GitHub.reportedOn quotedWorkflow, i.ruleId = some "gh-missing-triggers"
  := by
  have hon : quotedWorkflow.get? "on" = none := rfl
  have htrue : quotedWorkflow.getTrue? =
      some (.map [(.ofText "push", .null), (.ofText "release", .map [])]) := rfl
  have h : DeclaresTriggers quotedWorkflow := by
    constructor
    · intro field hf
      rw [hon] at hf
      cases hf
    · intro field hf
      rw [htrue] at hf
      obtain rfl := Option.some.inj hf
      exact .configured (show _ = ["push", "release"].map Key.ofText from rfl) (by decide)
  have hnot : ¬ AtOdds quotedWorkflow := by
    rintro (hu | ⟨hn, -, -⟩)
    · cases hu
    · rw [hon] at hn
      cases hn
  have htriggers : triggers quotedWorkflow =
      .ok [(.ofText "push", .null), (.ofText "release", .map [])] :=
    rfl
  obtain ⟨read, hread, hr, -, -, hc⟩ := triggers_agree_iff h
  obtain rfl := Except.ok.inj (hread.symm.trans htriggers)
  have hcount : Measure.countTriggers quotedWorkflow = 2 := by
    apply hc hnot
    intro names hl
    cases hl
  exact ⟨h, hnot, hcount, htriggers, fun hi => absurd (hr.mp hi) (hcount ▸ by decide)⟩

/-- A workflow with a trigger that has no name. -/
def unnamedWorkflow : Document :=
  .map [(.ofText "on", .text "")]

/-- A workflow with nothing under `on`, and a trigger under the key `true`. -/
def hiddenWorkflow : Document :=
  .map [(.ofText "on", .null), (.scalar (.bool true), .text "push")]

/-- In both workflows the checks report that triggers are missing and the metrics count none, but
the rules read a trigger. -/
theorem triggers_unnamedWorkflow :
  (∀ document ∈ [unnamedWorkflow, hiddenWorkflow],
    GitHub.missingTriggers ∈ GitHub.reportedOn document ∧ Measure.countTriggers document = 0) ∧
  triggers unnamedWorkflow = .ok [(.ofText "", .null)] ∧
  triggers hiddenWorkflow = .ok [(.ofText "push", .null)]
  := by
  refine ⟨?_, rfl, rfl⟩
  rw [List.forall_mem_cons, List.forall_mem_singleton]
  exact ⟨⟨GitHub.missingTriggers_mem_reportedOn rfl, rfl⟩,
    ⟨GitHub.missingTriggers_mem_reportedOn rfl, rfl⟩⟩

end Workflow

end PipelineAudit
