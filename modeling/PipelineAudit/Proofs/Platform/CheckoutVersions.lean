import PipelineAudit.Proofs.Platform.StepReports
import Mathlib.Algebra.Group.Nat.Defs
import Mathlib.Data.List.Basic

/-!
# Versions of the checkout action

A reference to the checkout action is outdated if it holds an old version, and the old versions are
looked for as words.  So what counts is the first digit of the major number and not the number: with
`v1` and `v2`, all versions are outdated whose major number begins with a one or a two.

* `head?_toDigits_iff`: the numbers that begin with a digit.
* `isOutdated_reference_iff`: the versions that count as outdated.
* `reached`: the steps that the checks come to.
* `filedUnder_outdated`, `filedUnder_unpinned`: the steps that are reported for their action.
* `checkSteps_judges_iff`: which steps are reported, and for which versions that is right.
-/

namespace PipelineAudit

/-! ### First digits -/

theorem digitChar_inj {m n : Nat} (hm : m < 10) (hn : n < 10) :
  m.digitChar = n.digitChar ↔ m = n
  := by
  rw [← Char.toNat_inj, Nat.toNat_digitChar_of_lt_ten hm, Nat.toNat_digitChar_of_lt_ten hn]
  omega

/-- The numbers that begin with a digit lie between a multiple of a power of ten and the next
one. -/
theorem head?_toDigits_iff {d : Nat} (hd : 0 < d) (hlt : d < 10) (n : Nat) :
  (Nat.toDigits 10 n).head? = some d.digitChar ↔ ∃ k, d * 10 ^ k ≤ n ∧ n < (d + 1) * 10 ^ k
  := by
  induction n using Nat.strongRecOn with
  | ind n ih =>
    rw [Nat.toDigits_eq_if (by decide)]
    split
    case isTrue hn =>
      rw [List.head?_cons, Option.some_inj, digitChar_inj hn hlt]
      constructor
      · rintro rfl
        exact ⟨0, by omega⟩
      · rintro ⟨k, hl, hu⟩
        cases k with
        | zero => omega
        | succ k =>
          have hpos : 0 < 10 ^ k := Nat.pow_pos (by decide)
          have hten : d * 10 ^ (k + 1) = 10 * (d * 10 ^ k) := by
            rw [Nat.pow_succ, ← Nat.mul_assoc, Nat.mul_comm]
          have hone : 0 < d * 10 ^ k := Nat.mul_pos hd hpos
          omega
    case isFalse hn =>
      have hstep : ∀ k, d * 10 ^ k ≤ n / 10 ∧ n / 10 < (d + 1) * 10 ^ k ↔
          d * 10 ^ (k + 1) ≤ n ∧ n < (d + 1) * 10 ^ (k + 1) := by
        intro k
        rw [Nat.le_div_iff_mul_le (by decide), Nat.div_lt_iff_lt_mul (by decide), Nat.pow_succ,
          Nat.mul_assoc, Nat.mul_assoc]
      rw [List.head?_append_of_ne_nil _ Nat.toDigits_ne_nil,
        ih (n / 10) (Nat.div_lt_self (by omega) (by decide))]
      constructor
      · rintro ⟨k, hk⟩
        exact ⟨k + 1, (hstep k).mp hk⟩
      · rintro ⟨k, hk⟩
        cases k with
        | zero => omega
        | succ k => exact ⟨k, (hstep k).mpr hk⟩

namespace GitHub

/-! ### Versions -/

/-- A version of an action: its major number, and the numbers after it. -/
structure Version where
  major : Nat
  rest : List Nat

namespace Version

/-- The text of a version, its numbers separated by dots. -/
def text (v : Version) : List Char :=
  Nat.toDigits 10 v.major ++ v.rest.flatMap fun n => '.' :: Nat.toDigits 10 n

/-- The reference to the checkout action at a version. -/
def reference (v : Version) : String :=
  "actions/checkout@v" ++ String.ofList v.text

variable (v : Version)

theorem toList_reference :
  v.reference.toList = "actions/checkout".toList ++ '@' :: 'v' :: v.text
  := by
  have hbefore : "actions/checkout@v".toList = "actions/checkout".toList ++ ['@', 'v'] := by
    decide +kernel
  calc v.reference.toList
    _ = "actions/checkout@v".toList ++ (String.ofList v.text).toList := String.toList_append
    _ = "actions/checkout".toList ++ ['@', 'v'] ++ v.text :=
      congrArg₂ (· ++ ·) hbefore String.toList_ofList
    _ = "actions/checkout".toList ++ '@' :: 'v' :: v.text := List.append_assoc ..

theorem at_not_mem_text :
  '@' ∉ v.text
  := by
  have hdigits : ∀ n, '@' ∉ Nat.toDigits 10 n := by
    intro n h
    exact absurd (Nat.isDigit_of_mem_toDigits (by decide) (by decide) h) (by decide)
  simp [text, hdigits]

theorem head?_text :
  v.text.head? = (Nat.toDigits 10 v.major).head?
  := List.head?_append_of_ne_nil _ Nat.toDigits_ne_nil

theorem isCheckout_reference :
  isCheckout v.reference.toList
  := by
  rw [isCheckout, Text.startsWith, toList_reference, List.isPrefixOf_iff_prefix]
  exact List.prefix_append _ _

theorem at_mem_reference :
  v.reference.toList.contains '@'
  := by
  rw [toList_reference, List.contains_iff_mem]
  simp

/-- An old version occurs in a reference if and only if its digit is the first one of the major
number. -/
theorem has_reference_iff (word : String) (d : Char) (hw : word.toList = ['@', 'v', d]) :
  Text.has v.reference.toList word ↔ (Nat.toDigits 10 v.major).head? = some d
  := by
  rw [Text.has_iff, hw, ← head?_text, toList_reference]
  constructor
  · rintro ⟨before, after, h⟩
    -- The sign before a version occurs only once.
    have hs : before ++ '@' :: ('v' :: d :: after) =
        "actions/checkout".toList ++ '@' :: 'v' :: v.text := by
      rw [← h]
      simp
    have hnot : '@' ∉ 'v' :: v.text := by
      simp [at_not_mem_text]
    obtain ⟨-, -, ht⟩ := (List.append_cons_inj_of_notMem (by decide) hnot).mp hs.symm
    rw [(List.cons.inj ht).2]
    rfl
  · intro h
    obtain ⟨rest, hrest⟩ := List.head?_eq_some_iff.mp h
    refine ⟨"actions/checkout".toList, rest, ?_⟩
    rw [hrest]
    simp

/-- A version counts as outdated if and only if its major number begins with a one or a two. -/
theorem isOutdated_reference_iff :
  isOutdated v.reference.toList ↔ ∃ k, 10 ^ k ≤ v.major ∧ v.major < 3 * 10 ^ k
  := by
  have hat := v.at_mem_reference
  have hone := (v.has_reference_iff "@v1" '1' rfl).trans
    (head?_toDigits_iff (d := 1) (by decide) (by decide) v.major)
  have htwo := (v.has_reference_iff "@v2" '2' rfl).trans
    (head?_toDigits_iff (d := 2) (by decide) (by decide) v.major)
  have hany : isOutdated v.reference.toList ↔
      Text.has v.reference.toList "@v1" ∨ Text.has v.reference.toList "@v2" := by
    rw [isOutdated, hat]
    simp [Text.hasAny, outdatedVersions]
  rw [hany, hone, htwo, ← exists_or]
  apply exists_congr
  intro k
  omega

/-- Versions one and two count as outdated, so exactly the old versions do unless the major number
has more than one digit and begins with a one or a two. -/
theorem rightly_judged_iff :
  ((∃ k, 10 ^ k ≤ v.major ∧ v.major < 3 * 10 ^ k) ↔ v.major = 1 ∨ v.major = 2) ↔
    ∀ k, 0 < k → ¬ (10 ^ k ≤ v.major ∧ v.major < 3 * 10 ^ k)
  := by
  constructor
  · intro h k hk hm
    have hten : 10 ≤ 10 ^ k := Nat.le_self_pow (Nat.ne_of_gt hk) 10
    have hsmall := h.mp ⟨k, hm⟩
    omega
  · intro h
    constructor
    · rintro ⟨k, hm⟩
      cases k with
      | zero => omega
      | succ k => exact absurd hm (h (k + 1) (Nat.succ_pos k))
    · intro hm
      exact ⟨0, by omega⟩

end Version

/-! ### Reports -/

/-- The steps that the checks come to: they end with the first one whose variables cannot be
named. -/
def reached : List Document → List Document
  | [] => []
  | step :: rest => step :: if hasWritableVariables step then reached rest else []

theorem reached_prefix (steps : List Document) :
  reached steps <+: steps
  := by
  induction steps with
  | nil => exact List.prefix_rfl
  | cons step rest ih =>
    rw [reached, List.prefix_cons_inj]
    split
    · exact ih
    · exact List.nil_prefix

theorem reached_of_writable {steps : List Document}
    (h : ∀ step ∈ steps, hasWritableVariables step) :
  reached steps = steps
  := by
  induction steps with
  | nil => rfl
  | cons step rest ih =>
    obtain ⟨hstep, hrest⟩ := List.forall_mem_cons.mp h
    rw [reached, if_pos hstep, ih hrest]

theorem filedUnder_outdated (label place : String) (step : Document) :
  filedUnder "gh-outdated-checkout" (actionIssues label place step) = outdatedIssues label step
  := by
  rw [actionIssues, filedUnder_append, (outdatedIssues_ids label step).filedUnder_eq_self,
    (unpinnedIssues_ids place step).filedUnder_eq_nil (by decide), List.append_nil]

theorem filedUnder_unpinned (label place : String) (step : Document) :
  filedUnder "gh-unpinned-action" (actionIssues label place step) = unpinnedIssues place step
  := by
  rw [actionIssues, filedUnder_append, (unpinnedIssues_ids place step).filedUnder_eq_self,
    (outdatedIssues_ids label step).filedUnder_eq_nil (by decide), List.nil_append]

/-- What a step is reported for under an id that is about actions. -/
theorem filedUnder_checkStep {id : String}
    (hid : id ∈ ["gh-outdated-checkout", "gh-unpinned-action"]) (label : String) (number : Nat)
    (step : Document) :
  filedUnder id (checkStep label number step).alone.findings.issues =
    filedUnder id (actionIssues label (label ++ ", step " ++ toString number) step)
  := by
  have hothers := (checkOthers_files (label ++ ", step " ++ toString number) step).alone
  have hnil : filedUnder id
      (checkOthers (label ++ ", step " ++ toString number) step).alone.findings.issues = [] :=
    hothers.filedUnder_eq_nil (by revert id; decide)
  rw [alone_checkStep, Outcome.append_of_failure_eq_none rfl, Findings.issues_append,
    filedUnder_append, hnil, List.append_nil]
  rfl

/-- What the further steps of a job are reported for under an id that is about actions. -/
theorem filedUnder_checkFurther {id : String}
    (hid : id ∈ ["gh-outdated-checkout", "gh-unpinned-action"]) (label : String)
    (p : StepsProgress) (steps : List Document) :
  filedUnder id (checkFurther label p steps).alone.findings.issues =
    ((reached steps).mapIdx fun i step => filedUnder id
      (actionIssues label (label ++ ", step " ++ toString (p.number + i)) step)).flatten
  := by
  induction steps generalizing p with
  | nil =>
    have hmissing : HaveIds ["gh-missing-checkout"]
        (checkFurther label p []).alone.findings.issues :=
      (Reporter.files_reportIf List.mem_cons_self rfl).alone
    exact hmissing.filedUnder_eq_nil (by revert id; decide)
  | cons step rest ih =>
    have hnumber : ∀ i, (p.after step).number + i = p.number + (i + 1) := fun i =>
      Nat.succ_add_eq_add_succ p.number i
    rw [checkFurther, Reporter.alone_andThen (adds_checkFurther label _ rest),
      Outcome.filedUnder_append, filedUnder_checkStep hid, ih, reached, List.mapIdx_cons,
      List.flatten_cons, Nat.add_zero]
    simp only [checkStep_failure_eq_none_iff, hnumber]
    split
    · rfl
    · rfl

/-- What the checks of the steps of a job add under an id that is about actions. -/
theorem filedUnder_checkSteps {id : String}
    (hid : id ∈ ["gh-outdated-checkout", "gh-unpinned-action"]) (steps : Document) (label : String)
    (found : Findings) :
  filedUnder id (checkSteps steps label found).findings.issues = filedUnder id found.issues ++
    ((reached steps.items).mapIdx fun i step => filedUnder id
      (actionIssues label (label ++ ", step " ++ toString (i + 1)) step)).flatten
  := by
  have halone := filedUnder_checkFurther hid label {} steps.items
  rw [adds_checkSteps steps label found, Findings.append_ofIssues, filedUnder_append]
  refine congrArg (_ ++ ·) (halone.trans ?_)
  simp only [Nat.add_comm]

/-- The checks of the steps of a job come to an end if and only if the variables of all steps that
hold texts can be named, and come to all steps then; otherwise they end with the first step for
which that fails.  They report each step that they come to that uses an outdated version of the
checkout action, and each action without a version, and nothing else under these two ids.  A step
that uses the checkout action at some version is reported as outdated if and only if the major
number begins with a one or a two, and it is not reported for its version to be missing.  So exactly
the old versions one and two are reported, unless the major number has more than one digit and
begins with a one or a two. -/
theorem checkSteps_judges_iff (steps : Document) (label : String) (found : Findings) :
  let outcome := checkSteps steps label found
  let issues := outcome.findings.issues
  let looked := reached steps.items
  (outcome.failure = none ↔ ∀ step ∈ steps.items, hasWritableVariables step) ∧
  (outcome.failure = none → looked = steps.items) ∧ looked <+: steps.items ∧
  filedUnder "gh-outdated-checkout" issues =
    filedUnder "gh-outdated-checkout" found.issues ++
      (looked.filter usesOutdated).map (fun _ => outdatedCheckout label) ∧
  filedUnder "gh-unpinned-action" issues =
    filedUnder "gh-unpinned-action" found.issues ++
      (looked.mapIdx fun i step => ((unpinned? step).map
        (unpinnedAction (label ++ ", step " ++ toString (i + 1)))).toList).flatten ∧
  ∀ step ∈ steps.items, ∀ v : Version, (step.get "uses").text? = some v.reference →
    unpinned? step = none ∧
    (usesOutdated step ↔ ∃ k, 10 ^ k ≤ v.major ∧ v.major < 3 * 10 ^ k) ∧
    ((usesOutdated step ↔ v.major = 1 ∨ v.major = 2) ↔
      ∀ k, 0 < k → ¬ (10 ^ k ≤ v.major ∧ v.major < 3 * 10 ^ k))
  := by
  intro outcome issues looked
  have hend : outcome.failure = none ↔ ∀ step ∈ steps.items, hasWritableVariables step := by
    rw [show outcome = _ from adds_checkSteps steps label found]
    exact checkFurther_failure_eq_none_iff
  refine ⟨hend, fun h => reached_of_writable (hend.mp h), reached_prefix _, ?_, ?_, ?_⟩
  · have hreports : ∀ l : List Document,
        (l.mapIdx fun i step => filedUnder "gh-outdated-checkout"
          (actionIssues label (label ++ ", step " ++ toString (i + 1)) step)).flatten =
        (l.filter usesOutdated).map fun _ => outdatedCheckout label := by
      intro l
      simp only [filedUnder_outdated, outdatedIssues]
      induction l with
      | nil => rfl
      | cons step rest ih =>
        rw [List.mapIdx_cons, List.flatten_cons, ih, List.filter_cons]
        split
        · rfl
        · rfl
    rw [filedUnder_checkSteps (by decide), hreports]
  · rw [filedUnder_checkSteps (by decide)]
    simp only [filedUnder_unpinned]
    rfl
  · intro step _ v hv
    have hunpinned : unpinned? step = none := by
      rw [unpinned?, hv, Option.filter_some, v.at_mem_reference]
      rfl
    have houtdated : usesOutdated step ↔ ∃ k, 10 ^ k ≤ v.major ∧ v.major < 3 * 10 ^ k := by
      rw [usesOutdated, hv, Option.any_some, v.isCheckout_reference, Bool.true_and,
        v.isOutdated_reference_iff]
    exact ⟨hunpinned, houtdated, (iff_congr houtdated Iff.rfl).trans v.rightly_judged_iff⟩

/-- The steps of a job that checks out at version 4.1.2 and at version 1. -/
def twoCheckouts : Document :=
  .list [.map [(.ofText "uses", .text "actions/checkout@v4.1.2")],
    .map [(.ofText "uses", .text "actions/checkout@v1")]]

theorem checkSteps_judges_iff_twoCheckouts :
  let current : Document := .map [(.ofText "uses", .text "actions/checkout@v4.1.2")]
  let old : Document := .map [(.ofText "uses", .text "actions/checkout@v1")]
  (current ∈ twoCheckouts.items ∧
    (current.get "uses").text? = some (Version.reference ⟨4, [1, 2]⟩)) ∧
  (old ∈ twoCheckouts.items ∧ (old.get "uses").text? = some (Version.reference ⟨1, []⟩)) ∧
  (checkSteps twoCheckouts "job" .none).failure = none ∧
  unpinned? current = none ∧ ¬ usesOutdated current ∧ usesOutdated old
  := by
  intro current old
  obtain ⟨hend, -, -, -, -, hjudge⟩ := checkSteps_judges_iff twoCheckouts "job" .none
  have hcurrent : current ∈ twoCheckouts.items := .head _
  have hold : old ∈ twoCheckouts.items := .tail _ (.head _)
  have hv : (current.get "uses").text? = some (Version.reference ⟨4, [1, 2]⟩) := by decide +kernel
  have hv' : (old.get "uses").text? = some (Version.reference ⟨1, []⟩) := by decide +kernel
  obtain ⟨hpinned, houtdated, -⟩ := hjudge current hcurrent ⟨4, [1, 2]⟩ hv
  obtain ⟨-, houtdated', -⟩ := hjudge old hold ⟨1, []⟩ hv'
  refine ⟨⟨hcurrent, hv⟩, ⟨hold, hv'⟩, hend.mpr (by decide), hpinned, ?_,
    houtdated'.mpr ⟨0, by decide⟩⟩
  rw [houtdated]
  rintro ⟨k, hl, hu⟩
  cases k with
  | zero => exact absurd hu (by decide)
  | succ k =>
    have hten : 10 ≤ 10 ^ (k + 1) := Nat.le_self_pow (Nat.succ_ne_zero k) 10
    exact absurd (Nat.le_trans hten hl) (by decide)

/-- Version 10 of the checkout action is reported as outdated. -/
theorem checkSteps_versionTen :
  let step : Document := .map [(.ofText "uses", .text "actions/checkout@v10")]
  let outcome := checkSteps (.list [step]) "job \"build\"" .none
  (step.get "uses").text? = some (Version.reference ⟨10, []⟩) ∧
  outcome.findings.issues = [outdatedCheckout "job \"build\""] ∧ outcome.failure = none
  := by
  decide +kernel

end GitHub

end PipelineAudit
