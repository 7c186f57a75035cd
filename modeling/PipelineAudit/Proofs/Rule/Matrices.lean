import PipelineAudit.Proofs.Document.Unions
import PipelineAudit.Proofs.Rule.Jobs
import PipelineAudit.Rule.Spending
import Mathlib.Tactic.Ring

/-!
# Sizes of matrices

A matrix gives its axes as lists, jobs to add under `include` and jobs to leave out under `exclude`.
Its size is the product of the lengths of all of its lists, those two among them.  So a list of jobs
to leave out multiplies the size, and a list of jobs to add may too.

* `matrixSize_concat`: one more list multiplies the size of a matrix by its length.
* `matrixSize_eq`: the size of a matrix is that of its axes, times the lengths of the two lists.
* `matrixSize_bounded_iff`: when leaving out does not add, when adding adds no more than is listed,
  and when the number of jobs in a report of a large matrix is bounded by the axes and what is
  added.
-/

namespace PipelineAudit

/-- The product of the sizes of some parts is that of the parts with a property and of the
others. -/
theorem product_filter_mul {α : Type} (p : α → Bool) (size : α → Option Nat) (l : List α) :
  product (l.filterMap size) =
    product ((l.filter p).filterMap size) * product ((l.filter fun a => !p a).filterMap size)
  := by
  induction l with
  | nil => rfl
  | cons a rest ih =>
    cases hp : p a <;> cases hs : size a <;> simp [hp, hs, ih, product, Nat.mul_assoc]
    rw [Nat.mul_left_comm]

/-- A product exceeds a sum unless a factor is at most one or both are two. -/
theorem mul_le_add_iff {m n : Nat} :
  m * n ≤ m + n ↔ m ≤ 1 ∨ n ≤ 1 ∨ m = 2 ∧ n = 2
  := by
  match m, n with
  | 0, n => simp
  | 1, n => simp
  | m + 2, 0 => simp
  | m + 2, 1 => simp
  | m + 2, n + 2 =>
    have hmul : (m + 2) * (n + 2) = m * n + 2 * m + 2 * n + 4 := by ring
    constructor
    · intro h
      omega
    · rintro (h | h | ⟨hm, hn⟩)
      · omega
      · omega
      · rw [hm, hn]

theorem Key.eq_of_isText {name : String} {key : Key} (h : key.isText name) :
  key = .ofText name
  := by
  match key with
  | .scalar (.text s) => rw [of_decide_eq_true (show decide (s = name) = true from h), ofText]

namespace Document

/-- No two keys of a mapping are equal. -/
def HasDistinctKeys (d : Document) : Prop :=
  d.entries.Pairwise fun e f => e.1.same f.1 = false

theorem filter_isText {es : List (Key × Document)}
    (h : es.Pairwise fun e f => e.1.same f.1 = false) (name : String) :
  es.filter (·.1.isText name) = (es.find? (·.1.isText name)).toList
  := by
  induction es with
  | nil => rfl
  | cons e rest ih =>
    rw [List.pairwise_cons] at h
    rw [List.filter_cons, List.find?_cons]
    cases he : e.1.isText name with
    | false => exact ih h.2
    | true =>
      have hrest : rest.filter (·.1.isText name) = [] := by
        rw [List.filter_eq_nil_iff]
        intro f hf ht
        have hs := h.1 f hf
        rw [Key.eq_of_isText ht, Key.same_ofText_eq_isText, he] at hs
        cases hs
      rw [if_pos rfl, hrest, Option.toList_some]

theorem length_graftItems (around : Nat → Document) (depth : Nat) (ds : List Document) :
  (graftItems around depth ds).length = ds.length
  := by
  induction ds with
  | nil => rfl
  | cons d rest ih => rw [graftItems, List.length_cons, ih, List.length_cons]

end Document

namespace Workflow

open Document (HasDistinctKeys)

/-! ### The size of a matrix -/

/-- A list has its length also when it is taken out of a mapping, and what is no list is none
then. -/
theorem axisSize?_takeOut (es : List (Key × Document)) (i : Nat) (d : Document) :
  axisSize? ((Document.map es).takeOut i d) = axisSize? d
  := by
  rw [Document.takeOut]
  cases d with
  | scalar s => rfl
  | map fields => rfl
  | list ds => exact congrArg some (Document.length_graftItems _ _ _)
  | up level =>
    rw [Document.graft]
    split <;> rfl

theorem matrixSize_eq_entries (matrix : Document) :
  matrixSize matrix = product (matrix.entries.filterMap fun e => axisSize? e.2)
  := by
  rw [matrixSize, Document.values, List.filterMap_map]
  rfl

/-- The size of a matrix is the product of the lengths of the lists that it is written with. -/
theorem matrixSize_map (es : List (Key × Document)) :
  matrixSize (.map es) = product (es.filterMap fun e => axisSize? e.2)
  := by
  have hsizes : (Document.map es).entries.map (fun e => axisSize? e.2) =
      es.map fun e => axisSize? e.2 := by
    apply List.ext_getElem
    · simp [Document.entries]
    · intro i _ _
      simp [Document.entries, axisSize?_takeOut]
  have hmap := congrArg (List.filterMap id) hsizes
  rw [List.filterMap_map, List.filterMap_map] at hmap
  rw [matrixSize_eq_entries]
  exact congrArg product hmap

/-- One more list multiplies the size of a matrix by its length. -/
theorem matrixSize_concat (es : List (Key × Document)) (key : Key) (ds : List Document) :
  matrixSize (.map (es ++ [(key, .list ds)])) = matrixSize (.map es) * ds.length
  := by
  rw [matrixSize_map, matrixSize_map, List.filterMap_append, product_append]
  simp [axisSize?, product]

/-! ### Axes -/

/-- Whether an entry of a matrix is an axis, and neither the jobs to add nor those to leave out. -/
def isAxis (e : Key × Document) : Bool :=
  !e.1.isText "include" && !e.1.isText "exclude"

/-- The number of jobs that the axes of a matrix give. -/
def axesSize (matrix : Document) : Nat :=
  product ((matrix.entries.filter isAxis).filterMap fun e => axisSize? e.2)

/-- The number of jobs listed under a name, if there is a list. -/
def listed? (matrix : Document) (name : String) : Option Nat :=
  (matrix.get? name).bind axisSize?

theorem product_filter_isText {es : List (Key × Document)}
    (h : es.Pairwise fun e f => e.1.same f.1 = false) (name : String) :
  product ((es.filter (·.1.isText name)).filterMap fun e => axisSize? e.2) =
    (((es.find? (·.1.isText name)).map (·.2)).bind axisSize?).getD 1
  := by
  rw [Document.filter_isText h]
  cases es.find? (·.1.isText name) with
  | none => rfl
  | some e => cases hs : axisSize? e.2 <;> simp [hs, product]

/-- The size of a matrix is that of its axes, times the number of jobs to add and the number of
those to leave out, where they are listed. -/
theorem matrixSize_eq {matrix : Document} (h : matrix.HasDistinctKeys) :
  matrixSize matrix =
    axesSize matrix * (listed? matrix "include").getD 1 * (listed? matrix "exclude").getD 1
  := by
  have hinclude := product_filter_mul (·.1.isText "include") (fun e => axisSize? e.2) matrix.entries
  have hexclude := product_filter_mul (·.1.isText "exclude") (fun e => axisSize? e.2)
    (matrix.entries.filter fun e => !e.1.isText "include")
  have hother : matrix.entries.filter (fun e => e.1.isText "exclude" && !e.1.isText "include") =
      matrix.entries.filter (·.1.isText "exclude") := by
    apply List.filter_congr
    intro e _
    cases he : e.1.isText "exclude" with
    | false => rfl
    | true =>
      have hi : ¬ e.1.isText "include" := Key.isText_of_ne (by decide) he
      simp [hi]
  have haxes : matrix.entries.filter (fun e => !e.1.isText "exclude" && !e.1.isText "include") =
      matrix.entries.filter isAxis := by
    apply List.filter_congr
    intro e _
    exact Bool.and_comm _ _
  rw [List.filter_filter, List.filter_filter, hother, haxes, product_filter_isText h] at hexclude
  rw [product_filter_isText h, hexclude] at hinclude
  rw [matrixSize_eq_entries, hinclude, axesSize, listed?, listed?, Document.get?, Document.get?]
  ring

/-- A product of three numbers, large enough, exceeds the sum of two of them if the third is not
one. -/
theorem add_lt_mul {m n k : Nat} (h : 20 < m * n * k) (hk : k ≠ 1) :
  m + n < m * n * k
  := by
  have hmn : 0 < m * n := Nat.pos_of_mul_pos_right (by omega : 0 < m * n * k)
  have hsum : m + n ≤ m * n + 1 := by
    obtain ⟨a, rfl⟩ := Nat.exists_eq_add_of_lt (Nat.pos_of_mul_pos_right hmn)
    obtain ⟨b, rfl⟩ := Nat.exists_eq_add_of_lt (Nat.pos_of_mul_pos_left hmn)
    have hmul : (0 + a + 1) * (0 + b + 1) = a * b + a + b + 1 := by ring
    omega
  have hk2 : 2 ≤ k := by
    have hpos : 0 < k := Nat.pos_of_mul_pos_left (by omega : 0 < m * n * k)
    omega
  have hdouble : m * n * 2 ≤ m * n * k := Nat.mul_le_mul_left _ hk2
  omega

/-- When a large number of jobs is at most that of the axes and of the jobs to add. -/
theorem size_le_iff {axes : Nat} {included excluded : Option Nat}
    (h : 20 < axes * included.getD 1 * excluded.getD 1) :
  axes * included.getD 1 * excluded.getD 1 ≤ axes + included.getD 0 ↔
    (∀ n ∈ excluded, n = 1) ∧ (∀ n ∈ included, n = 1 ∨ axes = 1)
  := by
  by_cases hx : excluded.getD 1 = 1
  · have hexcluded : ∀ n ∈ excluded, n = 1 := by
      rintro n rfl
      exact hx
    rw [hx, Nat.mul_one] at h ⊢
    rw [and_iff_right hexcluded]
    cases included with
    | none => simp
    | some n =>
      rw [Option.getD_some] at h
      simp only [Option.getD_some, mul_le_add_iff, Option.mem_some_iff, forall_eq']
      constructor
      · rintro (ha | hn | ⟨ha, hn⟩)
        · have hpos : 0 < axes := Nat.pos_of_mul_pos_right (by omega : 0 < axes * n)
          omega
        · have hpos : 0 < n := Nat.pos_of_mul_pos_left (by omega : 0 < axes * n)
          omega
        · rw [ha, hn] at h
          omega
      · omega
  · have hlt := add_lt_mul h hx
    have hle : included.getD 0 ≤ included.getD 1 := by cases included <;> simp
    have hexcluded : ¬ ∀ n ∈ excluded, n = 1 := by
      intro hall
      cases excluded with
      | none => exact hx rfl
      | some n => exact hx (hall n rfl)
    constructor
    · intro hsize
      omega
    · exact fun hall => absurd hall.1 hexcluded

/-! ### What is reported -/

open Spending in
/-- What the rule for expensive pipelines reports is a matrix of a job with its size. -/
theorem exists_of_mem_issues {document : Document} {source : Source} {issue : Issue}
    (h : issue ∈ (Rule.costOptimization.check document source).findings.issues) :
  ∃ e ∈ jobEntries document, ∃ matrix, matrix? e.2 = some matrix ∧
    largestMatrix < matrixSize matrix ∧
    issue = largeMatrix e.1.display (toString (matrixSize matrix))
  := by
  have hc := Cumulative.eachIssue fun issue => ∃ e ∈ jobEntries document, ∃ matrix,
    matrix? e.2 = some matrix ∧ largestMatrix < matrixSize matrix ∧
      issue = largeMatrix e.1.display (toString (matrixSize matrix))
  have hnone (found : Findings) (hf : found.issues = []) :
      ∀ i ∈ found.issues, ∃ e ∈ jobEntries document, ∃ matrix,
        matrix? e.2 = some matrix ∧ largestMatrix < matrixSize matrix ∧
          i = largeMatrix e.1.display (toString (matrixSize matrix)) := by
    rw [hf]
    exact List.forall_mem_nil _
  refine hc.append ?_ (hnone _ rfl) issue h
  split
  case isFalse => exact hnone _ rfl
  case isTrue =>
    apply hc.append
    · apply hc.append
      · apply hc.append
        · exact hc.reading fun _ _ => hnone _ rfl
        · exact hc.eachJob fun _ _ => hnone _ rfl
      · apply hc.eachJob
        intro e he
        rw [checkMatrix]
        split
        case h_1 => exact hc.none
        case h_2 matrix hm =>
          apply hc.outcome_when
          intro hlarge
          apply hc.reading
          intro text htext
          rw [← (ifWritable_eq_ok.mp htext).2]
          exact List.forall_mem_singleton.mpr
            ⟨e, he, matrix, hm, of_decide_eq_true hlarge, rfl⟩
    · apply hc.eachJob
      intro e he
      apply hc.outcome_when
      intro _
      apply hc.reading
      intro _ _
      apply hc.outcome_when
      intro _
      exact hc.reading fun _ _ => hnone _ rfl

/-- When the two lists of a matrix are no axes.  A list of jobs to leave out does not make a matrix
larger if and only if it has at most one item or the matrix is empty.  A list of jobs to add makes
it larger by at most its length if and only if one of the two has at most one item or job, or both
have two.  The number of jobs in a report of a large matrix is at most that of its axes and of the
jobs to add if and only if a list of jobs to leave out has one item, and so has a list of jobs to
add unless the axes give a single job. -/
theorem matrixSize_bounded_iff (es : List (Key × Document)) (ds : List Document)
    (document : Document) (source : Source) :
  let size := matrixSize (.map es)
  let adding := fun name => Document.map (es ++ [(.ofText name, .list ds)])
  (matrixSize (adding "exclude") ≤ size ↔ ds.length ≤ 1 ∨ size = 0) ∧
  (matrixSize (adding "include") ≤ size + ds.length ↔
    size ≤ 1 ∨ ds.length ≤ 1 ∨ size = 2 ∧ ds.length = 2) ∧
  (∀ issue ∈ (Rule.costOptimization.check document source).findings.issues,
    ∃ e ∈ jobEntries document, ∃ matrix, matrix? e.2 = some matrix ∧
      issue = Spending.largeMatrix e.1.display (toString (matrixSize matrix)) ∧
      (matrix.HasDistinctKeys →
        (matrixSize matrix ≤ axesSize matrix + (listed? matrix "include").getD 0 ↔
          (∀ n ∈ listed? matrix "exclude", n = 1) ∧
          (∀ n ∈ listed? matrix "include", n = 1 ∨ axesSize matrix = 1))))
  := by
  intro size adding
  refine ⟨?_, ?_, ?_⟩
  · rw [matrixSize_concat]
    cases Nat.eq_zero_or_pos size with
    | inl hz => simp [size, hz]
    | inr hpos => rw [mul_le_iff_le_one_right hpos, or_iff_left (Nat.ne_of_gt hpos)]
  · rw [matrixSize_concat]
    exact mul_le_add_iff
  · intro issue hi
    obtain ⟨e, he, matrix, hm, hlarge, rfl⟩ := exists_of_mem_issues hi
    refine ⟨e, he, matrix, hm, rfl, ?_⟩
    intro hd
    rw [matrixSize_eq hd] at hlarge ⊢
    exact size_le_iff hlarge

/-- A list of numbers, as an axis of a matrix. -/
def numbered (n : Nat) : Document :=
  .list ((List.range n).map fun i => .scalar (.int i))

/-- A job with the matrix of some entries. -/
def matrixJob (es : List (Key × Document)) : Document :=
  .map [(.ofText "strategy", .map [(.ofText "matrix", .map es)])]

/-- A workflow with a single job, which has a matrix. -/
def matrixWorkflow (es : List (Key × Document)) : Document :=
  .map [(.ofText "jobs", .map [(.ofText "build", matrixJob es)])]

/-- Five systems by five versions, with one job to leave out. -/
def fiveByFive : List (Key × Document) :=
  [(.ofText "os", numbered 5), (.ofText "node", numbered 5), (.ofText "exclude", numbered 1)]

/-- With a single job to leave out, the report of a large matrix gives the number of jobs of its
axes. -/
theorem matrixSize_bounded_iff_fiveByFive :
  let matrix := Document.map fiveByFive
  let report := Rule.costOptimization.check (matrixWorkflow fiveByFive) ⟨[], "github-actions"⟩
  Spending.largeMatrix "build" "25" ∈ report.findings.issues ∧
  matrix.HasDistinctKeys ∧
  matrixSize matrix = 25 ∧
  matrixSize matrix ≤ axesSize matrix + (listed? matrix "include").getD 0
  := by
  intro matrix
  dsimp only
  have hmem : Spending.largeMatrix "build" "25" ∈ (Rule.costOptimization.check
      (matrixWorkflow fiveByFive) ⟨[], "github-actions"⟩).findings.issues := by
    decide +kernel
  have hkeys : matrix.HasDistinctKeys := by
    rw [Document.HasDistinctKeys]
    decide
  have hsize : matrixSize matrix = 25 := rfl
  obtain ⟨job, hj, m, hm, -, hb⟩ :=
    (matrixSize_bounded_iff fiveByFive [] (matrixWorkflow fiveByFive) ⟨[], "github-actions"⟩).2.2 _
      hmem
  have hjobs : jobEntries (matrixWorkflow fiveByFive) = [(.ofText "build", matrixJob fiveByFive)] :=
    rfl
  rw [hjobs, List.mem_singleton] at hj
  rw [hj] at hm
  obtain rfl : matrix = m := Option.some.inj hm
  exact ⟨hmem, hkeys, hsize, (hb hkeys).mpr (by decide)⟩

/-- Two jobs to leave out double a matrix of four jobs, and so do two jobs to add; a matrix whose
axes give twenty jobs is reported as one of forty if two are to be left out. -/
theorem matrixSize_doubled :
  let square := [(Key.ofText "os", numbered 2), (.ofText "node", numbered 2)]
  let axes := [(Key.ofText "os", numbered 4), (.ofText "node", numbered 5)]
  let reduced := axes ++ [(.ofText "exclude", numbered 2)]
  let report := Rule.costOptimization.check (matrixWorkflow reduced) ⟨[], "github-actions"⟩
  ¬ matrixSize (.map (square ++ [(.ofText "exclude", numbered 2)])) ≤ matrixSize (.map square) ∧
  ¬ matrixSize (.map (square ++ [(.ofText "include", numbered 2)])) ≤
    matrixSize (.map square) + 2 ∧
  axesSize (.map reduced) = 20 ∧ listed? (.map reduced) "include" = none ∧
  report.findings.issues = [Spending.largeMatrix "build" "40"]
  := by
  refine ⟨?_, ?_, rfl, rfl, ?_⟩ <;> decide +kernel

end Workflow

end PipelineAudit
