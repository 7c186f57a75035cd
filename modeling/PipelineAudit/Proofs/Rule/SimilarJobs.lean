import PipelineAudit.Rule.Parallelism
import Mathlib.Data.List.Nodup
import Mathlib.Data.List.Zip

/-!
# Jobs that are alike

The groups of jobs that are alike are formed in one pass over the jobs.  Being alike is symmetric
but not transitive, so which jobs end up together depends on the order of the jobs.

What carries the pass is that a job that it has gone by, and that is in no group, has no job left
that is like it (`Examined`).  A group therefore begins with the first of its jobs, and at the end
no two jobs in no group are alike.

* `similar_iff`, `similar_comm`: when two signatures are alike.
* `Pass.examined`: what the pass leaves behind.
* `Pass.formed`: where a group comes from.
* `similarGroups_isGrouping`: the groups of the jobs of a workflow.
-/

namespace PipelineAudit.Parallelism

/-! ### Signatures that are alike -/

/-- The number of places at which two signatures agree. -/
def agreements (first second : List String) : Nat :=
  ((first.zip second).filter fun p => p.1 = p.2).length

theorem similar_iff {first second : List String} :
  similar first second ↔
    first ≠ [] ∧ first.length = second.length ∧
      7 * first.length ≤ 10 * agreements first second
  := by
  rw [similar, agreements, Bool.and_eq_true, Bool.and_eq_true, Bool.not_eq_true',
    List.isEmpty_eq_false_iff, decide_eq_true_iff, decide_eq_true_iff, and_assoc]

theorem agreements_comm (first second : List String) :
  agreements first second = agreements second first
  := by
  rw [agreements, agreements, ← List.zip_swap, List.filter_map, List.length_map]
  simp only [Function.comp_def, Prod.fst_swap, Prod.snd_swap, eq_comm]

theorem agreements_self (signature : List String) :
  agreements signature signature = signature.length
  := by
  induction signature with
  | nil => rfl
  | cons mark rest ih =>
    rw [agreements] at ih ⊢
    rw [List.zip_cons_cons, List.filter_cons_of_pos (by simp), List.length_cons, ih,
      List.length_cons]

theorem similar_symm {first second : List String} (h : similar first second) :
  similar second first
  := by
  rw [similar_iff] at h ⊢
  obtain ⟨hne, hl, ha⟩ := h
  rw [agreements_comm, hl] at ha
  use fun he => hne (List.eq_nil_of_length_eq_zero (by rw [hl, he, List.length_nil]))
  use hl.symm

/-- A signature that is like any other is like itself. -/
theorem similar_self {first second : List String} (h : similar first second) :
  similar first first
  := by
  rw [similar_iff] at h ⊢
  rw [agreements_self]
  use h.1, rfl
  omega

/-! ### The pass over the jobs -/

section

variable {jobs : List (String × List String)} {grouped : List String}

theorem mem_likeness_iff {job : String × List String} {name : String} :
  name ∈ likeness jobs grouped job ↔
    name ≠ job.1 ∧ name ∉ grouped ∧ ∃ other ∈ jobs, other.1 = name ∧ similar job.2 other.2
  := by
  simp only [likeness, List.mem_map, List.mem_filter, Bool.and_eq_true, Bool.not_eq_true',
    decide_eq_true_iff, List.contains_eq_mem, decide_eq_false_iff_not]
  constructor
  · rintro ⟨other, ⟨hm, ⟨hne, hg⟩, hs⟩, rfl⟩
    use hne, hg, other, hm
  · rintro ⟨hne, hg, other, hm, rfl, hs⟩
    use other, ⟨hm, ⟨hne, hg⟩, hs⟩

/-- How the pass over some jobs goes when others are in groups already: it skips a job that is in a
group or has no job left that is like it, and forms a group at any other. -/
inductive Pass (jobs : List (String × List String)) :
    List String → List (String × List String) → List (List String) → Prop where
  | done {grouped : List String} : Pass jobs grouped [] []
  | skip {grouped : List String} {job : String × List String}
      {pending : List (String × List String)} {groups : List (List String)}
      (hs : job.1 ∉ grouped → likeness jobs grouped job = [])
      (rest : Pass jobs grouped pending groups) : Pass jobs grouped (job :: pending) groups
  | form {grouped : List String} {job : String × List String}
      {pending : List (String × List String)} {groups : List (List String)}
      (hg : job.1 ∉ grouped) (hl : likeness jobs grouped job ≠ [])
      (rest : Pass jobs (grouped ++ job.1 :: likeness jobs grouped job) pending groups) :
      Pass jobs grouped (job :: pending) ((job.1 :: likeness jobs grouped job) :: groups)

theorem pass_groupsFrom (jobs pending : List (String × List String)) (grouped : List String) :
  Pass jobs grouped pending (groupsFrom jobs grouped pending)
  := by
  induction pending generalizing grouped with
  | nil => exact .done
  | cons job pending ih =>
    rw [groupsFrom]
    split
    case isTrue hg =>
      apply Pass.skip _ (ih grouped)
      intro hn
      exact absurd (List.contains_iff_mem.mp hg) hn
    case isFalse hg =>
      simp only
      split
      case isTrue hl => exact .skip (fun _ => List.isEmpty_iff.mp hl) (ih grouped)
      case isFalse hl =>
        apply Pass.form _ _ (ih _)
        · rwa [List.contains_iff_mem] at hg
        · rwa [List.isEmpty_iff] at hl

/-! ### Jobs that have been gone by -/

/-- No job is left that is like one of the jobs gone by which is in no group. -/
def Examined (jobs : List (String × List String)) (grouped : List String)
    (gone : List (String × List String)) : Prop :=
  ∀ job ∈ gone, job.1 ∉ grouped → likeness jobs grouped job = []

/-- The more jobs are in groups, the fewer are left. -/
theorem likeness_append_eq_nil {job : String × List String} (more : List String)
    (h : likeness jobs grouped job = []) :
  likeness jobs (grouped ++ more) job = []
  := by
  rw [List.eq_nil_iff_forall_not_mem] at h ⊢
  intro name hm
  rw [mem_likeness_iff, List.mem_append, not_or] at hm
  obtain ⟨hne, ⟨hg, -⟩, ho⟩ := hm
  apply h name
  rw [mem_likeness_iff]
  use hne, hg

theorem Examined.append {gone : List (String × List String)} (h : Examined jobs grouped gone)
    (more : List String) :
  Examined jobs (grouped ++ more) gone
  := by
  intro job hj hg
  rw [List.mem_append, not_or] at hg
  apply likeness_append_eq_nil more (h job hj hg.1)

/-- One more job is gone by, once it is in a group or no job is left that is like it. -/
theorem Examined.concat {gone : List (String × List String)} (h : Examined jobs grouped gone)
    {job : String × List String} (hs : job.1 ∉ grouped → likeness jobs grouped job = []) :
  Examined jobs grouped (gone ++ [job])
  := by
  intro other ho
  rcases List.mem_append.mp ho with ho | ho
  · apply h other ho
  · rw [List.mem_singleton.mp ho]
    apply hs

/-- The job at which a group is formed is gone by, as it is in that group. -/
theorem Examined.form {gone : List (String × List String)} (h : Examined jobs grouped gone)
    (job : String × List String) (others : List String) :
  Examined jobs (grouped ++ job.1 :: others) (gone ++ [job])
  := by
  apply (h.append _).concat
  intro hn
  exact absurd (List.mem_append_right _ (.head _)) hn

/-- In the end all jobs are gone by. -/
theorem Pass.examined {gone pending : List (String × List String)} {groups : List (List String)}
    (hp : Pass jobs grouped pending groups) (h : Examined jobs grouped gone) :
  Examined jobs (grouped ++ groups.flatten) (gone ++ pending)
  := by
  induction hp generalizing gone with
  | done =>
    rw [List.flatten_nil, List.append_nil, List.append_nil]
    apply h
  | skip hs _ ih =>
    rw [List.append_cons]
    apply ih (h.concat hs)
  | form _ _ _ ih =>
    rw [List.append_cons, List.flatten_cons, ← List.append_assoc]
    apply ih (h.form _ _)

/-! ### Groups -/

/-- A group as it is formed at a job, when the jobs before have been gone by. -/
inductive Formed (jobs : List (String × List String)) (grouped : List String) :
    List String → Prop where
  | atJob {gone pending : List (String × List String)} {job : String × List String}
      (hj : jobs = gone ++ job :: pending) (he : Examined jobs grouped gone)
      (hg : job.1 ∉ grouped) (hl : likeness jobs grouped job ≠ []) :
    Formed jobs grouped (job.1 :: likeness jobs grouped job)

/-- Each group of a pass is formed at some job, when more jobs are in groups than before. -/
theorem Pass.formed {gone pending : List (String × List String)} {groups : List (List String)}
    (hp : Pass jobs grouped pending groups) (hj : jobs = gone ++ pending)
    (h : Examined jobs grouped gone) :
  ∀ group ∈ groups, ∃ more, Formed jobs (grouped ++ more) group
  := by
  induction hp generalizing gone with
  | done =>
    intro group hm
    cases hm
  | skip hs _ ih =>
    rw [List.append_cons] at hj
    apply ih hj (h.concat hs)
  | form hg hl _ ih =>
    intro group hm
    rcases List.mem_cons.mp hm with rfl | hm
    · use []
      rw [List.append_nil]
      exact .atJob hj h hg hl
    · rw [List.append_cons] at hj
      obtain ⟨more, hf⟩ := ih hj (h.form _ _) group hm
      rw [List.append_assoc] at hf
      exact ⟨_, hf⟩

namespace Formed

variable {group : List String}

theorem several (h : Formed jobs grouped group) :
  1 < group.length
  := by
  cases h with
  | atJob _ _ _ hl =>
    rw [List.length_cons, Nat.lt_add_left_iff_pos]
    apply List.length_pos_of_ne_nil hl

theorem disjoint (h : Formed jobs grouped group) :
  grouped.Disjoint group
  := by
  cases h with
  | atJob _ _ hg _ =>
    intro name hn hm
    rcases List.mem_cons.mp hm with rfl | hm
    · exact hg hn
    · exact (mem_likeness_iff.mp hm).2.1 hn

/-- The jobs of a group come in the order of the document.  No job before the first one is like it,
as it would have had the first one left. -/
theorem inOrder (h : Formed jobs grouped group) :
  group.Sublist (jobs.map (·.1))
  := by
  cases h with
  | @atJob gone pending job hj he hg _ =>
    have hb : ∀ other ∈ gone, ¬ (other.1 ≠ job.1 && !grouped.contains other.1 &&
        similar job.2 other.2) := by
      intro other ho hs
      simp only [Bool.and_eq_true, decide_eq_true_iff, Bool.not_eq_true', List.contains_eq_mem,
        decide_eq_false_iff_not] at hs
      obtain ⟨⟨hne, hn⟩, hs⟩ := hs
      have hm : job.1 ∈ likeness jobs grouped other := by
        rw [mem_likeness_iff]
        use hne.symm, hg, job, hj ▸ List.mem_append_right _ (.head _), rfl, similar_symm hs
      rw [he other ho hn] at hm
      cases hm
    rw [likeness]
    conv => enter [1, 2, 2, 2]; rw [hj]
    rw [List.filter_append, List.filter_eq_nil_iff.mpr hb, List.nil_append,
      List.filter_cons_of_neg (by simp), hj, List.map_append, List.map_cons]
    apply List.Sublist.trans _ (List.sublist_append_right _ _)
    apply List.Sublist.cons_cons
    apply List.filter_sublist.map

/-- All jobs of a group are like the first one, which is like itself. -/
theorem alike (h : Formed jobs grouped group) (hn : (jobs.map (·.1)).Nodup)
    {first other : String × List String} (hf : first ∈ jobs) (ho : other ∈ jobs)
    (hh : group.head? = some first.1) (hm : other.1 ∈ group) :
  similar first.2 other.2
  := by
  cases h with
  | @atJob gone pending job hj _ _ hl =>
    have hj : job ∈ jobs := hj ▸ List.mem_append_right _ (.head _)
    obtain rfl : job = first := List.inj_on_of_nodup_map hn hj hf (Option.some.inj hh)
    have hs : ∀ name ∈ likeness jobs grouped job, ∀ k ∈ jobs, k.1 = name → similar job.2 k.2 := by
      intro name hm k hk he
      obtain ⟨-, -, k', hk', he', hs⟩ := mem_likeness_iff.mp hm
      rwa [List.inj_on_of_nodup_map hn hk hk' (he.trans he'.symm)]
    rcases List.mem_cons.mp hm with he | hm
    · obtain ⟨name, hm⟩ := List.exists_mem_of_ne_nil _ hl
      obtain ⟨-, -, k, hk, he', -⟩ := mem_likeness_iff.mp hm
      rw [List.inj_on_of_nodup_map hn ho hj he]
      apply similar_self (hs name hm k hk he')
    · apply hs _ hm other ho rfl

end Formed

theorem Pass.disjoint {gone pending : List (String × List String)} {groups : List (List String)}
    (hp : Pass jobs grouped pending groups) (hj : jobs = gone ++ pending)
    (h : Examined jobs grouped gone) :
  groups.Pairwise List.Disjoint
  := by
  induction hp generalizing gone with
  | done => exact .nil
  | skip hs _ ih =>
    rw [List.append_cons] at hj
    apply ih hj (h.concat hs)
  | form _ _ rest ih =>
    rw [List.append_cons] at hj
    apply List.Pairwise.cons _ (ih hj (h.form _ _))
    intro group hm
    -- A later group is formed when this one counts among those formed already.
    obtain ⟨more, hf⟩ := rest.formed hj (h.form _ _) group hm
    apply List.disjoint_of_subset_left _ hf.disjoint
    apply List.subset_append_of_subset_left _ (List.subset_append_right _ _)

/-- The groups come in the order of the jobs that they begin with. -/
theorem Pass.ordered {pending : List (String × List String)} {groups : List (List String)}
    (hp : Pass jobs grouped pending groups) :
  (groups.map List.head?).Sublist (pending.map fun job => some job.1)
  := by
  induction hp with
  | done => exact .slnil
  | skip _ _ ih => exact ih.cons _
  | form _ _ _ ih => exact ih.cons_cons _

end

/-! ### The groups of a workflow -/

/-- What the groups of some jobs, each with its signature, are.  No job is in two groups.  A group
has several jobs, in the order of the jobs, all of which are like its first one.  The groups are in
the order of their first jobs, and no two jobs that are in no group are alike. -/
structure IsGrouping (jobs : List (String × List String)) (groups : List (List String)) :
    Prop where
  disjoint : groups.Pairwise List.Disjoint
  several : ∀ group ∈ groups, 1 < group.length
  inOrder : ∀ group ∈ groups, group.Sublist (jobs.map (·.1))
  alike : ∀ group ∈ groups, ∀ first ∈ jobs, ∀ other ∈ jobs,
    group.head? = some first.1 → other.1 ∈ group → similar first.2 other.2
  ordered : (groups.map List.head?).Sublist (jobs.map fun job => some job.1)
  maximal : ∀ job ∈ jobs, ∀ other ∈ jobs, job.1 ≠ other.1 →
    job.1 ∉ groups.flatten → other.1 ∉ groups.flatten → similar job.2 other.2 = false

/-- The groups among jobs with names of their own. -/
theorem isGrouping_groupsAmong {jobs : List (String × List String)} (hn : (jobs.map (·.1)).Nodup) :
  IsGrouping jobs (groupsAmong jobs)
  := by
  have hp := pass_groupsFrom jobs jobs []
  have he : Examined jobs [] [] := fun _ hm => absurd hm List.not_mem_nil
  have hf := hp.formed rfl he
  constructor
  case disjoint => exact hp.disjoint rfl he
  case several =>
    intro group hm
    obtain ⟨more, hf⟩ := hf group hm
    apply hf.several
  case inOrder =>
    intro group hm
    obtain ⟨more, hf⟩ := hf group hm
    apply hf.inOrder
  case alike =>
    intro group hm first hfirst other hother
    obtain ⟨more, hf⟩ := hf group hm
    apply hf.alike hn hfirst hother
  case ordered => exact hp.ordered
  case maximal =>
    intro job hjob other hother hne hg hg'
    by_contra hs
    have hm : other.1 ∈ likeness jobs (groupsFrom jobs [] jobs).flatten job := by
      rw [mem_likeness_iff]
      use hne.symm, hg', other, hother, rfl
      rwa [Bool.not_eq_false] at hs
    have hnil := hp.examined he job hjob hg
    rw [List.nil_append] at hnil
    rw [hnil] at hm
    cases hm

/-- If the jobs of a workflow can be named and have names of their own, the groups of jobs that are
alike are found. -/
theorem similarGroups_isGrouping {document : Document} {jobs : List (String × Document)}
    (hj : Workflow.jobs document = .ok jobs) (hn : (jobs.map (·.1)).Nodup) :
  ∃ groups, similarGroups document = .ok groups ∧
    IsGrouping (jobs.map fun j => (j.1, signature j.2)) groups
  := by
  refine ⟨groupsAmong (jobs.map fun j => (j.1, signature j.2)), ?_, ?_⟩
  · rw [similarGroups, hj]
    rfl
  · apply isGrouping_groupsAmong
    rw [List.map_map]
    exact hn

/-- A job whose steps run some commands. -/
def jobRunning (commands : List String) : Document :=
  .map [(.ofText "steps", .list (commands.map fun c => .map [(.ofText "run", .text c)]))]

/-- Jobs that are each like the one before, but not like the one before that. -/
def driftingWorkflow : Document :=
  .map [(.ofText "jobs", .map [
    (.ofText "one", jobRunning ["get", "build", "test", "pack"]),
    (.ofText "lint", jobRunning ["lint"]),
    (.ofText "two", jobRunning ["get", "build", "test", "push"]),
    (.ofText "three", jobRunning ["get", "build", "scan", "push"]),
    (.ofText "four", jobRunning ["get", "make", "scan", "push"])])]

/-- The jobs of the workflow, by name. -/
def driftingJobs : List (String × Document) :=
  [("one", jobRunning ["get", "build", "test", "pack"]),
    ("lint", jobRunning ["lint"]),
    ("two", jobRunning ["get", "build", "test", "push"]),
    ("three", jobRunning ["get", "build", "scan", "push"]),
    ("four", jobRunning ["get", "make", "scan", "push"])]

theorem similarGroups_isGrouping_driftingWorkflow :
  Workflow.jobs driftingWorkflow = .ok driftingJobs ∧
  (driftingJobs.map (·.1)).Nodup ∧
  similarGroups driftingWorkflow = .ok [["one", "two"], ["three", "four"]] ∧
  IsGrouping (driftingJobs.map fun j => (j.1, signature j.2)) [["one", "two"], ["three", "four"]]
  := by
  have hj : Workflow.jobs driftingWorkflow = .ok driftingJobs := by rfl
  have hn : (driftingJobs.map (·.1)).Nodup := by decide
  have hg : similarGroups driftingWorkflow = .ok [["one", "two"], ["three", "four"]] := by
    rw [similarGroups, hj]
    decide
  obtain ⟨groups, hok, h⟩ := similarGroups_isGrouping hj hn
  obtain rfl := Except.ok.inj (hg.symm.trans hok)
  exact ⟨hj, hn, hg, h⟩

end PipelineAudit.Parallelism
