import PipelineAudit.Proofs.Related
import PipelineAudit.Rule.Complexity
import Mathlib.Data.List.Induction
import Mathlib.Data.List.Infix
import Mathlib.Data.List.Nodup

/-!
# Runs of steps that jobs share

The rule for complexity looks for runs of steps in windows: all runs of three keys of a job, and the
run of its last two.  A window is filed under its text, in which the keys are separated by arrows.

So a run of two keys is found in a job only if the job ends with it, and two different runs may be
filed under one text if there is an arrow in a key.  Keys without arrows can be read back.

* `mem_windows_iff`: which runs of a job are windows.
* `mem_severalIn_iff`: which jobs are filed under a text.
* `written_inj`: runs of keys without arrows have different texts.
* `sharedRuns_tells_iff`: when the jobs filed under the runs of a document are those that share
  them.
-/

namespace PipelineAudit.Complexity

/-! ### Windows -/

/-- The text of a run of keys. -/
def written (run : List String) : String :=
  " -> ".intercalate run

/-- The windows on a list of keys: up to three consecutive keys, beginning before the last key. -/
def windows : List String → List (List String)
  | [] => []
  | [_] => []
  | key :: next :: rest => (key :: next :: rest).take 3 :: windows (next :: rest)

theorem runs_eq (keys : List String) :
  runs keys = (windows keys).map written
  := by
  induction keys using windows.induct with
  | case1 => rfl
  | case2 key => rfl
  | case3 key next rest ih => rw [runs, windows, List.map_cons, ih, written]

/-- Three consecutive keys of a list, or its last two keys. -/
inductive IsWindow (keys : List String) : List String → Prop where
  | three {window : List String} (hl : window.length = 3) (h : window <:+: keys) :
    IsWindow keys window
  | two {window : List String} (hl : window.length = 2) (h : window <:+ keys) :
    IsWindow keys window

theorem IsWindow.isInfix {keys window : List String} (h : IsWindow keys window) :
  window <:+: keys
  := by
  cases h with
  | three _ h => exact h
  | two _ h => exact h.isInfix

theorem IsWindow.length_eq {keys window : List String} (h : IsWindow keys window) :
  window.length = 2 ∨ window.length = 3
  := by
  cases h with
  | three hl _ => exact .inr hl
  | two hl _ => exact .inl hl

theorem IsWindow.length_le {keys window : List String} (h : IsWindow keys window) :
  2 ≤ keys.length
  := by
  have hl := h.length_eq
  have hle := h.isInfix.length_le
  omega

theorem IsWindow.cons {keys window : List String} (h : IsWindow keys window) (key : String) :
  IsWindow (key :: keys) window
  := by
  cases h with
  | three hl h => exact .three hl (h.trans (List.suffix_cons key keys).isInfix)
  | two hl h => exact .two hl (h.trans (List.suffix_cons key keys))

/-- The first window of a list is one, and any other lies behind the first key. -/
theorem isWindow_cons_iff {key next : String} {rest window : List String} :
  IsWindow (key :: next :: rest) window ↔
    window = (key :: next :: rest).take 3 ∨ IsWindow (next :: rest) window
  := by
  constructor
  · rintro (⟨hl, h⟩ | ⟨hl, h⟩)
    · rcases List.infix_cons_iff.mp h with h | h
      · left
        rw [← hl]
        apply List.prefix_iff_eq_take.mp h
      · right
        exact .three hl h
    · rcases List.suffix_cons_iff.mp h with rfl | h
      · left
        rw [List.take_of_length_le (by rw [hl]; decide)]
      · right
        exact .two hl h
  · rintro (rfl | h)
    · cases rest with
      | nil => exact .two rfl List.suffix_rfl
      | cons third more => exact .three rfl (List.take_prefix 3 _).isInfix
    · exact h.cons key

theorem mem_windows_iff {keys window : List String} :
  window ∈ windows keys ↔ IsWindow keys window
  := by
  induction keys using windows.induct with
  | case1 =>
    constructor
    · intro h
      cases h
    · intro h
      cases Nat.not_succ_le_zero _ h.length_le
  | case2 key =>
    constructor
    · intro h
      cases h
    · intro h
      exact absurd h.length_le (Nat.lt_irrefl 1)
  | case3 key next rest ih => rw [windows, List.mem_cons, ih, isWindow_cons_iff]

theorem mem_runs_iff {keys : List String} {text : String} :
  text ∈ runs keys ↔ ∃ window, IsWindow keys window ∧ written window = text
  := by
  rw [runs_eq, List.mem_map]
  simp only [mem_windows_iff]

/-! ### The table of runs -/

/-- The jobs that a table has under a text. -/
def filed (table : List (String × List String)) (text : String) : List String :=
  (table.lookup text).getD []

/-- A job is added under one text, unless it is there already. -/
theorem filed_addRun (job run : String) (table : List (String × List String)) (text : String) :
  filed (addRun job run table) text =
    if text = run ∧ job ∉ filed table text then filed table text ++ [job]
    else filed table text
  := by
  induction table with
  | nil =>
    rw [addRun, filed, lookup_cons_eq]
    by_cases ht : text = run <;> simp [ht, filed]
  | cons entry table ih =>
    rw [addRun]
    by_cases hr : entry.1 = run
    · rw [if_pos hr, filed, filed, lookup_cons_eq, lookup_cons_eq, hr]
      by_cases ht : text = run
      · by_cases hj : job ∈ entry.2 <;> simp [ht, hj]
      · simp [ht]
    · rw [if_neg hr, filed, filed, lookup_cons_eq, lookup_cons_eq]
      by_cases ht : text = entry.1
      · simp [ht, hr]
      · simp only [if_neg ht]
        exact ih

/-- All runs of a job are added. -/
theorem filed_foldl (job : String) (runs : List String) (table : List (String × List String))
    (text : String) :
  filed (runs.foldl (fun t run => addRun job run t) table) text =
    if text ∈ runs ∧ job ∉ filed table text then filed table text ++ [job]
    else filed table text
  := by
  induction runs generalizing table with
  | nil => simp
  | cons run runs ih =>
    rw [List.foldl_cons, ih, filed_addRun]
    by_cases ht : text = run
    · by_cases hj : job ∈ filed table text <;> simp [ht ▸ hj, ht]
    · simp [ht]

/-- The jobs under a text are those with a window of that text, in the order of the document. -/
theorem filed_runTable {jobs : List (String × List String)} (hn : (jobs.map (·.1)).Nodup)
    (text : String) :
  filed (runTable jobs) text = (jobs.filter fun j => text ∈ runs j.2).map (·.1)
  := by
  rw [runTable]
  -- The induction is from the last job on, as the table is made.
  induction jobs using List.reverseRecOn with
  | nil => rfl
  | append_singleton jobs j ih =>
    rw [List.map_append, List.nodup_append] at hn
    obtain ⟨hn, -, hd⟩ := hn
    rw [List.foldl_append, List.foldl_cons, List.foldl_nil, filed_foldl, ih hn,
      List.filter_append, List.map_append]
    have hj : j.1 ∉ (jobs.filter fun j => text ∈ runs j.2).map (·.1) := by
      intro hm
      obtain ⟨k, hk, he⟩ := List.mem_map.mp hm
      exact hd _ (List.mem_map_of_mem (List.mem_of_mem_filter hk)) _ (.head _) he
    by_cases ht : text ∈ runs j.2
    · rw [if_pos ⟨ht, hj⟩]
      simp [ht]
    · rw [if_neg fun h => ht h.1]
      simp [ht]

theorem map_fst_addRun (job run : String) (table : List (String × List String)) :
  (addRun job run table).map (·.1) =
    if run ∈ table.map (·.1) then table.map (·.1) else table.map (·.1) ++ [run]
  := by
  induction table with
  | nil => rfl
  | cons entry table ih =>
    rw [addRun]
    by_cases hr : entry.1 = run
    · simp [hr]
    · rw [if_neg hr, List.map_cons, List.map_cons, ih]
      by_cases hm : run ∈ table.map (·.1) <;> simp [hm, Ne.symm hr]

theorem nodup_foldl (job : String) (runs : List String) {table : List (String × List String)}
    (hn : (table.map (·.1)).Nodup) :
  ((runs.foldl (fun t run => addRun job run t) table).map (·.1)).Nodup
  := by
  induction runs generalizing table with
  | nil => exact hn
  | cons run runs ih =>
    apply ih
    rw [map_fst_addRun]
    split
    case isTrue => exact hn
    case isFalse hm => exact List.concat_eq_append ▸ hn.concat hm

/-- No text has two entries. -/
theorem nodup_runTable (jobs : List (String × List String)) :
  ((runTable jobs).map (·.1)).Nodup
  := by
  rw [runTable]
  induction jobs using List.reverseRecOn with
  | nil => exact List.nodup_nil
  | append_singleton jobs j ih =>
    rw [List.foldl_append, List.foldl_cons, List.foldl_nil]
    apply nodup_foldl _ _ ih

/-- The entries of a table that hold several jobs. -/
def severalIn (table : List (String × List String)) : List (String × List String) :=
  table.filter fun r => 1 < r.2.length

/-- A text has an entry if several jobs have a window of that text, and the entry holds those
jobs. -/
theorem mem_severalIn_iff {jobs : List (String × List String)} (hn : (jobs.map (·.1)).Nodup)
    {text : String} {names : List String} :
  (text, names) ∈ severalIn (runTable jobs) ↔
    (jobs.filter fun j => text ∈ runs j.2).map (·.1) = names ∧ 1 < names.length
  := by
  rw [severalIn, List.mem_filter, mem_iff_lookup_eq_some (nodup_runTable jobs),
    ← filed_runTable hn, filed, decide_eq_true_iff]
  cases (runTable jobs).lookup text with
  | none =>
    simp only [reduceCtorEq, false_and, Option.getD_none, false_iff, not_and]
    rintro rfl
    exact Nat.not_lt_zero 1
  | some jobs => simp

/-! ### Texts of runs -/

theorem written_singleton (key : String) :
  written [key] = key
  := String.intercalate_singleton

theorem written_cons_cons (key next : String) (rest : List String) :
  (written (key :: next :: rest)).toList =
    key.toList ++ (" -> ".toList ++ (written (next :: rest)).toList)
  := by
  rw [written, String.intercalate_cons_cons, String.toList_append, String.toList_append,
    List.append_assoc, written]

/-- A key that can be told from what is around it in the text of a run: no arrow is in it, and it
does not begin like the rest of one. -/
structure IsPlain (key : String) : Prop where
  begins : ∃ c rest, key.toList = c :: rest ∧ c ≠ '-'
  noArrow : ¬ " -> ".toList <:+: key.toList

theorem begins_of_stepKey {step : Document} {key : String} (h : stepKey step = .ok key) :
  ∃ c rest, key.toList = c :: rest ∧ c ≠ '-'
  := by
  rw [stepKey] at h
  split at h
  · obtain ⟨text, -, rfl⟩ := map_eq_ok.mp h
    rw [String.toList_append]
    exact ⟨'u', _, rfl, by decide⟩
  · split at h
    · obtain ⟨text, -, rfl⟩ := map_eq_ok.mp h
      rw [String.toList_append]
      exact ⟨'r', _, rfl, by decide⟩
    · cases h
      exact ⟨'u', _, rfl, by decide⟩

/-- The keys of jobs are those of steps. -/
theorem exists_step_of_keyedJobs {document : Document} {jobs : List (String × List String)}
    (hj : keyedJobs document = .ok jobs) {j : String × List String} (hm : j ∈ jobs) {key : String}
    (hkey : key ∈ j.2) :
  ∃ step, stepKey step = .ok key
  := by
  obtain ⟨named, -, hkeys⟩ := bind_eq_ok.mp hj
  obtain ⟨job, -, hjob⟩ := exists_of_mem_right (mapM_eq_ok_iff.mp hkeys) hm
  obtain ⟨keys, hsteps, rfl⟩ := map_eq_ok.mp hjob
  obtain ⟨step, -, hstep⟩ := exists_of_mem_right (mapM_eq_ok_iff.mp hsteps) hkey
  exact ⟨step, hstep⟩

theorem IsPlain.begins_written {key : String} (h : IsPlain key) (rest : List String) :
  ∃ c more, (written (key :: rest)).toList = c :: more ∧ c ≠ '-'
  := by
  obtain ⟨c, more, hk, hc⟩ := h.begins
  cases rest with
  | nil => exact ⟨c, more, by rw [written_singleton, hk], hc⟩
  | cons next rest =>
    rw [written_cons_cons, hk]
    exact ⟨c, _, rfl, hc⟩

/-- An arrow that begins in the middle of another one is not an arrow, unless a dash comes next. -/
theorem eq_nil_of_arrow {left middle right more : List Char} {c : Char} (hc : c ≠ '-')
    (hn : ¬ " -> ".toList <:+: left ++ middle)
    (he : " -> ".toList ++ c :: right = middle ++ (" -> ".toList ++ more)) :
  middle = []
  := by
  have ha : " -> ".toList = [' ', '-', '>', ' '] := rfl
  rw [ha] at hn he
  match middle with
  | [] => rfl
  | [_] => simp at he
  | [_, _] => simp at he
  | [_, _, _] => simp_all
  | a :: b :: d :: e :: rest =>
    simp only [List.cons_append, List.cons.injEq, List.nil_append] at he
    obtain ⟨rfl, rfl, rfl, rfl, -⟩ := he
    exact absurd ⟨left, rest, by simp⟩ hn

theorem IsPlain.cut {key key' : String} (h : IsPlain key) (h' : IsPlain key')
    {c c' : Char} {rest rest' : List Char} (hc : c ≠ '-') (hc' : c' ≠ '-')
    (he : key.toList ++ (" -> ".toList ++ c :: rest) =
      key'.toList ++ (" -> ".toList ++ c' :: rest')) :
  key = key' ∧ c :: rest = c' :: rest'
  := by
  have hk : key.toList = key'.toList := by
    rcases List.append_eq_append_iff.mp he with ⟨middle, hm, he⟩ | ⟨middle, hm, he⟩
    · rw [hm, eq_nil_of_arrow hc (hm ▸ h'.noArrow) he, List.append_nil]
    · rw [hm, eq_nil_of_arrow hc' (hm ▸ h.noArrow) he, List.append_nil]
  rw [hk] at he
  use String.toList_inj.mp hk
  apply List.append_cancel_left (List.append_cancel_left he)

/-- A run of plain keys can be read back from its text. -/
theorem written_inj {run run' : List String} (h : ∀ key ∈ run, IsPlain key)
    (h' : ∀ key ∈ run', IsPlain key) (he : written run = written run') :
  run = run'
  := by
  induction run generalizing run' with
  | nil =>
    cases run' with
    | nil => rfl
    | cons key' rest' =>
      obtain ⟨c, more, hw, -⟩ := (h' key' (.head _)).begins_written rest'
      rw [← he] at hw
      cases hw
  | cons key rest ih =>
    have hk := h key (.head _)
    match rest, run' with
    | rest, [] =>
      obtain ⟨c, more, hw, -⟩ := hk.begins_written rest
      rw [he] at hw
      cases hw
    | [], [key'] =>
      rw [written_singleton, written_singleton] at he
      rw [he]
    | [], key' :: next' :: rest' =>
      have hw := congrArg String.toList he
      rw [written_cons_cons, written_singleton] at hw
      exact absurd ⟨_, _, by rw [hw, List.append_assoc]⟩ hk.noArrow
    | next :: rest, [key'] =>
      have hw := congrArg String.toList he
      rw [written_cons_cons, written_singleton] at hw
      exact absurd ⟨_, _, by rw [← hw, List.append_assoc]⟩ (h' key' (.head _)).noArrow
    | next :: rest, key' :: next' :: rest' =>
      have hr := fun k hm => h k (.tail _ hm)
      have hr' := fun k hm => h' k (.tail _ hm)
      obtain ⟨c, more, hm, hc⟩ := (hr next (.head _)).begins_written rest
      obtain ⟨c', more', hm', hc'⟩ := (hr' next' (.head _)).begins_written rest'
      have hw := congrArg String.toList he
      rw [written_cons_cons, written_cons_cons, hm, hm'] at hw
      obtain ⟨rfl, hmore⟩ := hk.cut (h' key' (.head _)) hc hc' hw
      rw [← hm, ← hm', String.toList_inj] at hmore
      rw [ih hr hr' hmore]

/-! ### Jobs that share a run -/

/-- The jobs that hold a run of keys. -/
def holders (jobs : List (String × List String)) (run : List String) : List String :=
  (jobs.filter fun j => run <:+: j.2).map (·.1)

/-- Whether a table says which jobs share which runs of two or three keys.  Under each run that two
jobs hold it has just the jobs that hold it, in their order, and any two jobs under one text hold a
run of that text. -/
structure TellsRuns (jobs table : List (String × List String)) : Prop where
  lists : ∀ run : List String, run.length = 2 ∨ run.length = 3 →
    ∀ j ∈ jobs, ∀ k ∈ jobs, j.1 ≠ k.1 → run <:+: j.2 → run <:+: k.2 →
      (written run, holders jobs run) ∈ table
  shares : ∀ text names, (text, names) ∈ table →
    ∀ j ∈ jobs, ∀ k ∈ jobs, j.1 ∈ names → k.1 ∈ names →
      ∃ run : List String, (run.length = 2 ∨ run.length = 3) ∧ written run = text ∧
        run <:+: j.2 ∧ run <:+: k.2

section

variable {jobs : List (String × List String)}

/-- If no key has an arrow in it, a job is filed under a run that some job holds if and only if the
run is one of its windows. -/
theorem written_mem_runs_iff (hp : ∀ j ∈ jobs, ∀ key ∈ j.2, IsPlain key)
    {j k : String × List String} (hj : j ∈ jobs) (hk : k ∈ jobs) {run : List String}
    (hr : run <:+: k.2) :
  written run ∈ runs j.2 ↔ IsWindow j.2 run
  := by
  rw [mem_runs_iff]
  constructor
  · rintro ⟨window, hw, he⟩
    rwa [← written_inj (fun key hm => hp j hj key (hw.isInfix.subset hm))
      (fun key hm => hp k hk key (hr.subset hm)) he]
  · intro hw
    use run

/-- The jobs that hold a run are those filed under its text, if no key has an arrow in it, and all
of them end with the run if it has two keys. -/
theorem holders_eq (hp : ∀ j ∈ jobs, ∀ key ∈ j.2, IsPlain key) {run : List String}
    (hl : run.length = 2 ∨ run.length = 3)
    (he : run.length = 2 → ∀ j ∈ jobs, run <:+: j.2 → run <:+ j.2)
    {k : String × List String} (hk : k ∈ jobs) (hr : run <:+: k.2) :
  (jobs.filter fun j => written run ∈ runs j.2).map (·.1) = holders jobs run
  := by
  rw [holders]
  congr 1
  apply List.filter_congr
  intro j hj
  rw [Bool.eq_iff_iff, decide_eq_true_iff, decide_eq_true_iff, written_mem_runs_iff hp hj hk hr]
  constructor
  · intro hw
    apply hw.isInfix
  · intro hi
    rcases hl with hl | hl
    · exact .two hl (he hl j hj hi)
    · exact .three hl hi

/-- If no key has an arrow in it, the table tells which jobs share which runs if and only if each
run of two keys that two jobs hold is at the end of both. -/
theorem tellsRuns_iff (hn : (jobs.map (·.1)).Nodup) (hp : ∀ j ∈ jobs, ∀ key ∈ j.2, IsPlain key) :
  TellsRuns jobs (severalIn (runTable jobs)) ↔
    ∀ run : List String, run.length = 2 → ∀ j ∈ jobs, ∀ k ∈ jobs, j.1 ≠ k.1 →
      run <:+: j.2 → run <:+: k.2 → run <:+ j.2
  := by
  constructor
  · intro h run hl j hj k hk hne hrj hrk
    obtain ⟨hf, -⟩ := (mem_severalIn_iff hn).mp (h.lists run (.inl hl) j hj k hk hne hrj hrk)
    have hm : j.1 ∈ holders jobs run := (mem_map_filter_iff hn _ hj).mpr (decide_eq_true hrj)
    rw [← hf, mem_map_filter_iff hn _ hj, decide_eq_true_iff,
      written_mem_runs_iff hp hj hj hrj] at hm
    cases hm with
    | three hl' _ =>
      rw [hl] at hl'
      cases hl'
    | two _ he => exact he
  · intro h
    constructor
    case lists =>
      intro run hl j hj k hk hne hrj hrk
      rw [mem_severalIn_iff hn]
      constructor
      · apply holders_eq hp hl _ hj hrj
        intro hl' i hi hri
        -- One of the two jobs is another one than the third.
        by_cases hij : i.1 = j.1
        · apply h run hl' i hi k hk (hij ▸ hne) hri hrk
        · apply h run hl' i hi j hj hij hri hrj
      · apply one_lt_length_of_ne _ _ hne
        · exact (mem_map_filter_iff hn _ hj).mpr (decide_eq_true hrj)
        · exact (mem_map_filter_iff hn _ hk).mpr (decide_eq_true hrk)
    case shares =>
      intro text names hm j hj k hk hjn hkn
      obtain ⟨rfl, -⟩ := (mem_severalIn_iff hn).mp hm
      rw [mem_map_filter_iff hn _ hj, decide_eq_true_iff, mem_runs_iff] at hjn
      rw [mem_map_filter_iff hn _ hk, decide_eq_true_iff] at hkn
      obtain ⟨run, hw, rfl⟩ := hjn
      rw [written_mem_runs_iff hp hk hj hw.isInfix] at hkn
      exact ⟨run, hw.length_eq, rfl, hw.isInfix, hkn.isInfix⟩

/-- What the rule for complexity files, in a workflow whose jobs have names of their own, if these
and what the steps do can be written.  No text is filed twice, and under a text are the jobs that
have a window of that text, if there are several.  If no key has an arrow in it, the jobs filed are
those that share the runs of two or three keys if and only if each run of two keys that two jobs
hold is at the end of both. -/
theorem sharedRuns_tells_iff {document : Document} (hj : keyedJobs document = .ok jobs)
    (hn : (jobs.map (·.1)).Nodup) :
  ∃ table, sharedRuns document = .ok table ∧
    (table.map (·.1)).Nodup ∧
    (∀ text names, (text, names) ∈ table ↔
      (jobs.filter fun j => text ∈ runs j.2).map (·.1) = names ∧ 1 < names.length) ∧
    (∀ j ∈ jobs, ∀ text, text ∈ runs j.2 ↔
      ∃ window, IsWindow j.2 window ∧ written window = text) ∧
    ((∀ j ∈ jobs, ∀ key ∈ j.2, Text.has key.toList " -> " = false) →
      (TellsRuns jobs table ↔
        ∀ run : List String, run.length = 2 → ∀ j ∈ jobs, ∀ k ∈ jobs, j.1 ≠ k.1 →
          run <:+: j.2 → run <:+: k.2 → run <:+ j.2))
  := by
  refine ⟨severalIn (runTable jobs), ?_, ?_, ?_, ?_, ?_⟩
  · rw [sharedRuns, hj]
    rfl
  · apply List.Nodup.sublist _ (nodup_runTable jobs)
    apply List.filter_sublist.map
  · intro text names
    apply mem_severalIn_iff hn
  · intro j _ text
    apply mem_runs_iff
  · intro ha
    apply tellsRuns_iff hn
    intro j hm key hkey
    obtain ⟨step, hstep⟩ := exists_step_of_keyedJobs hj hm hkey
    use begins_of_stepKey hstep
    rw [← Text.has_iff, ha j hm key hkey]
    exact Bool.false_ne_true

end

/-- A step that uses an action. -/
def stepUsing (action : String) : Document :=
  .map [(.ofText "uses", .text action)]

/-- A step that runs a command. -/
def stepRunning (command : String) : Document :=
  .map [(.ofText "run", .text command)]

/-- A workflow of some jobs with their steps. -/
def workflowOf (jobs : List (String × List Document)) : Document :=
  .map [(.ofText "jobs",
    .map (jobs.map fun j => (.ofText j.1, .map [(.ofText "steps", .list j.2)])))]

/-- Two jobs that end with the same two steps, and one that shares a step with them. -/
def alignedWorkflow : Document :=
  workflowOf [
    ("lint", [stepRunning "date", stepUsing "actions/checkout@v4", stepRunning "make lint"]),
    ("again", [stepUsing "actions/checkout@v3", stepRunning "make lint"]),
    ("docs", [stepUsing "actions/checkout@v4"])]

/-- The jobs of the workflow, with the keys of their steps. -/
def alignedJobs : List (String × List String) := [
  ("lint", ["run:date", "uses:actions/checkout", "run:make lint"]),
  ("again", ["uses:actions/checkout", "run:make lint"]),
  ("docs", ["uses:actions/checkout"])]

theorem sharedRuns_tells_iff_alignedWorkflow :
  keyedJobs alignedWorkflow = .ok alignedJobs ∧ (alignedJobs.map (·.1)).Nodup ∧
  sharedRuns alignedWorkflow =
    .ok [("uses:actions/checkout -> run:make lint", ["lint", "again"])] ∧
  TellsRuns alignedJobs [("uses:actions/checkout -> run:make lint", ["lint", "again"])]
  := by
  have hj : keyedJobs alignedWorkflow = .ok alignedJobs := by decide +kernel
  have hn : (alignedJobs.map (·.1)).Nodup := by decide
  have ha : ∀ j ∈ alignedJobs, ∀ key ∈ j.2, Text.has key.toList " -> " = false := by decide
  have htable : sharedRuns alignedWorkflow =
      .ok [("uses:actions/checkout -> run:make lint", ["lint", "again"])] := by
    rw [sharedRuns, hj]
    decide +kernel
  have short : ∀ {run keys : List String}, run.length = 2 → keys.length ≤ 2 → run <:+: keys →
      run = keys := fun hl hs hi => hi.eq_of_length_le (hl ▸ hs)
  obtain ⟨table, hok, -, -, -, ht⟩ := sharedRuns_tells_iff hj hn
  obtain rfl := Except.ok.inj (htable.symm.trans hok)
  refine ⟨hj, hn, htable, ?_⟩
  rw [ht ha]
  intro run hl j hj k hk' hne hrj hrk
  simp only [alignedJobs, List.mem_cons, List.not_mem_nil, or_false] at hj hk'
  rcases hk' with rfl | rfl | rfl
  · rcases hj with rfl | rfl | rfl
    · exact absurd rfl hne
    · obtain rfl := short hl (by decide) hrj
      exact List.suffix_rfl
    · cases short hl (by decide) hrj ▸ hl
  · rw [short hl (by decide) hrk]
    rcases hj with rfl | rfl | rfl
    · exact ⟨["run:date"], rfl⟩
    · exact List.suffix_rfl
    · cases short hl (by decide) hrj ▸ hl
  · cases short hl (by decide) hrk ▸ hl

/-- Two jobs that begin with the same two steps. -/
def forkedWorkflow : Document :=
  workflowOf [
    ("lint", [stepUsing "actions/checkout@v4", stepRunning "npm ci", stepRunning "npm run lint"]),
    ("test", [stepUsing "actions/checkout@v4", stepRunning "npm ci", stepRunning "npm test"])]

/-- These jobs, with the keys of their steps. -/
def forkedJobs : List (String × List String) := [
  ("lint", ["uses:actions/checkout", "run:npm ci", "run:npm run lint"]),
  ("test", ["uses:actions/checkout", "run:npm ci", "run:npm test"])]

/-- A job with a step that looks like two steps of another job. -/
def arrowWorkflow : Document :=
  workflowOf [
    ("ship", [stepRunning "build -> run:test", stepRunning "pack"]),
    ("check", [stepRunning "build", stepRunning "test", stepRunning "pack"])]

/-- These jobs, with the keys of their steps. -/
def arrowJobs : List (String × List String) := [
  ("ship", ["run:build -> run:test", "run:pack"]),
  ("check", ["run:build", "run:test", "run:pack"])]

/-- A run of two keys that is followed by other keys is not found, and jobs that share no run are
filed under one text. -/
theorem sharedRuns_forkedWorkflow :
  keyedJobs forkedWorkflow = .ok forkedJobs ∧
  holders forkedJobs ["uses:actions/checkout", "run:npm ci"] = ["lint", "test"] ∧
  sharedRuns forkedWorkflow = .ok [] ∧
  ¬ TellsRuns forkedJobs [] ∧
  keyedJobs arrowWorkflow = .ok arrowJobs ∧
  sharedRuns arrowWorkflow = .ok [("run:build -> run:test -> run:pack", ["ship", "check"])] ∧
  ¬ TellsRuns arrowJobs [("run:build -> run:test -> run:pack", ["ship", "check"])]
  := by
  refine ⟨by decide +kernel, by decide, by decide +kernel, ?_, by decide +kernel,
    by decide +kernel, ?_⟩
  · intro h
    have hl := h.lists ["uses:actions/checkout", "run:npm ci"] (.inl rfl) _ (.head _) _
      (.tail _ (.head _)) (by decide) (by decide) (by decide)
    cases hl
  · intro h
    obtain ⟨run, hl, -, hs, hc⟩ := h.shares _ _ (.head _) _ (.head _) _ (.tail _ (.head _))
      (.head _) (.tail _ (.head _))
    have hs : run <:+: ["run:build -> run:test", "run:pack"] := hs
    have hc : run <:+: ["run:build", "run:test", "run:pack"] := hc
    have he := hs.eq_of_length_le (by rcases hl with hl | hl <;> rw [hl] <;> decide)
    rw [he] at hc
    exact absurd hc (by decide)

end PipelineAudit.Complexity
