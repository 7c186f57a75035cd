import PipelineAudit.Analysis.Graph
import PipelineAudit.Proofs.Related
import PipelineAudit.Proofs.Text.Lines

/-!
# Reading a diagram back

The diagram of a workflow is text.  `read?` reads its lines as statements about the identifiers of
nodes, and `named?` looks up which of some names an identifier stands for.  A workflow whose jobs
and needs are named by job ids is described by its jobs in order, each with the names it needs.

An identifier has an underscore for each hyphen and each underscore of a name, so that two names
that are alike but for these get the same one.

* `nodeId_eq_iff`: when two job ids have the same identifier.
* `read?_render`: the statements that the diagram of a workflow is read as.
* `render_readable_iff`: when the needs of a workflow can be read back from its diagram.
-/

namespace PipelineAudit.Graph

/-! ### Statements -/

/-- What a line of a diagram says about nodes, given by their identifiers. -/
inductive Statement where
  | alone (id : List Char)
  | arrow (source target : List Char)
  deriving DecidableEq

/-- Whether a character may stand in an identifier. -/
def isIdChar (c : Char) : Bool :=
  c.isAlphanum || c = '_'

/-- The identifier of the node that a text begins with, and what follows the label of the node. -/
def readNode? (text : List Char) : Option (List Char × List Char) := do
  let label ← (text.dropWhile isIdChar).dropPrefix? "[\"".toList
  let rest ← (label.dropWhile (· ≠ '"')).dropPrefix? "\"]".toList
  return (text.takeWhile isIdChar, rest)

/-- The statement of a line. -/
def readStatement? (line : List Char) : Option Statement := do
  let body ← line.dropPrefix? "    ".toList
  let (source, rest) ← readNode? body
  if rest.isEmpty then return .alone source
  let (target, rest) ← (rest.dropPrefix? " --> ".toList).bind readNode?
  if rest.isEmpty then return .arrow source target else none

/-- The statements of a diagram: those of the lines below its heading, empty lines apart. -/
def read? (diagram : String) : Option (List Statement) :=
  match Text.lines diagram.toList with
  | [] => none
  | heading :: body =>
    if heading = "graph TD".toList then (body.filter (!·.isEmpty)).mapM readStatement? else none

/-- The arrow that a statement is. -/
def Statement.arrow? : Statement → Option (List Char × List Char)
  | alone _ => none
  | arrow source target => some (source, target)

/-- The node that a statement shows on its own. -/
def Statement.alone? : Statement → Option (List Char)
  | alone id => some id
  | arrow _ _ => none

/-- The arrows of a diagram. -/
def arrows (diagram : List Statement) : List (List Char × List Char) :=
  diagram.filterMap Statement.arrow?

/-- The nodes that a diagram shows on their own. -/
def loners (diagram : List Statement) : List (List Char) :=
  diagram.filterMap Statement.alone?

/-- The one of some names that an identifier stands for. -/
def named? (names : List String) (id : List Char) : Option String :=
  names.find? fun name => nodeId name.toList = id

/-! ### Names of jobs -/

/-- Whether a character may stand in a job id. -/
def isJobIdChar (c : Char) : Bool :=
  c.isAlphanum || c = '-' || c = '_'

/-- A job id is a text of letters, digits, hyphens and underscores, and is not empty. -/
def IsJobId (name : String) : Prop :=
  name ≠ "" ∧ ∀ c ∈ name.toList, isJobIdChar c

instance : DecidablePred IsJobId :=
  fun name => decidable_of_iff (name ≠ "" ∧ name.toList.all isJobIdChar)
    (and_congr_right' List.all_eq_true)

/-- Two names are alike: they are the same but for hyphens in place of underscores. -/
def Alike (a b : String) : Prop :=
  List.Forall₂ (fun c c' => c = c' ∨ c = '-' ∧ c' = '_' ∨ c = '_' ∧ c' = '-') a.toList b.toList

/-- Any two of some names that are alike are the same. -/
def Unlike (names : List String) : Prop :=
  ∀ a ∈ names, ∀ b ∈ names, Alike a b → a = b

/-- Any two of some names with the same identifier are the same. -/
def Distinguished (names : List String) : Prop :=
  ∀ a ∈ names, ∀ b ∈ names, nodeId a.toList = nodeId b.toList → a = b

theorem isIdChar_of_mem_nodeId {name : List Char} {c : Char} (h : c ∈ nodeId name) :
  isIdChar c
  := by
  obtain ⟨d, -, rfl⟩ := List.mem_map.mp h
  by_cases hd : d.isAlphanum <;> simp [isIdChar, hd]

theorem ne_of_isAlphanum {c : Char} (h : c.isAlphanum) :
  c ≠ '-' ∧ c ≠ '_'
  := by
  constructor
  · rintro rfl
    cases h
  · rintro rfl
    cases h

/-- The characters of a job id that become the same are the same, or a hyphen and an underscore. -/
theorem nodeChar_eq_iff {c c' : Char} (h : isJobIdChar c) (h' : isJobIdChar c') :
  (if c.isAlphanum then c else '_') = (if c'.isAlphanum then c' else '_') ↔
    c = c' ∨ c = '-' ∧ c' = '_' ∨ c = '_' ∧ c' = '-'
  := by
  simp only [isJobIdChar, Bool.or_eq_true, decide_eq_true_eq] at h h'
  have hc := @ne_of_isAlphanum c
  have hc' := @ne_of_isAlphanum c'
  grind

/-- Job ids have the same identifier if and only if they are alike. -/
theorem nodeId_eq_iff {a b : String} (ha : IsJobId a) (hb : IsJobId b) :
  nodeId a.toList = nodeId b.toList ↔ Alike a b
  := by
  rw [Alike, nodeId, nodeId]
  have ha := ha.2
  have hb := hb.2
  generalize a.toList = as at ha ⊢
  generalize b.toList = bs at hb ⊢
  induction as generalizing bs with
  | nil => cases bs <;> simp
  | cons c as ih =>
    cases bs with
    | nil => simp
    | cons c' bs =>
      obtain ⟨hc, ha⟩ := List.forall_mem_cons.mp ha
      obtain ⟨hc', hb⟩ := List.forall_mem_cons.mp hb
      rw [List.map_cons, List.map_cons, List.cons.injEq, List.forall₂_cons]
      apply and_congr (nodeChar_eq_iff hc hc') (ih ha bs hb)

theorem distinguished_iff {names : List String} (h : ∀ name ∈ names, IsJobId name) :
  Distinguished names ↔ Unlike names
  := by
  constructor
  · intro hd a ha b hb hab
    apply hd a ha b hb
    rw [nodeId_eq_iff (h a ha) (h b hb)]
    exact hab
  · intro hu a ha b hb hab
    apply hu a ha b hb
    rw [← nodeId_eq_iff (h a ha) (h b hb)]
    exact hab

/-- If no two names share an identifier, each is the one that its identifier stands for. -/
theorem named?_nodeId {names : List String} (h : Distinguished names) {name : String}
    (hn : name ∈ names) :
  named? names (nodeId name.toList) = some name
  := by
  rw [named?]
  cases hf : names.find? fun other => nodeId other.toList = nodeId name.toList with
  | none => exact absurd (decide_eq_true rfl) (List.find?_eq_none.mp hf name hn)
  | some other =>
    have hid := List.find?_some hf
    rw [decide_eq_true_eq] at hid
    rw [h other (List.mem_of_find?_eq_some hf) name hn hid]

/-- If each of some names is the one that its identifier stands for, no two share one. -/
theorem distinguished_of_named? {names : List String}
    (h : ∀ name ∈ names, named? names (nodeId name.toList) = some name) :
  Distinguished names
  := by
  intro a ha b hb hab
  have hs : some a = some b := by rw [← h a ha, hab, h b hb]
  exact Option.some.inj hs

/-! ### Workflows -/

/-- What the field for the needs of a job says: nothing, the name of a job, or a list of names. -/
inductive NamesJobs : Document → List String → Prop where
  | nothing {d : Document} (h : d.truthy = false) : NamesJobs d []
  | one {s : Scalar} {name : String} (ht : s.truthy) (hw : (Document.scalar s).write = .ok name)
    (h : IsJobId name) : NamesJobs (.scalar s) [name]
  | many {ss : List Scalar} {names : List String}
    (hw : (ss.map Document.scalar).mapM Document.write = .ok names)
    (h : ∀ name ∈ names, IsJobId name) : NamesJobs (.list (ss.map .scalar)) names

/-- The jobs of a workflow in order, each with the names of the jobs it needs, all of them job
ids. -/
def Declares (document : Document) (jobs : List (String × List String)) : Prop :=
  List.Forall₂
    (fun e j => e.1.write = .ok j.1 ∧ IsJobId j.1 ∧ NamesJobs (e.2.get "needs") j.2)
    (document.get "jobs").entries jobs

/-- The names that occur in a workflow. -/
def occurring (jobs : List (String × List String)) : List String :=
  jobs.flatMap fun j => j.1 :: j.2

/-- The needs of a workflow: pairs of a needed job and the job that needs it. -/
def needPairs (jobs : List (String × List String)) : List (String × String) :=
  jobs.flatMap fun j => j.2.map fun name => (name, j.1)

/-- The jobs of a workflow that need no other. -/
def free (jobs : List (String × List String)) : List String :=
  (jobs.filter (·.2.isEmpty)).map (·.1)

theorem NamesJobs.isJobId {d : Document} {names : List String} (h : NamesJobs d names) :
  ∀ name ∈ names, IsJobId name
  := by
  intro name hn
  cases h with
  | nothing _ => cases hn
  | one _ _ h =>
    rw [List.mem_singleton.mp hn]
    exact h
  | many _ h => exact h name hn

theorem isJobId_of_mem_occurring {document : Document} {jobs : List (String × List String)}
    (h : Declares document jobs) :
  ∀ name ∈ occurring jobs, IsJobId name
  := by
  intro name hn
  obtain ⟨j, hj, hn⟩ := List.mem_flatMap.mp hn
  obtain ⟨e, -, -, hid, hneeds⟩ := exists_of_mem_right h hj
  obtain rfl | hn := List.mem_cons.mp hn
  · exact hid
  · exact hneeds.isJobId name hn

/-- The names that a job needs are those its field says. -/
theorem mapM_needed_of_namesJobs {job : Document} {names : List String}
    (h : NamesJobs (job.get "needs") names) :
  (needed job).mapM Document.write = .ok names
  := by
  rw [needed]
  generalize job.get "needs" = d at h
  cases h with
  | nothing h =>
    rw [h]
    rfl
  | @one s name ht hw _ =>
    have htruthy : (Document.scalar s).truthy = true := ht
    simp only [htruthy, Document.isList, mapM_eq_ok_iff]
    exact .cons hw .nil
  | @many ss names hw _ =>
    have hi : (Document.list (ss.map .scalar)).items = ss.map .scalar := by
      apply Document.items_list_of_isClosed
      intro d hd
      obtain ⟨s, -, rfl⟩ := List.mem_map.mp hd
      rfl
    cases ss with
    | nil => exact hw
    | cons s rest =>
      rw [hi]
      exact hw

/-- A job of these names as it is drawn. -/
def drawn (job : String × List String) : Job :=
  ⟨job.1, job.2⟩

/-- The jobs of a workflow can be drawn, with the names that it declares. -/
theorem mapM_jobOf {document : Document} {jobs : List (String × List String)}
    (h : Declares document jobs) :
  (document.get "jobs").entries.mapM Job.of = .ok (jobs.map drawn)
  := by
  rw [mapM_eq_ok_iff, List.forall₂_map_right_iff]
  apply h.imp
  rintro e job ⟨hk, -, hn⟩
  rw [Job.of, hk, mapM_needed_of_namesJobs hn]
  rfl

/-! ### The statements of a diagram -/

theorem toList_node (name : String) :
  (node name).toList =
    nodeId name.toList ++ ("[\"".toList ++ (name.toList ++ "\"]".toList))
  := by simp [node]

/-- A node is read as its identifier, whatever follows. -/
theorem readNode?_node {name : String} (h : IsJobId name) (rest : List Char) :
  readNode? ((node name).toList ++ rest) = some (nodeId name.toList, rest)
  := by
  have hid : ∀ c ∈ nodeId name.toList, isIdChar c := fun c => isIdChar_of_mem_nodeId
  have hquote : ∀ c ∈ name.toList, decide (c ≠ '"') = true := by
    intro c hc
    apply decide_eq_true
    rintro rfl
    cases h.2 _ hc
  rw [toList_node, List.append_assoc, List.append_assoc, List.append_assoc, readNode?,
    List.takeWhile_append_of_pos hid, List.dropWhile_append_of_pos hid]
  have ht : ∀ text, ("[\"".toList ++ text).takeWhile isIdChar = [] := fun _ => rfl
  have hd : ∀ text, ("[\"".toList ++ text).dropWhile isIdChar = "[\"".toList ++ text :=
    fun _ => rfl
  have hq : ∀ text,
      ("\"]".toList ++ text).dropWhile (fun c => decide (c ≠ '"')) = "\"]".toList ++ text :=
    fun _ => rfl
  simp only [ht, hd, List.dropPrefix?_append_of_beq _ (BEq.rfl), List.append_nil]
  rw [Option.bind_eq_bind, Option.bind_some, List.dropWhile_append_of_pos hquote, hq,
    List.dropPrefix?_append_of_beq _ (BEq.rfl)]
  rfl

/-- A node on a line of its own. -/
theorem readStatement?_alone {name : String} (h : IsJobId name) :
  readStatement? ("    ".toList ++ (node name).toList) = some (.alone (nodeId name.toList))
  := by
  have hn := readNode?_node h []
  rw [List.append_nil] at hn
  rw [readStatement?, List.dropPrefix?_append_of_beq _ (BEq.rfl)]
  simp [hn]

/-- A line of two nodes with an arrow between them. -/
theorem readStatement?_arrow {name name' : String} (h : IsJobId name) (h' : IsJobId name') :
  readStatement?
      ("    ".toList ++ ((node name).toList ++ (" --> ".toList ++ (node name').toList))) =
    some (.arrow (nodeId name.toList) (nodeId name'.toList))
  := by
  have hn := readNode?_node h (" --> ".toList ++ (node name').toList)
  have hn' := readNode?_node h' []
  rw [List.append_nil] at hn'
  rw [readStatement?, List.dropPrefix?_append_of_beq _ (BEq.rfl)]
  simp only [Option.bind_eq_bind, Option.bind_some, hn,
    List.dropPrefix?_append_of_beq _ (BEq.rfl), hn']
  rfl

theorem lineFeed_not_mem_node {name : String} (h : IsJobId name) :
  '\n' ∉ (node name).toList
  := by
  rw [toList_node]
  simp only [List.mem_append, not_or]
  refine ⟨fun hm => ?_, by decide, fun hm => ?_, by decide⟩
  · cases isIdChar_of_mem_nodeId hm
  · cases h.2 _ hm

/-- A line says a statement: but for the line feed at its end, it is not empty, has no line feed and
is read as the statement. -/
def Says (line : String) (statement : Statement) : Prop :=
  ∃ body, line.toList = body ++ ['\n'] ∧ body ≠ [] ∧ '\n' ∉ body ∧
    readStatement? body = some statement

/-- The lines of a diagram below its heading are read as the statements they say. -/
theorem mapM_readStatement? {lines : List String} {statements : List Statement}
    (h : List.Forall₂ Says lines statements) :
  ((Text.lines (lines.flatMap String.toList)).filter (!·.isEmpty)).mapM readStatement? =
    some statements
  := by
  induction h with
  | nil => rfl
  | cons hs _ ih =>
    obtain ⟨body, hl, hne, hlf, hr⟩ := hs
    have hb : Text.lines body = [body] := by
      apply List.splitOnP_eq_singleton
      intro c hc
      rw [beq_eq_false_iff_ne]
      rintro rfl
      exact hlf hc
    rw [List.flatMap_cons, hl, List.append_assoc, List.singleton_append, Text.lines_append, hb,
      List.singleton_append, List.filter_cons_of_pos (by simpa using hne), List.mapM_cons, hr, ih]
    rfl

/-- What the lines of a job say: an arrow from each job it needs, or its node alone. -/
def statements (job : String × List String) : List Statement :=
  match job.2 with
  | [] => [.alone (nodeId job.1.toList)]
  | names => names.map fun name => .arrow (nodeId name.toList) (nodeId job.1.toList)

theorem lines_say {d : Document} {job : String × List String} (hid : IsJobId job.1)
    (hn : NamesJobs d job.2) :
  List.Forall₂ Says (drawn job).lines (statements job)
  := by
  rw [Job.lines, statements, drawn]
  have hids := hn.isJobId
  cases hneeds : job.2 with
  | nil =>
    dsimp only
    refine .cons ⟨"    ".toList ++ (node job.1).toList, ?_, ?_, ?_, ?_⟩ .nil
    · simp
    · exact List.cons_ne_nil _ _
    · simpa using lineFeed_not_mem_node hid
    · apply readStatement?_alone hid
  | cons first rest =>
    rw [hneeds] at hids
    simp only [List.forall₂_map_left_iff, List.forall₂_map_right_iff]
    rw [List.forall₂_same]
    intro name hname
    have hname := hids name hname
    refine ⟨"    ".toList ++ ((node name).toList ++ (" --> ".toList ++ (node job.1).toList)),
      ?_, ?_, ?_, ?_⟩
    · simp
    · exact List.cons_ne_nil _ _
    · simpa using ⟨lineFeed_not_mem_node hname, lineFeed_not_mem_node hid⟩
    · apply readStatement?_arrow hname hid

/-- The diagram of some jobs is read as what their lines say. -/
theorem read?_draw {jobs : List (String × List String)}
    (h : ∀ job ∈ jobs, List.Forall₂ Says (drawn job).lines (statements job)) :
  read? (draw (jobs.map drawn)) = some (jobs.flatMap statements)
  := by
  have ht : (draw (jobs.map drawn)).toList =
      "graph TD".toList ++
        '\n' :: (jobs.flatMap fun job => (drawn job).lines).flatMap String.toList := by
    rw [draw, String.toList_append, String.toList_join, List.flatMap_map]
    rfl
  have hs : List.Forall₂ Says (jobs.flatMap fun job => (drawn job).lines)
      (jobs.flatMap statements) := by
    apply List.rel_flatMap (R := fun job job' => job = job' ∧ job ∈ jobs)
    · exact List.forall₂_same.mpr fun job hj => ⟨rfl, hj⟩
    · rintro job _ ⟨rfl, hj⟩
      exact h job hj
  have hheading : Text.lines "graph TD".toList = ["graph TD".toList] := by decide
  rw [read?, ht, Text.lines_append, hheading, List.singleton_append]
  dsimp only
  rw [if_pos rfl, mapM_readStatement? hs]

/-- A workflow with several jobs has a diagram, which is read as what the lines of its jobs say. -/
theorem read?_render {document : Document} {jobs : List (String × List String)}
    (h : Declares document jobs) (hl : 1 < jobs.length) :
  ∃ text, render document "github-actions" = .ok text ∧
    read? text = some (jobs.flatMap statements)
  := by
  refine ⟨draw (jobs.map drawn), ?_, ?_⟩
  · rw [render_of_several (h.length_eq ▸ hl), mapM_jobOf h]
    rfl
  · apply read?_draw
    intro job hj
    obtain ⟨e, -, -, hid, hn⟩ := exists_of_mem_right h hj
    exact lines_say hid hn

theorem arrows_statements (jobs : List (String × List String)) :
  arrows (jobs.flatMap statements) =
    (needPairs jobs).map fun p => (nodeId p.1.toList, nodeId p.2.toList)
  := by
  rw [arrows, needPairs, List.filterMap_flatMap, List.map_flatMap]
  apply List.flatMap_congr
  intro job _
  rw [statements]
  cases job.2 with
  | nil => rfl
  | cons first rest =>
    rw [List.filterMap_map, List.map_map, ← List.filterMap_eq_map]
    rfl

theorem loners_statements (jobs : List (String × List String)) :
  loners (jobs.flatMap statements) = (free jobs).map fun name => nodeId name.toList
  := by
  rw [loners, free, List.filterMap_flatMap]
  induction jobs with
  | nil => rfl
  | cons job rest ih =>
    rw [List.flatMap_cons, ih, statements]
    cases hn : job.2 with
    | nil => simp [hn, Statement.alone?]
    | cons first more => simp [hn, Statement.alone?, Function.comp_def]

/-! ### Reading needs back -/

theorem mem_occurring_of_mem_needPairs {jobs : List (String × List String)} {p : String × String}
    (h : p ∈ needPairs jobs) :
  p.1 ∈ occurring jobs ∧ p.2 ∈ occurring jobs
  := by
  obtain ⟨job, hj, hp⟩ := List.mem_flatMap.mp h
  obtain ⟨name, hn, rfl⟩ := List.mem_map.mp hp
  constructor
  · exact List.mem_flatMap.mpr ⟨job, hj, .tail _ hn⟩
  · exact List.mem_flatMap.mpr ⟨job, hj, .head _⟩

theorem mem_occurring_of_mem_free {jobs : List (String × List String)} {name : String}
    (h : name ∈ free jobs) :
  name ∈ occurring jobs
  := by
  obtain ⟨job, hj, rfl⟩ := List.mem_map.mp h
  exact List.mem_flatMap.mpr ⟨job, List.mem_of_mem_filter hj, .head _⟩

/-- A name that occurs in a workflow is that of a job without needs, or stands in a need. -/
theorem exists_of_mem_occurring {jobs : List (String × List String)} {name : String}
    (h : name ∈ occurring jobs) :
  name ∈ free jobs ∨ ∃ p ∈ needPairs jobs, p.1 = name ∨ p.2 = name
  := by
  obtain ⟨job, hj, hn⟩ := List.mem_flatMap.mp h
  have hpair : ∀ needed ∈ job.2, (needed, job.1) ∈ needPairs jobs :=
    fun needed hneeded => List.mem_flatMap.mpr ⟨job, hj, List.mem_map_of_mem hneeded⟩
  obtain rfl | hn := List.mem_cons.mp hn
  · cases hneeds : job.2 with
    | nil => exact .inl (List.mem_map_of_mem (List.mem_filter.mpr ⟨hj, by simp [hneeds]⟩))
    | cons first rest => exact .inr ⟨_, hpair first (by simp [hneeds]), .inr rfl⟩
  · exact .inr ⟨_, hpair name hn, .inl rfl⟩

/-- The needs and the jobs without needs can be read back from the identifiers of nodes if and only
if no two names share one. -/
theorem readable_iff (jobs : List (String × List String)) :
  (∀ p ∈ needPairs jobs,
      (named? (occurring jobs) (nodeId p.1.toList), named? (occurring jobs) (nodeId p.2.toList)) =
        (some p.1, some p.2)) ∧
    (∀ name ∈ free jobs, named? (occurring jobs) (nodeId name.toList) = some name) ↔
  Distinguished (occurring jobs)
  := by
  constructor
  · rintro ⟨hp, hf⟩
    apply distinguished_of_named?
    intro name hn
    obtain hn | ⟨p, hm, rfl | rfl⟩ := exists_of_mem_occurring hn
    · exact hf name hn
    · exact (Prod.mk.inj (hp p hm)).1
    · exact (Prod.mk.inj (hp p hm)).2
  · intro hd
    constructor
    · intro p hp
      obtain ⟨h1, h2⟩ := mem_occurring_of_mem_needPairs hp
      rw [named?_nodeId hd h1, named?_nodeId hd h2]
    · intro name hn
      apply named?_nodeId hd (mem_occurring_of_mem_free hn)

/-- A workflow with several jobs, all of whose names are job ids, has a diagram.  It is read as an
arrow for each need and a node for each job without needs, in terms of identifiers.  No two names
share an identifier if and only if no two of them are alike; and this is when reading the arrows and
nodes back through their identifiers gives the needs of the workflow and its jobs without needs. -/
theorem render_readable_iff {document : Document} {jobs : List (String × List String)}
    (h : Declares document jobs) (hl : 1 < jobs.length) :
  let names := occurring jobs
  ∃ text diagram, render document "github-actions" = .ok text ∧ read? text = some diagram ∧
    arrows diagram = (needPairs jobs).map (fun p => (nodeId p.1.toList, nodeId p.2.toList)) ∧
    loners diagram = (free jobs).map (fun name => nodeId name.toList) ∧
    (Distinguished names ↔ Unlike names) ∧
    ((arrows diagram).map (fun a => (named? names a.1, named? names a.2)) =
          (needPairs jobs).map (fun p => (some p.1, some p.2)) ∧
        (loners diagram).map (named? names) = (free jobs).map some ↔
      Unlike names)
  := by
  intro names
  have hu : Distinguished names ↔ Unlike names :=
    distinguished_iff (isJobId_of_mem_occurring h)
  obtain ⟨text, ht, hr⟩ := read?_render h hl
  refine ⟨text, _, ht, hr, arrows_statements jobs, loners_statements jobs, hu, ?_⟩
  rw [arrows_statements, loners_statements, List.map_map, List.map_map, List.map_inj_left,
    List.map_inj_left, ← hu]
  apply readable_iff

/-- A workflow with a job that needs two others. -/
def joinedWorkflow : Document :=
  .map [(.ofText "jobs", .map [(.ofText "a", .map []), (.ofText "b", .null),
    (.ofText "c-d", .map [(.ofText "needs", .list [.text "a", .text "b"])])])]

theorem render_readable_iff_joinedWorkflow :
  let jobs := [("a", []), ("b", []), ("c-d", ["a", "b"])]
  Declares joinedWorkflow jobs ∧ 1 < jobs.length ∧
  ∃ text diagram, render joinedWorkflow "github-actions" = .ok text ∧ read? text = some diagram ∧
    (arrows diagram).map (fun a => (named? (occurring jobs) a.1, named? (occurring jobs) a.2)) =
      [(some "a", some "c-d"), (some "b", some "c-d")] ∧
    (loners diagram).map (named? (occurring jobs)) = [some "a", some "b"]
  := by
  intro jobs
  have hd : Declares joinedWorkflow jobs :=
    .cons ⟨rfl, by decide, .nothing rfl⟩ (.cons ⟨rfl, by decide, .nothing rfl⟩
      (.cons ⟨rfl, by decide, @NamesJobs.many [.text "a", .text "b"] _ rfl (by decide)⟩ .nil))
  obtain ⟨text, diagram, ht, hr, -, -, hu, hb⟩ := render_readable_iff hd (by decide)
  have hd' : Distinguished (occurring jobs) := by unfold Distinguished; decide
  obtain ⟨ha, hf⟩ := hb.mpr (hu.mp hd')
  exact ⟨hd, by decide, text, diagram, ht, hr, ha, hf⟩

/-- A workflow with two jobs whose names are alike, the second of which needs the first. -/
def alikeWorkflow : Document :=
  .map [(.ofText "jobs", .map [(.ofText "build-a", .map []),
    (.ofText "build_a", .map [(.ofText "needs", .text "build-a")])])]

/-- Two jobs whose names are alike are one node, with an arrow to itself. -/
theorem render_alikeWorkflow :
  let jobs := [("build-a", []), ("build_a", ["build-a"])]
  Declares alikeWorkflow jobs ∧ 1 < jobs.length ∧ ¬ Distinguished (occurring jobs) ∧
  (∃ text, render alikeWorkflow "github-actions" = .ok text ∧
    text =
      "graph TD\n    build_a[\"build-a\"]\n    build_a[\"build-a\"] --> build_a[\"build_a\"]\n" ∧
    (read? text).map arrows = some [("build_a".toList, "build_a".toList)]) ∧
  named? (occurring jobs) "build_a".toList = some "build-a"
  := by
  intro jobs
  have hd : Declares alikeWorkflow jobs :=
    .cons ⟨rfl, by decide, .nothing rfl⟩
      (.cons ⟨rfl, by decide, @NamesJobs.one (.text "build-a") _ rfl rfl (by decide)⟩ .nil)
  refine ⟨hd, by decide, ?_, ⟨_, rfl, by decide, by decide⟩, by decide⟩
  intro h
  have he := h "build-a" (by decide) "build_a" (by decide) (by decide)
  exact absurd he (by decide)

end PipelineAudit.Graph
