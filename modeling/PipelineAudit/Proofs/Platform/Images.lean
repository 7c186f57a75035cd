import PipelineAudit.Proofs.Document.Writing
import PipelineAudit.Proofs.Platform.IssueIds
import PipelineAudit.Proofs.Text.Lines

/-!
# Images

A reference to an image consists of a registry, a path, a tag and a digest, all but the path
optional.  A colon sets off the port of the registry as well as the tag, and may stand in the
digest, so the test for untagged images looks for a colon after the last slash only, and for none if
there is a digest.

* `ImageReference.isUntagged_text_iff`: the test is right about every reference.
* `reachedImages`: the images that the checks come to, which are all of them if the names of the
  pipeline and the commands of its jobs can be written.
* `filedUnder_analyzeInto`: the untagged ones among these are reported.
* `analyze_reports_untagged_iff`: they are the images with neither a tag nor a digest.
-/

namespace PipelineAudit.GitLab

open Reporter

/-! ### References -/

/-- A part of a reference to an image, without the characters that set parts off. -/
structure Part where
  text : List Char
  slash_not_mem : '/' ∉ text
  colon_not_mem : ':' ∉ text
  at_not_mem : '@' ∉ text

/-- A text with the character that introduces it, if there is one. -/
def introduced (c : Char) (text : Option (List Char)) : List Char :=
  (text.map (c :: ·)).getD []

/-- A registry of images: its host, with a port or without. -/
structure Registry where
  host : Part
  port : Option Part

/-- The text of a registry. -/
def Registry.text (r : Registry) : List Char :=
  r.host.text ++ introduced ':' (r.port.map Part.text)

/-- A reference to an image.  The last component of its path is its name; the digest may be any
text. -/
structure ImageReference where
  registry : Option Registry
  folders : List Part
  name : Part
  tag : Option Part
  digest : Option (List Char)

namespace ImageReference

/-- What stands before the name, each part to be followed by a slash. -/
def location (r : ImageReference) : List (List Char) :=
  (r.registry.map Registry.text).toList ++ r.folders.map Part.text

/-- The name with its tag. -/
def taggedName (r : ImageReference) : List Char :=
  r.name.text ++ introduced ':' (r.tag.map Part.text)

/-- The text of a reference. -/
def text (r : ImageReference) : List Char :=
  r.location.flatMap (· ++ ['/']) ++ (r.taggedName ++ introduced '@' r.digest)

end ImageReference

/-- Only the characters of a part, and the one that introduces it, are in it. -/
theorem mem_introduced_iff {c d : Char} {part : Option Part} (h : ∀ p : Part, d ∉ p.text) :
  d ∈ introduced c (part.map Part.text) ↔ d = c ∧ part.isSome
  := by
  cases part with
  | none => simp [introduced]
  | some p => simp [introduced, h]

theorem Registry.at_not_mem (r : Registry) :
  '@' ∉ r.text
  := by
  rw [text, List.mem_append, mem_introduced_iff Part.at_not_mem]
  rintro (h | ⟨h, _⟩)
  · exact r.host.at_not_mem h
  · exact absurd h (by decide)

namespace ImageReference

variable (r : ImageReference)

theorem slash_not_mem_taggedName :
  '/' ∉ r.taggedName
  := by
  rw [taggedName, List.mem_append, mem_introduced_iff Part.slash_not_mem]
  rintro (h | ⟨h, _⟩)
  · exact r.name.slash_not_mem h
  · exact absurd h (by decide)

theorem colon_mem_taggedName_iff :
  ':' ∈ r.taggedName ↔ r.tag.isSome
  := by
  rw [taggedName, List.mem_append, mem_introduced_iff Part.colon_not_mem]
  simp [r.name.colon_not_mem]

theorem at_mem_text_iff :
  '@' ∈ r.text ↔ r.digest.isSome
  := by
  have hlocation : ∀ part ∈ r.location, '@' ∉ part := by
    intro part hpart
    rw [location, List.mem_append, Option.mem_toList, Option.map_eq_some_iff, List.mem_map] at hpart
    obtain ⟨registry, _, rfl⟩ | ⟨folder, _, rfl⟩ := hpart
    · exact registry.at_not_mem
    · exact folder.at_not_mem
  have hname : '@' ∉ r.taggedName := by
    rw [taggedName, List.mem_append, mem_introduced_iff Part.at_not_mem]
    rintro (h | ⟨h, _⟩)
    · exact r.name.at_not_mem h
    · exact absurd h (by decide)
  rw [text, List.mem_append, List.mem_append, List.mem_flatMap, or_iff_right, or_iff_right hname]
  · cases r.digest <;> simp [introduced]
  · rintro ⟨part, hpart, h⟩
    obtain h | h := List.mem_append.mp h
    · exact hlocation part hpart h
    · simp at h

/-- Nothing stands after the last slash of a location. -/
theorem afterLast_location (parts : List (List Char)) :
  Text.afterLast '/' (parts.flatMap (· ++ ['/'])) = []
  := by
  cases parts using List.reverseRecOn with
  | nil => rfl
  | append_singleton parts part =>
    rw [List.flatMap_append, List.flatMap_singleton, ← List.append_assoc, Text.afterLast_concat,
      if_pos rfl]

/-- The test for untagged images is right about every reference. -/
theorem isUntagged_text_iff :
  isUntagged r.text ↔ r.tag = none ∧ r.digest = none
  := by
  have hat : r.text.contains '@' = r.digest.isSome := by
    rw [Bool.eq_iff_iff, List.contains_iff_mem, at_mem_text_iff]
  rw [isUntagged, hat]
  cases hd : r.digest with
  | some digest => simp
  | none =>
    have htext : Text.afterLast '/' r.text = r.taggedName := by
      rw [text, hd]
      have hi : introduced '@' none = [] := rfl
      rw [hi, List.append_nil, Text.afterLast_append _ r.slash_not_mem_taggedName,
        afterLast_location, List.nil_append]
    rw [htext, Option.isSome_none, Bool.not_false, Bool.true_and, Bool.not_eq_true',
      ← Bool.not_eq_true, List.contains_iff_mem, colon_mem_taggedName_iff]
    simp

end ImageReference

/-! ### Images of a pipeline -/

/-- The name of an image with the place where it is given. -/
def imageAt (place : String) (image : Document) : List (String × String) :=
  (imageName? image).toList.map fun name => (place, name)

/-- The images of jobs, with their places. -/
def jobImages (jobs : List (String × Document)) : List (String × String) :=
  jobs.flatMap fun j => imageAt ("job \"" ++ j.1 ++ "\"") (j.2.get "image")

/-- The entries at the top level that have to be named to find the jobs. -/
def namedEntries (document : Document) : List (Key × Document) :=
  document.entries.filter (·.2.isMap)

/-- The jobs of a pipeline, whether or not they can be named. -/
def allJobs (document : Document) : List (String × Document) :=
  jobsAmong ((namedEntries document).map Document.displayed)

/-- The images of the jobs of a pipeline and its default image, with their places. -/
def images (document : Document) : List (String × String) :=
  jobImages (allJobs document) ++ imageAt "the default image" (document.get "image")

theorem jobs_eq (document : Document) :
  jobs document = ifWritable ((namedEntries document).all (·.1.isWritable)) (allJobs document)
  := by
  rw [jobs, funext Document.named_eq, mapM_ifWritable, map_ifWritable]
  rfl

/-- Whether the commands of a job can be written. -/
def hasWritableScript (job : String × Document) : Bool :=
  ((job.2.get "script").items.filter fun c => !c.isNull).all Document.isWritable

/-- The images that the checks of a pipeline come to.  They come to no job if the names cannot be
written, and end with the first job whose commands cannot. -/
def reachedImages (document : Document) : List (String × String) :=
  if (namedEntries document).all (·.1.isWritable) then
    jobImages ((allJobs document).takeWhile hasWritableScript) ++
      if (allJobs document).all hasWritableScript then
        imageAt "the default image" (document.get "image")
      else []
  else []

/-- The names of a pipeline and the commands of its jobs can be written. -/
def Writable (document : Document) : Prop :=
  (∀ e ∈ namedEntries document, e.1.isWritable) ∧
    ∀ job ∈ allJobs document, hasWritableScript job

instance (document : Document) : Decidable (Writable document) :=
  inferInstanceAs (Decidable (_ ∧ _))

/-- All images are reached if everything can be written. -/
theorem reachedImages_of_writable {document : Document} (h : Writable document) :
  reachedImages document = images document
  := by
  obtain ⟨hnames, hscripts⟩ := h
  have hall : (allJobs document).takeWhile hasWritableScript = allJobs document :=
    List.takeWhile_eq_self_iff.mpr hscripts
  rw [reachedImages, if_pos (List.all_eq_true.mpr hnames), if_pos (List.all_eq_true.mpr hscripts),
    hall, images]

/-- The images that are reached are the first ones. -/
theorem reachedImages_prefix (document : Document) :
  reachedImages document <+: images document
  := by
  by_cases h : Writable document
  · exact reachedImages_of_writable h ▸ List.prefix_rfl
  · rw [reachedImages]
    split
    case isTrue hnames =>
      have hscripts : ¬ ((allJobs document).all hasWritableScript) := fun hs =>
        h ⟨List.all_eq_true.mp hnames, List.all_eq_true.mp hs⟩
      obtain ⟨rest, hrest⟩ := List.takeWhile_prefix hasWritableScript (l := allJobs document)
      rw [if_neg hscripts, List.append_nil]
      have hj : jobImages (allJobs document) =
          jobImages ((allJobs document).takeWhile hasWritableScript) ++ jobImages rest := by
        rw [jobImages, jobImages, jobImages, ← List.flatMap_append, hrest]
      rw [images, hj, List.append_assoc]
      exact List.prefix_append _ _
    case isFalse => exact List.nil_prefix

/-! ### Reports -/

/-- The issues about the untagged ones among some images. -/
def untaggedIssues (images : List (String × String)) : List Issue :=
  (images.filter fun i => isUntagged i.2.toList).map fun i => untaggedImage i.2 i.1

theorem untaggedIssues_append (l l' : List (String × String)) :
  untaggedIssues (l ++ l') = untaggedIssues l ++ untaggedIssues l'
  := by
  simp only [untaggedIssues, List.filter_append, List.map_append]

theorem untaggedIssues_ids (images : List (String × String)) :
  HaveIds ["gl-untagged-image"] (untaggedIssues images)
  := HaveIds.map List.mem_cons_self (fun _ => rfl) _

/-- The check of an image reports the image if it is untagged. -/
theorem alone_checkImage (image : Document) (place : String) :
  (checkImage image place).alone = .done (.ofIssues (untaggedIssues (imageAt place image)))
  := by
  rw [checkImage, imageAt, untaggedIssues]
  cases imageName? image with
  | none => rfl
  | some name =>
    rw [Option.toList_some, List.map_singleton, List.filter_singleton]
    dsimp only
    cases isUntagged name.toList <;> rfl

/-- The image of a job is checked after the other things. -/
theorem alone_checkJob (job : String × Document) :
  (checkJob job).alone = (checkOthers job).alone ++
    .done (.ofIssues (untaggedIssues (imageAt ("job \"" ++ job.1 ++ "\"") (job.2.get "image"))))
  := by
  have himage := adds_checkImage (job.2.get "image") ("job \"" ++ job.1 ++ "\"")
  have hscript := adds_checkScript job.2 ("job \"" ++ job.1 ++ "\"")
  rw [checkJob, checkOthers, alone_andThen ((himage.andThen hscript).andThen (adds_reportIf _ _)),
    alone_andThen (himage.andThen hscript), alone_andThen himage,
    alone_andThen (hscript.andThen (adds_reportIf _ _)), alone_andThen hscript, alone_checkImage,
    Outcome.append_assoc, Outcome.append_assoc]

/-- The commands of a script are known if they can be written. -/
theorem commands_isOk_iff {script : Document} :
  (∃ texts, commands script = .ok texts) ↔
    (script.items.filter fun c => !c.isNull).all Document.isWritable
  := by
  have hlist : (∃ texts, (script.items.filter fun c => !c.isNull).mapM Document.write = .ok texts) ↔
      (script.items.filter fun c => !c.isNull).all Document.isWritable := by
    have h := mapM_ifWritable Document.isWritable Document.display
      (script.items.filter fun c => !c.isNull)
    change List.mapM Document.write _ = _ at h
    rw [h]
    cases (script.items.filter fun c => !c.isNull).all Document.isWritable <;> simp
  cases script with
  | scalar s =>
    cases s with
    | text s => exact iff_of_true ⟨_, rfl⟩ rfl
    | _ => exact hlist
  | list items => exact hlist
  | map entries => exact hlist
  | up level => exact hlist

theorem checkOthers_failure_eq_none_iff {job : String × Document} :
  (checkOthers job).alone.failure = none ↔ hasWritableScript job
  := by
  have hscript := adds_checkScript job.2 ("job \"" ++ job.1 ++ "\"")
  rw [checkOthers, alone_andThen (hscript.andThen (adds_reportIf _ _)), alone_andThen hscript,
    alone_reportIf, alone_reportIf, Outcome.append_of_failure_eq_none rfl,
    Outcome.append_of_failure_eq_none rfl, hasWritableScript, checkScript, Document.get]
  cases job.2.get? "script" with
  | none => exact iff_of_true rfl rfl
  | some script =>
    rw [Option.getD_some, ← commands_isOk_iff]
    change (checkSteps script _).alone.failure = none ↔ _
    rw [checkSteps, alone_reading]
    cases commands script with
    | error failure => simp [Outcome.failed]
    | ok texts => simp [alone_reportIf, Outcome.done]

theorem checkJob_failure_eq_none_iff {job : String × Document} :
  (checkJob job).alone.failure = none ↔ hasWritableScript job
  := by
  rw [alone_checkJob, Outcome.failure_append, Option.or_eq_none_iff,
    checkOthers_failure_eq_none_iff]
  exact and_iff_left rfl

theorem filedUnder_checkJob (job : String × Document) :
  filedUnder "gl-untagged-image" (checkJob job).alone.findings.issues =
    if hasWritableScript job then
      untaggedIssues (imageAt ("job \"" ++ job.1 ++ "\"") (job.2.get "image"))
    else []
  := by
  have hothers : filedUnder "gl-untagged-image" (checkOthers job).alone.findings.issues = [] :=
    (checkOthers_files job).alone.filedUnder_eq_nil (by decide)
  rw [alone_checkJob, Outcome.filedUnder_append, hothers, List.nil_append]
  simp only [checkOthers_failure_eq_none_iff]
  split
  · exact (untaggedIssues_ids _).filedUnder_eq_self
  · rfl

/-- The jobs are reported for their images up to the first one whose commands cannot be written. -/
theorem filedUnder_checkJobs (jobs : List (String × Document)) :
  filedUnder "gl-untagged-image" (checkJobs jobs).alone.findings.issues =
    untaggedIssues (jobImages (jobs.takeWhile hasWritableScript))
  := by
  rw [checkJobs, alone_each fun job _ => adds_checkJob job]
  induction jobs with
  | nil => rfl
  | cons job rest ih =>
    rw [Outcome.each, Outcome.filedUnder_append, filedUnder_checkJob, ih]
    cases h : hasWritableScript job with
    | true =>
      have himages : jobImages (job :: rest.takeWhile hasWritableScript) =
          imageAt ("job \"" ++ job.1 ++ "\"") (job.2.get "image") ++
            jobImages (rest.takeWhile hasWritableScript) :=
        List.flatMap_cons
      rw [if_pos (checkJob_failure_eq_none_iff.mpr h), if_pos rfl,
        List.takeWhile_cons_of_pos h, himages, untaggedIssues_append]
    | false =>
      have hf : (checkJob job).alone.failure ≠ none := fun hf =>
        Bool.false_ne_true (h ▸ checkJob_failure_eq_none_iff.mp hf)
      rw [if_neg hf, if_neg Bool.false_ne_true, List.takeWhile_cons_of_neg (by simp [h])]
      rfl

/-! ### Reports on a pipeline -/

theorem filedUnder_validateInto (document : Document) :
  filedUnder "gl-untagged-image" (validateInto document .none).outcome.findings.issues = []
  := by
  have hids : HaveIds ["gl-no-stages-jobs"] (validateInto document .none).found.issues :=
    fun i hi => (validateInto_files document .none i hi).resolve_left List.not_mem_nil
  exact hids.filedUnder_eq_nil (by decide)

theorem validateInto_failure_eq_none_iff {document : Document} :
  (validateInto document .none).outcome.failure = none ↔
    (namedEntries document).all (·.1.isWritable)
  := by
  rw [validateInto, jobs_eq]
  cases (namedEntries document).all (·.1.isWritable) with
  | false => exact iff_of_false (fun h => nomatch h) Bool.false_ne_true
  | true =>
    apply iff_of_true _ rfl
    change (Validation.reportIf _ _ _).failure = none
    rw [Validation.reportIf]
    split <;> rfl

/-- What the checks of a pipeline report if its jobs can be named. -/
theorem alone_analyzeInto (document : Document) :
  (PlatformChecks.gitLab.analyzeInto document).alone =
    (validateInto document .none).outcome ++ ((checkJobs (allJobs document)).alone ++
      .done (.ofIssues (untaggedIssues (imageAt "the default image" (document.get "image")))))
  := by
  rw [(PlatformChecks.adding_gitLab document).alone_analyzeInto, ← alone_checkImage]
  change _ ++ ((reading (jobs document) checkJobs).alone ++ _) = _
  rw [jobs_eq]
  cases h : (namedEntries document).all (·.1.isWritable) with
  | true => rfl
  | false =>
    have hf : (validateInto document .none).outcome.failure ≠ none := fun hf =>
      Bool.false_ne_true (h ▸ validateInto_failure_eq_none_iff.mp hf)
    exact (Outcome.append_of_failure_ne_none hf _).trans
      (Outcome.append_of_failure_ne_none hf _).symm

theorem checkJobs_failure_eq_none_iff {jobs : List (String × Document)} :
  (checkJobs jobs).alone.failure = none ↔ jobs.all hasWritableScript
  := by
  rw [checkJobs, alone_each fun job _ => adds_checkJob job, Outcome.failure_each_eq_none_iff,
    List.all_eq_true]
  exact forall₂_congr fun job _ => checkJob_failure_eq_none_iff

/-- The untagged ones among the images that are reached are reported, in order. -/
theorem filedUnder_analyzeInto (document : Document) :
  filedUnder "gl-untagged-image"
    (PlatformChecks.gitLab.analyzeInto document).alone.findings.issues =
      untaggedIssues (reachedImages document)
  := by
  rw [alone_analyzeInto, Outcome.filedUnder_append, Outcome.filedUnder_append,
    filedUnder_validateInto, filedUnder_checkJobs, reachedImages]
  simp only [validateInto_failure_eq_none_iff, checkJobs_failure_eq_none_iff, List.nil_append]
  split
  · rw [untaggedIssues_append]
    split
    · exact congrArg (_ ++ ·) (untaggedIssues_ids _).filedUnder_eq_self
    · rfl
  · rfl

/-- The checks come to an end if and only if everything can be written. -/
theorem analyzeInto_failure_eq_none_iff {document : Document} :
  (PlatformChecks.gitLab.analyzeInto document).alone.failure = none ↔ Writable document
  := by
  rw [alone_analyzeInto, Outcome.failure_append, Outcome.failure_append, Option.or_eq_none_iff,
    Option.or_eq_none_iff, validateInto_failure_eq_none_iff, checkJobs_failure_eq_none_iff,
    List.all_eq_true, List.all_eq_true, Writable]
  exact and_congr_right fun _ => and_iff_left rfl

/-- An issue about one of some images is among those about the untagged ones if the image is
untagged. -/
theorem untaggedImage_mem_iff {images : List (String × String)} {place image : String}
    (h : (place, image) ∈ images) :
  untaggedImage image place ∈ untaggedIssues images ↔ isUntagged image.toList
  := by
  rw [untaggedIssues, List.mem_map]
  constructor
  · rintro ⟨⟨place', image'⟩, hi, he⟩
    have hcode : "image: " ++ image' ++ ":1.0.0" = "image: " ++ image ++ ":1.0.0" :=
      Option.some.inj (congrArg Issue.exampleCode he)
    rw [String.append_left_inj, String.append_right_inj] at hcode
    subst hcode
    exact (List.mem_filter.mp hi).2
  · intro hu
    exact ⟨(place, image), List.mem_filter.mpr ⟨h, hu⟩, rfl⟩

/-- The test for untagged images is right about every reference: it says whether there is neither a
tag nor a digest.  The checks reach all images of the jobs and the default image if and only if the
names of the pipeline and the commands of its jobs can be written; they do not fail then, and
otherwise they reach the first ones only.  The untagged ones among the images that they reach are
reported, and so one of these that is a reference is reported if and only if it has neither. -/
theorem analyze_reports_untagged_iff (document : Document) :
  let report := (PlatformChecks.gitLab.analyzeInto document).alone
  let found := filedUnder "gl-untagged-image" report.findings.issues
  let reached := reachedImages document
  (∀ r : ImageReference, isUntagged r.text ↔ r.tag = none ∧ r.digest = none) ∧
  (report.failure = none ↔ Writable document) ∧
  (Writable document → reached = images document) ∧ reached <+: images document ∧
  found = untaggedIssues reached ∧
  ∀ place image, (place, image) ∈ reached → ∀ r : ImageReference, image.toList = r.text →
    (untaggedImage image place ∈ found ↔ r.tag = none ∧ r.digest = none)
  := by
  intro report found reached
  have hfound : found = untaggedIssues reached := filedUnder_analyzeInto document
  refine ⟨ImageReference.isUntagged_text_iff, analyzeInto_failure_eq_none_iff,
    reachedImages_of_writable, reachedImages_prefix document, hfound, ?_⟩
  intro place image hmem r hr
  rw [hfound, untaggedImage_mem_iff hmem, hr, r.isUntagged_text_iff]

theorem analyze_reports_untagged_iff_port :
  let document : Document := .map [
    (.ofText "image", .scalar (.text "python:3.12")),
    (.ofText "build", .map [(.ofText "image", .map [
      (.ofText "name", .scalar (.text "registry.example.com:5000/team/app"))])])]
  let report := (PlatformChecks.gitLab.analyzeInto document).alone
  let found := filedUnder "gl-untagged-image" report.findings.issues
  let place := "job \"build\""
  let registry : Registry :=
    ⟨⟨"registry.example.com".toList, by decide, by decide, by decide⟩,
      some ⟨"5000".toList, by decide, by decide, by decide⟩⟩
  let app : ImageReference :=
    ⟨some registry, [⟨"team".toList, by decide, by decide, by decide⟩],
      ⟨"app".toList, by decide, by decide, by decide⟩, none, none⟩
  let python : ImageReference :=
    ⟨none, [], ⟨"python".toList, by decide, by decide, by decide⟩,
      some ⟨"3.12".toList, by decide, by decide, by decide⟩, none⟩
  (place, "registry.example.com:5000/team/app") ∈ images document ∧
  "registry.example.com:5000/team/app".toList = app.text ∧
  untaggedImage "registry.example.com:5000/team/app" place ∈ found ∧
  ("the default image", "python:3.12") ∈ images document ∧
  "python:3.12".toList = python.text ∧
  untaggedImage "python:3.12" "the default image" ∉ found
  := by
  intro document report found place registry app python
  obtain ⟨-, -, hall, -, -, hreported⟩ := analyze_reports_untagged_iff document
  have happ : (place, "registry.example.com:5000/team/app") ∈ images document := by
    decide +kernel
  have hpython : ("the default image", "python:3.12") ∈ images document := by decide +kernel
  have happText : "registry.example.com:5000/team/app".toList = app.text := by decide +kernel
  have hpythonText : "python:3.12".toList = python.text := by decide +kernel
  rw [hall (by decide +kernel)] at hreported
  refine ⟨happ, happText, ?_, hpython, hpythonText, ?_⟩
  · exact (hreported _ _ happ app happText).mpr ⟨rfl, rfl⟩
  · intro h
    cases ((hreported _ _ hpython python hpythonText).mp h).1

/-- A pipeline with an untagged default image, and a job whose command is an integer that is too
long to be written. -/
def longCommand : Document :=
  .map [(.ofText "image", .text "python"),
    (.ofText "build", .map [(.ofText "stage", .text "build"),
      (.ofText "script", .list [.scalar (.int overlongInteger)])])]

/-- The default image is not reported, because the checks fail on the job. -/
theorem analyze_longCommand :
  let report := (PlatformChecks.gitLab.analyzeInto longCommand).alone
  ("the default image", "python") ∈ images longCommand ∧ isUntagged "python".toList ∧
  report.findings.issues = [] ∧ report.failure = some .longInteger
  := by
  intro report
  refine ⟨?_, ?_, ?_, ?_⟩ <;> decide +kernel

end PipelineAudit.GitLab
