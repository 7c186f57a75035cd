import PipelineAudit.Outcome
import PipelineAudit.Platform.Reporting

/-!
# Failures on long integers

Most of what can fail writes integers, so that it fails on those that are too long and on nothing
else.

* `OnlyLong`: a failure, if there is one, is that of an integer too long to be written, and there is
  none under a condition.
* `OnlyLong.mapM`, `OnlyLong.append`, `OnlyLong.each`: the ways to put reads and checks together.
-/

namespace PipelineAudit

/-- Whether a failure, if there is one, is that of an integer too long to be written, and there is
none if everything can be written. -/
def OnlyLong (writable : Prop) (failure : Option Failure) : Prop :=
  ∀ e, failure = some e → e = .longInteger ∧ ¬ writable

/-- The failure of a read, if it fails. -/
def readFailure? {α : Type} : Except Failure α → Option Failure
  | .ok _ => none
  | .error e => some e

namespace OnlyLong

variable {α β : Type} {p : Prop}

theorem none (p : Prop) :
  OnlyLong p none
  := fun _ h => nomatch h

theorem or {a b : Option Failure} (ha : OnlyLong p a) (hb : OnlyLong p b) :
  OnlyLong p (a.or b)
  := by
  cases a with
  | none => exact hb
  | some e => exact ha

theorem eq_none {failure : Option Failure} (h : OnlyLong p failure) (hp : p) :
  failure = .none
  := by
  cases failure with
  | none => rfl
  | some e => exact absurd hp (h e rfl).2

/-! ### Reads -/

theorem ifWritable {writable : Bool} (h : p → writable) (a : α) :
  OnlyLong p (readFailure? (ifWritable writable a))
  := by
  cases writable with
  | true => exact none p
  | false =>
    rintro _ ⟨⟩
    exact ⟨rfl, fun hp => Bool.false_ne_true (h hp)⟩

theorem map {read : Except Failure α} (h : OnlyLong p (readFailure? read)) (f : α → β) :
  OnlyLong p (readFailure? (read.map f))
  := by
  cases read with
  | ok a => exact none p
  | error e => exact h

theorem bind {read : Except Failure α} {f : α → Except Failure β}
    (h : OnlyLong p (readFailure? read))
    (hf : ∀ a, read = .ok a → OnlyLong p (readFailure? (f a))) :
  OnlyLong p (readFailure? (read.bind f))
  := by
  cases read with
  | ok a => exact hf a rfl
  | error e => exact h

theorem mapM {f : α → Except Failure β} {as : List α}
    (h : ∀ a ∈ as, OnlyLong p (readFailure? (f a))) :
  OnlyLong p (readFailure? (as.mapM f))
  := by
  induction as with
  | nil => exact none p
  | cons a rest ih =>
    obtain ⟨ha, hrest⟩ := List.forall_mem_cons.mp h
    rw [List.mapM_cons]
    exact bind ha fun b _ => bind (ih hrest) fun bs _ => none p

theorem anyM {f : α → Except Failure Bool} {as : List α}
    (h : ∀ a ∈ as, OnlyLong p (readFailure? (f a))) :
  OnlyLong p (readFailure? (as.anyM f))
  := by
  induction as with
  | nil => exact none p
  | cons a rest ih =>
    obtain ⟨ha, hrest⟩ := List.forall_mem_cons.mp h
    rw [List.anyM]
    refine bind ha fun found _ => ?_
    cases found with
    | true => exact none p
    | false => exact ih hrest

/-! ### Outcomes -/

theorem append {a b : Outcome} (ha : OnlyLong p a.failure) (hb : OnlyLong p b.failure) :
  OnlyLong p (a ++ b).failure
  := by
  rw [Outcome.failure_append]
  exact ha.or hb

theorem when {outcome : Outcome} {condition : Bool}
    (h : condition → OnlyLong p outcome.failure) :
  OnlyLong p (Outcome.when condition outcome).failure
  := by
  cases condition with
  | true => exact h rfl
  | false => exact none p

theorem each {check : α → Outcome} {as : List α}
    (h : ∀ a ∈ as, OnlyLong p (check a).failure) :
  OnlyLong p (Outcome.each check as).failure
  := by
  induction as with
  | nil => exact none p
  | cons a rest ih =>
    obtain ⟨ha, hrest⟩ := List.forall_mem_cons.mp h
    exact ha.append (ih hrest)

theorem reading {read : Except Failure α} {check : α → Outcome}
    (h : OnlyLong p (readFailure? read))
    (hc : ∀ a, read = .ok a → OnlyLong p (check a).failure) :
  OnlyLong p (Outcome.reading read check).failure
  := by
  cases read with
  | ok a => exact hc a rfl
  | error e => exact h

/-! ### Validations -/

theorem validation_reportIf {v : Validation} (h : OnlyLong p v.failure) (condition : Bool)
    (i : Issue) :
  OnlyLong p (v.reportIf condition i).failure
  := by
  cases condition <;> exact h

theorem validation_reading (v : Validation) {read : Except Failure α} {rest : α → Validation}
    (h : OnlyLong p (readFailure? read))
    (hr : ∀ a, read = .ok a → OnlyLong p (rest a).failure) :
  OnlyLong p (v.reading read rest).failure
  := by
  cases read with
  | ok a => exact hr a rfl
  | error e => exact h

/-! ### Checks that report into findings -/

/-- Whether a check fails only on long integers, whatever was found before. -/
def OfReporter (p : Prop) (check : Reporter) : Prop :=
  ∀ found, OnlyLong p (check found).failure

namespace OfReporter

theorem silent (p : Prop) :
  OfReporter p .silent
  := fun _ => none p

theorem report (p : Prop) (i : Issue) :
  OfReporter p (.report i)
  := fun _ => none p

theorem reportIf (p : Prop) (condition : Bool) (i : Issue) :
  OfReporter p (.reportIf condition i)
  := by
  cases condition <;> exact fun _ => none p

theorem andThen {first second : Reporter} (hf : OfReporter p first) (hs : OfReporter p second) :
  OfReporter p (first.andThen second)
  := by
  intro found
  have hf := hf found
  rw [Reporter.andThen]
  split
  · exact hf
  · exact hs _

theorem each {check : α → Reporter} {as : List α} (h : ∀ a ∈ as, OfReporter p (check a)) :
  OfReporter p (.each check as)
  := by
  induction as with
  | nil => exact silent p
  | cons a rest ih =>
    obtain ⟨ha, hrest⟩ := List.forall_mem_cons.mp h
    exact ha.andThen (ih hrest)

theorem reading {read : Except Failure α} {check : α → Reporter}
    (h : OnlyLong p (readFailure? read)) (hc : ∀ a, read = .ok a → OfReporter p (check a)) :
  OfReporter p (.reading read check)
  := by
  cases read with
  | ok a => exact hc a rfl
  | error e => exact fun _ => h

end OfReporter

end OnlyLong

end PipelineAudit
