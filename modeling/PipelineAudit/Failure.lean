/-!
# Failures

Why a computation stopped.  Every text in which an integer appears is subject to a limit on the
number of its digits: beyond it the integer cannot be written, and neither can the text.
-/

namespace PipelineAudit

/-- The kinds of containers of a JSON text. -/
inductive Container where
  | array
  | object
  deriving DecidableEq, Repr

/-- The name of a kind of containers. -/
def Container.name : Container → String
  | .array => "array"
  | .object => "object"

/-- Why a computation stopped: the kind of failure, and what it says. -/
structure Failure where
  kind : String
  text : String
  deriving DecidableEq, Repr

namespace Failure

/-- An integer has too many digits to be written. -/
def longInteger : Failure where
  kind := "ValueError"
  text := "Exceeds the limit (4300 digits) for integer string conversion; " ++
    "use sys.set_int_max_str_digits() to increase the limit"

/-- A recursion does not end. -/
def endless : Failure where
  kind := "RecursionError"
  text := "maximum recursion depth exceeded"

/-- Containers of a kind are nested too deeply to be read. -/
def nestedTooDeep (container : Container) : Failure where
  kind := "RecursionError"
  text := "maximum recursion depth exceeded while decoding a JSON " ++ container.name ++
    " from a unicode string"

end Failure

/-! ### Results in sequence -/

section

variable {α β ε : Type} {x : Except ε α} {b : β}

theorem map_eq_ok {f : α → β} :
  x.map f = .ok b ↔ ∃ a, x = .ok a ∧ f a = b
  := by
  cases x <;> simp [Except.map]

theorem bind_eq_ok {f : α → Except ε β} :
  x.bind f = .ok b ↔ ∃ a, x = .ok a ∧ f a = .ok b
  := by
  cases x <;> simp [Except.bind]

end

/-! ### What can be written -/

/-- A result that can be written, and the failure to write it otherwise. -/
def ifWritable {α : Type} (writable : Bool) (a : α) : Except Failure α :=
  if writable then .ok a else .error .longInteger

section

variable {α β : Type} {writable : Bool} {a b : α}

@[simp]
theorem ifWritable_true (a : α) : ifWritable true a = .ok a := rfl

@[simp]
theorem ifWritable_false (a : α) : ifWritable false a = .error .longInteger := rfl

theorem ifWritable_eq_ok :
  ifWritable writable a = .ok b ↔ writable ∧ a = b
  := by
  cases writable <;> simp

@[simp]
theorem map_ifWritable (f : α → β) :
  (ifWritable writable a).map f = ifWritable writable (f a)
  := by
  cases writable <;> rfl

/-- Results that are written one by one can be written together if each of them can. -/
theorem mapM_ifWritable (f : α → Bool) (g : α → β) (as : List α) :
  as.mapM (fun a => ifWritable (f a) (g a)) = ifWritable (as.all f) (as.map g)
  := by
  induction as with
  | nil => rfl
  | cons a as ih =>
    rw [List.mapM_cons, ih, List.all_cons, List.map_cons]
    cases f a <;> cases as.all f <;> rfl

end

end PipelineAudit
