import PipelineAudit.Document.Access

/-!
# Following paths

A path is followed segment by segment, so that a path and a longer one part ways only at the end of
the shorter one.  Where nothing is found, nothing is found further on either: the null that stands
for a missing part has no parts itself.

* `follow_append`: some steps and then some more.
* `partAt_append`: what stands at the end of a path that is put together from two.
-/

namespace PipelineAudit.Document

/-- Some steps and then some more lead where the latter lead from the end of the former. -/
theorem follow_append (d : Document) (before after : List (List Char)) :
  d.follow (before ++ after) =
    (d.follow before >>= fun part? => part?.elim (.ok none) (·.follow after))
  := by
  induction before generalizing d with
  | nil => rfl
  | cons segment before ih =>
    rw [List.cons_append, follow, follow]
    cases d.step segment with
    | error e => rfl
    | ok part? =>
      cases part? with
      | none => rfl
      | some part => exact ih part

/-- No step leads on from null. -/
theorem follow_null {segments : List (List Char)} (h : segments ≠ []) :
  follow null segments = .ok none
  := by
  obtain ⟨segment, rest, rfl⟩ := List.exists_cons_of_ne_nil h
  rfl

/-- The segments of two paths with a dot between them. -/
theorem splitOn_dot_append (p q : String) :
  (p ++ "." ++ q).toList.splitOn '.' = p.toList.splitOn '.' ++ q.toList.splitOn '.'
  := by
  rw [String.toList_append, String.toList_append, List.append_assoc]
  exact List.splitOnP_append_cons p.toList q.toList (beq_self_eq_true '.')

theorem path?_append (d : Document) (p q : String) :
  d.path? (p ++ "." ++ q) = (d.path? p >>= fun part? => part?.elim (.ok none) (·.path? q))
  := by
  rw [path?, splitOn_dot_append, follow_append]
  rfl

theorem path?_null (path : String) :
  path? null path = .ok none
  := follow_null (List.splitOn_ne_nil '.' path.toList)

/-- What stands at the end of two paths with a dot between them is what stands at the end of the
second one in what stands at the end of the first one, which is null if nothing does; and the one
path fails exactly if one of the two does, in the same way. -/
theorem partAt_append (d : Document) (p q : String) (default : Document) :
  d.partAt (p ++ "." ++ q) default = (d.partAt p >>= fun part => part.partAt q default)
  := by
  rw [partAt, partAt, path?_append]
  cases d.path? p with
  | error e => rfl
  | ok part? =>
    cases part? with
    | some part => rfl
    | none =>
      -- The walk in one go has stopped, and the walk in two goes on from null.
      have hnull : partAt null q default = .ok default := by
        rw [partAt, path?_null]
        rfl
      exact hnull.symm

/-- Through a list, past its end, and with empty segments. -/
example :
  let d : Document := .map [(.ofText "steps", .list [.map [(.ofText "", .scalar (.text "make"))]])]
  d.partAt ("steps.0" ++ "." ++ "") = .ok (.scalar (.text "make")) ∧
  d.partAt ("steps.7" ++ "." ++ "run") = .ok null
  := ⟨rfl, rfl⟩

end PipelineAudit.Document
