import PipelineAudit.Proofs.Yaml.Steps
import PipelineAudit.Yaml.Quoted

/-!
# Reading from a place on

A text is read from left to right: each part of it is read at some place, and what comes next is
read at that place or after it.  The only error of a scalar that can be met on the way is that of an
escape of a code beyond the last character.

* `EscapesIn`: an error is that of such an escape in a text.
* `Reads`: what a part of the reader does from a place on.
-/

namespace PipelineAudit.Yaml

/-! ### Places one after the other -/

namespace Cursor

/-- A place comes before another one, or is the same. -/
def Precedes (s t : Cursor) : Prop :=
  t.rest <:+ s.rest

theorem Precedes.refl (s : Cursor) :
  s.Precedes s
  := List.suffix_rfl

theorem Precedes.trans {s t u : Cursor} (h : s.Precedes t) (k : t.Precedes u) :
  s.Precedes u
  := List.IsSuffix.trans k h

theorem precedes_next (s : Cursor) :
  s.Precedes s.next
  := by
  rw [next]
  split
  case h_1 => apply Precedes.refl
  case h_2 c rest hr =>
    have hs : rest <:+ s.rest := by
      rw [hr]
      apply List.suffix_cons
    split
    · exact hs
    · split
      · exact hs
      · exact hs

theorem rest_next {s : Cursor} {c : Char} {rest : List Char} (h : s.rest = c :: rest) :
  s.next.rest = rest
  := by
  rw [next, h]
  dsimp only
  split
  · rfl
  · split
    · rfl
    · rfl

theorem precedes_advance (s : Cursor) (n : Nat) :
  s.Precedes (s.advance n)
  := by
  induction n generalizing s with
  | zero => apply Precedes.refl
  | succ n ih => exact (precedes_next s).trans (ih s.next)

theorem precedes_skip (s : Cursor) (allowed : Char → Bool) :
  s.Precedes (s.skip allowed)
  := precedes_advance s _

theorem precedes_skipSpacesTo (s : Cursor) (column : Nat) :
  s.Precedes (s.skipSpacesTo column)
  := precedes_advance s _

theorem precedes_skipComment (s : Cursor) :
  s.Precedes s.skipComment
  := by
  rw [skipComment]
  split
  · apply precedes_skip
  · apply Precedes.refl

theorem precedes_of_lineBreak? {s t : Cursor} {c : Char} (h : s.lineBreak? = some (c, t)) :
  s.Precedes t
  := by
  rw [lineBreak?] at h
  split at h
  · cases h
    apply precedes_advance
  · split at h
    · cases h
      apply precedes_next
    · split at h
      · cases h
        apply precedes_next
      · cases h
  · cases h

end Cursor

open Cursor

/-! ### Escapes beyond the last character -/

/-- A text holds the escape of a code by eight hexadecimal digits. -/
def HoldsEscape (text : List Char) (code : Nat) : Prop :=
  ∃ before rest : List Char, text = before ++ '\\' :: 'U' :: rest ∧ hexAt { rest } 8 = .ok code

/-- An error is that of an escape, in a text, of a code beyond the last character. -/
def EscapesIn (text : List Char) (e : ScalarError) : Prop :=
  ∃ code, HoldsEscape text code ∧ 0x10ffff < code ∧ e = .noCharacter (0x7fffffff < code)

theorem EscapesIn.mono {a b : List Char} {e : ScalarError} (h : EscapesIn a e) (hs : a <:+ b) :
  EscapesIn b e
  := by
  obtain ⟨code, ⟨before, rest, rfl, hx⟩, hc, he⟩ := h
  obtain ⟨first, rfl⟩ := hs
  refine ⟨code, ⟨first ++ before, rest, ?_, hx⟩, hc, he⟩
  rw [List.append_assoc]

/-! ### Parts of the reader -/

/-- What a part of the reader does from a place on: it comes to a place further on, or fails.  The
error is that of an escape if it is not one of the grammar. -/
abbrev Reads {α : Type} (s : Cursor) (after : α → Cursor) (x : Except Error α) : Prop :=
  Yields (EscapesIn s.rest) (fun a => s.Precedes (after a)) x

namespace Reads

variable {α β : Type} {s t : Cursor} {after : α → Cursor} {after' : β → Cursor}
  {x : Except Error α}

theorem later (h : Reads t after x) (hs : s.Precedes t) :
  Reads s after x
  := by
  constructor
  · intro a ha
    exact hs.trans (h.ok a ha)
  · intro e he
    exact (h.error e he).mono hs

/-- A part that goes on where another one ends, and fails where that one fails. -/
theorem thenReads {y : Except Error β} (h : Reads s after x) (he : ∀ e, x = .error e → y = .error e)
    (ho : ∀ a, x = .ok a → Reads (after a) after' y) :
  Reads s after' y
  := by
  apply h.andThen he
  intro a ha hs
  exact later (ho a ha) hs

theorem map {f : α → β} (h : Reads s after x) (hf : ∀ a, (after a).Precedes (after' (f a))) :
  Reads s after' (x.map f)
  := by
  apply h.thenReads
  · rintro e rfl
    rfl
  · rintro a rfl
    exact Yields.done (hf a)

end Reads

end PipelineAudit.Yaml
