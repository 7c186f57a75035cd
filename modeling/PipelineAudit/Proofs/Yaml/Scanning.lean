import PipelineAudit.Proofs.Yaml.Parts
import PipelineAudit.Yaml.TokenStream

/-!
# Cutting a text

A text is cut into tokens from left to right, each one being read where the one before it ends.

* `Lexer.next_reads`: the cutting of a token is a part of the reader.
* `TokenStream.escapesIn_of_fault_ofText`: if cutting a text meets the error of a scalar, the text
  holds an escape of a code beyond the last character.
-/

namespace PipelineAudit.Yaml

open Cursor

/-! ### Tokens -/

namespace Lexer

/-- What the cutting of a token does from the place of the cursor on. -/
abbrev Cuts (s : Lexer) (x : Except Error Lexer) : Prop :=
  Reads s.cursor Lexer.cursor x

theorem dropStale_cuts (s : Lexer) :
  s.Cuts s.dropStale
  := by
  rw [dropStale]
  dsimp only
  split
  · apply Yields.complain
  · exact .done (.refl _)

theorem dropHere_cuts (s : Lexer) :
  s.Cuts s.dropHere
  := by
  rw [dropHere]
  split
  · apply Yields.complain
  · exact .done (.refl _)

theorem keepHere_cuts (s : Lexer) :
  s.Cuts s.keepHere
  := by
  rw [keepHere]
  split
  · exact .done (.refl _)
  · apply (dropHere_cuts s).map
    intro t
    apply Precedes.refl

theorem cursor_closeBeyond (column : Int) (n : Nat) (s : Lexer) :
  (closeBeyond column n s).cursor = s.cursor
  := by
  induction n generalizing s with
  | zero => rfl
  | succ n ih =>
    rw [closeBeyond]
    split
    · rw [ih]
      rfl
    · rfl

theorem cursor_unwind (s : Lexer) (column : Int) :
  (s.unwind column).cursor = s.cursor
  := by
  rw [unwind]
  split
  · rfl
  · apply cursor_closeBeyond

theorem cursor_openBlock (s : Lexer) (start : Symbol) :
  (s.openBlock start).cursor = s.cursor
  := by
  rw [openBlock]
  split
  · rfl
  · rfl

theorem cursor_insertKey (s : Lexer) (k : PossibleKey) :
  (s.insertKey k).cursor = s.cursor
  := by
  rw [insertKey]
  dsimp only
  split
  · rfl
  · rfl

theorem precedes_toNextToken (fuel : Nat) (s : Lexer) :
  s.cursor.Precedes (toNextToken fuel s).cursor
  := by
  induction fuel generalizing s with
  | zero => apply Precedes.refl
  | succ fuel ih =>
    apply (precedes_skip s.cursor fun c => c = ' ' || (s.inFlow && c = '\t')).trans
    apply (precedes_skipComment _).trans
    rw [toNextToken]
    split
    case h_1 c after hb => exact (precedes_of_lineBreak? hb).trans (ih _)
    case h_2 => apply Precedes.refl

theorem precedes_skipToToken (s : Lexer) :
  s.cursor.Precedes s.skipToToken.cursor
  := by
  rw [skipToToken]
  split
  · exact (precedes_next s.cursor).trans (precedes_toNextToken _ _)
  · exact precedes_toNextToken _ _

theorem dropHere_of_eq {s t : Lexer} (h : t.cursor = s.cursor) :
  Reads s.cursor Lexer.cursor t.dropHere
  := by
  rw [← h]
  apply dropHere_cuts

theorem streamEnd_cuts (s : Lexer) :
  s.Cuts s.streamEnd
  := by
  apply (dropHere_of_eq (cursor_unwind s (-1))).map
  intro t
  apply Precedes.refl

theorem outermost_cuts (s : Lexer) :
  s.Cuts s.outermost
  := by
  apply (dropHere_of_eq (cursor_unwind s (-1))).map
  intro t
  apply Precedes.refl

theorem directive_cuts (s : Lexer) :
  s.Cuts s.directive
  := by
  rw [directive]
  apply (outermost_cuts s).thenReads
  · intro e he
    rw [he]
  · intro t ht
    rw [ht]
    apply (directive_reads t.version t.cursor).map
    intro d
    dsimp only
    split
    · apply Precedes.refl
    · apply Precedes.refl

theorem separator_cuts (s : Lexer) (symbol : Symbol) :
  s.Cuts (s.separator symbol)
  := by
  apply (outermost_cuts s).map
  intro t
  exact precedes_advance t.cursor 3

theorem openBracket_cuts (s : Lexer) (bracket : Bracket) (symbol : Symbol) :
  s.Cuts (s.openBracket bracket symbol)
  := by
  apply (keepHere_cuts s).map
  intro t
  exact precedes_advance t.cursor 1

theorem closeBracket_cuts (s : Lexer) (symbol : Symbol) :
  s.Cuts (s.closeBracket symbol)
  := by
  apply (dropHere_cuts s).map
  intro t
  exact precedes_advance t.cursor 1

theorem flowEntry_cuts (s : Lexer) :
  s.Cuts s.flowEntry
  := by
  apply (dropHere_cuts s).map
  intro t
  exact precedes_advance t.cursor 1

theorem blockEntry_cuts (s : Lexer) :
  s.Cuts s.blockEntry
  := by
  rw [blockEntry]
  split
  · apply (dropHere_cuts s).map
    intro t
    exact precedes_advance t.cursor 1
  · split
    · apply Yields.complain
    · apply (dropHere_of_eq (cursor_openBlock s _)).map
      intro t
      exact precedes_advance t.cursor 1

theorem key_cuts (s : Lexer) :
  s.Cuts s.key
  := by
  rw [key]
  split
  · apply (dropHere_cuts s).map
    intro t
    exact precedes_advance t.cursor 1
  · split
    · apply Yields.complain
    · apply (dropHere_of_eq (cursor_openBlock s _)).map
      intro t
      exact precedes_advance t.cursor 1

theorem value_cuts (s : Lexer) :
  s.Cuts s.value
  := by
  rw [value]
  split
  case h_1 k hk =>
    have hc : (s.forgetHere.insertKey k).cursor = s.cursor := cursor_insertKey _ k
    apply Yields.done
    rw [← hc]
    exact precedes_advance _ 1
  case h_2 =>
    split
    · exact .done (precedes_advance s.cursor 1)
    · split
      · apply Yields.complain
      · have hc := cursor_openBlock s .blockMappingStart
        apply Yields.done
        rw [← hc]
        exact precedes_advance _ 1

theorem named_cuts (s : Lexer) (content : List Char → TokenContent) :
  s.Cuts (s.named content)
  := by
  rw [named]
  apply (keepHere_cuts s).thenReads
  · intro e he
    rw [he]
  · intro t ht
    rw [ht]
    apply (anchorName_reads t.cursor).map
    intro name
    apply Precedes.refl

theorem tag_cuts (s : Lexer) :
  s.Cuts s.tag
  := by
  rw [tag]
  apply (keepHere_cuts s).thenReads
  · intro e he
    rw [he]
  · intro t ht
    rw [ht]
    apply (tag_reads t.version t.cursor).map
    intro parts
    apply Precedes.refl

theorem blockScalar_cuts (s : Lexer) (folded : Bool) :
  s.Cuts (s.blockScalar folded)
  := by
  rw [blockScalar]
  apply (dropHere_cuts s).thenReads
  · intro e he
    rw [he]
  · intro t ht
    rw [ht]
    apply (BlockScalar.scan_reads folded t.indent t.cursor).map
    intro chunk
    apply Precedes.refl

theorem quoted_cuts (s : Lexer) (double : Bool) :
  s.Cuts (s.quoted double)
  := by
  rw [quoted]
  apply (keepHere_cuts s).thenReads
  · intro e he
    rw [he]
  · intro t ht
    rw [ht]
    apply (Quoted.scan_reads double t.cursor).map
    intro chunk
    apply Precedes.refl

theorem plain_cuts (s : Lexer) :
  s.Cuts s.plain
  := by
  apply (keepHere_cuts s).map
  intro t
  exact Plain.precedes_scan t.version t.inFlow (t.indent + 1) t.cursor

theorem tokenAt_cuts (s : Lexer) (held : Bool) (c : Char) :
  s.Cuts (s.tokenAt held c)
  := by
  rw [tokenAt]
  apply Yields.ite (directive_cuts s)
  apply Yields.ite (separator_cuts s _)
  apply Yields.ite (separator_cuts s _)
  apply Yields.ite (openBracket_cuts s _ _)
  apply Yields.ite (openBracket_cuts s _ _)
  apply Yields.ite (closeBracket_cuts s _)
  apply Yields.ite (closeBracket_cuts s _)
  apply Yields.ite (flowEntry_cuts s)
  apply Yields.ite (blockEntry_cuts s)
  apply Yields.ite (key_cuts s)
  apply Yields.ite (value_cuts s)
  apply Yields.ite (named_cuts s _)
  apply Yields.ite (named_cuts s _)
  apply Yields.ite (tag_cuts s)
  apply Yields.ite (blockScalar_cuts s _)
  apply Yields.ite (blockScalar_cuts s _)
  apply Yields.ite (quoted_cuts s _)
  apply Yields.ite (quoted_cuts s _)
  apply Yields.ite (plain_cuts s)
  apply Yields.complain

/-- The cutting of a token. -/
theorem next_reads (s : Lexer) :
  Reads s.cursor (·.1.cursor) s.next
  := by
  apply Reads.later _ (precedes_skipToToken s)
  rw [next]
  dsimp only
  apply (dropStale_cuts s.skipToToken).thenReads
  · intro e he
    rw [he]
  · intro t ht
    rw [ht]
    dsimp only
    have hc := cursor_unwind t t.cursor.column
    generalize t.unwind t.cursor.column = u at hc
    rw [← hc]
    split
    · apply (streamEnd_cuts u).map
      intro v
      apply Precedes.refl
    · apply (tokenAt_cuts u _ _).thenReads
      · intro e he
        rw [he]
      · intro v hv
        rw [hv]
        apply (dropStale_cuts v).map
        intro w
        apply Precedes.refl

end Lexer

/-! ### Streams -/

namespace TokenStream

/-- The error of a scalar that is met while a text is cut is that of an escape in what is left. -/
theorem escapesIn_of_fault_complete {fuel : Nat} {s : Lexer} {e : ScalarError}
    (h : (complete fuel s).fault = some (.scalar e)) :
  EscapesIn s.cursor.rest e
  := by
  induction fuel generalizing s with
  | zero => cases h
  | succ fuel ih =>
    have hn := Lexer.next_reads s
    rw [complete] at h
    split at h
    case h_1 e' he =>
      cases h
      exact hn.error e he
    case h_2 => cases h
    case h_3 t ht => exact (ih h).mono (hn.ok _ ht)

/-- The error of a scalar that is met while a text is cut is that of an escape in the text. -/
theorem escapesIn_of_fault_ofText {text : List Char} {e : ScalarError}
    (h : (ofText text).fault = some (.scalar e)) :
  EscapesIn text e
  := by
  rw [ofText] at h
  split at h
  · cases h
  · exact escapesIn_of_fault_complete h

end TokenStream

end PipelineAudit.Yaml
