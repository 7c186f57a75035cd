import Mathlib.Algebra.Group.Nat.Defs
import PipelineAudit.Proofs.Yaml.Reads
import PipelineAudit.Yaml.BlockScalar
import PipelineAudit.Yaml.Plain
import PipelineAudit.Yaml.Property

/-!
# Reading the parts of a text

Scalars of all styles, names, tags and directives are read from a place on.  Of these, only a scalar
in double quotes can meet the error of an escape.

* `Quoted.scan_reads`, `Plain.precedes_scan`, `BlockScalar.scan_reads`: the scalars.
* `anchorName_reads`, `tag_reads`, `directive_reads`: the properties and the directives.
-/

namespace PipelineAudit.Yaml

open Cursor

/-! ### Quoted scalars -/

/-- The value of a hexadecimal digit is below sixteen. -/
theorem hexDigit?_lt {c : Char} {n : Nat} (h : hexDigit? c = some n) :
  n < 16
  := by
  rw [hexDigit?] at h
  split at h
  case isTrue hc =>
    cases h
    have hu : c.toNat ≤ '9'.toNat := by
      simp only [Char.isDigit, Bool.and_eq_true, decide_eq_true_iff] at hc
      exact hc.2
    have h9 : '9'.toNat = 57 := rfl
    have h0 : '0'.toNat = 48 := rfl
    omega
  case isFalse =>
    split at h
    case isTrue hc =>
      cases h
      simp only [Bool.and_eq_true, decide_eq_true_iff] at hc
      have hu : c.toNat ≤ 'f'.toNat := hc.2
      have hf : 'f'.toNat = 102 := rfl
      have ha : 'a'.toNat = 97 := rfl
      omega
    case isFalse =>
      split at h
      case isTrue hc =>
        cases h
        simp only [Bool.and_eq_true, decide_eq_true_iff] at hc
        have hu : c.toNat ≤ 'F'.toNat := hc.2
        have hf : 'F'.toNat = 70 := rfl
        have ha : 'A'.toNat = 65 := rfl
        omega
      case isFalse => cases h

/-- A number of hexadecimal digits is below a power of sixteen. -/
theorem hexAt_lt {s : Cursor} {n code : Nat} (h : hexAt s n = .ok code) :
  code < 16 ^ n
  := by
  induction n generalizing code with
  | zero =>
    cases h
    apply Nat.one_pos
  | succ n ih =>
    rw [hexAt] at h
    split at h
    case h_1 => cases h
    case h_2 value hv =>
      split at h
      case h_1 digit hd =>
        cases h
        obtain ⟨c, _, hc⟩ := Option.bind_eq_some_iff.mp hd
        have hl := hexDigit?_lt hc
        have hi := ih hv
        rw [Nat.pow_succ]
        omega
      case h_2 => cases h

/-- A number of hexadecimal digits depends on what follows only. -/
theorem hexAt_rest (s : Cursor) (n : Nat) :
  hexAt { rest := s.rest } n = hexAt s n
  := by
  induction n with
  | zero => rfl
  | succ n ih =>
    rw [hexAt, hexAt, ih]
    rfl

/-- Only an escape of eight digits can be beyond the last character. -/
theorem escapesIn_of_charOfCode {s : Cursor} {width code : Nat} {e : ScalarError} {c : Char}
    (hw : escapeWidth? c = some width) (hx : hexAt s width = .ok code)
    (h : charOfCode code = .error (.scalar e)) :
  EscapesIn ('\\' :: c :: s.rest) e
  := by
  have hc : 0x10ffff < code ∧ e = .noCharacter (0x7fffffff < code) := by
    rw [charOfCode] at h
    split at h
    case isTrue hfar =>
      cases h
      rw [decide_eq_true hfar]
      exact ⟨by omega, rfl⟩
    case isFalse hfar =>
      split at h
      case isTrue hbeyond =>
        cases h
        rw [decide_eq_false hfar]
        exact ⟨hbeyond, rfl⟩
      case isFalse =>
        split at h
        · cases h
        · cases h
  have hl := hexAt_lt hx
  have hU : c = 'U' ∧ width = 8 := by
    unfold escapeWidth? at hw
    split at hw
    · cases hw
      omega
    · cases hw
      omega
    · cases hw
      exact ⟨rfl, rfl⟩
    · cases hw
  obtain ⟨rfl, rfl⟩ := hU
  rw [← hexAt_rest] at hx
  exact ⟨code, ⟨[], s.rest, rfl, hx⟩, hc⟩

namespace Quoted

theorem breaksFrom_reads (done : List Char) (fuel : Nat) (s : Cursor) :
  Reads s Chunk.after (breaksFrom done fuel s)
  := by
  induction fuel generalizing done s with
  | zero => exact .done (.refl s)
  | succ fuel ih =>
    rw [breaksFrom]
    split
    · apply Yields.complain
    · apply Reads.later _ (precedes_skip s isSpaceOrTab)
      dsimp only
      split
      case h_1 c after hb => exact (ih _ after).later (precedes_of_lineBreak? hb)
      case h_2 => exact .done (.refl _)

theorem breaks_reads (s : Cursor) :
  Reads s Chunk.after (breaks s)
  := breaksFrom_reads [] _ s

theorem gap_reads (s : Cursor) :
  Reads s Chunk.after (gap s)
  := by
  apply Reads.later _ (precedes_advance s (s.run isSpaceOrTab).length)
  rw [gap]
  dsimp only
  split
  case h_1 _ _ c after hb =>
    apply Reads.later _ (precedes_of_lineBreak? hb)
    apply (breaks_reads after).thenReads
    · intro e he
      rw [he]
    · intro chunk hc
      rw [hc]
      exact .done (.refl _)
  case h_2 => apply Yields.complain
  case h_3 => exact .done (.refl _)

/-- What an escape leads to from its backslash on. -/
theorem escape_reads {s : Cursor} {rest : List Char} (h : s.rest = '\\' :: rest) :
  Reads s Chunk.after (escape s.next)
  := by
  have hn := precedes_next s
  rw [escape]
  split
  case h_1 c after hb =>
    apply Reads.later _ (hn.trans (precedes_of_lineBreak? hb))
    apply breaks_reads
  case h_2 => exact .done (hn.trans (precedes_next _))
  case h_3 width _ _ hw =>
    obtain ⟨c, hc, hw⟩ := Option.bind_eq_some_iff.mp hw
    have hl : s.next.rest = c :: s.next.next.rest := by
      obtain ⟨after, ha⟩ := List.head?_eq_some_iff.mp hc
      rw [ha, rest_next ha]
    split
    case h_1 => apply Yields.complain
    case h_2 code hx =>
      have ha := hn.trans ((precedes_next _).trans (precedes_advance s.next.next width))
      dsimp only
      split
      case h_1 => exact .done (ha.trans (precedes_advance _ 6))
      case h_2 =>
        cases hk : charOfCode code with
        | ok d => exact .done ha
        | error e =>
          constructor
          · intro chunk hc
            cases hc
          · intro e' he
            cases he
            rw [h, ← rest_next h, hl]
            exact escapesIn_of_charOfCode hw hx hk
  case h_4 => apply Yields.complain

theorem wordFrom_reads (double : Bool) (done : List Char) (fuel : Nat) (s : Cursor) :
  Reads s Chunk.after (wordFrom double done fuel s)
  := by
  induction fuel generalizing done s with
  | zero => exact .done (.refl s)
  | succ fuel ih =>
    apply Reads.later _ (precedes_advance s (s.run isOrdinary).length)
    rw [wordFrom]
    generalize s.advance (s.run isOrdinary).length = t
    generalize done ++ s.run isOrdinary = done
    have hn : ∀ done, Reads t Chunk.after (wordFrom double done fuel t.next) :=
      fun done => (ih done t.next).later (precedes_next t)
    split
    · split
      · apply hn
      · exact (ih _ _).later (precedes_advance t 2)
    · split
      · apply hn
      · exact .done (.refl t)
    · split
      · exact .done (.refl t)
      · apply hn
    case h_4 rest hr =>
      split
      · apply (escape_reads hr).thenReads
        · intro e he
          rw [he]
        · intro chunk hc
          rw [hc]
          apply ih
      · apply hn
    · exact .done (.refl t)

theorem word_reads (double : Bool) (s : Cursor) :
  Reads s Chunk.after (word double s)
  := wordFrom_reads double [] _ s

theorem restFrom_reads (double : Bool) (done : List Char) (fuel : Nat) (s : Cursor) :
  Reads s Chunk.after (restFrom double done fuel s)
  := by
  induction fuel generalizing done s with
  | zero => exact .done (.refl s)
  | succ fuel ih =>
    unfold restFrom
    by_cases hq : s.sees (if double then '"' else '\'')
    · rw [if_pos hq]
      exact .done (precedes_next s)
    · rw [if_neg hq]
      apply (gap_reads s).thenReads
      · intro e he
        rw [he]
      · intro blanks hb
        simp only [hb]
        apply (word_reads double blanks.after).thenReads
        · intro e he
          rw [he]
        · intro text ht
          rw [ht]
          apply ih

theorem scan_reads (double : Bool) (s : Cursor) :
  Reads s Chunk.after (scan double s)
  := by
  apply Reads.later _ (precedes_next s)
  rw [scan]
  apply (word_reads double s.next).thenReads
  · intro e he
    rw [he]
  · intro text ht
    rw [ht]
    apply restFrom_reads

end Quoted

/-! ### Plain scalars -/

namespace Plain

theorem precedes_breaksFrom (done : List Char) (fuel : Nat) (s : Cursor) :
  s.Precedes (breaksFrom done fuel s).2
  := by
  induction fuel generalizing done s with
  | zero => apply Precedes.refl
  | succ fuel ih =>
    apply (precedes_skip s (· = ' ')).trans
    rw [breaksFrom]
    split
    case h_1 => apply Precedes.refl
    case h_2 c after hb =>
      apply (precedes_of_lineBreak? hb).trans
      split
      · apply Precedes.refl
      · apply ih

theorem precedes_joint (s : Cursor) :
  s.Precedes (joint s).after
  := by
  apply (precedes_advance s (s.run (· = ' ')).length).trans
  rw [joint]
  dsimp only
  split
  case h_1 => apply Precedes.refl
  case h_2 c after hb =>
    apply (precedes_of_lineBreak? hb).trans
    split
    · apply Precedes.refl
    · have h := precedes_breaksFrom [] (after.rest.length + 1) after
      split
      case h_1 hr =>
        rw [hr] at h
        exact h
      case h_2 hr =>
        rw [hr] at h
        exact h

theorem precedes_restFrom (version : Version) (inFlow : Bool) (indent : Int)
    (done between : List Char) (endsLine : Bool) (fuel : Nat) (s : Cursor) :
  s.Precedes (restFrom version inFlow indent done between endsLine fuel s).1.after
  := by
  induction fuel generalizing done between endsLine s with
  | zero => apply Precedes.refl
  | succ fuel ih =>
    rw [restFrom]
    dsimp only
    split
    · apply Precedes.refl
    · apply (precedes_advance s (stretch (indicators version inFlow) s.rest).length).trans
      apply (precedes_joint _).trans
      split
      · apply Precedes.refl
      · apply ih

theorem precedes_scan (version : Version) (inFlow : Bool) (indent : Int) (s : Cursor) :
  s.Precedes (scan version inFlow indent s).1.after
  := precedes_restFrom version inFlow indent [] [] false _ s

end Plain

/-! ### Block scalars -/

namespace BlockScalar

theorem increment?_reads (s : Cursor) :
  Reads s (·.2) (increment? s)
  := by
  rw [increment?]
  split
  · split
    · apply Yields.complain
    · split
      · exact .done (precedes_next s)
      · exact .done (.refl s)
  · exact .done (.refl s)

theorem indicators_reads (s : Cursor) :
  Reads s BlockHeader.after (indicators s)
  := by
  rw [indicators]
  split
  · apply ((increment?_reads s.next).later (precedes_next s)).map
    intro a
    apply Precedes.refl
  · apply (increment?_reads s).map
    rintro ⟨increment, after⟩
    dsimp only
    split
    · apply precedes_next
    · apply Precedes.refl

theorem endLine_reads (s : Cursor) :
  Reads s id (endLine s)
  := by
  apply Reads.later _ ((precedes_skip s (· = ' ')).trans (precedes_skipComment _))
  rw [endLine]
  generalize (s.skip (· = ' ')).skipComment = t
  split
  · apply Yields.done
    cases hb : t.lineBreak? with
    | none => apply Precedes.refl
    | some b => exact precedes_of_lineBreak? (c := b.1) hb
  · apply Yields.complain

theorem header_reads (s : Cursor) :
  Reads s BlockHeader.after (header s)
  := by
  rw [header]
  apply (indicators_reads s).thenReads
  · intro e he
    rw [he]
  · intro h hh
    rw [hh]
    dsimp only
    split
    · apply (endLine_reads h.after).map
      intro after
      apply Precedes.refl
    · apply Yields.complain

theorem precedes_blankLinesFrom (indent : Nat) (done : List Char) (fuel : Nat) (s : Cursor) :
  s.Precedes (blankLinesFrom indent done fuel s).after
  := by
  induction fuel generalizing done s with
  | zero => apply Precedes.refl
  | succ fuel ih =>
    apply (precedes_skipSpacesTo s indent).trans
    rw [blankLinesFrom]
    split
    case h_1 c after hb => exact (precedes_of_lineBreak? hb).trans (ih _ after)
    case h_2 => apply Precedes.refl

theorem precedes_blankLines (indent : Nat) (s : Cursor) :
  s.Precedes (blankLines indent s).after
  := precedes_blankLinesFrom indent [] _ s

theorem precedes_openingFrom (o : Opening) (fuel : Nat) (s : Cursor) :
  s.Precedes (openingFrom o fuel s).2
  := by
  induction fuel generalizing o s with
  | zero => apply Precedes.refl
  | succ fuel ih =>
    apply (precedes_advance s (s.run (· = ' ')).length).trans
    rw [openingFrom]
    split
    case h_1 c after hb => exact (precedes_of_lineBreak? hb).trans (ih _ after)
    case h_2 => apply Precedes.refl

theorem opening_reads (least : Nat) (s : Cursor) :
  Reads s (·.2.after) (opening least s)
  := by
  rw [opening]
  dsimp only
  split
  · constructor
    · intro a ha
      cases ha
    · intro e he
      cases he
  · exact .done (precedes_openingFrom {} _ s)

theorem precedes_linesFrom (folded stops : Bool) (indent fuel : Nat) (body : Body) :
  body.after.Precedes (linesFrom folded stops indent body fuel).after
  := by
  induction fuel generalizing body with
  | zero => apply Precedes.refl
  | succ fuel ih =>
    rw [linesFrom]
    dsimp only
    split
    · apply Precedes.refl
    · apply (precedes_advance body.after (body.after.run (!isLineEnd ·)).length).trans
      generalize body.after.advance (body.after.run (!isLineEnd ·)).length = t
      have hn : ∀ next, t.Precedes next → t.Precedes (blankLines indent next).after :=
        fun next h => h.trans (precedes_blankLines indent next)
      split
      case h_1 c next hb =>
        have h := hn next (precedes_of_lineBreak? hb)
        split
        · exact h
        · exact h.trans (ih _)
      case h_2 =>
        have h := hn t (.refl t)
        split
        · exact h
        · exact h.trans (ih _)

theorem scan_reads (folded : Bool) (parent : Int) (s : Cursor) :
  Reads s Chunk.after (scan folded parent s)
  := by
  apply Reads.later _ (precedes_next s)
  rw [scan]
  apply (header_reads s.next).thenReads
  · intro e he
    rw [he]
  · intro h hh
    rw [hh]
    dsimp only
    -- The lines of the scalar follow its blank lines.
    have hl : ∀ (stops : Bool) (indent fuel : Nat) (blank : Chunk), blank.after.Precedes
        (linesFrom folded stops indent ⟨[], [], blank.text, blank.after⟩ fuel).after :=
      fun stops indent fuel blank => precedes_linesFrom folded stops indent fuel _
    cases h.increment with
    | none =>
      apply (opening_reads (parent + 1).toNat h.after).thenReads
      · intro e he
        simp only [he]
      · intro start hs
        simp only [hs]
        exact .done (hl _ _ _ _)
    | some n => exact .done ((precedes_blankLines _ _).trans (hl _ _ _ _))

end BlockScalar

/-! ### Properties -/

theorem escapedBytes_reads (done : List Nat) (fuel : Nat) (s : Cursor) :
  Reads s Found.after (escapedBytes done fuel s)
  := by
  induction fuel generalizing done s with
  | zero => exact .done (.refl s)
  | succ fuel ih =>
    rw [escapedBytes]
    split
    · split
      · apply Yields.complain
      · exact (ih _ _).later (precedes_advance s 3)
    · exact .done (.refl s)

theorem escapedText_reads (s : Cursor) :
  Reads s Found.after (escapedText s)
  := by
  rw [escapedText]
  apply (escapedBytes_reads [] _ s).thenReads
  · intro e he
    rw [he]
  · intro bytes hb
    rw [hb]
    dsimp only
    split
    · apply Yields.complain
    · exact .done (.refl _)

theorem tagTextFrom_reads (version : Version) (done : List Char) (fuel : Nat) (s : Cursor) :
  Reads s Found.after (tagTextFrom version done fuel s)
  := by
  induction fuel generalizing done s with
  | zero => exact .done (.refl s)
  | succ fuel ih =>
    apply Reads.later _ (precedes_advance s (s.run (isTagChar version)).length)
    rw [tagTextFrom]
    generalize s.advance (s.run (isTagChar version)).length = t
    split
    · apply (escapedText_reads t).thenReads
      · intro e he
        rw [he]
      · intro text ht
        rw [ht]
        apply ih
    · exact .done (.refl t)

theorem tagText_reads (version : Version) (s : Cursor) :
  Reads s Found.after (tagText version s)
  := by
  rw [tagText]
  split
  · apply tagTextFrom_reads
  · apply Yields.complain

theorem tagHandle_reads (s : Cursor) :
  Reads s Found.after (tagHandle s)
  := by
  rw [tagHandle]
  split
  · apply Yields.complain
  · split
    · exact .done (precedes_next s)
    · dsimp only
      split
      · exact .done ((precedes_next s).trans ((precedes_advance _ _).trans (precedes_next _)))
      · apply Yields.complain

theorem tagParts_reads (version : Version) (s : Cursor) :
  Reads s Found.after (tagParts version s)
  := by
  -- The place from which the tag is read: after a second exclamation mark, if there is one.
  have hp : s.Precedes (if s.peekAt 1 = some '!' then (['!', '!'], s.next) else (['!'], s)).2 := by
    split
    · apply precedes_next
    · apply Precedes.refl
  apply Reads.later _ hp
  rw [tagParts]
  generalize (if s.peekAt 1 = some '!' then (['!', '!'], s.next) else (['!'], s)) = p
  obtain ⟨short, t⟩ := p
  dsimp only
  split
  · apply ((tagText_reads version _).later (precedes_advance t 2)).thenReads
    · intro e he
      rw [he]
    · intro text ht
      rw [ht]
      dsimp only
      split
      · exact .done (precedes_next _)
      · apply Yields.complain
  · split
    · exact .done (precedes_next t)
    · split
      · apply (tagHandle_reads t).thenReads
        · intro e he
          rw [he]
        · intro handle hh
          rw [hh]
          apply (tagText_reads version handle.after).map
          intro text
          apply Precedes.refl
      · apply ((tagText_reads version t.next).later (precedes_next t)).map
        intro text
        apply Precedes.refl

theorem tag_reads (version : Version) (s : Cursor) :
  Reads s Found.after (tag version s)
  := by
  rw [tag]
  apply (tagParts_reads version s).thenReads
  · intro e he
    rw [he]
  · intro parts hp
    rw [hp]
    dsimp only
    split
    · exact .done (.refl _)
    · apply Yields.complain

theorem anchorName_reads (s : Cursor) :
  Reads s Found.after (anchorName s)
  := by
  rw [anchorName]
  split
  · apply Yields.complain
  · split
    · exact .done ((precedes_next s).trans (precedes_advance _ _))
    · apply Yields.complain

theorem versionNumber_reads (s : Cursor) :
  Reads s Found.after (versionNumber s)
  := by
  rw [versionNumber]
  split
  · apply Yields.complain
  · exact .done (precedes_advance s _)

theorem versionDirective_reads (s : Cursor) :
  Reads s Found.after (versionDirective s)
  := by
  apply Reads.later _ (precedes_skip s (· = ' '))
  rw [versionDirective]
  apply (versionNumber_reads (s.skip (· = ' '))).thenReads
  · intro e he
    rw [he]
  · intro major hmajor
    rw [hmajor]
    dsimp only
    split
    · apply Yields.complain
    · apply ((versionNumber_reads _).later (precedes_next major.after)).thenReads
      · intro e he
        rw [he]
      · intro minor hminor
        rw [hminor]
        dsimp only
        split
        · exact .done (.refl _)
        · apply Yields.complain

theorem handleDirective_reads (version : Version) (s : Cursor) :
  Reads s Found.after (handleDirective version s)
  := by
  apply Reads.later _ (precedes_skip s (· = ' '))
  rw [handleDirective]
  apply (tagHandle_reads (s.skip (· = ' '))).thenReads
  · intro e he
    rw [he]
  · intro handle hh
    rw [hh]
    dsimp only
    split
    · apply Yields.complain
    · apply ((tagText_reads version _).later (precedes_skip handle.after (· = ' '))).thenReads
      · intro e he
        rw [he]
      · intro text ht
        rw [ht]
        dsimp only
        split
        · exact .done (.refl _)
        · apply Yields.complain

theorem directiveNamed_reads (version : Version) (name : List Char) (s : Cursor) :
  Reads s Found.after (directiveNamed version name s)
  := by
  rw [directiveNamed]
  split
  · apply versionDirective_reads
  · split
    · apply handleDirective_reads
    · exact .done (precedes_skip s _)

theorem directive_reads (version : Version) (s : Cursor) :
  Reads s Found.after (directive version s)
  := by
  have hp := (precedes_next s).trans
    (precedes_advance s.next (s.next.run (isAlnumOr ['-', '_', ':', '.'])).length)
  apply Reads.later _ hp
  rw [directive]
  generalize s.next.run (isAlnumOr ['-', '_', ':', '.']) = name
  split
  · apply Yields.complain
  · apply (directiveNamed_reads version name _).thenReads
    · intro e he
      rw [he]
    · intro found hf
      rw [hf]
      apply (BlockScalar.endLine_reads found.after).map
      intro after
      apply Precedes.refl

end PipelineAudit.Yaml
