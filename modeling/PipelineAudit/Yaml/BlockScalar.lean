import PipelineAudit.Yaml.Quoted

/-!
# Block scalars

A block scalar consists of the lines below its header that are indented enough.  The header says
whether the lines are folded, what becomes of the breaks at the end, and by how much the lines are
indented; without such a number, the first line that is not blank decides.
-/

namespace PipelineAudit.Yaml

/-- What becomes of the line breaks at the end of a block scalar. -/
inductive Chomping where
  | strip
  | clip
  | keep
  deriving DecidableEq, Repr

/-- The header of a block scalar, with the number of columns that its lines are indented by, if it
is given, and the place after it. -/
structure BlockHeader where
  chomping : Chomping
  increment : Option Nat
  after : Cursor

namespace BlockScalar

/-- The chomping that follows, if one is given. -/
def chomping? (s : Cursor) : Option Chomping :=
  if s.sees '+' then some .keep else if s.sees '-' then some .strip else none

/-- The number of columns that follows, if one is given, and the place after it. -/
def increment? (s : Cursor) : Except Error (Option Nat × Cursor) :=
  match s.rest with
  | c :: _ =>
    if c = '0' then complain .zeroIndentation s.mark
    else if c.isDigit then .ok (some (c.toNat - '0'.toNat), s.next)
    else .ok (none, s)
  | [] => .ok (none, s)

/-- The indicators at a place: chomping and number of columns in any order. -/
def indicators (s : Cursor) : Except Error BlockHeader :=
  match chomping? s with
  | some chomping =>
    (increment? s.next).map fun (increment, after) => ⟨chomping, increment, after⟩
  | none =>
    (increment? s).map fun (increment, after) =>
      match increment, chomping? after with
      | some _, some chomping => ⟨chomping, increment, after.next⟩
      | _, _ => ⟨.clip, increment, after⟩

/-- The rest of a line that may hold a comment only. -/
def endLine (s : Cursor) : Except Error Cursor :=
  let s := (s.skip (· = ' ')).skipComment
  if endsLine s.peek then .ok ((s.lineBreak?.map (·.2)).getD s)
  else complain (.expected .lineEnd s.peek) s.mark

/-- The header of which the indicators begin at a place. -/
def header (s : Cursor) : Except Error BlockHeader :=
  match indicators s with
  | .error e => .error e
  | .ok h =>
    if endsField h.after.peek then (endLine h.after).map fun after => { h with after }
    else complain (.expected .blockHeader h.after.peek) h.after.mark

/-- The blank lines at a place: their breaks, and the place after them, at most at a given
column. -/
def blankLinesFrom (indent : Nat) (done : List Char) : Nat → Cursor → Chunk
  | 0, s => ⟨done, s⟩
  | fuel + 1, s =>
    let s := s.skipSpacesTo indent
    match s.lineBreak? with
    | some (c, after) => blankLinesFrom indent (done ++ [c]) fuel after
    | none => ⟨done, s⟩

/-- The blank lines at a place. -/
def blankLines (indent : Nat) (s : Cursor) : Chunk :=
  blankLinesFrom indent [] (s.rest.length + 1) s

/-- The blank lines before the first line of a scalar, and what was seen of their columns. -/
structure Opening where
  breaks : List Char := []
  /-- The column at which the first blank line ends. -/
  first : Option Nat := none
  /-- The largest column reached by spaces. -/
  greatest : Nat := 0

/-- The blank lines at a place, however many spaces they hold. -/
def openingFrom (o : Opening) : Nat → Cursor → Opening × Cursor
  | 0, s => (o, s)
  | fuel + 1, s =>
    let spaces := (s.run (· = ' ')).length
    let s := s.advance spaces
    let o := if spaces = 0 then o else { o with greatest := max o.greatest s.column }
    match s.lineBreak? with
    | some (c, after) =>
      openingFrom { o with breaks := o.breaks ++ [c], first := o.first.or (some s.column) } fuel
        after
    | none => (o, s)

/-- The column of the lines of a scalar, and the blank lines before the first one, if the header
does not give the number of columns. -/
def opening (least : Nat) (s : Cursor) : Except Error (Nat × Chunk) :=
  let (o, after) := openingFrom {} (s.rest.length + 1) s
  if o.first.any fun first => 0 < first && first < o.greatest then
    .error (.malformed (.moreIndented after.mark) none)
  else .ok (max least o.greatest, ⟨o.breaks, after⟩)

/-- The lines of a scalar that were read: their text, the break after the last one, and the breaks
of the blank lines after that. -/
structure Body where
  text : List Char
  lastBreak : List Char
  breaks : List Char
  after : Cursor

/-- Whether a line goes on with a character that is neither space nor tab. -/
def seesText (s : Cursor) : Bool :=
  s.peek.all (!isSpaceOrTab ·)

/-- The lines from a place on, at a given column.  With `stops`, a separator of documents ends the
scalar. -/
def linesFrom (folded stops : Bool) (indent : Nat) (body : Body) : Nat → Body
  | 0 => body
  | fuel + 1 =>
    let s := body.after
    if s.column ≠ indent || s.rest.isEmpty then body
    else
      let line := s.run (!isLineEnd ·)
      let afterLine := s.advance line.length
      let (lineBreak, next) :=
        match afterLine.lineBreak? with
        | some (c, after) => ([c], after)
        | none => ([], afterLine)
      let blank := blankLines indent next
      let text := body.text ++ body.breaks ++ line
      let t := blank.after
      let read : Body := ⟨text, lineBreak, blank.text, t⟩
      if (stops && t.column = 0 && t.atAnySeparator) || t.column ≠ indent || t.rest.isEmpty then
        read
      else
        let joint :=
          if folded && lineBreak = ['\n'] && seesText s && seesText t then
            if blank.text.isEmpty then [' '] else []
          else lineBreak
        linesFrom folded stops indent { read with text := text ++ joint } fuel

/-- The text of a scalar after its chomping. -/
def Body.chomped (body : Body) : Chomping → List Char
  | .strip => body.text
  | .clip => body.text ++ body.lastBreak
  | .keep => body.text ++ body.lastBreak ++ body.breaks

/-- The scalar of which the header begins with the indicator at a place, below a node at a given
column. -/
def scan (folded : Bool) (parent : Int) (s : Cursor) : Except Error Chunk :=
  match header s.next with
  | .error e => .error e
  | .ok h =>
    let least := (parent + 1).toNat
    let start :=
      match h.increment with
      | none => opening least h.after
      | some n =>
        let indent := max least 1 + n - 1
        .ok (indent, blankLines indent h.after)
    match start with
    | .error e => .error e
    | .ok (indent, blank) =>
      let stops := least = 0 && h.increment.isNone
      let body := linesFrom folded stops indent ⟨[], [], blank.text, blank.after⟩
        (s.rest.length + 1)
      .ok ⟨body.chomped h.chomping, body.after⟩

end BlockScalar

end PipelineAudit.Yaml
