import PipelineAudit.Yaml.Quoted

/-!
# Plain scalars

A scalar without quotation marks ends at a colon before a blank, at a comment, or, inside of
brackets, at an indicator of the brackets.  It may go on over several lines as long as they are
indented: a single line break becomes a space, further ones are kept.
-/

namespace PipelineAudit.Yaml

namespace Plain

/-- The indicators that end a plain scalar; a question mark is one of them inside of brackets in
version 1.1 only. -/
def indicators (version : Version) (inFlow : Bool) : List Char :=
  if inFlow then [',', ':', '[', ']', '{', '}'] ++ if version.isOld then ['?'] else [] else [':']

/-- The stretch without blanks that a plain scalar has at the beginning of a text, up to one of some
indicators; a colon counts before the end of a word only. -/
def stretch (indicators : List Char) : List Char → List Char
  | [] => []
  | c :: rest =>
    if c = ':' && !endsWord rest.head? then c :: stretch indicators rest
    else if isLineEnd c || isSpaceOrTab c || indicators.contains c then []
    else c :: stretch indicators rest

/-- What joins two stretches of a plain scalar: its text, the place after it, and whether a line
ends in it.  An empty text joins nothing. -/
structure Joint where
  text : List Char
  after : Cursor
  endsLine : Bool

/-- The blank lines that follow a line break, whose breaks are kept; none at a separator of
documents. -/
def breaksFrom (done : List Char) : Nat → Cursor → Option (List Char) × Cursor
  | 0, s => (some done, s)
  | fuel + 1, s =>
    let s := s.skip (· = ' ')
    match s.lineBreak? with
    | none => (some done, s)
    | some (c, after) =>
      if after.atAnySeparator then (none, after) else breaksFrom (done ++ [c]) fuel after

/-- What can join the stretch before a place to one after it. -/
def joint (s : Cursor) : Joint :=
  let blanks := s.run (· = ' ')
  let s := s.advance blanks.length
  match s.lineBreak? with
  | none => ⟨blanks, s, false⟩
  | some (c, after) =>
    if after.atAnySeparator then ⟨[], after, true⟩
    else
      match breaksFrom [] (after.rest.length + 1) after with
      | (none, after) => ⟨[], after, true⟩
      | (some breaks, after) =>
        let first := if c ≠ '\n' then [c] else if breaks.isEmpty then [' '] else []
        ⟨first ++ breaks, after, true⟩

/-- The rest of a scalar, of which `done` was read and `between` joins it to what follows.  The
result says whether the scalar was followed by the end of a line. -/
def restFrom (version : Version) (inFlow : Bool) (indent : Int) (done between : List Char)
    (endsLine : Bool) : Nat → Cursor → Chunk × Bool
  | 0, s => (⟨done, s⟩, endsLine)
  | fuel + 1, s =>
    let text := stretch (indicators version inFlow) s.rest
    if s.sees '#' || text.isEmpty then (⟨done, s⟩, endsLine)
    else
      let done := done ++ between ++ text
      let joint := joint (s.advance text.length)
      let s := joint.after
      if joint.text.isEmpty || s.sees '#' || (!inFlow && (s.column : Int) < indent) then
        (⟨done, s⟩, joint.endsLine)
      else restFrom version inFlow indent done joint.text joint.endsLine fuel s

/-- The scalar that begins at a place, with its lines indented by at least `indent`, and whether
it was followed by the end of a line. -/
def scan (version : Version) (inFlow : Bool) (indent : Int) (s : Cursor) : Chunk × Bool :=
  restFrom version inFlow indent [] [] false (s.rest.length + 1) s

end Plain

end PipelineAudit.Yaml
