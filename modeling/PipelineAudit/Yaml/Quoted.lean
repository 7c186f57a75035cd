import PipelineAudit.Yaml.Error

/-!
# Quoted scalars

A scalar in quotation marks may run over several lines: a single line break becomes a space, further
ones are kept.  In single quotes a doubled quote stands for itself; in double quotes a backslash
begins an escape, or joins two lines.
-/

namespace PipelineAudit.Yaml

/-- Text that was read, and the place after it. -/
structure Chunk where
  text : List Char
  after : Cursor

/-- The character that an escape of one character stands for. -/
def escapedChar? : Char → Option Char
  | '0' => some '\x00'
  | 'a' => some '\x07'
  | 'b' => some '\x08'
  | 't' => some '\t'
  | '\t' => some '\t'
  | 'n' => some '\n'
  | 'v' => some '\x0b'
  | 'f' => some '\x0c'
  | 'r' => some '\r'
  | 'e' => some '\x1b'
  | ' ' => some ' '
  | '"' => some '"'
  | '/' => some '/'
  | '\\' => some '\\'
  | 'N' => some '\x85'
  | '_' => some '\u00a0'
  | 'L' => some '\u2028'
  | 'P' => some '\u2029'
  | _ => none

/-- The number of hexadecimal digits after the letter of an escape. -/
def escapeWidth? : Char → Option Nat
  | 'x' => some 2
  | 'u' => some 4
  | 'U' => some 8
  | _ => none

/-- The value of a number of hexadecimal digits at a place; the failure is the character that is
none. -/
def hexAt (s : Cursor) : Nat → Except (Option Char) Nat
  | 0 => .ok 0
  | n + 1 =>
    match hexAt s n with
    | .error found => .error found
    | .ok value =>
      match (s.peekAt n).bind hexDigit? with
      | some digit => .ok (16 * value + digit)
      | none => .error (s.peekAt n)

/-- The character with a code; half of a surrogate pair stands for the replacement character. -/
def charOfCode (code : Nat) : Except Error Char :=
  if 0x7fffffff < code then .error (.scalar (.noCharacter true))
  else if 0x10ffff < code then .error (.scalar (.noCharacter false))
  else if 0xd800 ≤ code && code ≤ 0xdfff then .ok '\ufffd'
  else .ok (Char.ofNat code)

/-- The second half of a surrogate pair, if its escape is at a place. -/
def secondHalf? (s : Cursor) : Option Nat :=
  match s.rest with
  | '\\' :: 'u' :: _ => (hexAt (s.advance 2) 4).toOption.filter fun n => 0xdc00 ≤ n && n ≤ 0xdfff
  | _ => none

namespace Quoted

/-- The blank lines that follow a line break, whose breaks are kept; a separator of documents may
not begin a line. -/
def breaksFrom (done : List Char) : Nat → Cursor → Except Error Chunk
  | 0, s => .ok ⟨done, s⟩
  | fuel + 1, s =>
    if s.atAnySeparator then complain .separatorInScalar s.mark
    else
      let s := s.skip isSpaceOrTab
      match s.lineBreak? with
      | some (c, after) => breaksFrom (done ++ [c]) fuel after
      | none => .ok ⟨done, s⟩

/-- The blank lines that follow a line break. -/
def breaks (s : Cursor) : Except Error Chunk :=
  breaksFrom [] (s.rest.length + 1) s

/-- A stretch of blanks: the spaces and tabs themselves, or what the line breaks in it become. -/
def gap (s : Cursor) : Except Error Chunk :=
  let blanks := s.run isSpaceOrTab
  let s := s.advance blanks.length
  match s.lineBreak?, s.peek with
  | some (c, after), _ =>
    match breaks after with
    | .error e => .error e
    | .ok chunk =>
      let joint := if c ≠ '\n' then [c] else if chunk.text.isEmpty then [' '] else []
      .ok ⟨joint ++ chunk.text, chunk.after⟩
  | none, none => complain .endInScalar s.mark
  | none, some _ => .ok ⟨blanks, s⟩

/-- What the escape after a backslash stands for. -/
def escape (s : Cursor) : Except Error Chunk :=
  match s.lineBreak?, s.peek.bind escapedChar?, s.peek.bind escapeWidth? with
  | some (_, after), _, _ => breaks after
  | none, some c, _ => .ok ⟨[c], s.next⟩
  | none, none, some width =>
    match hexAt s.next width with
    | .error found => complain (.expected (.hexDigits width) found) s.next.mark
    | .ok code =>
      let after := s.next.advance width
      match (secondHalf? after).filter fun _ => 0xd800 ≤ code && code < 0xdc00 with
      | some second =>
        .ok ⟨[Char.ofNat (0x10000 + (code - 0xd800) * 0x400 + (second - 0xdc00))], after.advance 6⟩
      | none => (charOfCode code).map fun c => ⟨[c], after⟩
  | none, none, none => complain (.unknownEscape s.peek) s.mark

/-- Whether a character stands for itself in every quoted scalar. -/
def isOrdinary (c : Char) : Bool :=
  !(isSpaceOrTab c || isBreak c || c = '\'' || c = '"' || c = '\\')

/-- The text up to a blank, to the end of the text, or to the closing quote. -/
def wordFrom (double : Bool) (done : List Char) : Nat → Cursor → Except Error Chunk
  | 0, s => .ok ⟨done, s⟩
  | fuel + 1, s =>
    let plain := s.run isOrdinary
    let done := done ++ plain
    let s := s.advance plain.length
    match s.rest with
    | '\'' :: '\'' :: _ =>
      if double then wordFrom double (done ++ ['\'']) fuel s.next
      else wordFrom double (done ++ ['\'']) fuel (s.advance 2)
    | '\'' :: _ => if double then wordFrom double (done ++ ['\'']) fuel s.next else .ok ⟨done, s⟩
    | '"' :: _ => if double then .ok ⟨done, s⟩ else wordFrom double (done ++ ['"']) fuel s.next
    | '\\' :: _ =>
      if double then
        match escape s.next with
        | .error e => .error e
        | .ok chunk => wordFrom double (done ++ chunk.text) fuel chunk.after
      else wordFrom double (done ++ ['\\']) fuel s.next
    | _ => .ok ⟨done, s⟩

/-- The text up to a blank, to the end of the text, or to the closing quote. -/
def word (double : Bool) (s : Cursor) : Except Error Chunk :=
  wordFrom double [] (s.rest.length + 1) s

/-- The rest of a scalar, of which `done` was read, and the place after its closing quote. -/
def restFrom (double : Bool) (done : List Char) : Nat → Cursor → Except Error Chunk
  | 0, s => .ok ⟨done, s⟩
  | fuel + 1, s =>
    if s.sees (if double then '"' else '\'') then .ok ⟨done, s.next⟩
    else
      match gap s with
      | .error e => .error e
      | .ok blanks =>
        match word double blanks.after with
        | .error e => .error e
        | .ok text => restFrom double (done ++ blanks.text ++ text.text) fuel text.after

/-- The scalar that begins with the quote at a place. -/
def scan (double : Bool) (s : Cursor) : Except Error Chunk :=
  match word double s.next with
  | .error e => .error e
  | .ok text => restFrom double text.text (s.rest.length + 1) text.after

end Quoted

end PipelineAudit.Yaml
