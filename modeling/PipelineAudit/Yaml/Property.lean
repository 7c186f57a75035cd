import PipelineAudit.Yaml.BlockScalar

/-!
# Directives, anchors and tags

A directive is a line that begins with a percent sign: it gives the version of the language, makes a
handle stand for the beginning of a tag, or is ignored.  Anchors, aliases and tags stand before or
instead of the content of a node.  A tag is written out in full or as a handle with a suffix, in
which bytes may be escaped.
-/

namespace PipelineAudit.Yaml

/-- Something that was read, and the place after it. -/
structure Found (α : Type) where
  value : α
  after : Cursor

/-! ### Escaped bytes -/

/-- Whether a byte continues a character. -/
def isContinuation (byte : Nat) : Bool :=
  0x80 ≤ byte && byte < 0xc0

/-- Whether a byte can be the second one of a character that begins with a given byte: no
character is written in more bytes than it needs, none is half of a surrogate pair, and none lies
beyond the last one. -/
def isSecond (first byte : Nat) : Bool :=
  isContinuation byte &&
    (if first = 0xe0 then 0xa0 ≤ byte
      else if first = 0xed then byte < 0xa0
      else if first = 0xf0 then 0x90 ≤ byte
      else if first = 0xf4 then byte < 0x90
      else true)

/-- The number of bytes of a character that begins with a given byte. -/
def byteCount? (first : Nat) : Option Nat :=
  if first < 0x80 then some 1
  else if 0xc2 ≤ first && first < 0xe0 then some 2
  else if 0xe0 ≤ first && first < 0xf0 then some 3
  else if 0xf0 ≤ first && first < 0xf5 then some 4
  else none

/-- The bytes after the first one that continue a character. -/
def continuing (first : Nat) : List Nat → List Nat
  | second :: rest =>
    if isSecond first second then second :: rest.takeWhile isContinuation else []
  | [] => []

/-- The characters that bytes encode, from the byte at an index on. -/
def decodeFrom (index : Nat) : Nat → List Nat → Except Problem (List Char)
  | 0, _ => .ok []
  | _ + 1, [] => .ok []
  | fuel + 1, first :: rest =>
    match byteCount? first with
    | none => .error (.badBytes first index (index + 1) .badStart)
    | some count =>
      let tail := (continuing first rest).take (count - 1)
      if tail.length + 1 < count then
        let problem := if rest.length = tail.length then .incomplete else .badContinuation
        .error (.badBytes first index (index + 1 + tail.length) problem)
      else
        let lead := if count = 1 then first else first % Nat.pow 2 (7 - count)
        let code := tail.foldl (fun code byte => 64 * code + byte % 64) lead
        (decodeFrom (index + count) fuel (rest.drop tail.length)).map (Char.ofNat code :: ·)

/-- The escaped bytes at a place. -/
def escapedBytes (done : List Nat) : Nat → Cursor → Except Error (Found (List Nat))
  | 0, s => .ok ⟨done, s⟩
  | fuel + 1, s =>
    if s.sees '%' then
      match hexAt s.next 2 with
      | .error found => complain (.expected .uriEscape found) s.next.mark
      | .ok byte => escapedBytes (done ++ [byte]) fuel (s.advance 3)
    else .ok ⟨done, s⟩

/-- The characters that the escaped bytes at a place encode. -/
def escapedText (s : Cursor) : Except Error (Found (List Char)) :=
  match escapedBytes [] (s.rest.length + 1) s with
  | .error e => .error e
  | .ok bytes =>
    match decodeFrom 0 bytes.value.length bytes.value with
    | .error problem => complain problem s.mark
    | .ok text => .ok ⟨text, bytes.after⟩

/-! ### Tags -/

/-- Whether a character can be part of a tag; a number sign can after version 1.1. -/
def isTagChar (version : Version) (c : Char) : Bool :=
  isAlnumOr "-;/?:@&=+$,_.!~*'()[]".toList c || (version.isLater && c = '#')

/-- The characters of a tag at a place. -/
def tagTextFrom (version : Version) (done : List Char) :
    Nat → Cursor → Except Error (Found (List Char))
  | 0, s => .ok ⟨done, s⟩
  | fuel + 1, s =>
    let plain := s.run (isTagChar version)
    let done := done ++ plain
    let s := s.advance plain.length
    if s.sees '%' then
      match escapedText s with
      | .error e => .error e
      | .ok text => tagTextFrom version (done ++ text.value) fuel text.after
    else .ok ⟨done, s⟩

/-- The characters of a tag at a place, at least one. -/
def tagText (version : Version) (s : Cursor) : Except Error (Found (List Char)) :=
  if s.peek.any fun c => isTagChar version c || c = '%' then
    tagTextFrom version [] (s.rest.length + 1) s
  else complain (.expected .uri s.peek) s.mark

/-- The handle of a tag at a place: a name between two exclamation marks, or a single mark before a
space. -/
def tagHandle (s : Cursor) : Except Error (Found (List Char)) :=
  if !s.sees '!' then complain (.expected .exclamationMark s.peek) s.mark
  else if s.peekAt 1 = some ' ' then .ok ⟨['!'], s.next⟩
  else
    let name := s.next.run (isAlnumOr ['-', '_'])
    let after := s.next.advance name.length
    if after.sees '!' then .ok ⟨'!' :: name ++ ['!'], after.next⟩
    else complain (.unclosed '!' after.peek) after.mark

/-- The handle, if there is one, and the suffix of the tag at a place, with what follows not yet
checked. -/
def tagParts (version : Version) (s : Cursor) :
    Except Error (Found (Option (List Char) × List Char)) :=
  let (short, s) := if s.peekAt 1 = some '!' then (['!', '!'], s.next) else (['!'], s)
  if s.peekAt 1 = some '<' then
    match tagText version (s.advance 2) with
    | .error e => .error e
    | .ok text =>
      if text.after.sees '>' then .ok ⟨(none, text.value), text.after.next⟩
      else complain (.unclosed '>' text.after.peek) text.after.mark
  else if endsWord (s.peekAt 1) then .ok ⟨(none, ['!']), s.next⟩
  else if (s.next.run fun c => !(c = ' ' || isBreak c)).contains '!' then
    match tagHandle s with
    | .error e => .error e
    | .ok handle =>
      (tagText version handle.after).map fun t => ⟨(some handle.value, t.value), t.after⟩
  else (tagText version s.next).map fun t => ⟨(some short, t.value), t.after⟩

/-- The tag at a place. -/
def tag (version : Version) (s : Cursor) : Except Error (Found TokenContent) :=
  match tagParts version s with
  | .error e => .error e
  | .ok parts =>
    if endsField parts.after.peek then .ok ⟨.tag parts.value.1 parts.value.2, parts.after⟩
    else complain (.expected .space parts.after.peek) parts.after.mark

/-! ### Anchors -/

/-- The characters besides line ends and blanks that may follow the name of an anchor. -/
def afterName : List Char :=
  ['?', ':', ',', '[', ']', '{', '}', '%', '@', '\x60']

/-- The name of the anchor or alias at a place. -/
def anchorName (s : Cursor) : Except Error (Found (List Char)) :=
  let name := s.next.run isNameChar
  let after := s.next.advance name.length
  if name.isEmpty then complain (.expected .nameCharacter s.next.peek) s.next.mark
  else if after.peek.all fun c => isBreak c || isSpaceOrTab c || afterName.contains c then
    .ok ⟨name, after⟩
  else complain (.expected .nameCharacter after.peek) after.mark

/-! ### Directives -/

/-- The number of a version at a place. -/
def versionNumber (s : Cursor) : Except Error (Found Nat) :=
  let digits := s.run Char.isDigit
  if digits.isEmpty then complain (.expected .digit s.peek) s.mark
  else
    .ok ⟨digits.foldl (fun n c => 10 * n + (c.toNat - '0'.toNat)) 0, s.advance digits.length⟩

/-- The version that a directive gives. -/
def versionDirective (s : Cursor) : Except Error (Found TokenContent) :=
  match versionNumber (s.skip (· = ' ')) with
  | .error e => .error e
  | .ok major =>
    let s := major.after
    if !s.sees '.' then complain (.expected .digitOrPoint s.peek) s.mark
    else
      match versionNumber s.next with
      | .error e => .error e
      | .ok minor =>
        let s := minor.after
        if endsField s.peek then .ok ⟨.version major.value minor.value, s⟩
        else complain (.expected .digitOrPoint s.peek) s.mark

/-- The handle and the beginning of tags that a directive gives. -/
def handleDirective (version : Version) (s : Cursor) : Except Error (Found TokenContent) :=
  match tagHandle (s.skip (· = ' ')) with
  | .error e => .error e
  | .ok handle =>
    let s := handle.after
    if !s.sees ' ' then complain (.expected .space s.peek) s.mark
    else
      match tagText version (s.skip (· = ' ')) with
      | .error e => .error e
      | .ok text =>
        let s := text.after
        if endsField s.peek then .ok ⟨.tagHandle handle.value text.value, s⟩
        else complain (.expected .space s.peek) s.mark

/-- The directive with a given name, from the place after the name on. -/
def directiveNamed (version : Version) (name : List Char) (s : Cursor) :
    Except Error (Found TokenContent) :=
  if name = ['Y', 'A', 'M', 'L'] then versionDirective s
  else if name = ['T', 'A', 'G'] then handleDirective version s
  else .ok ⟨.otherDirective, s.skip (!isLineEnd ·)⟩

/-- The directive at a place, and the place after its line. -/
def directive (version : Version) (s : Cursor) : Except Error (Found TokenContent) :=
  let name := s.next.run (isAlnumOr ['-', '_', ':', '.'])
  let after := s.next.advance name.length
  if name.isEmpty || !endsField after.peek then
    complain (.expected .nameCharacter after.peek) after.mark
  else
    match directiveNamed version name after with
    | .error e => .error e
    | .ok found => (BlockScalar.endLine found.after).map fun after => ⟨found.value, after⟩

end PipelineAudit.Yaml
