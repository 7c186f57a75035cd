import PipelineAudit.Yaml.Plain
import PipelineAudit.Yaml.Property

/-!
# Streams of tokens

A text is cut into tokens from left to right.  Block collections are opened and closed by the
columns of their lines, flow collections by brackets.  A token may turn out to begin a key only when
a colon is met after it on the same line; then a key symbol is put before it, and the start of a
mapping if the key opens one.  Such a token is held back until it is known, so that the stream of a
text with a fault releases just the tokens that are certain before the fault is met.
-/

namespace PipelineAudit.Yaml

/-- A flow collection that is open. -/
inductive Bracket where
  | square
  | curly
  deriving DecidableEq, Repr

/-- A token that may turn out to begin a key. -/
structure PossibleKey where
  /-- The number of tokens before it. -/
  number : Nat
  /-- Whether it must turn out to be one, as the only key that can stand in its column. -/
  required : Bool
  index : Nat
  mark : Mark

/-- The state of the cutting of a text. -/
structure Lexer where
  cursor : Cursor
  /-- The version of the language, as the latest directive gives it. -/
  version : Version := {}
  /-- The tokens so far, the latest first. -/
  latest : List Token := []
  /-- The column of the innermost block collection. -/
  indent : Int := -1
  /-- The columns of the block collections around it. -/
  outer : List Int := []
  /-- The flow collections that are open, the innermost first. -/
  brackets : List Bracket := []
  /-- Whether a key may begin here. -/
  keyAllowed : Bool := true
  /-- The possible keys, at most one for each number of open brackets. -/
  possible : List (Nat × PossibleKey) := []

namespace Lexer

/-- The number of open brackets. -/
def flowLevel (s : Lexer) : Nat :=
  s.brackets.length

/-- Whether the place is inside of brackets. -/
def inFlow (s : Lexer) : Bool :=
  !s.brackets.isEmpty

/-- The number of tokens so far. -/
def count (s : Lexer) : Nat :=
  s.latest.length

/-- The place of the cursor. -/
def mark (s : Lexer) : Mark :=
  s.cursor.mark

/-- A token without extent at the place of the cursor. -/
def emit (s : Lexer) (symbol : Symbol) : Lexer :=
  { s with latest := ⟨.symbol symbol, s.mark, s.mark⟩ :: s.latest }

/-- The token of a symbol that consists of the next characters. -/
def take (s : Lexer) (symbol : Symbol) (length : Nat) : Lexer :=
  let after := s.cursor.advance length
  { s with latest := ⟨.symbol symbol, s.mark, after.mark⟩ :: s.latest, cursor := after }

/-- A token that reaches from the cursor to a place. -/
def reach (s : Lexer) (content : TokenContent) (after : Cursor) : Lexer :=
  { s with latest := ⟨content, s.mark, after.mark⟩ :: s.latest, cursor := after }

/-! ### Possible keys -/

/-- Without the possible keys that lie on an earlier line or too far back; none of them may be
required. -/
def dropStale (s : Lexer) : Except Error Lexer :=
  let stale (k : Nat × PossibleKey) : Bool :=
    k.2.mark.line ≠ s.cursor.line || k.2.index + 1024 < s.cursor.index
  if s.possible.any fun k => stale k && k.2.required then complain .noColon s.mark
  else .ok { s with possible := s.possible.filter (!stale ·) }

/-- The possible key inside of the innermost brackets. -/
def possibleHere? (s : Lexer) : Option PossibleKey :=
  s.possible.lookup s.flowLevel

/-- Without the possible key inside of the innermost brackets. -/
def forgetHere (s : Lexer) : Lexer :=
  { s with possible := s.possible.filter (·.1 ≠ s.flowLevel) }

/-- Without the possible key inside of the innermost brackets, which may not be required. -/
def dropHere (s : Lexer) : Except Error Lexer :=
  if s.possibleHere?.any (·.required) then complain .noColon s.mark else .ok s.forgetHere

/-- With the next token as a possible key, if one may begin here. -/
def keepHere (s : Lexer) : Except Error Lexer :=
  if !s.keyAllowed then .ok s
  else
    s.dropHere.map fun s =>
      let required := !s.inFlow && s.indent = s.cursor.column
      let candidate : PossibleKey := ⟨s.count, required, s.cursor.index, s.mark⟩
      { s with possible := (s.flowLevel, candidate) :: s.possible }

/-- The tokens that are certain: those before the first possible key. -/
def certain (s : Lexer) : List Token :=
  s.latest.reverse.take (s.possible.foldl (fun n k => min n k.2.number) s.count)

/-! ### Columns -/

/-- Closes the block collections beyond a column, at most a given number of them. -/
def closeBeyond (column : Int) : Nat → Lexer → Lexer
  | 0, s => s
  | n + 1, s =>
    if column < s.indent then
      closeBeyond column n
        { s.emit .blockEnd with indent := s.outer.head?.getD (-1), outer := s.outer.tail }
    else s

/-- Closes the block collections beyond a column; inside of brackets columns do not count. -/
def unwind (s : Lexer) (column : Int) : Lexer :=
  if s.inFlow then s else closeBeyond column (s.outer.length + 1) s

/-- Whether a block collection in a column would be a new one. -/
def opens (s : Lexer) (column : Nat) : Bool :=
  s.indent < column

/-- Inside of a new block collection in a column. -/
def indented (s : Lexer) (column : Nat) : Lexer :=
  { s with indent := column, outer := s.indent :: s.outer }

/-- Inside of a block collection in the column of the cursor, which is opened if it is new. -/
def openBlock (s : Lexer) (start : Symbol) : Lexer :=
  if s.opens s.cursor.column then (s.indented s.cursor.column).emit start else s

/-! ### Between the tokens -/

/-- The place of the next token: after blanks, comments and line breaks.  Tabs are blanks inside of
brackets only; outside of them a key may begin a line. -/
def toNextToken : Nat → Lexer → Lexer
  | 0, s => s
  | fuel + 1, s =>
    let inFlow := s.inFlow
    let cursor := (s.cursor.skip fun c => c = ' ' || (inFlow && c = '\t')).skipComment
    match cursor.lineBreak? with
    | some (_, after) =>
      toNextToken fuel { s with cursor := after, keyAllowed := s.keyAllowed || !inFlow }
    | none => { s with cursor := cursor }

/-- The place of the next token; a byte order mark may begin the text. -/
def skipToToken (s : Lexer) : Lexer :=
  let cursor := if s.cursor.index = 0 && s.cursor.sees '\ufeff' then s.cursor.next else s.cursor
  toNextToken (s.cursor.rest.length + 1) { s with cursor }

/-! ### The kinds of tokens -/

/-- The end of the text. -/
def streamEnd (s : Lexer) : Except Error Lexer :=
  (s.unwind (-1)).dropHere.map fun s =>
    { s.emit .streamEnd with keyAllowed := false, possible := [] }

/-- A token outside of all collections: a directive or a separator of documents. -/
def outermost (s : Lexer) : Except Error Lexer :=
  (s.unwind (-1)).dropHere.map fun s => { s with keyAllowed := false }

/-- A directive. -/
def directive (s : Lexer) : Except Error Lexer :=
  match s.outermost with
  | .error e => .error e
  | .ok s =>
    (Yaml.directive s.version s.cursor).map fun d =>
      let s := s.reach d.value d.after
      match d.value with
      | .version _ minor => { s with version := ⟨minor⟩ }
      | _ => s

/-- A separator of documents. -/
def separator (s : Lexer) (symbol : Symbol) : Except Error Lexer :=
  s.outermost.map (·.take symbol 3)

/-- The beginning of a flow collection. -/
def openBracket (s : Lexer) (bracket : Bracket) (symbol : Symbol) : Except Error Lexer :=
  s.keepHere.map fun s =>
    { s with brackets := bracket :: s.brackets, keyAllowed := true }.take symbol 1

/-- The end of a flow collection. -/
def closeBracket (s : Lexer) (symbol : Symbol) : Except Error Lexer :=
  s.dropHere.map fun s => { s with brackets := s.brackets.tail, keyAllowed := false }.take symbol 1

/-- A comma between the entries of a flow collection. -/
def flowEntry (s : Lexer) : Except Error Lexer :=
  s.dropHere.map fun s => { s with keyAllowed := true }.take .flowEntry 1

/-- The dash before an entry of a block sequence. -/
def blockEntry (s : Lexer) : Except Error Lexer :=
  if s.inFlow then s.dropHere.map fun s => { s with keyAllowed := true }.take .blockEntry 1
  else if !s.keyAllowed then complain .sequenceEntryHere s.mark
  else
    (s.openBlock .blockSequenceStart).dropHere.map fun s =>
      { s with keyAllowed := true }.take .blockEntry 1

/-- The question mark before a key. -/
def key (s : Lexer) : Except Error Lexer :=
  if s.inFlow then s.dropHere.map fun s => { s with keyAllowed := false }.take .key 1
  else if !s.keyAllowed then complain .mappingKeyHere s.mark
  else
    (s.openBlock .blockMappingStart).dropHere.map fun s =>
      { s with keyAllowed := true }.take .key 1

/-- The tokens put before the one that a possible key is: a key symbol, and before it the start of a
mapping if the key opens one. -/
def insertKey (s : Lexer) (k : PossibleKey) : Lexer :=
  let token (symbol : Symbol) : Token := ⟨.symbol symbol, k.mark, k.mark⟩
  let place := s.count - k.number
  let after := s.latest.take place
  let before := s.latest.drop place
  if !s.inFlow && s.opens k.mark.column then
    { s.indented k.mark.column with
      latest := after ++ token .key :: token .blockMappingStart :: before }
  else { s with latest := after ++ token .key :: before }

/-- The colon before a value. -/
def value (s : Lexer) : Except Error Lexer :=
  match s.possibleHere? with
  | some k => .ok ({ s.forgetHere.insertKey k with keyAllowed := false }.take .value 1)
  | none =>
    if s.inFlow then .ok ({ s with keyAllowed := false }.take .value 1)
    else if !s.keyAllowed then complain .mappingValueHere s.mark
    else .ok ({ s.openBlock .blockMappingStart with keyAllowed := true }.take .value 1)

/-- An anchor or an alias. -/
def named (s : Lexer) (content : List Char → TokenContent) : Except Error Lexer :=
  match s.keepHere with
  | .error e => .error e
  | .ok s =>
    (anchorName s.cursor).map fun name =>
      { s with keyAllowed := false }.reach (content name.value) name.after

/-- A tag. -/
def tag (s : Lexer) : Except Error Lexer :=
  match s.keepHere with
  | .error e => .error e
  | .ok s => 
    (Yaml.tag s.version s.cursor).map fun t =>
      { s with keyAllowed := false }.reach t.value t.after

/-- A block scalar. -/
def blockScalar (s : Lexer) (folded : Bool) : Except Error Lexer :=
  match s.dropHere with
  | .error e => .error e
  | .ok s =>
    (BlockScalar.scan folded s.indent s.cursor).map fun chunk =>
      { s with keyAllowed := true }.reach (.scalar chunk.text false) chunk.after

/-- A scalar in quotation marks. -/
def quoted (s : Lexer) (double : Bool) : Except Error Lexer :=
  match s.keepHere with
  | .error e => .error e
  | .ok s =>
    (Quoted.scan double s.cursor).map fun chunk =>
      { s with keyAllowed := false }.reach (.scalar chunk.text false) chunk.after

/-- A scalar without quotation marks; a key may begin after it if a line ends there. -/
def plain (s : Lexer) : Except Error Lexer :=
  s.keepHere.map fun s =>
    let (chunk, endsLine) := Plain.scan s.version s.inFlow (s.indent + 1) s.cursor
    { s with keyAllowed := endsLine }.reach (.scalar chunk.text true) chunk.after

/-! ### Which token is next -/

/-- Whether a colon at the cursor is the one before a value; in version 1.1 it always is inside of
brackets.  `held` says whether the tokens before it are still held back. -/
def isValue (s : Lexer) (held : Bool) : Bool :=
  let last : Option TokenContent := s.latest.head?.map (·.content)
  match s.brackets with
  | [] => endsWord (s.cursor.peekAt 1)
  | .square :: _ => s.version.isOld || endsWord (s.cursor.peekAt 1)
  | .curly :: _ =>
    s.version.isOld || !(held && last = some (.symbol .value)) || endsWord (s.cursor.peekAt 1)

/-- The characters that begin no plain scalar whatever follows them. -/
def indicators : List Char :=
  [',', '[', ']', '{', '}', '#', '&', '*', '!', '|', '>', '\'', '"', '%', '@', '\x60']

/-- Whether a plain scalar begins at the cursor. -/
def isPlain (s : Lexer) : Bool :=
  match s.cursor.peek with
  | none => false
  | some c =>
    let next := s.cursor.peekAt 1
    if c = '-' then !endsWord next
    else if c = '?' then !s.inFlow && !endsWord next
    else if c = ':' then if s.inFlow then !next.any isSpaceOrTab else !endsWord next
    else !(isSpaceOrTab c || isBreak c || indicators.contains c)

/-- Cuts off the token that begins with a character. -/
def tokenAt (s : Lexer) (held : Bool) (c : Char) : Except Error Lexer :=
  let first := s.cursor.column = 0
  let blankNext := endsWord (s.cursor.peekAt 1)
  if first && c = '%' then s.directive
  else if first && s.cursor.atSeparator ['-', '-', '-'] then s.separator .documentStart
  else if first && s.cursor.atSeparator ['.', '.', '.'] then s.separator .documentEnd
  else if c = '[' then s.openBracket .square .flowSequenceStart
  else if c = '{' then s.openBracket .curly .flowMappingStart
  else if c = ']' then s.closeBracket .flowSequenceEnd
  else if c = '}' then s.closeBracket .flowMappingEnd
  else if c = ',' then s.flowEntry
  else if c = '-' && blankNext then s.blockEntry
  else if c = '?' && (s.inFlow || blankNext) then s.key
  else if c = ':' && s.isValue held then s.value
  else if c = '*' then s.named .reference
  else if c = '&' then s.named .anchor
  else if c = '!' then s.tag
  else if c = '|' && !s.inFlow then s.blockScalar false
  else if c = '>' && !s.inFlow then s.blockScalar true
  else if c = '\'' then s.quoted false
  else if c = '"' then s.quoted true
  else if s.isPlain then s.plain
  else complain (.cannotStart (some c)) s.mark

/-- Cuts off the next token, with the symbols before it that stand for no character; says whether
the text has ended. -/
def next (s : Lexer) : Except Error (Lexer × Bool) :=
  let held := !s.possible.isEmpty
  match s.skipToToken.dropStale with
  | .error e => .error e
  | .ok s =>
    let s := s.unwind s.cursor.column
    match s.cursor.peek with
    | none => s.streamEnd.map (·, true)
    | some c =>
      match s.tokenAt held c with
      | .error e => .error e
      | .ok s => s.dropStale.map (·, false)

end Lexer

/-! ### Streams -/

/-- The tokens of a text, and the fault that is met when more than these are asked for. -/
structure TokenStream where
  tokens : List Token
  fault : Option Error := none

namespace TokenStream

/-- The stream of a text that is partly cut. -/
def complete : Nat → Lexer → TokenStream
  | 0, s => ⟨s.certain, none⟩
  | fuel + 1, s =>
    match s.next with
    | .error e => ⟨s.certain, some e⟩
    | .ok (s, true) => ⟨s.latest.reverse, none⟩
    | .ok (s, false) => complete fuel s

/-- The first character of a text that it may not contain, with its index. -/
def unacceptable? (index : Nat) : List Char → Option (Char × Nat)
  | [] => none
  | c :: rest => if isAcceptable c then unacceptable? (index + 1) rest else some (c, index)

/-- The tokens of a text. -/
def ofText (text : List Char) : TokenStream :=
  match unacceptable? 0 text with
  | some (c, index) => ⟨[], some (.malformed (.unacceptable c index) none)⟩
  | none => complete (text.length + 2) { cursor := { rest := text } }

end TokenStream

end PipelineAudit.Yaml
