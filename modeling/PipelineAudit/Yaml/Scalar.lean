import PipelineAudit.Decimal.Reading
import PipelineAudit.Document.Basic
import PipelineAudit.Pattern.Match
import PipelineAudit.Text.Case
import PipelineAudit.Yaml.Error

/-!
# Tags and scalars

The tag of a node says what the node denotes.  A plain scalar without a tag gets one by its form;
any other scalar without a tag is a text.  `Tag.scalar` is the value of a scalar with a given tag.
-/

namespace PipelineAudit.Yaml

/-- A tag. -/
inductive Tag where
  | null
  | bool
  | int
  | float
  | timestamp
  | string
  | sequence
  | mapping
  | orderedMapping
  /-- The tag of the key that merges mappings. -/
  | merge
  /-- The tag of the key of a default value. -/
  | value
  | other (name : List Char)
  deriving DecidableEq, Repr

namespace Tag

/-- The beginning of the tags of the language itself. -/
def home : List Char :=
  "tag:yaml.org,2002:".toList

/-- The tags of the language itself, by their names. -/
def known : List (String × Tag) := [
  ("null", null), ("bool", bool), ("int", int), ("float", float), ("timestamp", timestamp),
  ("str", string), ("seq", sequence), ("map", mapping), ("omap", orderedMapping), ("merge", merge),
  ("value", value)]

/-- The tag that is written out in full as a given text. -/
def ofName (name : List Char) : Tag :=
  ((known.find? fun k => home ++ k.1.toList = name).map (·.2)).getD (other name)

/-- A tag written out in full. -/
def name : Tag → List Char
  | other n => n
  | t => home ++ ((known.find? fun k => k.2 = t).elim [] (·.1.toList))

end Tag

/-! ### Tags by the form of a scalar -/

namespace Form

open Pattern

/-- Whether a whole text has a form. -/
def matchesAll (p : Pattern) (text : List Char) : Bool :=
  (inOrder [p, textEnd]).beginsIn text

/-- A sign, or none. -/
def sign : Pattern := optional (oneOfChars "+-")

/-- A digit. -/
def numeral : Pattern := one Char.isDigit

/-- A digit or an underscore. -/
def numeralOrLine : Pattern := one fun c => c.isDigit || c = '_'

/-- A hexadecimal digit or an underscore. -/
def hexOrLine : Pattern := one fun c => (hexDigit? c).isSome || c = '_'

/-- Digits and underscores that begin with a digit. -/
def whole : Pattern := inOrder [numeral, many numeralOrLine]

/-- The letter of an exponent. -/
def exponentLetter : Pattern := oneOfChars "eE"

/-- Colons with numbers below sixty after them. -/
def sixties : Pattern :=
  many1 (inOrder [lit ":", optional (oneOfChars "012345"), numeral])

/-- The forms of a floating-point number.  Version 1.1 has numbers to base sixty, and no sign before
a point. -/
def float (version : Version) : Pattern :=
  oneOf ([
    inOrder [sign, whole, lit ".", many numeralOrLine,
      optional (inOrder [exponentLetter, sign, many1 numeral])],
    inOrder [sign, whole, exponentLetter, sign, many1 numeral],
    inOrder [if version.isOld then nothing else sign, lit ".", many1 numeralOrLine,
      optional (inOrder [exponentLetter, oneOfChars "+-", many1 numeral])],
    inOrder [sign, lit ".", oneOf [lit "inf", lit "Inf", lit "INF"]],
    inOrder [lit ".", oneOf [lit "nan", lit "NaN", lit "NAN"]]] ++
    if version.isOld then [inOrder [sign, whole, sixties, lit ".", many numeralOrLine]] else [])

/-- The forms of an integer.  Version 1.1 has numbers to base sixty, and marks those to base eight
by a leading zero alone. -/
def int (version : Version) : Pattern :=
  oneOf ([
    inOrder [sign, lit "0b", many1 (oneOfChars "01_")],
    inOrder [sign, lit "0x", many1 hexOrLine]] ++
    if version.isOld then
      let positive := inOrder [oneOfChars "123456789", many numeralOrLine]
      [inOrder [sign, optional (lit "0"), many1 (oneOfChars "01234567_")],
        inOrder [sign, oneOf [lit "0", positive]],
        inOrder [sign, positive, sixties]]
    else
      [inOrder [sign, lit "0", optional (lit "o"), many1 (oneOfChars "01234567_")],
        inOrder [sign, many1 numeralOrLine]])

/-- The forms of a truth value. -/
def truth (version : Version) : List String :=
  ["true", "True", "TRUE", "false", "False", "FALSE"] ++
    if version.isOld then
      ["y", "Y", "yes", "Yes", "YES", "n", "N", "no", "No", "NO", "on", "On", "ON", "off", "Off",
        "OFF"]
    else []

end Form

/-- A timestamp as it is written. -/
structure Stamp where
  date : Date
  /-- Whether month and day are written with two digits each. -/
  full : Bool
  /-- Hour, minute, second, the digits of the fraction, and the minutes of the offset. -/
  clock : Option (Nat × Nat × Nat × List Char × Option Int)

namespace Stamp

/-- A number of `least` to `most` digits at the beginning of a text. -/
def digits? (least most : Nat) (s : List Char) : Option (List Char × List Char) :=
  let d := (s.takeWhile Char.isDigit).take most
  if least ≤ d.length then some (d, s.drop d.length) else none

/-- What follows a given character at the beginning of a text. -/
def after? (c : Char) : List Char → Option (List Char)
  | d :: rest => if d = c then some rest else none
  | [] => none

/-- The offset from universal time that a text consists of, in minutes: none, or `Z`, or a sign
with hours and perhaps minutes. -/
def offset? (s : List Char) : Option (Option Int) :=
  match s.dropWhile isSpaceOrTab with
  | [] => if s.isEmpty then some none else none
  | ['Z'] => some (some 0)
  | c :: rest =>
    if c = '+' || c = '-' then do
      let (hours, rest) ← digits? 1 2 rest
      let (minutes, rest) ← if rest.isEmpty then some ([], []) else do
        digits? 2 2 (← after? ':' rest)
      let total : Int := 60 * Decimal.naturalOf hours + Decimal.naturalOf minutes
      if rest.isEmpty then some (some (if c = '-' then -total else total)) else none
    else none

/-- The time of day and the offset that a text consists of. -/
def clock? (s : List Char) : Option (Nat × Nat × Nat × List Char × Option Int) := do
  let (hour, s) ← digits? 1 2 s
  let (minute, s) ← digits? 2 2 (← after? ':' s)
  let (second, s) ← digits? 2 2 (← after? ':' s)
  let (fraction, s) :=
    match s with
    | '.' :: rest => (rest.takeWhile Char.isDigit, rest.dropWhile Char.isDigit)
    | _ => ([], s)
  let offset ← offset? s
  some (Decimal.naturalOf hour, Decimal.naturalOf minute, Decimal.naturalOf second, fraction,
    offset)

/-- What separates the date from the time of day: the letter `T`, or blanks. -/
def afterDate? : List Char → Option (List Char)
  | [] => none
  | c :: rest =>
    if c = 'T' || c = 't' then some rest
    else if isSpaceOrTab c then some (rest.dropWhile isSpaceOrTab)
    else none

/-- The timestamp that a text consists of. -/
def ofText? (s : List Char) : Option Stamp := do
  let (year, s) ← digits? 4 4 s
  let (month, s) ← digits? 1 2 (← after? '-' s)
  let (day, s) ← digits? 1 2 (← after? '-' s)
  let date : Date :=
    ⟨Decimal.naturalOf year, Decimal.naturalOf month, Decimal.naturalOf day⟩
  let full := month.length = 2 && day.length = 2
  if s.isEmpty then some ⟨date, full, none⟩
  else
    let clock ← clock? (← afterDate? s)
    some ⟨date, full, some clock⟩

/-- The microseconds of a fraction of a second, a digit after the sixth one rounding it. -/
def microseconds (fraction : List Char) : Nat :=
  let n := Decimal.naturalOf ((fraction ++ List.replicate 6 '0').take 6)
  if (fraction[6]?).any ('5' ≤ ·) then n + 1 else n

/-- The date or the moment of a timestamp. -/
def scalar (s : Stamp) : Except CalendarError Scalar :=
  match s.clock with
  | none => s.date.valid?.map .date
  | some (hour, minute, second, fraction, offset) =>
    let micro := microseconds fraction
    let moment := Moment.valid? ⟨s.date, hour, minute, second, micro % 1000000, offset⟩
    moment.map fun m => .moment (if micro < 1000000 then m else m.nextSecond)

end Stamp

/-- The tag that a plain scalar gets by its form. -/
def Tag.ofForm (version : Version) : List Char → Tag
  | [] => .null
  | c :: rest =>
    let text := c :: rest
    let oneOf (words : List String) : Bool := words.any fun w => w.toList = text
    if c.isDigit || ['+', '-', '.'].contains c then
      if Form.matchesAll (Form.float version) text then .float
      else if c ≠ '.' && Form.matchesAll (Form.int version) text then .int
      else if (Stamp.ofText? text).any fun s => s.full || s.clock.isSome then .timestamp
      else .string
    else if oneOf (Form.truth version) then .bool
    else if oneOf ["~", "null", "Null", "NULL"] then .null
    else if text = ['<', '<'] then .merge
    else if text = ['='] then .value
    else .string

/-! ### Values -/

/-- The words for truth values, in lower case. -/
def truthWords : List (String × Bool) := [
  ("yes", true), ("no", false), ("y", true), ("n", false), ("true", true), ("false", false),
  ("on", true), ("off", false)]

/-- The value of a digit to a base, of the digits of any script and the ASCII letters. -/
def digitIn? (base : Nat) (c : Char) : Option Nat :=
  ((Text.decimalValue? c).or (if c.isAlpha then some (c.toLower.toNat - 'a'.toNat + 10)
    else none)).filter (· < base)

/-- The letter that may stand after a leading zero for a base. -/
def baseLetter? : Nat → Option Char
  | 2 => some 'b'
  | 8 => some 'o'
  | 16 => some 'x'
  | _ => none

/-- The number that digits denote to a base: at least one digit. -/
def naturalIn? (base : Nat) (digits : List Char) : Option Nat :=
  if digits.isEmpty then none
  else digits.foldlM (fun n c => (digitIn? base c).map fun d => base * n + d) 0

/-- The integer that a text denotes to a base: blanks around it, a sign, perhaps a zero and the
letter of the base, and digits. -/
def integerIn (base : Nat) (text : List Char) : Except ScalarError Int :=
  let trimmed := Text.trimNumeral text
  let (negative, digits) :=
    match trimmed with
    | '-' :: rest => (true, rest)
    | '+' :: rest => (false, rest)
    | rest => (false, rest)
  let digits :=
    match digits with
    | '0' :: letter :: rest => if some letter.toLower = baseLetter? base then rest else digits
    | _ => digits
  match naturalIn? base digits with
  | none => .error (.notANumeral base text)
  | some n =>
    if base = 10 && 4300 < digits.length then .error (.tooManyDigits digits.length)
    else .ok (if negative then -n else n)

/-- The text of a number without underscores. -/
def withoutUnderscores (text : List Char) : List Char :=
  text.filter (· ≠ '_')

/-- Whether a number begins with a minus sign, and what follows the sign. -/
def signAndRest : List Char → Bool × List Char
  | '-' :: rest => (true, rest)
  | '+' :: rest => (false, rest)
  | rest => (false, rest)

/-- The integer that numbers between colons denote to base sixty. -/
def sexagesimal (digits : List Char) : Except ScalarError Int :=
  ((digits.splitOn ':').mapM (integerIn 10)).map (·.foldl (fun n part => 60 * n + part) 0)

/-- The integer that a text without a sign denotes in version 1.1 if no letter gives its base. -/
def oldInteger (digits : List Char) : Except ScalarError Int :=
  match digits with
  | [] => .error .noDigits
  | '0' :: _ => integerIn 8 digits
  | _ => sexagesimal digits

/-- The integer that a scalar denotes. -/
def integerScalar (version : Version) (text : List Char) : Except ScalarError Scalar :=
  match withoutUnderscores text with
  | [] => .error .noDigits
  | digits =>
    let (negative, digits) := signAndRest digits
    let value :=
      match digits with
      | '0' :: 'b' :: rest => integerIn 2 rest
      | '0' :: 'x' :: rest => integerIn 16 rest
      | '0' :: 'o' :: rest => integerIn 8 rest
      | _ => if version.isOld then oldInteger digits else integerIn 10 digits
    value.map fun n => .int (if negative then -n else n)

/-- The digits of any script as ASCII digits. -/
def asciiDigits (text : List Char) : List Char :=
  text.map fun c => ((Text.decimalValue? c).map Nat.digitChar).getD c

/-- The floating-point number that a text denotes. -/
def floatIn (text : List Char) : Except ScalarError Float :=
  (Decimal.plainFloat? (asciiDigits text)).elim (.error (.notADecimal text)) .ok

/-- The floating-point number that numbers between colons denote to base sixty, summed from the last
one on. -/
def sexagesimalFloat (digits : List Char) : Except ScalarError Float :=
  ((digits.splitOn ':').mapM floatIn).map fun parts =>
    (parts.foldr (fun part (sum, base) => (sum + part * base, base * 60.0)) (0.0, 1.0)).1

/-- The floating-point number that a scalar denotes. -/
def floatScalar (version : Version) (text : List Char) : Except ScalarError Scalar :=
  match Text.lower (withoutUnderscores text) with
  | [] => .error .noDigits
  | digits =>
    let (negative, digits) := signAndRest digits
    if digits = ".inf".toList then .ok (.float (Decimal.signed negative (1.0 / 0.0)))
    else if digits = ".nan".toList then .ok (.float (0.0 / 0.0))
    else
      let value :=
        if version.minor ≠ 2 && digits.contains ':' then sexagesimalFloat digits
        else floatIn digits
      value.map fun x => .float (Decimal.signed negative x)

/-- The truth value that a scalar denotes. -/
def truthScalar (text : List Char) : Except ScalarError Scalar :=
  match truthWords.find? fun w => w.1.toList = Text.lower text with
  | some (_, b) => .ok (.bool b)
  | none => .error .noTruthWord

/-- The date or the moment that a scalar denotes. -/
def timestampScalar (text : List Char) (place : Mark) : Except Error Scalar :=
  match Stamp.ofText? text with
  | none => complain (.badTimestamp text) place
  | some s => s.scalar.mapError fun e => .scalar (.calendar e)

/-- Whether a tag is one of a scalar. -/
def Tag.denotesScalar : Tag → Bool
  | null => true
  | bool => true
  | int => true
  | float => true
  | timestamp => true
  | string => true
  | _ => false

/-- The value of a scalar with a tag. -/
def Tag.scalar (tag : Tag) (version : Version) (text : List Char) (place : Mark) :
    Except Error Scalar :=
  match tag with
  | null => .ok .null
  | bool => (truthScalar text).mapError .scalar
  | int => (integerScalar version text).mapError .scalar
  | float => (floatScalar version text).mapError .scalar
  | timestamp => timestampScalar text place
  | string => .ok (.text (String.ofList text))
  | t => complain (.unknownTag t.name) place

end PipelineAudit.Yaml
