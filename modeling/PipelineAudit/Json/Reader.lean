import PipelineAudit.Decimal.Reading
import PipelineAudit.Failure
import PipelineAudit.Json.Basic

/-!
# Reading JSON

`Json.read` reads a whole text as one value.  It fails with the position at which it gives up, or
because an integer has more digits than it reads, or because more lists and objects are nested in
each other than it can follow.  Besides JSON it accepts the words `NaN`, `Infinity` and `-Infinity`.
Of the members of an object with the same name the last value counts.
-/

namespace PipelineAudit.Json

/-- A place in a text: the number of characters before it, and those after it. -/
structure Spot where
  index : Nat
  rest : List Char

namespace Spot

/-- The place a number of characters further on. -/
def advance (s : Spot) (n : Nat) : Spot :=
  ⟨s.index + n, s.rest.drop n⟩

/-- The place after the blanks that JSON knows. -/
def skipBlanks (s : Spot) : Spot :=
  s.advance (s.rest.takeWhile fun c => c = ' ' || c = '\t' || c = '\n' || c = '\r').length

end Spot

/-- Why a text could not be read. -/
inductive ReadError where
  /-- The text is no JSON from a position on. -/
  | malformed (position : Nat)
  /-- An integer has too many digits. -/
  | tooManyDigits (count : Nat)
  /-- A container of a kind is nested too deeply. -/
  | tooDeep (container : Container)
  deriving DecidableEq, Repr

/-- A result with the place after it, or the failure. -/
abbrev Reading (α : Type) : Type := Except ReadError (α × Spot)

/-- The value of a hexadecimal digit. -/
def hexValue? (c : Char) : Option Nat :=
  if c.isDigit then some (c.toNat - '0'.toNat)
  else if 'a' ≤ c && c ≤ 'f' then some (c.toNat - 'a'.toNat + 10)
  else if 'A' ≤ c && c ≤ 'F' then some (c.toNat - 'A'.toNat + 10)
  else none

/-- The value of exactly four hexadecimal digits. -/
def fourHex? (s : List Char) : Option Nat :=
  if s.length < 4 then none
  else (s.take 4).foldlM (fun n c => (hexValue? c).map fun d => 16 * n + d) 0

/-- The character of a code unit; a unit that stands for no character becomes the replacement
character. -/
def charOfUnit (n : Nat) : Char :=
  if 0xd800 ≤ n && n ≤ 0xdfff then '\ufffd' else Char.ofNat n

/-- The character that an escape stands for, and the number of characters of the escape after
`\u`; the position of a failure is that of the `u` at fault. -/
def unicodeEscape (s : Spot) : Except ReadError (Char × Nat) :=
  let digits := s.rest
  if digits.length ≤ 4 then .error (.malformed (s.index - 1))
  else
    match fourHex? digits with
    | none => .error (.malformed (s.index - 1))
    | some high =>
      let tail := digits.drop 4
      if 0xd800 ≤ high && high ≤ 0xdbff && 6 < tail.length && "\\u".toList.isPrefixOf tail then
        match fourHex? (tail.drop 2) with
        | none => .error (.malformed (s.index + 5))
        | some low =>
          if 0xdc00 ≤ low && low ≤ 0xdfff then
            .ok (Char.ofNat (0x10000 + (high - 0xd800) * 0x400 + (low - 0xdc00)), 10)
          else .ok (charOfUnit high, 4)
      else .ok (charOfUnit high, 4)

/-- The character after a backslash that stands for itself or for a control. -/
def simpleEscape? : Char → Option Char
  | '"' => some '"'
  | '\\' => some '\\'
  | '/' => some '/'
  | 'b' => some '\x08'
  | 'f' => some '\x0c'
  | 'n' => some '\n'
  | 'r' => some '\r'
  | 't' => some '\t'
  | _ => none

/-- The rest of a string that began at position `start`; `done` holds what was read, in
reverse. -/
def stringFrom (start : Nat) (done : List Char) : Nat → Spot → Reading String
  | 0, _ => .error (.malformed start)
  | fuel + 1, s =>
    match s.rest with
    | [] => .error (.malformed start)
    | '"' :: _ => .ok (String.ofList done.reverse, s.advance 1)
    | '\\' :: [] => .error (.malformed start)
    | '\\' :: 'u' :: _ =>
      match unicodeEscape (s.advance 2) with
      | .error e => .error e
      | .ok (c, n) => stringFrom start (c :: done) fuel (s.advance (2 + n))
    | '\\' :: c :: _ =>
      match simpleEscape? c with
      | none => .error (.malformed s.index)
      | some d => stringFrom start (d :: done) fuel (s.advance 2)
    | c :: _ =>
      if c.toNat < 32 then .error (.malformed s.index)
      else stringFrom start (c :: done) fuel (s.advance 1)

/-- The string that begins after the quotation mark before a place. -/
def string (s : Spot) : Reading String :=
  stringFrom (s.index - 1) [] (s.rest.length + 1) s

/-- The digits of an integer without needless zeros that a text begins with. -/
def wholeDigits (s : List Char) : List Char :=
  match s with
  | '0' :: _ => ['0']
  | _ => s.takeWhile Char.isDigit

/-- The fraction that a text begins with, its point included. -/
def fractionPart (s : List Char) : List Char :=
  match s with
  | '.' :: r =>
    let digits := r.takeWhile Char.isDigit
    if digits.isEmpty then [] else '.' :: digits
  | _ => []

/-- The exponent that a text begins with, its letter and sign included. -/
def exponentSpan (s : List Char) : List Char :=
  match s with
  | c :: r =>
    if c = 'e' || c = 'E' then
      let sign := r.takeWhile fun d => d = '-' || d = '+'
      let digits := (r.drop sign.length).takeWhile Char.isDigit
      if digits.isEmpty || 1 < sign.length then [] else c :: sign ++ digits
    else []
  | [] => []

/-- The number of digits up to which an integer is read. -/
def mostDigits : Nat := 4300

/-- The number at a place. -/
def number (s : Spot) : Reading Json :=
  let negative := s.rest.head? = some '-'
  let body := if negative then s.rest.drop 1 else s.rest
  let whole := wholeDigits body
  if whole.isEmpty then .error (.malformed s.index)
  else
    let fraction := fractionPart (body.drop whole.length)
    let exponent := exponentSpan (body.drop (whole.length + fraction.length))
    let after := s.advance ((if negative then 1 else 0) + whole.length + fraction.length +
      exponent.length)
    if fraction.isEmpty && exponent.isEmpty then
      if mostDigits < whole.length then .error (.tooManyDigits whole.length)
      else
        let n : Int := Decimal.naturalOf whole
        .ok (.int (if negative then -n else n), after)
    else
      let (power, _) := Decimal.exponentPart exponent
      let x := (Decimal.Numeral.mk whole (fraction.drop 1) power).toFloat
      .ok (.float (Decimal.signed negative x), after)

/-- The words that stand for values. -/
def constants : List (String × Json) := [
  ("null", .null), ("true", .bool true), ("false", .bool false), ("NaN", .float (0.0 / 0.0)),
  ("Infinity", .float (1.0 / 0.0)), ("-Infinity", .float (-1.0 / 0.0))]

/-- A word that stands for a value, or a number. -/
def atom (s : Spot) : Reading Json :=
  match constants.find? fun k => k.1.toList.isPrefixOf s.rest with
  | some (word, x) => .ok (x, s.advance word.length)
  | none => number s

mutual

/-- The value at a place, in which `room` containers may be nested in each other. -/
def value : Nat → Nat → Spot → Reading Json
  | 0, _, s => .error (.malformed s.index)
  | fuel + 1, room, s =>
    match s.rest with
    | '"' :: _ => (string (s.advance 1)).map fun (t, after) => (.text t, after)
    | '{' :: _ =>
      match room with
      | 0 => .error (.tooDeep .object)
      | room + 1 =>
        let s := (s.advance 1).skipBlanks
        match s.rest with
        | '}' :: _ => .ok (.object [], s.advance 1)
        | _ => members fuel room [] s
    | '[' :: _ =>
      match room with
      | 0 => .error (.tooDeep .array)
      | room + 1 =>
        let s := (s.advance 1).skipBlanks
        match s.rest with
        | ']' :: _ => .ok (.list [], s.advance 1)
        | _ => items fuel room [] s
    | _ => atom s

/-- The items of a list from a place on, after those already read, which are in reverse. -/
def items : Nat → Nat → List Json → Spot → Reading Json
  | 0, _, _, s => .error (.malformed s.index)
  | fuel + 1, room, done, s =>
    match value fuel room s with
    | .error e => .error e
    | .ok (x, s) =>
      let s := s.skipBlanks
      match s.rest with
      | ']' :: _ => .ok (.list (x :: done).reverse, s.advance 1)
      | ',' :: _ => items fuel room (x :: done) (s.advance 1).skipBlanks
      | _ => .error (.malformed s.index)

/-- The members of an object from a place on, after those already read. -/
def members : Nat → Nat → List (String × Json) → Spot → Reading Json
  | 0, _, _, s => .error (.malformed s.index)
  | fuel + 1, room, done, s =>
    match s.rest with
    | '"' :: _ =>
      match string (s.advance 1) with
      | .error e => .error e
      | .ok (name, s) =>
        let s := s.skipBlanks
        match s.rest with
        | ':' :: _ =>
          match value fuel room (s.advance 1).skipBlanks with
          | .error e => .error e
          | .ok (x, s) =>
            let s := s.skipBlanks
            let done := insert done name x
            match s.rest with
            | '}' :: _ => .ok (.object done, s.advance 1)
            | ',' :: _ => members fuel room done (s.advance 1).skipBlanks
            | _ => .error (.malformed s.index)
        | _ => .error (.malformed s.index)
    | _ => .error (.malformed s.index)

end

/-- The number of containers that can be nested in each other: the depth to which calls may go,
less that of the calls around the reader. -/
def deepest : Nat := 980

/-- The value that makes up a whole text, or the failure. -/
def read (text : List Char) : Except ReadError Json :=
  if text.head? = some '\ufeff' then .error (.malformed 0)
  else
    match value (2 * text.length + 2) deepest (Spot.mk 0 text).skipBlanks with
    | .error e => .error e
    | .ok (x, s) =>
      let s := s.skipBlanks
      if s.rest.isEmpty then .ok x else .error (.malformed s.index)

end PipelineAudit.Json
