import PipelineAudit.Decimal.Shortest
import PipelineAudit.Json.Basic

/-!
# Writing JSON

`compact` writes a value without any space, `pretty` one item to a line, indented by two spaces a
level; both leave characters beyond ASCII as they are.  Numbers that JSON does not know are written
as words.
-/

namespace PipelineAudit.Json

/-- The form of a character in a JSON string. -/
def escaped (c : Char) : List Char :=
  if c = '"' then ['\\', '"']
  else if c = '\\' then ['\\', '\\']
  else if c = '\n' then ['\\', 'n']
  else if c = '\r' then ['\\', 'r']
  else if c = '\t' then ['\\', 't']
  else if c = '\x0c' then ['\\', 'f']
  else if c = '\x08' then ['\\', 'b']
  else if c.toNat < 32 then
    '\\' :: 'u' :: '0' :: '0' :: Nat.digitChar (c.toNat / 16) :: [Nat.digitChar (c.toNat % 16)]
  else [c]

/-- The form of a string. -/
def quotedText (s : String) : List Char :=
  '"' :: s.toList.flatMap escaped ++ ['"']

/-- The form of a number with a fraction or an exponent. -/
def floatText (x : Float) : String :=
  match Decimal.Binary.ofFloat x with
  | .nan => "NaN"
  | .infinite negative => if negative then "-Infinity" else "Infinity"
  | .finite .. => Decimal.shortest x

mutual

/-- The form of a value without any space. -/
def compact : Json → List Char
  | null => "null".toList
  | bool b => (if b then "true" else "false").toList
  | int n => (toString n).toList
  | float x => (floatText x).toList
  | text s => quotedText s
  | list [] => ['[', ']']
  | list (x :: xs) => '[' :: compact x ++ compactItems xs ++ [']']
  | object [] => ['{', '}']
  | object ((name, x) :: members) =>
    '{' :: quotedText name ++ ':' :: compact x ++ compactMembers members ++ ['}']

/-- The further items of a list without any space. -/
def compactItems : List Json → List Char
  | [] => []
  | x :: xs => ',' :: compact x ++ compactItems xs

/-- The further members of an object without any space. -/
def compactMembers : List (String × Json) → List Char
  | [] => []
  | (name, x) :: members =>
    ',' :: quotedText name ++ ':' :: compact x ++ compactMembers members

end

/-- A new line, indented to a level. -/
def newline (level : Nat) : List Char :=
  '\n' :: List.replicate (2 * level) ' '

mutual

/-- The form of a value with one item to a line, its own items at the level after `level`. -/
def prettyAt (level : Nat) : Json → List Char
  | null => "null".toList
  | bool b => (if b then "true" else "false").toList
  | int n => (toString n).toList
  | float x => (floatText x).toList
  | text s => quotedText s
  | list [] => ['[', ']']
  | list (x :: xs) =>
    '[' :: newline (level + 1) ++ prettyAt (level + 1) x ++ prettyItems (level + 1) xs ++
      newline level ++ [']']
  | object [] => ['{', '}']
  | object ((name, x) :: members) =>
    '{' :: newline (level + 1) ++ quotedText name ++ ':' :: ' ' :: prettyAt (level + 1) x ++
      prettyMembers (level + 1) members ++ newline level ++ ['}']

/-- The further items of a list, one to a line. -/
def prettyItems (level : Nat) : List Json → List Char
  | [] => []
  | x :: xs => ',' :: newline level ++ prettyAt level x ++ prettyItems level xs

/-- The further members of an object, one to a line. -/
def prettyMembers (level : Nat) : List (String × Json) → List Char
  | [] => []
  | (name, x) :: members =>
    ',' :: newline level ++ quotedText name ++ ':' :: ' ' :: prettyAt level x ++
      prettyMembers level members

end

/-- The form of a value with one item to a line. -/
def pretty (x : Json) : List Char :=
  prettyAt 0 x

end PipelineAudit.Json
