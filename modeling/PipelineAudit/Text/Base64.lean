/-!
# Base64

Texts over sixty-four characters that stand for bytes, four characters for three bytes.  The last
two characters of the alphabet have two spellings, and decoding accepts both.  It passes over
characters that are not of the alphabet and stops at the padding that completes a group of four.
`encodeUrl` writes the spelling for addresses, without padding.
-/

namespace PipelineAudit.Text.Base64

/-- The value of a character of the alphabet. -/
def value? (c : Char) : Option Nat :=
  if 'A' ≤ c && c ≤ 'Z' then some (c.toNat - 'A'.toNat)
  else if 'a' ≤ c && c ≤ 'z' then some (c.toNat - 'a'.toNat + 26)
  else if '0' ≤ c && c ≤ '9' then some (c.toNat - '0'.toNat + 52)
  else if c = '+' || c = '-' then some 62
  else if c = '/' || c = '_' then some 63
  else none

/-- How much of a group of four was read: the number of its characters, the bits not yet written,
and the number of padding characters seen. -/
structure Group where
  count : Nat
  bits : Nat
  pads : Nat

/-- The group after one more character of the alphabet, and the byte that it completes. -/
def Group.add (g : Group) (v : Nat) : Option UInt8 × Group :=
  match g.count with
  | 0 => (none, ⟨1, v, 0⟩)
  | 1 => (some (UInt8.ofNat (g.bits * 4 + v / 16)), ⟨2, v % 16, 0⟩)
  | 2 => (some (UInt8.ofNat (g.bits * 16 + v / 4)), ⟨3, v % 4, 0⟩)
  | _ => (some (UInt8.ofNat (g.bits * 64 + v)), ⟨0, 0, 0⟩)

/-- The bytes that the rest of a text stands for, none if it ends inside of a group. -/
def decodeFrom (g : Group) : List Char → Option (List UInt8)
  | [] => if g.count = 0 then some [] else none
  | '=' :: rest =>
    if 2 ≤ g.count then
      if 4 ≤ g.count + g.pads + 1 then some []
      else decodeFrom { g with pads := g.pads + 1 } rest
    else decodeFrom g rest
  | c :: rest =>
    match value? c with
    | none => decodeFrom g rest
    | some v =>
      match g.add v with
      | (none, h) => decodeFrom h rest
      | (some b, h) => (decodeFrom h rest).map (b :: ·)

/-- The bytes that a text stands for; a text with characters beyond ASCII stands for none. -/
def decode? (text : List Char) : Option (List UInt8) :=
  if text.all (·.toNat < 128) then decodeFrom ⟨0, 0, 0⟩ text else none

/-- The text with as much padding as completes the last group of four. -/
def padded (text : List Char) : List Char :=
  text ++ List.replicate ((4 - text.length % 4) % 4) '='

/-- The character of a value, in the spelling for addresses. -/
def urlChar (v : Nat) : Char :=
  if v < 26 then Char.ofNat ('A'.toNat + v)
  else if v < 52 then Char.ofNat ('a'.toNat + (v - 26))
  else if v < 62 then Char.ofNat ('0'.toNat + (v - 52))
  else if v = 62 then '-'
  else '_'

/-- The text that stands for bytes, in the spelling for addresses, without padding. -/
def encodeUrl : List UInt8 → List Char
  | [] => []
  | [a] => [urlChar (a.toNat / 4), urlChar (a.toNat % 4 * 16)]
  | [a, b] =>
    [urlChar (a.toNat / 4), urlChar (a.toNat % 4 * 16 + b.toNat / 16), urlChar (b.toNat % 16 * 4)]
  | a :: b :: c :: rest =>
    urlChar (a.toNat / 4) :: urlChar (a.toNat % 4 * 16 + b.toNat / 16) ::
      urlChar (b.toNat % 16 * 4 + c.toNat / 64) :: urlChar (c.toNat % 64) :: encodeUrl rest

end PipelineAudit.Text.Base64
