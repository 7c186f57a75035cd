import PipelineAudit.Json.Reader

/-!
# The grammar of JSON

The texts that stand for a value, said without a reader.  Each part of the grammar relates a text to
what follows the part in it.  A dialect says which words stand for values, how many digits an
integer may have, and how many lists and objects may be nested in each other: `Dialect.standard` is
JSON, `Dialect.accepted` knows the words for infinity and not-a-number besides and keeps to a limit
of digits and of nesting.

* `IsText`: a text is a spelling of a value.
-/

namespace PipelineAudit.Json

/-! ### Blanks -/

/-- Whether a character is a blank between the parts of a text. -/
def IsGap (c : Char) : Prop :=
  c = ' ' ∨ c = '\t' ∨ c = '\n' ∨ c = '\r'

instance (c : Char) : Decidable (IsGap c) :=
  inferInstanceAs (Decidable (_ ∨ _))

/-- What follows some blanks. -/
def Gap (s t : List Char) : Prop :=
  ∃ blanks, (∀ c ∈ blanks, IsGap c) ∧ s = blanks ++ t

theorem Gap.refl (s : List Char) :
  Gap s s
  := ⟨[], List.forall_mem_nil _, rfl⟩

/-- Before a character that is no blank there is none. -/
theorem Gap.eq_of_cons {c : Char} {s t : List Char} (h : Gap (c :: s) t) (hc : ¬ IsGap c) :
  t = c :: s
  := by
  obtain ⟨blanks, hb, he⟩ := h
  cases blanks with
  | nil => exact he.symm
  | cons b blanks =>
    rw [(List.cons.inj he).1] at hc
    exact absurd (hb b List.mem_cons_self) hc

/-! ### Texts in quotation marks -/

/-- What stands after a backslash, and the character that it means. -/
def escapes : List (Char × Char) := [
  ('"', '"'), ('\\', '\\'), ('/', '/'), ('b', '\x08'), ('f', '\x0c'), ('n', '\n'), ('r', '\r'),
  ('t', '\t')]

/-- Four hexadecimal digits and the code unit that they write. -/
def IsUnit (digits : List Char) (n : Nat) : Prop :=
  ∃ a b c d, digits.map hexValue? = [some a, some b, some c, some d] ∧
    n = 4096 * a + 256 * b + 16 * c + d

/-- A code unit that begins a pair. -/
def IsHigh (n : Nat) : Prop :=
  0xd800 ≤ n ∧ n ≤ 0xdbff

/-- A code unit that ends a pair. -/
def IsLow (n : Nat) : Prop :=
  0xdc00 ≤ n ∧ n ≤ 0xdfff

/-- The character that a pair of code units writes. -/
def charOfPair (high low : Nat) : Char :=
  Char.ofNat (0x10000 + (high - 0xd800) * 0x400 + (low - 0xdc00))

/-- A text goes on with the escape of a code unit that ends a pair. -/
def BeginsLow (s : List Char) : Prop :=
  ∃ digits low rest, s = '\\' :: 'u' :: (digits ++ rest) ∧ IsUnit digits low ∧ IsLow low

/-- The characters up to the closing quotation mark, and what follows that. -/
inductive Quoted : List Char → List Char → List Char → Prop where
  | close {t : List Char} :
      Quoted ('"' :: t) [] t
  | plain {c : Char} {s chars t : List Char} (hc : 32 ≤ c.toNat ∧ c ≠ '"' ∧ c ≠ '\\')
      (h : Quoted s chars t) :
      Quoted (c :: s) (c :: chars) t
  | escape {e c : Char} {s chars t : List Char} (he : (e, c) ∈ escapes) (h : Quoted s chars t) :
      Quoted ('\\' :: e :: s) (c :: chars) t
  | pair {digits digits' : List Char} {high low : Nat} {s chars t : List Char}
      (hd : IsUnit digits high) (hh : IsHigh high) (hd' : IsUnit digits' low) (hl : IsLow low)
      (h : Quoted s chars t) :
      Quoted ('\\' :: 'u' :: (digits ++ '\\' :: 'u' :: (digits' ++ s)))
        (charOfPair high low :: chars) t
  | unit {digits : List Char} {n : Nat} {s chars t : List Char} (hd : IsUnit digits n)
      (hs : ¬ (IsHigh n ∧ BeginsLow s)) (h : Quoted s chars t) :
      Quoted ('\\' :: 'u' :: (digits ++ s)) (charOfUnit n :: chars) t

/-! ### Numbers -/

/-- At least one digit. -/
def IsDigits (digits : List Char) : Prop :=
  digits ≠ [] ∧ ∀ c ∈ digits, c.isDigit

/-- The digits of a whole number, without needless zeros. -/
def IsWhole (digits : List Char) : Prop :=
  IsDigits digits ∧ (digits.head? = some '0' → digits = ['0'])

/-- A fraction, which may be absent, and its digits. -/
def IsFraction (text digits : List Char) : Prop :=
  (text = [] ∧ digits = []) ∨ (text = '.' :: digits ∧ IsDigits digits)

/-- An exponent, which may be absent, and the power of ten that it means. -/
def IsExponent (text : List Char) (power : Int) : Prop :=
  (text = [] ∧ power = 0) ∨
    ∃ e sign digits, text = e :: (sign ++ digits) ∧ (e = 'e' ∨ e = 'E') ∧ IsDigits digits ∧
      ((sign = ['-'] ∧ power = -(Decimal.naturalOf digits : Int)) ∨
        ((sign = [] ∨ sign = ['+']) ∧ power = Decimal.naturalOf digits))

/-- The sign of a number. -/
def signText (negative : Bool) : List Char :=
  if negative then ['-'] else []

/-! ### Values -/

/-- What tells one dialect of JSON from another. -/
structure Dialect where
  /-- The words that stand for values. -/
  words : List (String × Json)
  /-- The number of digits that an integer may have, if there is a limit. -/
  limit : Option Nat
  /-- The number of lists and objects that may be nested in each other, if there is a limit. -/
  depth : Option Nat

/-- JSON. -/
def Dialect.standard : Dialect where
  words := [("null", .null), ("true", .bool true), ("false", .bool false)]
  limit := none
  depth := none

/-- JSON with integers of limited length and nesting of limited depth, and with words for infinity
and not-a-number. -/
def Dialect.accepted : Dialect where
  words := Dialect.standard.words ++
    [("NaN", .float (0.0 / 0.0)), ("Infinity", .float (1.0 / 0.0)),
      ("-Infinity", .float (-1.0 / 0.0))]
  limit := some 4300
  depth := some 980

/-- What a part of a text stands for: a value, the items of a list up to its closing bracket, or the
members of an object up to its closing brace. -/
inductive Phrase where
  | value (x : Json)
  | items (xs : List Json)
  | members (ms : List (String × Json))

/-- The members of an object of which these members are written, in this order. -/
def collect (ms : List (String × Json)) : List (String × Json) :=
  ms.foldl (fun done m => insert done m.1 m.2) []

theorem collect_singleton (m : String × Json) :
  collect [m] = [m]
  := rfl

/-- A text begins with what stands for a phrase, and goes on with another text.  In the phrase, up
to `room` lists and objects are nested in each other. -/
inductive Writes (d : Dialect) : Nat → List Char → Phrase → List Char → Prop where
  | word {room : Nat} {w : String} {x : Json} {t : List Char} (h : (w, x) ∈ d.words) :
      Writes d room (w.toList ++ t) (.value x) t
  | int {room : Nat} (negative : Bool) {whole t : List Char} (hw : IsWhole whole)
      (hl : ∀ n ∈ d.limit, whole.length ≤ n) :
      Writes d room (signText negative ++ (whole ++ t))
        (.value (.int (if negative then -(Decimal.naturalOf whole : Int)
          else Decimal.naturalOf whole))) t
  | float {room : Nat} (negative : Bool) {whole fraction digits exponent t : List Char}
      {power : Int} (hw : IsWhole whole) (hf : IsFraction fraction digits)
      (he : IsExponent exponent power) (hp : fraction ≠ [] ∨ exponent ≠ []) :
      Writes d room (signText negative ++ (whole ++ (fraction ++ (exponent ++ t))))
        (.value (.float (Decimal.signed negative
          (Decimal.Numeral.mk whole digits power).toFloat))) t
  | text {room : Nat} {s chars t : List Char} (h : Quoted s chars t) :
      Writes d room ('"' :: s) (.value (.text (String.ofList chars))) t
  | emptyList {room : Nat} {s t : List Char} (h : Gap s (']' :: t)) :
      Writes d (room + 1) ('[' :: s) (.value (.list [])) t
  | list {room : Nat} {s s' t : List Char} {xs : List Json} (hg : Gap s s')
      (h : Writes d room s' (.items xs) t) :
      Writes d (room + 1) ('[' :: s) (.value (.list xs)) t
  | emptyObject {room : Nat} {s t : List Char} (h : Gap s ('}' :: t)) :
      Writes d (room + 1) ('{' :: s) (.value (.object [])) t
  | object {room : Nat} {s s' t : List Char} {ms : List (String × Json)} (hg : Gap s s')
      (h : Writes d room s' (.members ms) t) :
      Writes d (room + 1) ('{' :: s) (.value (.object (collect ms))) t
  | lastItem {room : Nat} {s s' t : List Char} {x : Json} (hx : Writes d room s (.value x) s')
      (hg : Gap s' (']' :: t)) :
      Writes d room s (.items [x]) t
  | item {room : Nat} {s s' r r' t : List Char} {x : Json} {xs : List Json}
      (hx : Writes d room s (.value x) s') (hg : Gap s' (',' :: r)) (hg' : Gap r r')
      (h : Writes d room r' (.items xs) t) :
      Writes d room s (.items (x :: xs)) t
  | lastMember {room : Nat} {s s' s'' v v' t : List Char} {name : List Char} {x : Json}
      (hn : Quoted s name s') (hc : Gap s' (':' :: s'')) (hv : Gap s'' v)
      (hx : Writes d room v (.value x) v') (hg : Gap v' ('}' :: t)) :
      Writes d room ('"' :: s) (.members [(String.ofList name, x)]) t
  | member {room : Nat} {s s' s'' v v' r r' t : List Char} {name : List Char} {x : Json}
      {ms : List (String × Json)}
      (hn : Quoted s name s') (hc : Gap s' (':' :: s'')) (hv : Gap s'' v)
      (hx : Writes d room v (.value x) v') (hg : Gap v' (',' :: r)) (hg' : Gap r r')
      (h : Writes d room r' (.members ms) t) :
      Writes d room ('"' :: s) (.members ((String.ofList name, x) :: ms)) t

/-- What stands for a phrase does so with more room. -/
theorem Writes.mono {d : Dialect} {room room' : Nat} {s t : List Char} {p : Phrase}
    (h : Writes d room s p t) (hr : room ≤ room') :
  Writes d room' s p t
  := by
  induction h generalizing room' with
  | word h => exact .word h
  | int negative hw hl => exact .int negative hw hl
  | float negative hw hf he hp => exact .float negative hw hf he hp
  | text h => exact .text h
  | emptyList h =>
    obtain ⟨n, rfl⟩ := Nat.exists_eq_add_of_lt hr
    exact .emptyList h
  | list hg _ ih =>
    obtain ⟨n, rfl⟩ := Nat.exists_eq_add_of_lt hr
    exact .list hg (ih (Nat.le_add_right _ _))
  | emptyObject h =>
    obtain ⟨n, rfl⟩ := Nat.exists_eq_add_of_lt hr
    exact .emptyObject h
  | object hg _ ih =>
    obtain ⟨n, rfl⟩ := Nat.exists_eq_add_of_lt hr
    exact .object hg (ih (Nat.le_add_right _ _))
  | lastItem _ hg ih => exact .lastItem (ih hr) hg
  | item _ hg hg' _ ihx ih => exact .item (ihx hr) hg hg' (ih hr)
  | lastMember hn hc hv _ hg ih => exact .lastMember hn hc hv (ih hr) hg
  | member hn hc hv _ hg hg' _ ihx ih => exact .member hn hc hv (ihx hr) hg hg' (ih hr)

/-- A text is a spelling of a value, with blanks around it. -/
def IsText (d : Dialect) (x : Json) (text : List Char) : Prop :=
  ∃ room s t, (∀ n ∈ d.depth, room ≤ n) ∧ Gap text s ∧ Writes d room s (.value x) t ∧ Gap t []

end PipelineAudit.Json
