import Mathlib.Data.Bool.AllAny
import Mathlib.Data.List.TakeDrop
import PipelineAudit.Proofs.Json.Strings

/-!
# Reading numbers

The reader takes for a number just what the grammar says it is, as far as something follows that
ends the number.

* `number_append`: what is read where a number stands.
* `writes_of_number`: what was read is a number.
-/

namespace PipelineAudit.Json

/-! ### The end of a number -/

/-- What may follow a value: the end of the text, a blank, a comma or a closing bracket. -/
def Ends (t : List Char) : Prop :=
  ∀ c ∈ t.head?, IsGap c ∨ c ∈ [',', ']', '}']

/-- What may follow a value does not go on with a number. -/
theorem Ends.not_number {t : List Char} (h : Ends t) {c : Char} (hc : c ∈ t.head?) :
  c.isDigit = false ∧ c ≠ '.' ∧ c ≠ 'e' ∧ c ≠ 'E'
  := by
  have hall : ∀ c ∈ [' ', '\t', '\n', '\r', ',', ']', '}'],
      c.isDigit = false ∧ c ≠ '.' ∧ c ≠ 'e' ∧ c ≠ 'E' := List.all_iff_forall_prop.mp (by decide)
  apply hall
  simpa [IsGap, or_assoc] using h c hc

/-! ### Parts of numbers -/

theorem not_sign_of_isDigit {c : Char} (h : c.isDigit) :
  c ≠ '-' ∧ c ≠ '+'
  := by
  constructor <;> (rintro rfl; exact absurd h (by decide))

theorem wholeDigits_append {whole t : List Char} (hw : IsWhole whole)
    (ht : ∀ c ∈ t.head?, c.isDigit = false) :
  wholeDigits (whole ++ t) = whole
  := by
  obtain ⟨⟨hne, hd⟩, hzero⟩ := hw
  obtain ⟨c, r, rfl⟩ := List.exists_cons_of_ne_nil hne
  by_cases hc : c = '0'
  · rw [hzero (congrArg some hc)]
    rfl
  · rw [wholeDigits]
    · exact takeWhile_run hd ht
    · rintro r' he
      exact hc (List.cons.inj he).1

theorem fractionPart_append {text digits t : List Char} (hf : IsFraction text digits)
    (ht : ∀ c ∈ t.head?, c.isDigit = false ∧ c ≠ '.') :
  fractionPart (text ++ t) = text
  := by
  obtain ⟨rfl, _⟩ | ⟨rfl, hne, hd⟩ := hf
  · cases t with
    | nil => rfl
    | cons c t =>
      rw [List.nil_append, fractionPart]
      rintro r' he
      exact (ht c rfl).2 (List.cons.inj he).1
  · have hrun : (digits ++ t).takeWhile Char.isDigit = digits :=
      takeWhile_run hd fun c hc => (ht c hc).1
    have hempty : digits.isEmpty = false := List.isEmpty_eq_false_iff.mpr hne
    rw [List.cons_append, fractionPart, hrun]
    simp only [hempty, Bool.false_eq_true, if_false]

theorem exponentSpan_append {text t : List Char} {power : Int} (he : IsExponent text power)
    (ht : ∀ c ∈ t.head?, c.isDigit = false ∧ c ≠ 'e' ∧ c ≠ 'E') :
  exponentSpan (text ++ t) = text
  := by
  obtain ⟨rfl, _⟩ | ⟨e, sign, digits, rfl, hletter, ⟨hne, hd⟩, hsign⟩ := he
  · cases t with
    | nil => rfl
    | cons c t =>
      rw [List.nil_append, exponentSpan, if_neg]
      simpa using (ht c rfl).2
  · have hmarks : ∀ c ∈ sign, c = '-' ∨ c = '+' := by
      rcases hsign with ⟨rfl, _⟩ | ⟨rfl | rfl, _⟩ <;> simp
    have hshort : ¬ 1 < sign.length := by
      rcases hsign with ⟨rfl, _⟩ | ⟨rfl | rfl, _⟩ <;> decide
    have hmark : (sign ++ (digits ++ t)).takeWhile (fun d => d = '-' || d = '+') = sign := by
      apply takeWhile_run
      · exact fun c hc => by simpa using hmarks c hc
      · intro c hc
        obtain ⟨d, r, rfl⟩ := List.exists_cons_of_ne_nil hne
        obtain rfl : d = c := Option.some.inj hc
        rw [Bool.or_eq_false_iff, decide_eq_false_iff_not, decide_eq_false_iff_not]
        exact not_sign_of_isDigit (hd d List.mem_cons_self)
    have hrun : (digits ++ t).takeWhile Char.isDigit = digits :=
      takeWhile_run hd fun c hc => (ht c hc).1
    have hempty : digits.isEmpty = false := List.isEmpty_eq_false_iff.mpr hne
    have hcond : (decide (e = 'e') || decide (e = 'E')) = true := by simpa using hletter
    rw [List.cons_append, exponentSpan, if_pos hcond]
    simp only [hmark, List.append_assoc, List.drop_left, hrun, hempty, hshort, decide_false,
      Bool.or_self, Bool.false_eq_true, if_false]
    rfl

theorem exponentPart_of_isExponent {text : List Char} {power : Int} (he : IsExponent text power) :
  (Decimal.exponentPart text).1 = power
  := by
  obtain ⟨rfl, rfl⟩ | ⟨e, sign, digits, rfl, hletter, ⟨hne, hd⟩, hsign⟩ := he
  · rfl
  · have hrun : Decimal.spanDigits digits = (digits, []) := by
      have htake : digits.takeWhile Char.isDigit = digits := by simpa using hd
      have hdrop : digits.dropWhile Char.isDigit = [] := by simpa using hd
      rw [Decimal.spanDigits, List.span_eq_takeWhile_dropWhile, htake, hdrop]
    have hempty : digits.isEmpty = false := List.isEmpty_eq_false_iff.mpr hne
    have hcond : (decide (e = 'e') || decide (e = 'E')) = true := by simpa using hletter
    rcases hsign with ⟨rfl, rfl⟩ | ⟨rfl | rfl, rfl⟩
    · rw [List.singleton_append, Decimal.exponentPart, if_pos hcond]
      simp only [hrun, hempty, Bool.false_eq_true, if_false, if_true]
    · obtain ⟨c, r, rfl⟩ := List.exists_cons_of_ne_nil hne
      obtain ⟨hminus, hplus⟩ := not_sign_of_isDigit (hd c List.mem_cons_self)
      rw [List.nil_append, Decimal.exponentPart, if_pos hcond]
      · simp only [hrun, hempty, Bool.false_eq_true, if_false]
      · exact fun r' he => hminus (List.cons.inj he).1
      · exact fun r' he => hplus (List.cons.inj he).1
    · rw [List.singleton_append, Decimal.exponentPart, if_pos hcond]
      simp only [hrun, hempty, Bool.false_eq_true, if_false]

theorem mem_head?_append {s t : List Char} {c : Char} (h : c ∈ (s ++ t).head?) :
  c ∈ s.head? ∨ c ∈ t.head?
  := by
  cases s with
  | nil => exact .inr h
  | cons d s => exact .inl h

theorem IsFraction.not_digit {text digits : List Char} (h : IsFraction text digits) {c : Char}
    (hc : c ∈ text.head?) :
  c.isDigit = false
  := by
  obtain ⟨rfl, _⟩ | ⟨rfl, _⟩ := h
  · cases hc
  · obtain rfl : '.' = c := Option.some.inj hc
    rfl

theorem IsExponent.not_digit {text : List Char} {power : Int} (h : IsExponent text power) {c : Char}
    (hc : c ∈ text.head?) :
  c.isDigit = false ∧ c ≠ '.'
  := by
  obtain ⟨rfl, _⟩ | ⟨e, sign, digits, rfl, hletter, _⟩ := h
  · cases hc
  · obtain rfl : e = c := Option.some.inj hc
    rcases hletter with rfl | rfl <;> decide

theorem IsWhole.exists_digit {whole : List Char} (hw : IsWhole whole) :
  ∃ c r, whole = c :: r ∧ c.isDigit
  := by
  obtain ⟨c, r, rfl⟩ := List.exists_cons_of_ne_nil hw.1.1
  exact ⟨c, r, rfl, hw.1.2 c List.mem_cons_self⟩

/-! ### Whole numbers -/

/-- What the parts of a number stand for: an integer that is not too long, or the double nearest to
a number with a fraction or an exponent. -/
def numberOf (negative : Bool) (whole fraction digits exponent : List Char) (power : Int) :
    Except ReadError Json :=
  if fraction.isEmpty && exponent.isEmpty then
    if mostDigits < whole.length then .error (.tooManyDigits whole.length)
    else .ok (.int (if negative then -(Decimal.naturalOf whole : Int) else Decimal.naturalOf whole))
  else .ok (.float (Decimal.signed negative (Decimal.Numeral.mk whole digits power).toFloat))

/-- An integer that is not too long. -/
theorem numberOf_int (negative : Bool) {whole : List Char} (hl : whole.length ≤ mostDigits)
    (digits : List Char) (power : Int) :
  numberOf negative whole [] digits [] power =
    .ok (.int (if negative then -(Decimal.naturalOf whole : Int) else Decimal.naturalOf whole))
  := (if_pos rfl).trans (if_neg (Nat.not_lt.mpr hl))

theorem numberOf_tooLong (negative : Bool) {whole : List Char} (hl : mostDigits < whole.length)
    (digits : List Char) (power : Int) :
  numberOf negative whole [] digits [] power = .error (.tooManyDigits whole.length)
  := (if_pos rfl).trans (if_pos hl)

/-- A number with a fraction or an exponent. -/
theorem numberOf_float (negative : Bool) {fraction exponent : List Char}
    (hp : fraction ≠ [] ∨ exponent ≠ []) (whole digits : List Char) (power : Int) :
  numberOf negative whole fraction digits exponent power =
    .ok (.float (Decimal.signed negative (Decimal.Numeral.mk whole digits power).toFloat))
  := by
  apply if_neg
  rw [Bool.and_eq_true, List.isEmpty_iff, List.isEmpty_iff, not_and_or]
  exact hp

/-- A number that stands for a value is written as one. -/
theorem writes_of_numberOf {room : Nat} {negative : Bool}
    {whole fraction digits exponent : List Char} {power : Int} {x : Json} (hw : IsWhole whole)
    (hf : IsFraction fraction digits) (he : IsExponent exponent power)
    (h : numberOf negative whole fraction digits exponent power = .ok x) (t : List Char) :
  Writes .accepted room (signText negative ++ (whole ++ (fraction ++ (exponent ++ t)))) (.value x) t
  := by
  by_cases hp : fraction ≠ [] ∨ exponent ≠ []
  · rw [numberOf_float negative hp] at h
    obtain rfl := Except.ok.inj h
    exact .float negative hw hf he hp
  · obtain ⟨rfl, rfl⟩ : fraction = [] ∧ exponent = [] := by simpa [not_or] using hp
    by_cases hl : whole.length ≤ mostDigits
    · rw [numberOf_int negative hl] at h
      obtain rfl := Except.ok.inj h
      exact .int negative hw fun n hn => Option.some.inj hn ▸ hl
    · rw [numberOf_tooLong negative (Nat.not_le.mp hl)] at h
      cases h

/-- What is read where the longest parts of a number are known. -/
theorem number_of_parts (negative : Bool) {whole fraction digits exponent t : List Char}
    {power : Int} (hw : IsWhole whole) (hf : IsFraction fraction digits)
    (he : IsExponent exponent power)
    (hwhole : wholeDigits (whole ++ (fraction ++ (exponent ++ t))) = whole)
    (hfraction : fractionPart (fraction ++ (exponent ++ t)) = fraction)
    (hexponent : exponentSpan (exponent ++ t) = exponent) (i : Nat) :
  ∃ j, number ⟨i, signText negative ++ (whole ++ (fraction ++ (exponent ++ t)))⟩ =
    (numberOf negative whole fraction digits exponent power).map (·, ⟨j, t⟩)
  := by
  have hsign : (signText negative ++ (whole ++ (fraction ++ (exponent ++ t)))).head? = some '-' ↔
      negative := by
    obtain ⟨c, r, rfl, hdigit⟩ := hw.exists_digit
    cases negative with
    | true => simp [signText]
    | false =>
      have hminus := (not_sign_of_isDigit hdigit).1
      simpa [signText] using hminus
  have hbody : (if negative then
      (signText negative ++ (whole ++ (fraction ++ (exponent ++ t)))).drop 1
      else signText negative ++ (whole ++ (fraction ++ (exponent ++ t)))) =
      whole ++ (fraction ++ (exponent ++ t)) := by
    cases negative <;> rfl
  have hdigits : fraction.drop 1 = digits := by
    obtain ⟨rfl, rfl⟩ | ⟨rfl, _⟩ := hf <;> rfl
  have hempty : whole.isEmpty = false := List.isEmpty_eq_false_iff.mpr hw.1.1
  refine ⟨i + ((if negative then 1 else 0) + whole.length + fraction.length + exponent.length), ?_⟩
  have hafter : Spot.advance ⟨i, signText negative ++ (whole ++ (fraction ++ (exponent ++ t)))⟩
      ((if negative then 1 else 0) + whole.length + fraction.length + exponent.length) =
        ⟨i + ((if negative then 1 else 0) + whole.length + fraction.length + exponent.length), t⟩
      := by
    have hparts : signText negative ++ (whole ++ (fraction ++ (exponent ++ t))) =
        (signText negative ++ whole ++ fraction ++ exponent) ++ t := by
      simp only [List.append_assoc]
    have hlength : (signText negative ++ whole ++ fraction ++ exponent).length =
        (if negative then 1 else 0) + whole.length + fraction.length + exponent.length := by
      simp only [List.length_append]
      cases negative <;> rfl
    rw [Spot.advance, hparts, List.drop_left' hlength]
  rw [number, numberOf]
  simp only [hsign, hbody, hwhole, hempty, Bool.false_eq_true, if_false, List.drop_left, hfraction,
    List.drop_length_add_append, hexponent, hdigits, exponentPart_of_isExponent he, hafter,
    Bool.decide_eq_true]
  split
  · split <;> rfl
  · rfl

/-- What is read where a number stands that nothing goes on with. -/
theorem number_append (negative : Bool) {whole fraction digits exponent t : List Char} {power : Int}
    (hw : IsWhole whole) (hf : IsFraction fraction digits) (he : IsExponent exponent power)
    (ht : Ends t) (i : Nat) :
  ∃ j, number ⟨i, signText negative ++ (whole ++ (fraction ++ (exponent ++ t)))⟩ =
    (numberOf negative whole fraction digits exponent power).map (·, ⟨j, t⟩)
  := by
  have hexponent : exponentSpan (exponent ++ t) = exponent := by
    apply exponentSpan_append he
    intro c hc
    obtain ⟨hd, _, hletter⟩ := ht.not_number hc
    exact ⟨hd, hletter⟩
  have hfraction : fractionPart (fraction ++ (exponent ++ t)) = fraction := by
    apply fractionPart_append hf
    intro c hc
    obtain hc | hc := mem_head?_append hc
    · exact he.not_digit hc
    · obtain ⟨hd, hpoint, _⟩ := ht.not_number hc
      exact ⟨hd, hpoint⟩
  have hwhole : wholeDigits (whole ++ (fraction ++ (exponent ++ t))) = whole := by
    apply wholeDigits_append hw
    intro c hc
    obtain hc | hc := mem_head?_append hc
    · exact hf.not_digit hc
    · obtain hc | hc := mem_head?_append hc
      · exact (he.not_digit hc).1
      · exact (ht.not_number hc).1
  exact number_of_parts negative hw hf he hwhole hfraction hexponent i

/-! ### What was read -/

theorem isDigits_takeWhile {s : List Char} (h : (s.takeWhile Char.isDigit).isEmpty = false) :
  IsDigits (s.takeWhile Char.isDigit)
  := ⟨List.isEmpty_eq_false_iff.mp h, fun _ => List.mem_takeWhile_imp⟩

theorem isWhole_wholeDigits {s : List Char} (h : (wholeDigits s).isEmpty = false) :
  IsWhole (wholeDigits s)
  := by
  unfold wholeDigits at h ⊢
  split at h
  · exact ⟨⟨List.cons_ne_nil _ _, fun c hc => by rw [List.mem_singleton.mp hc]; rfl⟩, fun _ => rfl⟩
  case h_2 hs =>
    refine ⟨isDigits_takeWhile h, fun hzero => ?_⟩
    cases s with
    | nil => cases hzero
    | cons c r =>
      rw [List.takeWhile_cons] at hzero
      split at hzero
      · exact absurd (congrArg (· :: r) (Option.some.inj hzero)) (hs r)
      · cases hzero

theorem wholeDigits_append_drop (s : List Char) :
  wholeDigits s ++ s.drop (wholeDigits s).length = s
  := by
  unfold wholeDigits
  split
  · rfl
  · exact takeWhile_append_drop _ _

theorem isFraction_fractionPart (s : List Char) :
  IsFraction (fractionPart s) ((fractionPart s).drop 1)
  := by
  unfold fractionPart
  split
  case h_1 r =>
    dsimp only
    split
    · exact .inl ⟨rfl, rfl⟩
    case isFalse h => exact .inr ⟨rfl, isDigits_takeWhile (Bool.eq_false_iff.mpr h)⟩
  · exact .inl ⟨rfl, rfl⟩

theorem fractionPart_append_drop (s : List Char) :
  fractionPart s ++ s.drop (fractionPart s).length = s
  := by
  unfold fractionPart
  split
  case h_1 r =>
    dsimp only
    split
    · rfl
    · exact congrArg (List.cons '.') (takeWhile_append_drop Char.isDigit r)
  · rfl

theorem isExponent_exponentSpan (s : List Char) :
  ∃ power, IsExponent (exponentSpan s) power
  := by
  unfold exponentSpan
  split
  case h_2 => exact ⟨0, .inl ⟨rfl, rfl⟩⟩
  case h_1 e r =>
    split
    case isFalse => exact ⟨0, .inl ⟨rfl, rfl⟩⟩
    case isTrue hletter =>
      dsimp only
      split
      case isTrue => exact ⟨0, .inl ⟨rfl, rfl⟩⟩
      case isFalse h =>
        rw [Bool.or_eq_true, not_or, Bool.not_eq_true, decide_eq_true_eq, Nat.not_lt] at h
        have hletter : e = 'e' ∨ e = 'E' := by simpa using hletter
        have hmarks : ∀ c ∈ r.takeWhile (fun d => d = '-' || d = '+'), c = '-' ∨ c = '+' :=
          fun c hc => by simpa using List.mem_takeWhile_imp hc
        generalize r.takeWhile (fun d => d = '-' || d = '+') = sign at h hmarks ⊢
        have hdigits := isDigits_takeWhile h.1
        generalize (r.drop sign.length).takeWhile Char.isDigit = digits at hdigits ⊢
        match sign, h.2, hmarks with
        | [], _, _ => exact ⟨_, .inr ⟨e, [], digits, rfl, hletter, hdigits, .inr ⟨.inl rfl, rfl⟩⟩⟩
        | [c], _, hmarks =>
          obtain rfl | rfl := hmarks c List.mem_cons_self
          · exact ⟨_, .inr ⟨e, ['-'], digits, rfl, hletter, hdigits, .inl ⟨rfl, rfl⟩⟩⟩
          · exact ⟨_, .inr ⟨e, ['+'], digits, rfl, hletter, hdigits, .inr ⟨.inr rfl, rfl⟩⟩⟩

theorem exponentSpan_append_drop (s : List Char) :
  exponentSpan s ++ s.drop (exponentSpan s).length = s
  := by
  unfold exponentSpan
  split
  case h_2 => rfl
  case h_1 e r =>
    split
    case isFalse => rfl
    case isTrue =>
      dsimp only
      split
      case isTrue => rfl
      case isFalse =>
        have hsign := takeWhile_append_drop (fun d => d = '-' || d = '+') r
        generalize r.takeWhile (fun d => d = '-' || d = '+') = sign at hsign ⊢
        have hdigits := takeWhile_append_drop Char.isDigit (r.drop sign.length)
        generalize (r.drop sign.length).takeWhile Char.isDigit = digits at hdigits ⊢
        rw [List.cons_append, List.length_cons, List.drop_succ_cons, List.cons_append,
          List.length_append, ← List.drop_drop, List.append_assoc, hdigits, hsign]

/-- Without a digit there is no number. -/
theorem number_of_isEmpty {s : Spot} {negative : Bool} {body : List Char}
    (hs : s.rest = signText negative ++ body) (hsign : s.rest.head? = some '-' ↔ negative)
    (h : (wholeDigits body).isEmpty) :
  number s = .error (.malformed s.index)
  := by
  have hbody : (if s.rest.head? = some '-' then s.rest.drop 1 else s.rest) = body := by
    rw [if_congr hsign rfl rfl, hs]
    cases negative <;> rfl
  rw [number]
  simp only [hbody, h, if_true]

/-- What the reader takes for a number is one. -/
theorem writes_of_number {room : Nat} {s after : Spot} {x : Json}
    (h : number s = .ok (x, after)) :
  Writes .accepted room s.rest (.value x) after.rest
  := by
  obtain ⟨negative, body, hs, hsign⟩ : ∃ negative body, s.rest = signText negative ++ body ∧
      (s.rest.head? = some '-' ↔ negative = true) := by
    by_cases hminus : s.rest.head? = some '-'
    · obtain ⟨r, hr⟩ := List.head?_eq_some_iff.mp hminus
      exact ⟨true, r, hr, by simp [hminus]⟩
    · exact ⟨false, s.rest, rfl, by simp [hminus]⟩
  cases hempty : (wholeDigits body).isEmpty with
  | true =>
    rw [number_of_isEmpty hs hsign hempty] at h
    cases h
  | false =>
    have hw := isWhole_wholeDigits hempty
    have hbody := wholeDigits_append_drop body
    generalize hwhole : wholeDigits body = whole at hw hbody
    generalize body.drop whole.length = rest at hbody
    have hf := isFraction_fractionPart rest
    have hrest := fractionPart_append_drop rest
    generalize hfraction : fractionPart rest = fraction at hf hrest
    generalize rest.drop fraction.length = rest' at hrest
    obtain ⟨power, he⟩ := isExponent_exponentSpan rest'
    have hrest' := exponentSpan_append_drop rest'
    generalize hexponent : exponentSpan rest' = exponent at he hrest'
    generalize rest'.drop exponent.length = t at hrest'
    subst hrest' hrest hbody
    obtain ⟨i, _⟩ := s
    obtain rfl : _ = _ := hs
    obtain ⟨j, hj⟩ := number_of_parts negative hw hf he hwhole hfraction hexponent i
    rw [hj] at h
    cases hvalue : numberOf negative whole fraction (fraction.drop 1) exponent power with
    | error e =>
      rw [hvalue] at h
      cases h
    | ok x' =>
      rw [hvalue] at h
      obtain ⟨rfl, rfl⟩ := Prod.mk.inj (Except.ok.inj h)
      exact writes_of_numberOf hw hf he hvalue t

end PipelineAudit.Json
