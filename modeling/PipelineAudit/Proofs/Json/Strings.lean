import Mathlib.Data.List.Basic
import Mathlib.Data.List.TakeWhile
import PipelineAudit.Proofs.Json.Grammar

/-!
# Reading texts in quotation marks

The reader takes for blanks and for a text in quotation marks just what the grammar says they are.

* `Spot.skipBlanks_of_gap`, `Spot.gap_skipBlanks`: blanks.
* `string_of_quoted`, `quoted_of_string`: texts in quotation marks.
-/

namespace PipelineAudit.Json

/-! ### Runs and lists -/

/-- The longest beginning over a class of characters is a run that no further one follows. -/
theorem takeWhile_run {allowed : Char → Bool} {run t : List Char} (hrun : ∀ c ∈ run, allowed c)
    (hstop : ∀ c ∈ t.head?, allowed c = false) :
  (run ++ t).takeWhile allowed = run
  := by
  rw [List.takeWhile_append_of_pos hrun]
  cases t with
  | nil => rw [List.takeWhile_nil, List.append_nil]
  | cons c t =>
    rw [List.takeWhile_cons_of_neg (by simpa using hstop c rfl), List.append_nil]

theorem takeWhile_append_drop (allowed : Char → Bool) (s : List Char) :
  s.takeWhile allowed ++ s.drop (s.takeWhile allowed).length = s
  := List.prefix_iff_eq_append.mp (List.takeWhile_prefix allowed)

theorem reverse_cons_append {α : Type} (x : α) (done l : List α) :
  (x :: done).reverse ++ l = done.reverse ++ x :: l
  := by rw [List.reverse_cons, List.append_assoc, List.singleton_append]

/-! ### Blanks -/

namespace Spot

theorem skipBlanks_of_gap {s t : List Char} (h : Gap s t) (ht : ∀ c ∈ t.head?, ¬ IsGap c)
    (i : Nat) :
  ∃ j, (Spot.mk i s).skipBlanks = ⟨j, t⟩
  := by
  obtain ⟨blanks, hb, rfl⟩ := h
  refine ⟨i + blanks.length, ?_⟩
  rw [skipBlanks, advance, takeWhile_run, List.drop_left]
  · exact fun c hc => by simpa [IsGap, or_assoc] using hb c hc
  · exact fun c hc => by simpa [IsGap, and_assoc] using ht c hc

theorem gap_skipBlanks (s : Spot) :
  Gap s.rest s.skipBlanks.rest
  := by
  refine ⟨s.rest.takeWhile fun c => c = ' ' || c = '\t' || c = '\n' || c = '\r', ?_, ?_⟩
  · intro c hc
    simpa [IsGap, or_assoc] using List.mem_takeWhile_imp hc
  · rw [skipBlanks, advance, takeWhile_append_drop]

end Spot

/-! ### Escapes -/

theorem mem_escapes_iff {e c : Char} :
  (e, c) ∈ escapes ↔ simpleEscape? e = some c
  := by
  constructor
  · intro h
    have hall : ∀ p ∈ escapes, simpleEscape? p.1 = some p.2 := by decide
    exact hall _ h
  · intro h
    unfold simpleEscape? at h
    split at h <;> cases h <;> decide

theorem IsUnit.length_eq {digits : List Char} {n : Nat} (h : IsUnit digits n) :
  digits.length = 4
  := by
  obtain ⟨a, b, c, d, hm, _⟩ := h
  rw [← List.length_map, hm]
  rfl

/-- Four hexadecimal digits are read at the beginning of a text. -/
theorem fourHex?_append {digits : List Char} {n : Nat} (h : IsUnit digits n) (s : List Char) :
  fourHex? (digits ++ s) = some n
  := by
  have hlength := h.length_eq
  obtain ⟨a, b, c, d, hm, rfl⟩ := h
  have hlong : ¬ (digits ++ s).length < 4 := by
    rw [List.length_append]
    omega
  rw [fourHex?, if_neg hlong, List.take_left' hlength]
  obtain ⟨p, q, r, t, rfl⟩ := List.length_eq_four.mp hlength
  simp only [List.map_cons, List.map_nil, List.cons.injEq, and_true] at hm
  obtain ⟨hp, hq, hr, ht⟩ := hm
  simp only [List.foldlM_cons, List.foldlM_nil, hp, hq, hr, ht, Option.map_some,
    Option.bind_eq_bind, Option.bind_some, Option.pure_def, Option.some_inj]
  omega

/-- Only four hexadecimal digits at the beginning of a text are read. -/
theorem exists_isUnit_of_fourHex? {s : List Char} {n : Nat} (h : fourHex? s = some n) :
  ∃ digits rest, s = digits ++ rest ∧ IsUnit digits n
  := by
  rw [fourHex?] at h
  split at h
  case isTrue => cases h
  case isFalse hlong =>
    have hlength : (s.take 4).length = 4 := by
      rw [List.length_take]
      omega
    refine ⟨s.take 4, s.drop 4, (List.take_append_drop 4 s).symm, ?_⟩
    obtain ⟨p, q, r, t, hs⟩ := List.length_eq_four.mp hlength
    rw [hs] at h ⊢
    simp only [List.foldlM_cons, List.foldlM_nil, Option.bind_eq_bind, Option.bind_eq_some_iff,
      Option.map_eq_some_iff, Option.pure_def, Option.some_inj] at h
    obtain ⟨_, ⟨a, ha, rfl⟩, _, ⟨b, hb, rfl⟩, _, ⟨c, hc, rfl⟩, _, ⟨d, hd, rfl⟩, rfl⟩ := h
    refine ⟨a, b, c, d, by simp only [List.map_cons, List.map_nil, ha, hb, hc, hd], ?_⟩
    omega

/-- The escape of a pair of code units. -/
theorem unicodeEscape_pair {digits digits' : List Char} {high low : Nat} {s : List Char}
    (hd : IsUnit digits high) (hh : IsHigh high) (hd' : IsUnit digits' low) (hl : IsLow low)
    (hs : s ≠ []) (i : Nat) :
  unicodeEscape ⟨i, digits ++ '\\' :: 'u' :: (digits' ++ s)⟩ = .ok (charOfPair high low, 10)
  := by
  have hlength := hd.length_eq
  have hlength' := hd'.length_eq
  have hspos := List.length_pos_of_ne_nil hs
  have hlong : ¬ (digits ++ '\\' :: 'u' :: (digits' ++ s)).length ≤ 4 := by
    simp only [List.length_append, List.length_cons]
    omega
  have htail : 6 < ('\\' :: 'u' :: (digits' ++ s)).length := by
    simp only [List.length_append, List.length_cons]
    omega
  have hu : "\\u".toList.isPrefixOf ('\\' :: 'u' :: (digits' ++ s)) := rfl
  rw [unicodeEscape]
  simp only [if_neg hlong, fourHex?_append hd, List.drop_left' hlength, hh.1, hh.2, htail, hu,
    decide_true, Bool.and_self, if_true, List.drop_succ_cons, List.drop_zero, fourHex?_append hd',
    hl.1, hl.2]
  rfl

theorem drop_pair {digits digits' : List Char} {high low : Nat} (hd : IsUnit digits high)
    (hd' : IsUnit digits' low) (s : List Char) :
  (digits ++ '\\' :: 'u' :: (digits' ++ s)).drop 10 = s
  := by
  have he : digits ++ '\\' :: 'u' :: (digits' ++ s) = (digits ++ '\\' :: 'u' :: digits') ++ s := by
    rw [List.append_assoc, List.cons_append, List.cons_append]
  have hlength : (digits ++ '\\' :: 'u' :: digits').length = 10 := by
    simp only [List.length_append, List.length_cons, hd.length_eq, hd'.length_eq]
  rw [he, List.drop_left' hlength]

theorem Quoted.ne_nil {s chars t : List Char} (h : Quoted s chars t) :
  s ≠ []
  := by
  cases h <;> exact List.cons_ne_nil _ _

/-- Where an escape of a code unit begins, there are four digits and something after them. -/
theorem Quoted.exists_isUnit {r chars t : List Char} (h : Quoted ('\\' :: 'u' :: r) chars t) :
  ∃ digits n rest, r = digits ++ rest ∧ IsUnit digits n ∧ rest ≠ []
  := by
  cases h with
  | plain hc => exact absurd rfl hc.2.2
  | escape he =>
    have hall : ∀ p ∈ escapes, p.1 ≠ 'u' := by decide
    exact absurd rfl (hall _ he)
  | pair hd => exact ⟨_, _, _, rfl, hd, List.cons_ne_nil _ _⟩
  | unit hd _ h => exact ⟨_, _, _, rfl, hd, h.ne_nil⟩

/-- The escape of a code unit that begins no pair. -/
theorem unicodeEscape_unit {digits : List Char} {n : Nat} {s chars t : List Char}
    (hd : IsUnit digits n) (hn : ¬ (IsHigh n ∧ BeginsLow s)) (h : Quoted s chars t) (i : Nat) :
  unicodeEscape ⟨i, digits ++ s⟩ = .ok (charOfUnit n, 4)
  := by
  have hlength := hd.length_eq
  have hspos := List.length_pos_of_ne_nil h.ne_nil
  have hlong : ¬ (digits ++ s).length ≤ 4 := by
    rw [List.length_append]
    omega
  rw [unicodeEscape]
  simp only [if_neg hlong, fourHex?_append hd, List.drop_left' hlength]
  split
  case isFalse => rfl
  case isTrue hc =>
    simp only [Bool.and_eq_true, decide_eq_true_eq] at hc
    obtain ⟨⟨hhigh, _⟩, hu⟩ := hc
    obtain ⟨r, rfl⟩ := List.isPrefixOf_iff_prefix.mp hu
    obtain ⟨digits', low, rest, rfl, hd', _⟩ := h.exists_isUnit
    have hlow : ¬ IsLow low := fun hl => hn ⟨hhigh, digits', low, rest, rfl, hd', hl⟩
    have hread : fourHex? (List.drop 2 ("\\u".toList ++ (digits' ++ rest))) = some low :=
      fourHex?_append hd' rest
    rw [hread]
    exact if_neg (by simpa [IsLow] using hlow)

/-- What the reader makes of an escape. -/
theorem isUnit_of_unicodeEscape {s : Spot} {c : Char} {n : Nat}
    (h : unicodeEscape s = .ok (c, n)) :
  ∃ digits unit rest, s.rest = digits ++ rest ∧ IsUnit digits unit ∧
    ((n = 4 ∧ c = charOfUnit unit ∧ (IsHigh unit → 6 < rest.length → ¬ BeginsLow rest)) ∨
      (n = 10 ∧ IsHigh unit ∧ ∃ digits' low rest', rest = '\\' :: 'u' :: (digits' ++ rest') ∧
        IsUnit digits' low ∧ IsLow low ∧ c = charOfPair unit low))
  := by
  rw [unicodeEscape] at h
  dsimp only at h
  split at h
  case isTrue => cases h
  case isFalse =>
    split at h
    case h_1 => cases h
    case h_2 unit hunit =>
      obtain ⟨digits, rest, hs, hd⟩ := exists_isUnit_of_fourHex? hunit
      refine ⟨digits, unit, rest, hs, hd, ?_⟩
      rw [hs, List.drop_left' hd.length_eq] at h
      split at h
      case isTrue hc =>
        simp only [Bool.and_eq_true, decide_eq_true_eq] at hc
        obtain ⟨⟨hhigh, _⟩, hu⟩ := hc
        obtain ⟨r, rfl⟩ := List.isPrefixOf_iff_prefix.mp hu
        split at h
        case h_1 => cases h
        case h_2 low hlow =>
          obtain ⟨digits', rest', hr, hd'⟩ := exists_isUnit_of_fourHex? hlow
          obtain rfl : r = digits' ++ rest' := hr
          split at h
          case isTrue hl =>
            obtain ⟨rfl, rfl⟩ := Prod.mk.inj (Except.ok.inj h)
            refine .inr ⟨rfl, hhigh, digits', low, rest', rfl, hd', ?_, rfl⟩
            simpa [IsLow] using hl
          case isFalse hl =>
            obtain ⟨rfl, rfl⟩ := Prod.mk.inj (Except.ok.inj h)
            refine .inl ⟨rfl, rfl, fun _ _ hb => hl ?_⟩
            obtain ⟨digits'', low', rest'', he, hd'', hl'⟩ := hb
            have hsame : fourHex? (digits' ++ rest') = some low' := by
              have he : digits' ++ rest' = digits'' ++ rest'' :=
                (List.cons.inj (List.cons.inj he).2).2
              rw [he, fourHex?_append hd'']
            rw [fourHex?_append hd', Option.some_inj] at hsame
            simpa [IsLow, hsame] using hl'
      case isFalse hc =>
        obtain ⟨rfl, rfl⟩ := Prod.mk.inj (Except.ok.inj h)
        refine .inl ⟨rfl, rfl, fun hh hlong hb => hc ?_⟩
        obtain ⟨digits', low, rest', rfl, _⟩ := hb
        simp only [Bool.and_eq_true, decide_eq_true_eq]
        exact ⟨⟨hh, hlong⟩, rfl⟩

/-! ### Texts in quotation marks -/

section Steps

variable (start : Nat) (done : List Char) (fuel i : Nat)

theorem stringFrom_plain {c : Char} (hc : 32 ≤ c.toNat ∧ c ≠ '"' ∧ c ≠ '\\') (s : List Char) :
  stringFrom start done (fuel + 1) ⟨i, c :: s⟩ = stringFrom start (c :: done) fuel ⟨i + 1, s⟩
  := by
  rw [stringFrom]
  dsimp only
  split
  case h_6 heq =>
    obtain ⟨rfl, rfl⟩ := List.cons.inj heq
    exact if_neg (Nat.not_lt.mpr hc.1)
  all_goals simp_all

theorem stringFrom_escape {e c : Char} (he : (e, c) ∈ escapes) (s : List Char) :
  stringFrom start done (fuel + 1) ⟨i, '\\' :: e :: s⟩ =
    stringFrom start (c :: done) fuel ⟨i + 2, s⟩
  := by
  simp only [escapes, List.mem_cons, Prod.mk.injEq, List.not_mem_nil, or_false] at he
  rcases he with ⟨rfl, rfl⟩ | ⟨rfl, rfl⟩ | ⟨rfl, rfl⟩ | ⟨rfl, rfl⟩ | ⟨rfl, rfl⟩ | ⟨rfl, rfl⟩ |
    ⟨rfl, rfl⟩ | ⟨rfl, rfl⟩ <;> rfl

theorem stringFrom_unicode {c : Char} {n : Nat} {s : List Char}
    (h : unicodeEscape ⟨i + 2, s⟩ = .ok (c, n)) :
  stringFrom start done (fuel + 1) ⟨i, '\\' :: 'u' :: s⟩ =
    stringFrom start (c :: done) fuel ⟨i + (2 + n), s.drop n⟩
  := by
  have hat : Spot.advance ⟨i, '\\' :: 'u' :: s⟩ 2 = ⟨i + 2, s⟩ := rfl
  have hafter : Spot.advance ⟨i, '\\' :: 'u' :: s⟩ (2 + n) = ⟨i + (2 + n), s.drop n⟩ := by
    rw [Spot.advance, Nat.add_comm 2 n]
    rfl
  rw [stringFrom]
  dsimp only
  rw [hat, h]
  dsimp only
  rw [hafter]
  rfl

end Steps

/-- The reader makes of a text the characters up to the closing quotation mark, after those already
read, and goes on after the mark. -/
def ReadsQuoted (s chars t : List Char) : Prop :=
  ∀ (start : Nat) (done : List Char) (fuel i : Nat), s.length < fuel →
    ∃ j, stringFrom start done fuel ⟨i, s⟩ = .ok (String.ofList (done.reverse ++ chars), ⟨j, t⟩)

/-- A text is read if one step of the reader leads to one that is. -/
theorem ReadsQuoted.step {s s' chars t : List Char} {c : Char} (h : ReadsQuoted s' chars t)
    (hless : s'.length < s.length)
    (hstep : ∀ start done fuel i,
      ∃ k, stringFrom start done (fuel + 1) ⟨i, s⟩ = stringFrom start (c :: done) fuel ⟨k, s'⟩) :
  ReadsQuoted s (c :: chars) t
  := by
  intro start done fuel i hfuel
  obtain ⟨fuel, rfl⟩ := Nat.exists_eq_add_one_of_ne_zero (Nat.ne_zero_of_lt hfuel)
  obtain ⟨k, hk⟩ := hstep start done fuel i
  obtain ⟨j, hj⟩ := h start (c :: done) fuel k (by omega)
  exact ⟨j, by rw [hk, hj, reverse_cons_append]⟩

/-- A text in quotation marks is read up to its closing one. -/
theorem Quoted.reads {s chars t : List Char} (h : Quoted s chars t) :
  ReadsQuoted s chars t
  := by
  induction h with
  | close =>
    intro start done fuel i hfuel
    obtain ⟨fuel, rfl⟩ := Nat.exists_eq_add_of_lt hfuel
    exact ⟨i + 1, by rw [List.append_nil]; rfl⟩
  | plain hc h ih =>
    apply ih.step (Nat.lt_succ_self _)
    exact fun start done fuel i => ⟨_, stringFrom_plain start done fuel i hc _⟩
  | escape he h ih =>
    apply ih.step (Nat.lt_succ_of_lt (Nat.lt_succ_self _))
    exact fun start done fuel i => ⟨_, stringFrom_escape start done fuel i he _⟩
  | pair hd hh hd' hl h ih =>
    apply ih.step
    · simp only [List.length_cons, List.length_append]
      omega
    · intro start done fuel i
      have hread := unicodeEscape_pair hd hh hd' hl h.ne_nil (i + 2)
      exact ⟨_, by rw [stringFrom_unicode _ _ _ _ hread, drop_pair hd hd']⟩
  | unit hd hs h ih =>
    apply ih.step
    · simp only [List.length_cons, List.length_append]
      omega
    · intro start done fuel i
      have hread := unicodeEscape_unit hd hs h (i + 2)
      exact ⟨_, by rw [stringFrom_unicode _ _ _ _ hread, List.drop_left' hd.length_eq]⟩

/-- What the reader takes for the rest of a text in quotation marks is one. -/
theorem quoted_of_stringFrom {start : Nat} {done : List Char} {fuel : Nat} {s after : Spot}
    {text : String} (h : stringFrom start done fuel s = .ok (text, after)) :
  ∃ chars, text = String.ofList (done.reverse ++ chars) ∧ Quoted s.rest chars after.rest
  := by
  induction fuel generalizing done s with
  | zero => cases h
  | succ fuel ih =>
    rw [stringFrom] at h
    split at h
    case h_1 => cases h
    case h_2 r hs =>
      obtain ⟨rfl, rfl⟩ := Prod.mk.inj (Except.ok.inj h)
      refine ⟨[], by rw [List.append_nil], ?_⟩
      rw [Spot.advance, hs]
      exact .close
    case h_3 => cases h
    case h_4 r hs =>
      split at h
      case h_1 => cases h
      case h_2 c n hescape =>
        obtain ⟨chars, rfl, hq⟩ := ih h
        refine ⟨c :: chars, by rw [reverse_cons_append], ?_⟩
        have hadvance : (s.advance 2).rest = r := by rw [Spot.advance, hs]; rfl
        have hafter : (s.advance (2 + n)).rest = r.drop n := by
          rw [Spot.advance, hs, Nat.add_comm 2 n]
          rfl
        obtain ⟨digits, unit, rest, hr, hd, hcases⟩ := isUnit_of_unicodeEscape hescape
        rw [hadvance] at hr
        subst hr
        rw [hafter] at hq
        rw [hs]
        rcases hcases with ⟨hn, rfl, hlow⟩ | ⟨hn, hh, digits', low, rest', hr, hd', hl, hc⟩
        · rw [hn, List.drop_left' hd.length_eq] at hq
          refine .unit hd (fun hb => hlow hb.1 ?_ hb.2) hq
          -- something follows the second escape, the closing quotation mark at least
          obtain ⟨digits', low, rest', rfl, hd', _⟩ := hb.2
          obtain ⟨digits'', n, rest'', he, hd'', hne⟩ := hq.exists_isUnit
          have hlength := congrArg List.length he
          have hpos := List.length_pos_of_ne_nil hne
          simp only [List.length_append, hd'.length_eq, hd''.length_eq] at hlength
          simp only [List.length_cons, List.length_append, hd'.length_eq]
          omega
        · rw [hr, hn, drop_pair hd hd'] at hq
          rw [hr, hc]
          exact .pair hd hh hd' hl hq
    case h_5 e r _ _ hs =>
      split at h
      case h_1 => cases h
      case h_2 c hc =>
        obtain ⟨chars, rfl, hq⟩ := ih h
        refine ⟨c :: chars, by rw [reverse_cons_append], ?_⟩
        rw [Spot.advance, hs] at hq
        rw [hs]
        exact .escape (mem_escapes_iff.mpr hc) hq
    case h_6 c r hquote hback _ hslash hs =>
      split at h
      case isTrue => cases h
      case isFalse hc =>
        obtain ⟨chars, rfl, hq⟩ := ih h
        refine ⟨c :: chars, by rw [reverse_cons_append], ?_⟩
        rw [Spot.advance, hs] at hq
        rw [hs]
        refine .plain ⟨Nat.not_lt.mp hc, hquote, ?_⟩ hq
        rintro rfl
        cases r with
        | nil => exact hback rfl rfl
        | cons e r => exact hslash e r rfl rfl

theorem string_of_quoted {s chars t : List Char} (h : Quoted s chars t) (i : Nat) :
  ∃ j, string ⟨i, s⟩ = .ok (String.ofList chars, ⟨j, t⟩)
  := h.reads (i - 1) [] (s.length + 1) i (Nat.lt_succ_self _)

theorem quoted_of_string {s after : Spot} {text : String} (h : string s = .ok (text, after)) :
  ∃ chars, text = String.ofList chars ∧ Quoted s.rest chars after.rest
  := quoted_of_stringFrom h

end PipelineAudit.Json
