import PipelineAudit.Proofs.Pattern.Lines
import PipelineAudit.Proofs.Text.Case
import PipelineAudit.Secret.Plausible
import Mathlib.Data.List.TakeWhile

/-!
# Preferred stretches

What a pattern prefers to read at a place, if that does not depend on what stands before the place.
A greedy repetition of one class reads the run of the class, if it is long enough, and so the first
run in a text is found by going from run to run.

* `Takes`, `Refuses`: what a pattern reads at the beginning of a text, put together from its parts.
* `takes_run`, `refuses_run`: a greedy repetition of one class.
* `occursIn_eq_any_tails`: a pattern that does not look back occurs where it can begin.
* `findAll_of_takes`: the one match in a text that ends with it.
* `firstRun_eq`: the first run of a length is the run at the beginning, or found after it.
-/

namespace PipelineAudit

namespace Pattern

/-! ### Parts -/

/-- A pattern reads nothing at the beginning of a text. -/
def Refuses (p : Pattern) (text : List Char) : Prop :=
  ∀ before kept, p.ends ⟨⟨before, text⟩, kept⟩ = []

/-- A pattern prefers to read `w` at the beginning of the text `w ++ rest`. -/
def Takes (p : Pattern) (w rest : List Char) : Prop :=
  ∀ before kept, ∃ kept',
    (p.ends ⟨⟨before, w ++ rest⟩, kept⟩).head? = some ⟨⟨w.getLast?.or before, rest⟩, kept'⟩

theorem ends_one_cons (allowed : Char → Bool) (before : Option Char) (c : Char)
    (rest : List Char) (kept : List (List Char)) :
  (one allowed).ends ⟨⟨before, c :: rest⟩, kept⟩ =
    if allowed c then [⟨⟨some c, rest⟩, kept⟩] else []
  := rfl

theorem refuses_one {allowed : Char → Bool} {text : List Char}
    (h : ∀ c ∈ text.head?, allowed c = false) :
  Refuses (one allowed) text
  := by
  intro before kept
  cases text with
  | nil => rfl
  | cons c rest => rw [ends_one_cons, h c rfl, if_neg Bool.false_ne_true]

theorem Refuses.seq {p : Pattern} {text : List Char} (h : Refuses p text) (q : Pattern) :
  Refuses (seq p q) text
  := by
  intro before kept
  rw [ends, h, List.flatMap_nil]

theorem Refuses.either {p q : Pattern} {text : List Char} (hp : Refuses p text)
    (hq : Refuses q text) :
  Refuses (either p q) text
  := by
  intro before kept
  rw [ends, hp, hq, List.append_nil]

/-- No round, no repetition of rounds. -/
theorem Refuses.repeated {p : Pattern} {text : List Char} (h : Refuses p text) (greedy : Bool)
    {least : Nat} (hleast : 0 < least) (most : Option Nat) :
  Refuses (repeated greedy least most p) text
  := by
  intro before kept
  rw [ends]
  cases text.length with
  | zero => rw [repeatedEnds, if_neg (Nat.ne_of_gt hleast)]
  | succ fuel =>
    rw [repeatedEnds, if_pos hleast, h, List.filter_nil, List.flatMap_nil, ite_self]

theorem takes_one {allowed : Char → Bool} {c : Char} (h : allowed c) (rest : List Char) :
  Takes (one allowed) [c] rest
  := by
  intro before kept
  refine ⟨kept, ?_⟩
  rw [List.singleton_append, ends_one_cons, if_pos h]
  rfl

theorem Takes.seq {p q : Pattern} {w w' rest : List Char} (hp : Takes p w (w' ++ rest))
    (hq : Takes q w' rest) :
  Takes (seq p q) (w ++ w') rest
  := by
  intro before kept
  obtain ⟨kept', hp⟩ := hp before kept
  obtain ⟨kept'', hq⟩ := hq (w.getLast?.or before) kept'
  refine ⟨kept'', ?_⟩
  obtain ⟨others, he⟩ := List.head?_eq_some_iff.mp hp
  rw [ends, List.append_assoc, he, List.flatMap_cons, List.head?_append, hq, Option.some_or,
    List.getLast?_append, Option.or_assoc]

theorem Takes.left {p : Pattern} {w rest : List Char} (h : Takes p w rest) (q : Pattern) :
  Takes (either p q) w rest
  := by
  intro before kept
  obtain ⟨kept', h⟩ := h before kept
  refine ⟨kept', ?_⟩
  rw [ends, List.head?_append, h, Option.some_or]

theorem Takes.right {p q : Pattern} {w rest : List Char} (hp : Refuses p (w ++ rest))
    (hq : Takes q w rest) :
  Takes (either p q) w rest
  := by
  intro before kept
  rw [ends, hp, List.nil_append]
  exact hq before kept

theorem Takes.group {p : Pattern} {w rest : List Char} (h : Takes p w rest) :
  Takes (group p) w rest
  := by
  intro before kept
  obtain ⟨kept', h⟩ := h before kept
  rw [ends, List.head?_map, h]
  exact ⟨_, rfl⟩

/-! ### Runs -/

/-- No character of a class follows the run of the class at the beginning of a text. -/
theorem head?_dropWhile_eq_false (allowed : Char → Bool) (text : List Char) :
  ∀ c ∈ (text.dropWhile allowed).head?, allowed c = false
  := by
  intro c hc
  have hd := List.head?_dropWhile_not allowed text
  rw [hc] at hd
  exact hd

/-- A text begins with a run of a class, which may be empty and goes as far as it can. -/
theorem exists_run (allowed : Char → Bool) (text : List Char) :
  ∃ run rest, text = run ++ rest ∧ (∀ c ∈ run, allowed c) ∧ ∀ c ∈ rest.head?, allowed c = false
  := by
  exact ⟨text.takeWhile allowed, text.dropWhile allowed, List.takeWhile_append_dropWhile.symm,
    fun c hc => List.mem_takeWhile_imp hc, head?_dropWhile_eq_false allowed text⟩

/-- A text begins with one run of a class that goes as far as it can. -/
theorem run_append_inj {allowed : Char → Bool} {run rest run' rest' : List Char}
    (hrun : ∀ c ∈ run, allowed c) (hrest : ∀ c ∈ rest.head?, allowed c = false)
    (hrun' : ∀ c ∈ run', allowed c) (hrest' : ∀ c ∈ rest'.head?, allowed c = false)
    (h : run ++ rest = run' ++ rest') :
  run = run' ∧ rest = rest'
  := by
  have hdrop : ∀ {run rest : List Char}, (∀ c ∈ run, allowed c) →
      (∀ c ∈ rest.head?, allowed c = false) → (run ++ rest).dropWhile allowed = rest := by
    intro run rest hrun hrest
    rw [List.dropWhile_append_of_pos hrun]
    cases rest with
    | nil => rfl
    | cons c rest => rw [List.dropWhile_cons_of_neg (by simp [hrest c rfl])]
  have he : rest = rest' := by rw [← hdrop hrun hrest, h, hdrop hrun' hrest']
  exact ⟨List.append_cancel_right (he ▸ h), he⟩

/-- A greedy repetition of a class goes on with the next character of the class. -/
theorem repeatedEnds_one_cons {allowed : Char → Bool} {c : Char} (hc : allowed c) (fuel least : Nat)
    {most : Option Nat} (hmost : most ≠ some 0) (before : Option Char) (rest : List Char)
    (kept : List (List Char)) :
  repeatedEnds (one allowed).ends true (fuel + 1) least most ⟨⟨before, c :: rest⟩, kept⟩ =
    repeatedEnds (one allowed).ends true fuel (least - 1) (most.map (· - 1))
      ⟨⟨some c, rest⟩, kept⟩ ++ if 0 < least then [] else [⟨⟨before, c :: rest⟩, kept⟩]
  := by
  have hf : ((one allowed).ends ⟨⟨before, c :: rest⟩, kept⟩).filter
      (fun s => s.place.rest.length < (c :: rest).length) = [⟨⟨some c, rest⟩, kept⟩] := by
    rw [ends_one_cons, if_pos hc]
    exact List.filter_eq_self.mpr (by simp)
  rw [repeatedEnds, if_neg hmost, hf, List.flatMap_singleton, if_pos rfl]
  split
  · rw [List.append_nil]
  · rfl

/-- A greedy repetition of a class stops if it may not go on, or no character of the class
follows. -/
theorem repeatedEnds_one_stop {allowed : Char → Bool} {most : Option Nat} {text : List Char}
    (h : most = some 0 ∨ ∀ c ∈ text.head?, allowed c = false) (fuel least : Nat)
    (before : Option Char) (kept : List (List Char)) :
  repeatedEnds (one allowed).ends true fuel least most ⟨⟨before, text⟩, kept⟩ =
    if least = 0 then [⟨⟨before, text⟩, kept⟩] else []
  := by
  cases fuel with
  | zero => rfl
  | succ fuel =>
    have hf : (if most = some 0 then [] else
        (((one allowed).ends ⟨⟨before, text⟩, kept⟩).filter
          fun s => s.place.rest.length < text.length).flatMap
            (repeatedEnds (one allowed).ends true fuel (least - 1) (most.map (· - 1)))) = [] := by
      obtain rfl | h := h
      · rw [if_pos rfl]
      · rw [refuses_one h, List.filter_nil, List.flatMap_nil, ite_self]
    rw [repeatedEnds, hf]
    cases least with
    | zero => rfl
    | succ least => rfl

/-- A greedy repetition of a class prefers to read the run that it may and must stop after. -/
theorem takes_run {allowed : Char → Bool} {run rest : List Char} {least : Nat} {most : Option Nat}
    (hrun : ∀ c ∈ run, allowed c) (hleast : least ≤ run.length) (hmost : ∀ m ∈ most, run.length ≤ m)
    (hstop : most = some run.length ∨ ∀ c ∈ rest.head?, allowed c = false) :
  Takes (repeated true least most (one allowed)) run rest
  := by
  intro before kept
  refine ⟨kept, ?_⟩
  rw [ends]
  generalize hfuel : (run ++ rest).length = fuel
  induction run generalizing fuel least most before with
  | nil =>
    obtain rfl := Nat.le_zero.mp hleast
    rw [List.nil_append, repeatedEnds_one_stop hstop, if_pos rfl]
    rfl
  | cons c run ih =>
    obtain ⟨fuel, rfl⟩ : ∃ k, fuel = k + 1 := ⟨(run ++ rest).length, hfuel.symm⟩
    have hz : most ≠ some 0 := by
      rintro rfl
      cases hmost 0 rfl
    -- both bounds are lower by one for the rest of the run
    have hmost' : ∀ m ∈ most.map (· - 1), run.length ≤ m := by
      intro m hm
      obtain ⟨m', hm', rfl⟩ := Option.map_eq_some_iff.mp hm
      exact Nat.le_sub_one_of_lt (hmost m' hm')
    have hstop' : most.map (· - 1) = some run.length ∨ ∀ c ∈ rest.head?, allowed c = false := by
      apply hstop.imp_left
      rintro rfl
      rfl
    have hrun' : ∀ d ∈ run, allowed d := fun d hd => hrun d (List.mem_cons_of_mem c hd)
    rw [List.cons_append, repeatedEnds_one_cons (hrun c List.mem_cons_self) fuel least hz,
      List.head?_append, ih hrun' (Nat.sub_le_of_le_add hleast) hmost' hstop' (some c) fuel
        (Nat.succ.inj hfuel), Option.some_or, getLast?_cons_or]

/-- A character that may be there or not is read if it is there. -/
theorem takes_optional_char {c : Char} {w rest : List Char} (hw : w = [] ∨ w = [c])
    (hrest : w = [] → ∀ d ∈ rest.head?, d ≠ c) :
  Takes (optional (one (· = c))) w rest
  := by
  obtain rfl | rfl := hw
  · have hstop : ∀ d ∈ rest.head?, decide (d = c) = false :=
      fun d hd => decide_eq_false (hrest rfl d hd)
    exact takes_run (by simp) (Nat.zero_le _) (by simp) (.inr hstop)
  · exact takes_run (by simp) (Nat.zero_le _) (by simp) (.inl rfl)

/-- A repetition of a class reads nothing if the run at the beginning is not long enough. -/
theorem refuses_run {allowed : Char → Bool} {text : List Char} {least : Nat} {most : Option Nat}
    (h : (text.takeWhile allowed).length < least) (hmost : ∀ m ∈ most, least ≤ m) :
  Refuses (repeated true least most (one allowed)) text
  := by
  intro before kept
  rw [ends]
  generalize hfuel : text.length = fuel
  induction text generalizing fuel least most before with
  | nil => rw [repeatedEnds_one_stop (.inr (by simp)), if_neg (Nat.ne_zero_of_lt h)]
  | cons c rest ih =>
    obtain ⟨fuel, rfl⟩ : ∃ k, fuel = k + 1 := ⟨rest.length, hfuel.symm⟩
    cases hc : allowed c with
    | false =>
      have hstop : ∀ d ∈ (c :: rest).head?, allowed d = false := by
        rintro d ⟨⟩
        exact hc
      rw [repeatedEnds_one_stop (.inr hstop), if_neg (Nat.ne_zero_of_lt h)]
    | true =>
      have hz : most ≠ some 0 := by
        rintro rfl
        exact Nat.not_lt_zero _ (Nat.lt_of_lt_of_le h (hmost 0 rfl))
      rw [List.takeWhile_cons, hc] at h
      rw [repeatedEnds_one_cons hc fuel least hz, if_pos (Nat.zero_lt_of_lt h), List.append_nil]
      apply ih (Nat.lt_sub_of_add_lt h) ?_ _ fuel (Nat.succ.inj hfuel)
      intro m hm
      obtain ⟨m', hm', rfl⟩ := Option.map_eq_some_iff.mp hm
      exact Nat.sub_le_sub_right (hmost m' hm') 1

/-- A greedy repetition of a class reads as much of a run that is long enough as it may. -/
theorem exists_takes_run {allowed : Char → Bool} {least : Nat} {most : Option Nat}
    (hmost : ∀ m ∈ most, least ≤ m) {text : List Char}
    (h : least ≤ (text.takeWhile allowed).length) :
  let run := text.takeWhile allowed
  ∃ rest, text = most.elim run run.take ++ rest ∧
    Takes (repeated true least most (one allowed)) (most.elim run run.take) rest
  := by
  intro run
  have hrun : ∀ c ∈ run, allowed c := fun c hc => List.mem_takeWhile_imp hc
  have htext : text = run ++ text.dropWhile allowed := List.takeWhile_append_dropWhile.symm
  have hstop := head?_dropWhile_eq_false allowed text
  cases most with
  | none => exact ⟨text.dropWhile allowed, htext, takes_run hrun h (by simp) (.inr hstop)⟩
  | some m =>
    obtain hm | hm := Nat.le_total run.length m
    · rw [Option.elim_some, List.take_of_length_le hm]
      exact ⟨text.dropWhile allowed, htext, takes_run hrun h (by simpa using hm) (.inr hstop)⟩
    · have hl : (run.take m).length = m := List.length_take_of_le hm
      refine ⟨run.drop m ++ text.dropWhile allowed, ?_, takes_run ?_ ?_ ?_ (.inl ?_)⟩
      · rw [Option.elim_some, ← List.append_assoc, List.take_append_drop]
        exact htext
      · exact fun c hc => hrun c (List.mem_of_mem_take hc)
      · exact hl.symm ▸ hmost m rfl
      · rintro _ ⟨⟩
        exact Nat.le_of_eq hl
      · exact congrArg some hl.symm

/-! ### Words -/

theorem takes_word (word rest : List Char) :
  Takes (inOrder (word.map fun d => one (· = d))) word rest
  := by
  induction word with
  | nil => exact fun before kept => ⟨kept, rfl⟩
  | cons d word ih =>
    have hd : ∀ rest, Takes (one (· = d)) [d] rest := takes_one (decide_eq_true rfl)
    cases word with
    | nil => exact hd rest
    | cons d' word => exact (hd _).seq ih

theorem takes_lit (word : String) (rest : List Char) :
  Takes (lit word) word.toList rest
  := takes_word word.toList rest

/-! ### Words in any case -/

/-- Whether a text begins with the letters of a word, in any case. -/
def beginsAlike : List Char → List Char → Bool
  | [], _ => true
  | _ :: _, [] => false
  | d :: word, c :: text => sameLetter c d && beginsAlike word text

/-- The letters beyond ASCII play no part in the comparison of an ASCII character. -/
theorem sameLetter_of_ascii {c : Char} (h : c.toNat < 128) (d : Char) :
  sameLetter c d = decide (c.toLower = d.toLower)
  := by
  have hbeyond : ∀ x, ∀ y ∈ foldsTo x, 128 ≤ y.toNat := by
    intro x
    unfold foldsTo
    split <;> simp
  have hf : c ∉ foldsTo d.toLower := fun hc => Nat.not_lt.mpr (hbeyond _ c hc) h
  have he : c = d → c.toLower = d.toLower := congrArg Char.toLower
  rw [sameLetter, List.contains_eq_mem, decide_eq_false hf, Bool.or_false]
  simpa using he

theorem beginsAlike_map_toLower {a : List Char} (h : ∀ c ∈ a, c.toNat < 128)
    (word rest : List Char) :
  beginsAlike word (a.map Char.toLower ++ rest) = beginsAlike word (a ++ rest)
  := by
  induction a generalizing word with
  | nil => rfl
  | cons c a ih =>
    cases word with
    | nil => rfl
    | cons d word =>
      obtain ⟨hc, ha⟩ := List.forall_mem_cons.mp h
      rw [List.map_cons, List.cons_append, List.cons_append, beginsAlike, beginsAlike, ih ha,
        sameLetter_of_ascii (Text.toLower_ascii hc), sameLetter_of_ascii hc, Text.toLower_toLower]

theorem beginsAlike_append (word rest : List Char) :
  beginsAlike word (word ++ rest)
  := by
  induction word with
  | nil => cases rest <;> rfl
  | cons d word ih => rw [List.cons_append, beginsAlike, ih, sameLetter]; simp

theorem takes_letters {word text : List Char} (h : beginsAlike word text) :
  Takes (inOrder (word.map fun d => one (sameLetter · d))) (text.take word.length)
    (text.drop word.length)
  := by
  induction word generalizing text with
  | nil => exact fun before kept => ⟨kept, rfl⟩
  | cons d word ih =>
    cases text with
    | nil => cases h
    | cons c text =>
      rw [beginsAlike, Bool.and_eq_true] at h
      have hi := ih h.2
      have hc : Takes (one (sameLetter · d)) [c]
          (text.take word.length ++ text.drop word.length) := by
        apply takes_one
        exact h.1
      cases word with
      | nil => exact hc
      | cons d' word => exact hc.seq hi

theorem refuses_letters {word text : List Char} (h : beginsAlike word text = false) :
  Refuses (inOrder (word.map fun d => one (sameLetter · d))) text
  := by
  induction word generalizing text with
  | nil => cases h
  | cons d word ih =>
    have hfirst : (∀ c ∈ text.head?, sameLetter c d = false) ∨
        ∃ c rest, text = c :: rest ∧ sameLetter c d ∧ beginsAlike word rest = false := by
      cases text with
      | nil => exact .inl (by simp)
      | cons c rest =>
        rw [beginsAlike, Bool.and_eq_false_iff] at h
        cases hc : sameLetter c d with
        | false =>
          left
          rintro _ ⟨⟩
          exact hc
        | true => exact .inr ⟨c, rest, rfl, hc, h.resolve_left (by simp [hc])⟩
    obtain hfirst | ⟨c, rest, rfl, hc, hrest⟩ := hfirst
    · cases word with
      | nil => exact refuses_one hfirst
      | cons d' word => exact (refuses_one hfirst).seq _
    · cases word with
      | nil => cases hrest
      | cons d' word =>
        intro before kept
        rw [List.map_cons, List.map_cons, inOrder, ends, ends_one_cons, if_pos hc,
          List.flatMap_singleton]
        · exact ih hrest (some c) kept
        · exact List.cons_ne_nil _ _

/-! ### The first match -/

theorem Refuses.matchAt?_eq {p : Pattern} {text : List Char} (h : Refuses p text) (index : Nat)
    (before : Option Char) :
  p.matchAt? index ⟨before, text⟩ = none
  := by
  rw [matchAt?, h]
  rfl

theorem Takes.matchAt?_eq {p : Pattern} {w rest : List Char} (h : Takes p w rest) (index : Nat)
    (before : Option Char) :
  ∃ kept, p.matchAt? index ⟨before, w ++ rest⟩ = some ⟨index, w, kept⟩
  := by
  obtain ⟨kept, h⟩ := h before []
  refine ⟨kept, ?_⟩
  rw [matchAt?, h, Option.map_some, Place.textUpTo, List.length_append, Nat.add_sub_cancel,
    List.take_left]

theorem isSome_matchAt?_oneOf (ps : List Pattern) (index : Nat) (place : Place) :
  ((oneOf ps).matchAt? index place).isSome = ps.any fun p => (p.matchAt? index place).isSome
  := by
  induction ps with
  | nil =>
    have hr : Refuses (one fun _ => false) place.rest := refuses_one fun _ _ => rfl
    rw [oneOf, List.any_nil, hr.matchAt?_eq, Option.isSome_none]
  | cons p ps ih =>
    cases ps with
    | nil => rw [oneOf, List.any_cons, List.any_nil, Bool.or_false]
    | cons q ps =>
      rw [List.any_cons, ← ih, oneOf, matchAt?, matchAt?, matchAt?, ends, List.head?_append]
      · simp
      · exact List.cons_ne_nil _ _

theorem isSome_matchAt?_litFolded (word : String) (index : Nat) (place : Place) :
  ((litFolded word).matchAt? index place).isSome = beginsAlike word.toList place.rest
  := by
  cases h : beginsAlike word.toList place.rest with
  | false =>
    have hr : Refuses (litFolded word) place.rest := refuses_letters h
    rw [hr.matchAt?_eq, Option.isSome_none]
  | true =>
    obtain ⟨kept, hm⟩ := (takes_letters h).matchAt?_eq index place.before
    rw [List.take_append_drop] at hm
    rw [litFolded, hm, Option.isSome_some]

/-- A pattern that matches at a place or not, whatever stands before the place, occurs in a text if
it matches at the beginning of one of the parts that remain. -/
theorem occursIn_eq_any_tails {p : Pattern} {begins : List Char → Bool}
    (h : ∀ index place, (p.matchAt? index place).isSome = begins place.rest) (text : List Char) :
  p.occursIn text = text.tails.any begins
  := by
  have hs : ∀ index before, (p.searchFrom index before text).isSome = text.tails.any begins := by
    induction text with
    | nil =>
      intro index before
      rw [searchFrom, h, List.tails, List.any_cons, List.any_nil, Bool.or_false]
    | cons c rest ih =>
      intro index before
      rw [searchFrom, Option.isSome_or, h, ih, List.tails, List.any_cons]
  exact hs 0 none

/-- A pattern that is tied to the beginning of the text does not occur in it if what follows reads
nothing there. -/
theorem occursIn_textStart {p : Pattern} {text : List Char} (h : Refuses p text) :
  (seq textStart p).occursIn text = false
  := by
  have hlater : ∀ (c : Char) (rest : List Char) (index : Nat),
      (seq textStart p).searchFrom index (some c) rest = none := by
    intro c rest
    have hm : ∀ index (c : Char) rest,
        (seq textStart p).matchAt? index ⟨some c, rest⟩ = none := fun _ _ _ => rfl
    induction rest generalizing c with
    | nil => exact fun index => hm index c []
    | cons d rest ih =>
      intro index
      rw [searchFrom, hm, Option.none_or, ih]
  have hfirst : (seq textStart p).matchAt? 0 ⟨none, text⟩ = none := by
    have he : (seq textStart p).ends ⟨⟨none, text⟩, []⟩ = p.ends ⟨⟨none, text⟩, []⟩ :=
      List.flatMap_singleton ..
    rw [matchAt?, he, h]
    rfl
  rw [occursIn, search?]
  cases text with
  | nil => rw [searchFrom, hfirst, Option.isSome_none]
  | cons c rest => rw [searchFrom, hfirst, Option.none_or, hlater, Option.isSome_none]

/-! ### A single match -/

theorem findFrom_length {p : Pattern} (h : Refuses p []) (index : Nat) (before : Option Char)
    (text : List Char) :
  p.findFrom text.length index before text = []
  := by
  induction text generalizing index before with
  | nil => rw [List.length_nil, findFrom, h.matchAt?_eq, Option.toList_none]
  | cons c rest ih => rw [List.length_cons, findFrom, ih]

/-- If a pattern reads all that is left of a text, and nothing where the characters before that
stand, this is its one match in the text. -/
theorem findAll_of_takes {p : Pattern} {a w : List Char} (hw : w ≠ [])
    (ha : ∀ c ∈ a, ∀ rest, Refuses p (c :: rest)) (ht : Takes p w []) (hend : Refuses p []) :
  ∃ kept, p.findAll (a ++ w) = [⟨a.length, w, kept⟩]
  := by
  have hf : ∀ index before,
      ∃ kept, p.findFrom 0 index before (a ++ w) = [⟨index + a.length, w, kept⟩] := by
    induction a with
    | nil =>
      intro index before
      obtain ⟨kept, hm⟩ := ht.matchAt?_eq index before
      obtain ⟨c, rest, rfl⟩ := List.exists_cons_of_ne_nil hw
      rw [List.append_nil] at hm
      refine ⟨kept, ?_⟩
      rw [List.nil_append, findFrom, hm]
      simp [findFrom_length hend]
    | cons c a ih =>
      intro index before
      obtain ⟨kept, hi⟩ := ih (fun d hd => ha d (List.mem_cons_of_mem c hd)) (index + 1) (some c)
      refine ⟨kept, ?_⟩
      rw [List.cons_append, findFrom, (ha c List.mem_cons_self (a ++ w)).matchAt?_eq]
      simp only [hi, List.length_cons, Nat.add_assoc, Nat.add_comm 1]
  obtain ⟨kept, h⟩ := hf 0 none
  exact ⟨kept, by rw [findAll, h, Nat.zero_add]⟩

end Pattern

namespace Secret

open Pattern

/-! ### The first run -/

/-- The first run of a class that is long enough is the one at the beginning of a text, or it is
found after that and the character that ends it. -/
theorem firstRun_eq {allowed : Char → Bool} {least : Nat} {most : Option Nat} (hleast : 0 < least)
    (hmost : ∀ m ∈ most, least ≤ m) (text : List Char) :
  let run := text.takeWhile allowed
  firstRun (repeated true least most) allowed text =
    if least ≤ run.length then some (most.elim run run.take)
    else firstRun (repeated true least most) allowed (text.dropWhile allowed).tail
  := by
  have hs : ∀ index before,
      ((repeated true least most (one allowed)).searchFrom index before text).map (·.text) =
        if least ≤ (text.takeWhile allowed).length then
          some (most.elim (text.takeWhile allowed) (text.takeWhile allowed).take)
        else firstRun (repeated true least most) allowed (text.dropWhile allowed).tail := by
    induction text with
    | nil =>
      intro index before
      have hr : Refuses (repeated true least most (one allowed)) [] := refuses_run hleast hmost
      have hz : ¬ least ≤ (([] : List Char).takeWhile allowed).length := Nat.not_le.mpr hleast
      rw [if_neg hz, searchFrom, hr.matchAt?_eq, List.dropWhile_nil, List.tail_nil, firstRun,
        search?, searchFrom, hr.matchAt?_eq]
    | cons c rest ih =>
      intro index before
      split_ifs with h
      · obtain ⟨rest', he, ht⟩ := exists_takes_run hmost h
        obtain ⟨kept, hm⟩ := ht.matchAt?_eq index before
        rw [← he] at hm
        rw [searchFrom, hm, Option.some_or, Option.map_some]
      · have hr := refuses_run (Nat.not_le.mp h) hmost
        rw [searchFrom, hr.matchAt?_eq, Option.none_or, ih]
        cases hc : allowed c with
        | true =>
          rw [List.takeWhile_cons, hc, if_pos rfl, List.length_cons] at h
          rw [if_neg (by omega), List.dropWhile_cons, hc, if_pos rfl]
        | false =>
          rw [List.dropWhile_cons, hc, if_neg Bool.false_ne_true, List.tail_cons, ← ih 0 none]
          rfl
  exact hs 0 none

section

variable {allowed : Char → Bool} {least : Nat} {most : Option Nat} (hmost : ∀ m ∈ most, least ≤ m)

include hmost

/-- A run that is too short is passed over, with the character that ends it. -/
theorem firstRun_append_cons {run : List Char} {c : Char} (hrun : ∀ d ∈ run, allowed d)
    (hshort : run.length < least) (hc : allowed c = false) (rest : List Char) :
  firstRun (repeated true least most) allowed (run ++ c :: rest) =
    firstRun (repeated true least most) allowed rest
  := by
  have ht : (run ++ c :: rest).takeWhile allowed = run := by
    rw [List.takeWhile_append_of_pos hrun, List.takeWhile_cons_of_neg (by simp [hc]),
      List.append_nil]
  have hd : (run ++ c :: rest).dropWhile allowed = c :: rest := by
    rw [List.dropWhile_append_of_pos hrun, List.dropWhile_cons_of_neg (by simp [hc])]
  rw [firstRun_eq (Nat.zero_lt_of_lt hshort) hmost, ht, if_neg (Nat.not_le.mpr hshort), hd,
    List.tail_cons]

/-- Characters outside of the class are passed over. -/
theorem firstRun_append_of_neg (hleast : 0 < least) {gap : List Char}
    (hgap : ∀ c ∈ gap, allowed c = false) (rest : List Char) :
  firstRun (repeated true least most) allowed (gap ++ rest) =
    firstRun (repeated true least most) allowed rest
  := by
  induction gap with
  | nil => rfl
  | cons c gap ih =>
    have hc := firstRun_append_cons hmost (List.forall_mem_nil _) hleast
      (hgap c List.mem_cons_self) (gap ++ rest)
    exact hc.trans (ih fun d hd => hgap d (List.mem_cons_of_mem c hd))

/-- A run at the beginning that is long enough is the first one. -/
theorem firstRun_append_of_pos (hleast : 0 < least) {run rest : List Char}
    (hrun : ∀ c ∈ run, allowed c) (hlong : least ≤ run.length)
    (hrest : ∀ c ∈ rest.head?, allowed c = false) :
  firstRun (repeated true least most) allowed (run ++ rest) =
    some (most.elim run run.take)
  := by
  have ht : (run ++ rest).takeWhile allowed = run := by
    rw [List.takeWhile_append_of_pos hrun]
    cases rest with
    | nil => exact List.append_nil run
    | cons c rest =>
      rw [List.takeWhile_cons_of_neg (by simp [hrest c rfl]), List.append_nil]
  rw [firstRun_eq hleast hmost, ht, if_pos hlong]

/-- Characters of the class join the run that follows them. -/
theorem firstRun_append (hleast : 0 < least) {joined : List Char}
    (hjoined : ∀ c ∈ joined, allowed c) (rest : List Char) :
  let run := joined ++ rest.takeWhile allowed
  firstRun (repeated true least most) allowed (joined ++ rest) =
    if least ≤ run.length then some (most.elim run run.take)
    else firstRun (repeated true least most) allowed rest
  := by
  intro run
  have ht : (joined ++ rest).takeWhile allowed = run := List.takeWhile_append_of_pos hjoined
  have hd : (joined ++ rest).dropWhile allowed = rest.dropWhile allowed :=
    List.dropWhile_append_of_pos hjoined
  rw [firstRun_eq hleast hmost, ht, hd]
  split_ifs with h
  · rfl
  · have hshort : ¬ least ≤ (rest.takeWhile allowed).length := by
      rw [List.length_append] at h
      omega
    rw [firstRun_eq hleast hmost rest, if_neg hshort]

end

end Secret

end PipelineAudit
