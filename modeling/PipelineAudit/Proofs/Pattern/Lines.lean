import PipelineAudit.Proofs.Text.Lines

/-!
# Matches on a line

A pattern stays in a line if it takes up no line feed and asks for none but at the ends of a line.
What it finds in a text it finds on the line where the match lies, as if the line stood alone.

* `Pattern.ends_onLine`: such a pattern has on a line alone the ends that it has in the text.
* `Pattern.exists_of_mem_findAll`: where in a text a match lies.
* `Pattern.matchAt?_onLine`: a match in a text is a match on the line where it lies.
-/

namespace PipelineAudit

/-! ### Places on lines -/

namespace Place

/-- A place on its line alone. -/
def onLine (p : Place) : Place :=
  ⟨p.before.filter (· ≠ '\n'), Text.upTo '\n' p.rest⟩

/-- A place is reached from another one without a line feed on the way. -/
def LeadsTo (p q : Place) : Prop :=
  ∃ stretch : List Char, p.rest = stretch ++ q.rest ∧ '\n' ∉ stretch

theorem LeadsTo.refl (p : Place) :
  p.LeadsTo p
  := ⟨[], rfl, List.not_mem_nil⟩

theorem LeadsTo.trans {p q r : Place} (h : p.LeadsTo q) (k : q.LeadsTo r) :
  p.LeadsTo r
  := by
  obtain ⟨a, ha, hna⟩ := h
  obtain ⟨b, hb, hnb⟩ := k
  refine ⟨a ++ b, ?_, ?_⟩
  · rw [ha, hb, List.append_assoc]
  · rw [List.mem_append]
    exact fun h => h.elim hna hnb

/-- The stretch up to a place on the same line is the same on the line alone. -/
theorem LeadsTo.rest_onLine {p q : Place} (h : p.LeadsTo q) :
  ∃ stretch : List Char, p.rest = stretch ++ q.rest ∧
    p.onLine.rest = stretch ++ q.onLine.rest
  := by
  obtain ⟨stretch, hr, hn⟩ := h
  refine ⟨stretch, hr, ?_⟩
  rw [onLine, onLine, Text.upTo, Text.upTo, hr]
  apply List.takeWhile_append_of_pos
  intro c hc
  apply decide_eq_true
  rintro rfl
  exact hn hc

theorem LeadsTo.textUpTo {p q : Place} (h : p.LeadsTo q) :
  p.textUpTo q <+: p.rest ∧ '\n' ∉ p.textUpTo q
  := by
  obtain ⟨stretch, hr, hn⟩ := h
  rw [Place.textUpTo, hr, List.length_append, Nat.add_sub_cancel, List.take_left]
  exact ⟨List.prefix_append _ _, hn⟩

theorem LeadsTo.textUpTo_onLine {p q : Place} (h : p.LeadsTo q) :
  p.onLine.textUpTo q.onLine = p.textUpTo q
  := by
  obtain ⟨stretch, hr, hl⟩ := h.rest_onLine
  rw [Place.textUpTo, Place.textUpTo, hr, hl, List.length_append, List.length_append,
    Nat.add_sub_cancel_right, Nat.add_sub_cancel_right, List.take_left, List.take_left]

/-- A place that is further on is so on the line alone. -/
theorem LeadsTo.length_onLine {p q : Place} (h : p.LeadsTo q) :
  q.onLine.rest.length < p.onLine.rest.length ↔ q.rest.length < p.rest.length
  := by
  obtain ⟨stretch, hr, hl⟩ := h.rest_onLine
  rw [hr, hl, List.length_append, List.length_append]
  omega

theorem isWord_lineFeed :
  Text.isWord '\n' = false
  := by decide

theorem before_all_onLine (p : Place) :
  p.onLine.before.all (· = '\n') = p.before.all (· = '\n')
  := by
  rw [onLine]
  cases p.before with
  | none => rfl
  | some c => by_cases hc : c = '\n' <;> simp [Option.filter, hc]

theorem wordBefore_onLine (p : Place) :
  p.onLine.wordBefore = p.wordBefore
  := by
  rw [wordBefore, wordBefore, onLine]
  cases p.before with
  | none => rfl
  | some c => by_cases hc : c = '\n' <;> simp [Option.filter, hc, isWord_lineFeed]

theorem head?_onLine (p : Place) :
  p.onLine.rest.head? = p.rest.head?.filter (· ≠ '\n')
  := by
  rw [onLine, Text.upTo]
  cases p.rest with
  | nil => rfl
  | cons c rest => by_cases hc : c = '\n' <;> simp [Option.filter, hc]

theorem wordAfter_onLine (p : Place) :
  p.onLine.wordAfter = p.wordAfter
  := by
  rw [wordAfter, wordAfter, head?_onLine]
  cases p.rest.head? with
  | none => rfl
  | some c => by_cases hc : c = '\n' <;> simp [Option.filter, hc, isWord_lineFeed]

theorem head?_all_onLine (p : Place) :
  p.onLine.rest.head?.all (· = '\n') = p.rest.head?.all (· = '\n')
  := by
  rw [head?_onLine]
  cases p.rest.head? with
  | none => rfl
  | some c => by_cases hc : c = '\n' <;> simp [Option.filter, hc]

end Place

/-- A place reached, on its line alone. -/
def Reached.onLine (r : Reached) : Reached :=
  ⟨r.place.onLine, r.kept⟩

namespace Pattern

/-! ### Patterns that stay in a line -/

/-- Whether a pattern takes up no line feed and does not look for the ends of the text. -/
def staysInLine : Pattern → Bool
  | one allowed => !allowed '\n'
  | nothing => true
  | seq first second => first.staysInLine && second.staysInLine
  | either first second => first.staysInLine && second.staysInLine
  | repeated _ _ _ round => round.staysInLine
  | group body => body.staysInLine
  | textStart => false
  | lineStart => true
  | textEnd => false
  | lineEnd => true
  | wordEdge => true
  | ahead body => body.staysInLine
  | notAhead body => body.staysInLine

theorem leadsTo_of_mem_condition {holds : Bool} {r s : Reached} (h : s ∈ condition holds r) :
  r.place.LeadsTo s.place
  := by
  rw [condition] at h
  split at h
  · obtain rfl := List.mem_singleton.mp h
    apply Place.LeadsTo.refl
  · cases h

/-- A repetition stops where it may, or goes on with a round that gains something. -/
theorem mem_repeatedEnds_succ_iff {round : Reached → List Reached} {greedy : Bool}
    {fuel least : Nat} {most : Option Nat} {r s : Reached} :
  s ∈ repeatedEnds round greedy (fuel + 1) least most r ↔
    (least = 0 ∧ s = r) ∨
    (most ≠ some 0 ∧ ∃ t ∈ round r, t.place.rest.length < r.place.rest.length ∧
      s ∈ repeatedEnds round greedy fuel (least - 1) (most.map (· - 1)) t)
  := by
  have hfurther : ∀ further : List Reached,
      (s ∈ if 0 < least then further else if greedy then further ++ [r] else r :: further) ↔
        (least = 0 ∧ s = r) ∨ s ∈ further := by
    intro further
    by_cases hl : least = 0
    · cases greedy <;> simp [hl, or_comm]
    · simp [hl, Nat.pos_of_ne_zero hl]
  rw [repeatedEnds, hfurther, List.mem_ite_nil_left, List.mem_flatMap]
  simp only [List.mem_filter, decide_eq_true_iff, and_assoc]

/-- Rounds that stay in a line do so together. -/
theorem leadsTo_of_mem_repeatedEnds {round : Reached → List Reached}
    (hround : ∀ r, ∀ s ∈ round r, r.place.LeadsTo s.place) {greedy : Bool} {fuel least : Nat}
    {most : Option Nat} {r s : Reached} (h : s ∈ repeatedEnds round greedy fuel least most r) :
  r.place.LeadsTo s.place
  := by
  induction fuel generalizing least most r with
  | zero =>
    rw [repeatedEnds, List.mem_ite_nil_right] at h
    obtain rfl := List.mem_singleton.mp h.2
    apply Place.LeadsTo.refl
  | succ fuel ih =>
    obtain ⟨_, rfl⟩ | ⟨_, t, ht, _, hs⟩ := mem_repeatedEnds_succ_iff.mp h
    · apply Place.LeadsTo.refl
    · exact (hround r t ht).trans (ih hs)

/-- A pattern that stays in a line takes up no line feed. -/
theorem leadsTo_of_mem_ends {p : Pattern} (hp : p.staysInLine) {r s : Reached}
    (h : s ∈ p.ends r) :
  r.place.LeadsTo s.place
  := by
  induction p generalizing r s with
  | one allowed =>
    rw [ends] at h
    split at h
    case h_2 => cases h
    case h_1 c rest hrest =>
      rw [List.mem_ite_nil_right] at h
      obtain ⟨hc, h⟩ := h
      obtain rfl := List.mem_singleton.mp h
      refine ⟨[c], hrest, ?_⟩
      rw [List.mem_singleton]
      rintro rfl
      rw [staysInLine, hc] at hp
      cases hp
  | nothing =>
    obtain rfl := List.mem_singleton.mp h
    apply Place.LeadsTo.refl
  | seq first second ihf ihs =>
    rw [staysInLine, Bool.and_eq_true] at hp
    obtain ⟨t, ht, hs⟩ := List.mem_flatMap.mp h
    exact (ihf hp.1 ht).trans (ihs hp.2 hs)
  | either first second ihf ihs =>
    rw [staysInLine, Bool.and_eq_true] at hp
    obtain h | h := List.mem_append.mp h
    · exact ihf hp.1 h
    · exact ihs hp.2 h
  | repeated greedy least most round ih =>
    exact leadsTo_of_mem_repeatedEnds (fun _ _ ht => ih hp ht) h
  | group body ih =>
    obtain ⟨t, ht, rfl⟩ := List.mem_map.mp h
    have hl : r.place.LeadsTo t.place := ih hp ht
    exact hl
  | textStart => exact leadsTo_of_mem_condition h
  | lineStart => exact leadsTo_of_mem_condition h
  | textEnd => exact leadsTo_of_mem_condition h
  | lineEnd => exact leadsTo_of_mem_condition h
  | wordEdge => exact leadsTo_of_mem_condition h
  | ahead body ih => exact leadsTo_of_mem_condition h
  | notAhead body ih => exact leadsTo_of_mem_condition h

/-! ### Ends on a line alone -/

/-- Fuel beyond the characters that are left makes no difference. -/
theorem repeatedEnds_succ (round : Reached → List Reached) (greedy : Bool) {fuel : Nat}
    (least : Nat) (most : Option Nat) {r : Reached} (h : r.place.rest.length ≤ fuel) :
  repeatedEnds round greedy (fuel + 1) least most r = repeatedEnds round greedy fuel least most r
  := by
  induction fuel generalizing least most r with
  | zero =>
    have hn : ((round r).filter fun s => s.place.rest.length < r.place.rest.length) = [] := by
      rw [List.filter_eq_nil_iff]
      intro s _
      rw [decide_eq_true_iff]
      omega
    simp only [repeatedEnds, hn, List.flatMap_nil, ite_self, List.nil_append]
    by_cases hl : least = 0 <;> simp [hl, Nat.pos_iff_ne_zero]
  | succ fuel ih =>
    have hr : ((round r).filter fun s => s.place.rest.length < r.place.rest.length).flatMap
          (repeatedEnds round greedy (fuel + 1) (least - 1) (most.map (· - 1))) =
        ((round r).filter fun s => s.place.rest.length < r.place.rest.length).flatMap
          (repeatedEnds round greedy fuel (least - 1) (most.map (· - 1))) := by
      apply List.flatMap_congr
      intro s hs
      have hs := decide_eq_true_iff.mp (List.mem_filter.mp hs).2
      apply ih
      omega
    rw [repeatedEnds, hr]
    conv_rhs => rw [repeatedEnds]

/-- Fuel for the characters that are left is enough. -/
theorem repeatedEnds_of_le (round : Reached → List Reached) (greedy : Bool) {fuel : Nat}
    (least : Nat) (most : Option Nat) {r : Reached} (h : r.place.rest.length ≤ fuel) :
  repeatedEnds round greedy fuel least most r =
    repeatedEnds round greedy r.place.rest.length least most r
  := by
  induction h with
  | refl => rfl
  | step h ih => rw [repeatedEnds_succ round greedy least most h, ih]

/-- Rounds whose ends are the same on a line alone have the same ends together. -/
theorem repeatedEnds_onLine {round : Reached → List Reached}
    (hround : ∀ r, ∀ s ∈ round r, r.place.LeadsTo s.place)
    (heq : ∀ r, round r.onLine = (round r).map Reached.onLine) (greedy : Bool) (fuel least : Nat)
    (most : Option Nat) (r : Reached) :
  repeatedEnds round greedy fuel least most r.onLine =
    (repeatedEnds round greedy fuel least most r).map Reached.onLine
  := by
  induction fuel generalizing least most r with
  | zero => by_cases hl : least = 0 <;> simp [repeatedEnds, hl]
  | succ fuel ih =>
    have hf : ((round r.onLine).filter fun s =>
          s.place.rest.length < r.onLine.place.rest.length) =
        ((round r).filter fun s => s.place.rest.length < r.place.rest.length).map
          Reached.onLine := by
      rw [heq, List.filter_map]
      congr 1
      apply List.filter_congr
      intro s hs
      have hl := (hround r s hs).length_onLine
      exact decide_eq_decide.mpr hl
    have hr : ((round r.onLine).filter fun s =>
          s.place.rest.length < r.onLine.place.rest.length).flatMap
            (repeatedEnds round greedy fuel (least - 1) (most.map (· - 1))) =
        (((round r).filter fun s => s.place.rest.length < r.place.rest.length).flatMap
          (repeatedEnds round greedy fuel (least - 1) (most.map (· - 1)))).map
            Reached.onLine := by
      rw [hf, List.flatMap_map, List.map_flatMap]
      apply List.flatMap_congr
      intro s _
      apply ih
    simp only [repeatedEnds, hr]
    split_ifs <;> simp

theorem condition_onLine (holds : Bool) (r : Reached) :
  condition holds r.onLine = (condition holds r).map Reached.onLine
  := by
  cases holds <;> rfl

/-- A pattern that stays in a line has on the line alone the ends that it has in the text. -/
theorem ends_onLine {p : Pattern} (hp : p.staysInLine) (r : Reached) :
  p.ends r.onLine = (p.ends r).map Reached.onLine
  := by
  induction p generalizing r with
  | one allowed =>
    have hn : allowed '\n' = false := by simpa [staysInLine] using hp
    obtain ⟨⟨before, rest⟩, kept⟩ := r
    cases rest with
    | nil => rfl
    | cons c rest =>
      by_cases hc : c = '\n'
      · simp [ends, Reached.onLine, Place.onLine, Text.upTo, hc, hn]
      · by_cases ha : allowed c <;>
          simp [ends, Reached.onLine, Place.onLine, Text.upTo, hc, ha, Option.filter]
  | nothing => rfl
  | seq first second ihf ihs =>
    rw [staysInLine, Bool.and_eq_true] at hp
    rw [ends, ends, ihf hp.1, List.flatMap_map, List.map_flatMap]
    apply List.flatMap_congr
    intro s _
    exact ihs hp.2 s
  | either first second ihf ihs =>
    rw [staysInLine, Bool.and_eq_true] at hp
    rw [ends, ends, ihf hp.1, ihs hp.2, List.map_append]
  | repeated greedy least most round ih =>
    have hl : r.onLine.place.rest.length ≤ r.place.rest.length :=
      (List.takeWhile_sublist _).length_le
    have hp : round.staysInLine := hp
    have hround : ∀ r, ∀ s ∈ round.ends r, r.place.LeadsTo s.place :=
      fun _ _ hs => leadsTo_of_mem_ends hp hs
    have heq : ∀ r, round.ends r.onLine = (round.ends r).map Reached.onLine := ih hp
    rw [ends, ends, ← repeatedEnds_of_le round.ends greedy least most hl]
    apply repeatedEnds_onLine hround heq
  | group body ih =>
    rw [ends, ends, ih hp, List.map_map, List.map_map]
    apply List.map_congr_left
    intro s hs
    have ht := (leadsTo_of_mem_ends (p := body) hp hs).textUpTo_onLine
    simp only [Function.comp_apply, Reached.onLine, ht]
  | textStart => cases hp
  | lineStart =>
    rw [ends, ends, ← condition_onLine]
    congr 1
    apply Place.before_all_onLine
  | textEnd => cases hp
  | lineEnd =>
    rw [ends, ends, ← condition_onLine]
    congr 1
    apply Place.head?_all_onLine
  | wordEdge =>
    rw [ends, ends, ← condition_onLine]
    congr 1
    exact congrArg₂ _ (Place.wordBefore_onLine r.place) (Place.wordAfter_onLine r.place)
  | ahead body ih => rw [ends, ends, ih hp, List.isEmpty_map, condition_onLine]
  | notAhead body ih => rw [ends, ends, ih hp, List.isEmpty_map, condition_onLine]

/-- A match of a pattern that stays in a line is a part of the line. -/
theorem text_of_matchAt? {p : Pattern} (hp : p.staysInLine) {index : Nat} {place : Place}
    {m : Match} (h : p.matchAt? index place = some m) :
  m.text <+: place.rest ∧ '\n' ∉ m.text
  := by
  obtain ⟨s, hs, rfl⟩ := Option.map_eq_some_iff.mp h
  exact (leadsTo_of_mem_ends hp (List.mem_of_mem_head? hs)).textUpTo

/-- A match is the same on the line alone. -/
theorem matchAt?_onLine {p : Pattern} (hp : p.staysInLine) (index : Nat) (place : Place) :
  p.matchAt? index place.onLine = p.matchAt? index place
  := by
  have he : p.ends ⟨place.onLine, []⟩ = (p.ends ⟨place, []⟩).map Reached.onLine :=
    ends_onLine hp ⟨place, []⟩
  rw [matchAt?, matchAt?, he, List.head?_map, Option.map_map]
  apply Option.map_congr
  intro s hs
  have ht := (leadsTo_of_mem_ends hp (List.mem_of_mem_head? hs)).textUpTo_onLine
  simp only [Function.comp_apply, Reached.onLine, ht]

/-! ### Where matches lie -/

/-- The number that a match carries does not matter for what it is otherwise. -/
theorem matchAt?_start (p : Pattern) (i j : Nat) (place : Place) :
  p.matchAt? j place = (p.matchAt? i place).map fun m => { m with start := j }
  := by
  rw [matchAt?, matchAt?, Option.map_map]
  rfl

/-- A match carries the number that it is given. -/
theorem start_of_matchAt? {p : Pattern} {index : Nat} {place : Place} {m : Match}
    (h : p.matchAt? index place = some m) :
  m.start = index
  := by
  obtain ⟨r, _, rfl⟩ := Option.map_eq_some_iff.mp h
  rfl

/-- The last of the characters read so far, one by one. -/
theorem getLast?_cons_or (c : Char) (read : List Char) (before : Option Char) :
  (c :: read).getLast?.or before = read.getLast?.or (some c)
  := by
  rw [List.getLast?_cons]
  cases read.getLast? with
  | none => rfl
  | some d => rfl

/-- A match in a text from a place on lies after some part of it. -/
theorem exists_of_mem_findFrom {p : Pattern} {skip index : Nat} {before : Option Char}
    {text : List Char} {m : Match} (h : m ∈ p.findFrom skip index before text) :
  ∃ a b : List Char, text = a ++ b ∧ m.start = index + a.length ∧
    p.matchAt? m.start ⟨a.getLast?.or before, b⟩ = some m
  := by
  have hnext : ∀ {index : Nat} {before : Option Char} {c : Char} {rest : List Char},
      (∃ a b : List Char, rest = a ++ b ∧ m.start = index + 1 + a.length ∧
        p.matchAt? m.start ⟨a.getLast?.or (some c), b⟩ = some m) →
      ∃ a b : List Char, c :: rest = a ++ b ∧ m.start = index + a.length ∧
        p.matchAt? m.start ⟨a.getLast?.or before, b⟩ = some m := by
    rintro index before c rest ⟨a, b, rfl, hs, hm⟩
    refine ⟨c :: a, b, rfl, ?_, ?_⟩
    · rw [hs, List.length_cons]
      omega
    · rw [getLast?_cons_or]
      exact hm
  fun_induction findFrom p skip index before text with
  | case1 index before =>
    have hm := Option.mem_toList.mp h
    have hs := start_of_matchAt? hm
    exact ⟨[], [], rfl, hs, by rw [hs]; exact hm⟩
  | case2 => cases h
  | case3 skip index before c rest ih => exact hnext (ih h)
  | case4 index before c rest m' hm ih =>
    obtain rfl | h := List.mem_cons.mp h
    · have hs := start_of_matchAt? hm
      exact ⟨[], c :: rest, rfl, hs, by rw [hs]; exact hm⟩
    · exact hnext (ih h)
  | case5 index before c rest hm ih => exact hnext (ih h)

/-- A match in a text lies after some part of it. -/
theorem exists_of_mem_findAll {p : Pattern} {text : List Char} {m : Match}
    (h : m ∈ p.findAll text) :
  ∃ a b : List Char, text = a ++ b ∧ m.start = a.length ∧
    p.matchAt? m.start ⟨a.getLast?, b⟩ = some m
  := by
  obtain ⟨a, b, ht, hs, hm⟩ := exists_of_mem_findFrom h
  rw [Option.or_none] at hm
  rw [Nat.zero_add] at hs
  exact ⟨a, b, ht, hs, hm⟩

/-- A pattern that matches after some part of a text from a place on occurs in the text. -/
theorem searchFrom_append {p : Pattern} {index i : Nat} {before : Option Char} {a b : List Char}
    (h : (p.matchAt? i ⟨a.getLast?.or before, b⟩).isSome) :
  (p.searchFrom index before (a ++ b)).isSome
  := by
  induction a generalizing index before with
  | nil =>
    have hm : (p.matchAt? index ⟨before, b⟩).isSome := by
      rw [matchAt?_start p i, Option.isSome_map]
      exact h
    cases b with
    | nil => exact hm
    | cons c rest => rw [List.nil_append, searchFrom, Option.isSome_or, hm, Bool.true_or]
  | cons c rest ih =>
    have hr : (p.searchFrom (index + 1) (some c) (rest ++ b)).isSome := by
      apply ih
      rw [getLast?_cons_or] at h
      exact h
    rw [List.cons_append, searchFrom, Option.isSome_or, hr, Bool.or_true]

/-- A pattern that matches after some part of a text occurs in the text. -/
theorem occursIn_append {p : Pattern} {i : Nat} {a b : List Char}
    (h : (p.matchAt? i ⟨a.getLast?, b⟩).isSome) :
  p.occursIn (a ++ b)
  := by
  apply searchFrom_append (i := i)
  rw [Option.or_none]
  exact h

/-- A pattern with a match in a text occurs in it. -/
theorem occursIn_of_mem_findAll {p : Pattern} {text : List Char} {m : Match}
    (h : m ∈ p.findAll text) :
  p.occursIn text
  := by
  obtain ⟨a, b, rfl, _, hm⟩ := exists_of_mem_findAll h
  exact occursIn_append (Option.isSome_of_eq_some hm)

/-- A place in a text, on its line alone, lies after the part of the line before it. -/
theorem onLine_append (a b : List Char) :
  Place.onLine ⟨a.getLast?, b⟩ = ⟨(Text.afterLast '\n' a).getLast?, Text.upTo '\n' b⟩
  := by
  rw [Place.onLine, Text.getLast?_afterLast]

/-- A match at the beginning of a text is found in it. -/
theorem mem_findAll_of_matchAt? {p : Pattern} {i : Nat} {text : List Char} {m : Match}
    (h : p.matchAt? i (.ofText text) = some m) :
  { m with start := 0 } ∈ p.findAll text
  := by
  have hz : p.matchAt? 0 ⟨none, text⟩ = some { m with start := 0 } := by
    rw [matchAt?_start p i 0, ← Place.ofText, h, Option.map_some]
  cases text with
  | nil =>
    rw [findAll, findFrom, hz]
    apply List.mem_singleton_self
  | cons c rest =>
    rw [findAll, findFrom, hz]
    apply List.mem_cons_self

end Pattern

end PipelineAudit
