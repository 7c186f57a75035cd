import PipelineAudit.Proofs.Pattern.Lines

/-!
# Reading outlines

An outline is what is known of a text: for each place its character, or nothing.  `Pattern.read`
reads a pattern along an outline.  It lists what of the outline is left after each way to read the
pattern, and says whether the outline can come to its end before the pattern does.  Conditions on
the place are taken to hold.

* `Pattern.reaches_of_mem_ends`: every stretch of text that a pattern takes up is read along each
  outline that agrees with it.
* `Pattern.covers_of_mem_findAll`: so is every match in a text.
-/

namespace PipelineAudit

/-- What is known of the characters of a text, from its beginning on. -/
abbrev Outline : Type := List (Option Char)

namespace Outline

/-- An outline and a text differ at no place where both have a character. -/
def Agrees (o : Outline) (text : List Char) : Prop :=
  ∀ (i : Nat) (c d : Char), o[i]? = some (some c) → text[i]? = some d → c = d

theorem Agrees.left {o : Outline} {a b : List Char} (h : o.Agrees (a ++ b)) :
  o.Agrees a
  := by
  intro i c d ho ha
  apply h i c d ho
  rw [List.getElem?_append_left (List.getElem?_eq_some_iff.mp ha).1, ha]

theorem Agrees.right {o : Outline} {a b : List Char} (h : o.Agrees (a ++ b)) :
  Agrees (o.drop a.length) b
  := by
  intro i c d ho hb
  rw [List.getElem?_drop] at ho
  apply h (a.length + i) c d ho
  rw [List.getElem?_append_right (Nat.le_add_right _ _), Nat.add_sub_cancel_left, hb]

/-- The outline of a text that is known. -/
def known (text : List Char) : Outline :=
  text.map some

/-- The outline of some characters that are not known. -/
def unknown (n : Nat) : Outline :=
  List.replicate n none

/-- What a text begins with agrees with what is known of the text. -/
theorem agrees_unknown_known {part a w rest : List Char} (h : part <+: a ++ (w ++ rest)) :
  Agrees (unknown a.length ++ known w) part
  := by
  intro i c d ho hd
  obtain ⟨after, h⟩ := h
  have hd : (a ++ (w ++ rest))[i]? = some d := by
    rw [← h, List.getElem?_append_left (List.getElem?_eq_some_iff.mp hd).1, hd]
  rcases Nat.lt_or_ge i a.length with hi | hi
  · rw [List.getElem?_append_left (by simpa [unknown] using hi), unknown,
      List.getElem?_replicate_of_lt hi] at ho
    cases ho
  · rw [List.getElem?_append_right (by simpa [unknown] using hi), unknown, List.length_replicate,
      known, List.getElem?_map] at ho
    obtain ⟨c', hc, ho⟩ := Option.map_eq_some_iff.mp ho
    cases ho
    rw [List.getElem?_append_right hi,
      List.getElem?_append_left (List.getElem?_eq_some_iff.mp hc).1, hc] at hd
    exact Option.some.inj hd

theorem agrees_known {part w rest : List Char} (h : part <+: w ++ rest) :
  Agrees (known w) part
  := agrees_unknown_known (a := []) (w := w) h

/-- The ways to read an outline: what is left of it, or nothing if it ends too early. -/
abbrev Readings : Type := List (Option Outline)

/-- Readings continued by those of what is left. -/
def Readings.followedBy (readings : Readings) (next : Outline → Readings) : Readings :=
  readings.flatMap fun
    | none => [none]
    | some rest => next rest

/-- A stretch of text is among the readings of an outline: what the outline says beyond the stretch
is left, or the outline ends too early. -/
def Readings.Have (readings : Readings) (o : Outline) (stretch : List Char) : Prop :=
  (stretch.length ≤ o.length → some (o.drop stretch.length) ∈ readings) ∧
  (o.length < stretch.length → none ∈ readings)

namespace Readings

theorem Have.mono {readings readings' : Readings} {o : Outline} {stretch : List Char}
    (h : readings.Have o stretch) (hr : readings ⊆ readings') :
  readings'.Have o stretch
  := ⟨fun hl => hr (h.1 hl), fun hl => hr (h.2 hl)⟩

/-- The empty stretch leaves all of the outline. -/
theorem have_nil {readings : Readings} {o : Outline} (h : some o ∈ readings) :
  readings.Have o []
  := ⟨fun _ => h, fun hl => absurd hl (Nat.not_lt_zero _)⟩

/-- Two stretches, one after the other, are among the readings of the first one continued by those
of the second one. -/
theorem Have.append {readings : Readings} {next : Outline → Readings} {o : Outline}
    {a b : List Char} (ha : readings.Have o a)
    (hb : a.length ≤ o.length → (next (o.drop a.length)).Have (o.drop a.length) b) :
  (readings.followedBy next).Have o (a ++ b)
  := by
  rw [Have, List.length_append, ← List.drop_drop]
  constructor
  · intro hl
    have hs : a.length ≤ o.length := by omega
    have hb' := (hb hs).1
    rw [List.length_drop] at hb'
    exact List.mem_flatMap.mpr ⟨_, ha.1 hs, hb' (by omega)⟩
  · intro hl
    rcases Nat.lt_or_ge o.length a.length with hs | hs
    · exact List.mem_flatMap.mpr ⟨_, ha.2 hs, List.mem_singleton_self none⟩
    · have hb' := (hb hs).2
      rw [List.length_drop] at hb'
      exact List.mem_flatMap.mpr ⟨_, ha.1 hs, hb' (by omega)⟩

end Readings

/-- A stretch of text is among the readings of each outline that agrees with it. -/
def Covers (read : Outline → Readings) (stretch : List Char) : Prop :=
  ∀ o : Outline, o.Agrees stretch → (read o).Have o stretch

end Outline

namespace Pattern

open Outline

/-- The readings of rounds along an outline, for a round whose readings are `round`; each round
takes up some of the outline. -/
def readRounds (round : Outline → Readings) : Nat → Nat → Option Nat → Outline → Readings
  | 0, _, _, _ => []
  | fuel + 1, least, most, o =>
    (if most = some 0 then []
      else (round o).followedBy fun rest =>
        if rest.length < o.length then
          readRounds round fuel (least - 1) (most.map (· - 1)) rest
        else []) ++
      if least = 0 then [some o] else []

/-- The readings of a pattern along an outline. -/
def read : Pattern → Outline → Readings
  | one _, [] => [none]
  | one allowed, c :: rest => if c.all allowed then [some rest] else []
  | seq first second, o => (first.read o).followedBy second.read
  | either first second, o => first.read o ++ second.read o
  | repeated _ least most round, o => readRounds round.read (o.length + 1) least most o
  | group body, o => body.read o
  | nothing, o => [some o]
  | textStart, o => [some o]
  | lineStart, o => [some o]
  | textEnd, o => [some o]
  | lineEnd, o => [some o]
  | wordEdge, o => [some o]
  | ahead _, o => [some o]
  | notAhead _, o => [some o]

/-- A pattern reaches a place by taking up a stretch that is among the readings of each outline that
agrees with it. -/
def Reaches (read : Outline → Readings) (r r' : Reached) : Prop :=
  ∃ stretch, r.place.rest = stretch ++ r'.place.rest ∧ Covers read stretch

/-- A place is reached without taking up anything if all of the outline may be left. -/
theorem reaches_self {read : Outline → Readings} (h : ∀ o, some o ∈ read o) (r : Reached) :
  Reaches read r r
  := ⟨[], rfl, fun o _ => Readings.have_nil (h o)⟩

theorem Reaches.mono {read read' : Outline → Readings} {r r' : Reached} (h : Reaches read r r')
    (hr : ∀ o, read o ⊆ read' o) :
  Reaches read' r r'
  := by
  obtain ⟨stretch, hrest, hc⟩ := h
  exact ⟨stretch, hrest, fun o ho => (hc o ho).mono (hr o)⟩

/-- A condition leads nowhere but to the place itself. -/
theorem reaches_of_mem_condition {holds : Bool} {r r' : Reached} (h : r' ∈ condition holds r) :
  Reaches (fun o => [some o]) r r'
  := by
  rw [condition] at h
  split at h
  · obtain rfl := List.mem_singleton.mp h
    exact reaches_self (fun o => List.mem_singleton_self _) _
  · cases h

/-- A character of a class. -/
theorem reaches_one {allowed : Char → Bool} {r r' : Reached} (h : r' ∈ (one allowed).ends r) :
  Reaches (one allowed).read r r'
  := by
  rw [ends] at h
  split at h
  case h_2 => cases h
  case h_1 c rest hrest =>
    split at h
    case isFalse => cases h
    case isTrue hc =>
      obtain rfl := List.mem_singleton.mp h
      refine ⟨[c], hrest, ?_⟩
      rintro (_ | ⟨known, rest⟩) ho
      · exact ⟨fun hl => absurd hl (by simp), fun _ => List.mem_singleton_self none⟩
      · have hk : known.all allowed := by
          cases known with
          | none => rfl
          | some d =>
            obtain rfl : d = c := ho 0 d c rfl rfl
            exact hc
        refine ⟨fun _ => ?_, fun hl => absurd hl (by simp)⟩
        rw [read, if_pos hk]
        exact List.mem_singleton_self _

/-- Rounds reach a place by taking up a stretch that is among their readings along each outline that
agrees with it and is shorter than the bound on the number of rounds. -/
def RoundsReach (readRound : Outline → Readings) (least : Nat) (most : Option Nat)
    (r r' : Reached) : Prop :=
  ∃ stretch, r.place.rest = stretch ++ r'.place.rest ∧
    ∀ (bound : Nat) (o : Outline), o.length < bound → o.Agrees stretch →
      (readRounds readRound bound least most o).Have o stretch

/-- No further round is taken when none has to be. -/
theorem roundsReach_self {readRound : Outline → Readings} {least : Nat} {most : Option Nat}
    (h : least = 0) (r : Reached) :
  RoundsReach readRound least most r r
  := by
  refine ⟨[], rfl, fun bound o hb _ => Readings.have_nil ?_⟩
  obtain ⟨bound, rfl⟩ := Nat.exists_eq_succ_of_ne_zero (Nat.ne_zero_of_lt hb)
  rw [readRounds, if_pos h]
  exact List.mem_append_right _ (List.mem_singleton_self _)

/-- One more round takes up something, and the rounds after it the rest. -/
theorem RoundsReach.cons {readRound : Outline → Readings} {least : Nat} {most : Option Nat}
    {r s r' : Reached} (hmost : most ≠ some 0) (h : Reaches readRound r s)
    (hshort : s.place.rest.length < r.place.rest.length)
    (hrest : RoundsReach readRound (least - 1) (most.map (· - 1)) s r') :
  RoundsReach readRound least most r r'
  := by
  obtain ⟨a, ha, hca⟩ := h
  obtain ⟨b, hb, hcb⟩ := hrest
  have hpos : 0 < a.length := by
    rw [ha, List.length_append] at hshort
    omega
  refine ⟨a ++ b, by rw [ha, hb, List.append_assoc], ?_⟩
  intro bound o hbound ho
  obtain ⟨bound, rfl⟩ := Nat.exists_eq_succ_of_ne_zero (Nat.ne_zero_of_lt hbound)
  rw [readRounds, if_neg hmost]
  apply Readings.Have.mono _ (List.subset_append_left _ _)
  apply (hca o ho.left).append
  intro hl
  have hdrop : (o.drop a.length).length < o.length := by
    rw [List.length_drop]
    omega
  rw [if_pos hdrop]
  exact hcb bound _ (by omega) ho.right

/-- The ends of a repetition are reached by rounds, if the ends of a round are reached. -/
theorem roundsReach_of_mem_repeatedEnds {round : Reached → List Reached}
    {readRound : Outline → Readings} (hround : ∀ r, ∀ s ∈ round r, Reaches readRound r s)
    {greedy : Bool} {fuel least : Nat} {most : Option Nat} {r r' : Reached}
    (h : r' ∈ repeatedEnds round greedy fuel least most r) :
  RoundsReach readRound least most r r'
  := by
  induction fuel generalizing least most r with
  | zero =>
    rw [repeatedEnds, List.mem_ite_nil_right] at h
    obtain rfl := List.mem_singleton.mp h.2
    exact roundsReach_self h.1 r'
  | succ fuel ih =>
    obtain ⟨hleast, rfl⟩ | ⟨hmost, s, hs, hshort, hr⟩ := mem_repeatedEnds_succ_iff.mp h
    · exact roundsReach_self hleast r'
    · exact .cons hmost (hround r s hs) hshort (ih hr)

/-- Every stretch of text that a pattern takes up is among the readings of the pattern along each
outline that agrees with it. -/
theorem reaches_of_mem_ends (p : Pattern) {r r' : Reached} (h : r' ∈ p.ends r) :
  Reaches p.read r r'
  := by
  induction p generalizing r r' with
  | one allowed => exact reaches_one h
  | nothing =>
    obtain rfl := List.mem_singleton.mp h
    exact reaches_self (fun o => List.mem_singleton_self _) _
  | seq first second ihf ihs =>
    obtain ⟨s, hs, hr⟩ := List.mem_flatMap.mp h
    obtain ⟨a, ha, hca⟩ := ihf hs
    obtain ⟨b, hb, hcb⟩ := ihs hr
    refine ⟨a ++ b, by rw [ha, hb, List.append_assoc], fun o ho => ?_⟩
    exact (hca o ho.left).append fun _ => hcb _ ho.right
  | either first second ihf ihs =>
    rcases List.mem_append.mp h with h | h
    · exact (ihf h).mono fun o => List.subset_append_left _ _
    · exact (ihs h).mono fun o => List.subset_append_right _ _
  | repeated greedy least most round ih =>
    obtain ⟨stretch, hrest, hc⟩ := roundsReach_of_mem_repeatedEnds (fun _ _ hs => ih hs) h
    exact ⟨stretch, hrest, fun o ho => hc _ o (Nat.lt_succ_self _) ho⟩
  | group body ih =>
    obtain ⟨s, hs, rfl⟩ := List.mem_map.mp h
    obtain ⟨stretch, hrest, hc⟩ := ih hs
    exact ⟨stretch, hrest, hc⟩
  | textStart => exact reaches_of_mem_condition h
  | lineStart => exact reaches_of_mem_condition h
  | textEnd => exact reaches_of_mem_condition h
  | lineEnd => exact reaches_of_mem_condition h
  | wordEdge => exact reaches_of_mem_condition h
  | ahead body ih => exact reaches_of_mem_condition h
  | notAhead body ih => exact reaches_of_mem_condition h

/-! ### What can be read along a text -/

theorem read_seq_ne_nil {p q : Pattern} {o : Outline} (h : (seq p q).read o ≠ []) :
  p.read o ≠ []
  := by
  intro hp
  apply h
  rw [read, hp]
  rfl

theorem read_either_ne_nil {p q : Pattern} {o : Outline} (h : (either p q).read o ≠ []) :
  p.read o ≠ [] ∨ q.read o ≠ []
  := by
  by_cases hp : p.read o = []
  · exact .inr fun hq => h (List.append_eq_nil_iff.mpr ⟨hp, hq⟩)
  · exact .inl hp

theorem read_seq_either_ne_nil {p q next : Pattern} {o : Outline}
    (h : (seq (either p q) next).read o ≠ []) :
  (seq p next).read o ≠ [] ∨ (seq q next).read o ≠ []
  := by
  have he : (seq (either p q) next).read o = (seq p next).read o ++ (seq q next).read o := by
    simp only [read, Readings.followedBy, List.flatMap_append]
  rw [he] at h
  exact read_either_ne_nil h

theorem read_many1_one_ne_nil {allowed : Char → Bool} {c : Char} {o : Outline}
    (h : (many1 (one allowed)).read (some c :: o) ≠ []) :
  allowed c
  := by
  apply Decidable.byContradiction
  intro hc
  apply h
  simp [many1, read, readRounds, Readings.followedBy, hc]

/-- Characters of some classes, one after the other, are read along a text exactly if it begins with
such characters, as far as it goes; they leave the rest of it, or the text ends too early. -/
theorem read_inOrder_one {classes : List (Char → Bool)} (hn : classes ≠ []) (text : List Char) :
  (inOrder (classes.map one)).read (known text) =
    if (classes.zip text).all (fun p => p.1 p.2) then
      [if classes.length ≤ text.length then some (known (text.drop classes.length)) else none]
    else []
  := by
  induction classes generalizing text with
  | nil => exact absurd rfl hn
  | cons allowed classes ih =>
    cases text with
    | nil => cases classes <;> simp [inOrder, read, known, Readings.followedBy]
    | cons c text =>
      cases classes with
      | nil => cases h : allowed c <;> simp [inOrder, read, known, h]
      | cons next classes =>
        have hread : (inOrder ((allowed :: next :: classes).map one)).read (known (c :: text)) =
            if allowed c then (inOrder ((next :: classes).map one)).read (known text) else [] := by
          cases h : allowed c <;> simp [inOrder, read, known, Readings.followedBy, h]
        rw [hread, ih (List.cons_ne_nil _ _), List.zip_cons_cons, List.all_cons]
        by_cases hc : allowed c
        · simp only [hc, if_true, Bool.true_and, List.length_cons, Nat.add_le_add_iff_right,
            List.drop_succ_cons]
        · simp [hc]

/-- A text along which characters of some classes are read begins with such characters. -/
theorem all_of_read_inOrder_one_ne_nil {classes : List (Char → Bool)} (hn : classes ≠ [])
    {text : List Char} (h : (inOrder (classes.map one)).read (known text) ≠ []) :
  (classes.zip text).all fun p => p.1 p.2
  := by
  apply Decidable.byContradiction
  intro hz
  rw [read_inOrder_one hn, if_neg hz] at h
  exact h rfl

/-- What comes after characters of some classes is read along the rest of a text that is not
shorter. -/
theorem read_drop_ne_nil {classes : List (Char → Bool)} (hn : classes ≠ []) {next : Pattern}
    {text : List Char} (h : (seq (inOrder (classes.map one)) next).read (known text) ≠ [])
    (hl : classes.length ≤ text.length) :
  next.read (known (text.drop classes.length)) ≠ []
  := by
  rw [read, read_inOrder_one hn, if_pos hl] at h
  split at h
  case isFalse => exact absurd rfl h
  case isTrue => simpa [Readings.followedBy] using h

/-! ### Matches -/

/-- The text of a match is covered by the readings of the pattern. -/
theorem covers_of_matchAt? {p : Pattern} {index : Nat} {place : Place} {m : Match}
    (h : p.matchAt? index place = some m) :
  Covers p.read m.text
  := by
  obtain ⟨r, hr, rfl⟩ := Option.map_eq_some_iff.mp h
  obtain ⟨stretch, hrest, hc⟩ := p.reaches_of_mem_ends (List.mem_of_mem_head? hr)
  have ht : place.textUpTo r.place = stretch := by
    rw [Place.textUpTo, hrest, List.length_append, Nat.add_sub_cancel_right]
    exact List.take_left
  rw [ht]
  exact hc

theorem covers_of_mem_findFrom {p : Pattern} {skip index : Nat} {before : Option Char}
    {text : List Char} {m : Match} (h : m ∈ p.findFrom skip index before text) :
  Covers p.read m.text
  := by
  fun_induction findFrom p skip index before text with
  | case1 index before => exact covers_of_matchAt? (Option.mem_toList.mp h)
  | case2 => cases h
  | case3 skip index before c rest ih => exact ih h
  | case4 index before c rest m' hm ih =>
    rcases List.mem_cons.mp h with rfl | h
    · exact covers_of_matchAt? hm
    · exact ih h
  | case5 index before c rest hm ih => exact ih h

/-- The text of each match in a text is covered by the readings of the pattern. -/
theorem covers_of_mem_findAll {p : Pattern} {text : List Char} {m : Match}
    (h : m ∈ p.findAll text) :
  Covers p.read m.text
  := covers_of_mem_findFrom h

end Pattern

end PipelineAudit
