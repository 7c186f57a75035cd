import PipelineAudit.Proofs.Pattern.Lines

/-!
# What a pattern spells

`Pattern.Spells p w texts` says that the pattern `p` can take up the stretch `w` and keep `texts` on
the way, whatever stands around the stretch.  If a pattern sets no conditions on the place where it
stands, its ends are the ends of the stretches that it spells.

* `mem_ends_iff`: the ends of a pattern without conditions.
* `isSome_matchAt?_iff`, `spells_of_matchAt?`: where such a pattern matches, and what it keeps.
* `spells_run_iff`, `spells_lit_iff`: what a repetition of one class and a word spell.
* `beginsIn_whole_iff`: the texts that match patterns tied to both ends.
-/

namespace PipelineAudit

namespace Reached

/-- A place is reached from another one over a stretch, with some more texts kept. -/
structure Over (r s : Reached) (w : List Char) (texts : List (List Char)) : Prop where
  rest : r.place.rest = w ++ s.place.rest
  before : s.place.before = w.getLast?.or r.place.before
  kept : s.kept = r.kept ++ texts

theorem Over.refl (r : Reached) :
  r.Over r [] []
  := ⟨rfl, rfl, (List.append_nil _).symm⟩

theorem over_nil_iff {r s : Reached} :
  r.Over s [] [] ↔ s = r
  := by
  constructor
  · rintro ⟨hr, hb, hk⟩
    obtain ⟨⟨before, rest⟩, kept⟩ := s
    rw [List.append_nil] at hk
    exact congrArg₂ Reached.mk (congrArg₂ Place.mk hb hr.symm) hk
  · rintro rfl
    apply Over.refl

theorem Over.trans {r s t : Reached} {u v : List Char} {texts texts' : List (List Char)}
    (h : r.Over s u texts) (k : s.Over t v texts') :
  r.Over t (u ++ v) (texts ++ texts')
  := by
  constructor
  · rw [h.rest, k.rest, List.append_assoc]
  · rw [k.before, h.before, List.getLast?_append, Option.or_assoc]
  · rw [k.kept, h.kept, List.append_assoc]

/-- A place that is reached over two stretches is reached over the first one, and then over the
second one. -/
theorem over_append_iff {r t : Reached} {u v : List Char} {texts texts' : List (List Char)} :
  r.Over t (u ++ v) (texts ++ texts') ↔ ∃ s, r.Over s u texts ∧ s.Over t v texts'
  := by
  constructor
  · rintro ⟨hr, hb, hk⟩
    refine ⟨⟨⟨u.getLast?.or r.place.before, v ++ t.place.rest⟩, r.kept ++ texts⟩,
      ⟨?_, rfl, rfl⟩, ⟨rfl, ?_, ?_⟩⟩
    · rw [hr, List.append_assoc]
    · rw [hb, List.getLast?_append, Option.or_assoc]
    · rw [hk, List.append_assoc]
  · rintro ⟨s, h, k⟩
    exact h.trans k

theorem Over.textUpTo {r s : Reached} {w : List Char} {texts : List (List Char)}
    (h : r.Over s w texts) :
  r.place.textUpTo s.place = w
  := by
  rw [Place.textUpTo, h.rest, List.length_append, Nat.add_sub_cancel, List.take_left]

end Reached

namespace Pattern

/-! ### Stretches -/

/-- A number of rounds, each of which takes up something, take up a stretch and keep some texts. -/
def SpellsRounds (spells : List Char → List (List Char) → Prop) (least : Nat) (most : Option Nat)
    (w : List Char) (texts : List (List Char)) : Prop :=
  ∃ rounds : List (List Char × List (List Char)),
    (∀ x ∈ rounds, x.1 ≠ [] ∧ spells x.1 x.2) ∧
    least ≤ rounds.length ∧ (∀ m ∈ most, rounds.length ≤ m) ∧
    w = rounds.flatMap (·.1) ∧ texts = rounds.flatMap (·.2)

/-- A pattern can take up a stretch wherever it stands, and keeps some texts on the way. -/
def Spells : Pattern → List Char → List (List Char) → Prop
  | one allowed, w, texts => ∃ c, allowed c ∧ w = [c] ∧ texts = []
  | nothing, w, texts => w = [] ∧ texts = []
  | seq first second, w, texts =>
    ∃ u v s t, first.Spells u s ∧ second.Spells v t ∧ w = u ++ v ∧ texts = s ++ t
  | either first second, w, texts => first.Spells w texts ∨ second.Spells w texts
  | repeated _ least most round, w, texts => SpellsRounds round.Spells least most w texts
  | group body, w, texts => ∃ s, body.Spells w s ∧ texts = s ++ [w]
  | textStart, _, _ => False
  | lineStart, _, _ => False
  | textEnd, _, _ => False
  | lineEnd, _, _ => False
  | wordEdge, _, _ => False
  | ahead _, _, _ => False
  | notAhead _, _, _ => False

/-- Whether a pattern sets no condition on the place where it stands. -/
def isFree : Pattern → Bool
  | one _ => true
  | nothing => true
  | seq first second => first.isFree && second.isFree
  | either first second => first.isFree && second.isFree
  | repeated _ _ _ round => round.isFree
  | group body => body.isFree
  | textStart => false
  | lineStart => false
  | textEnd => false
  | lineEnd => false
  | wordEdge => false
  | ahead _ => false
  | notAhead _ => false

/-- No rounds, or one and then the others. -/
theorem spellsRounds_iff {spells : List Char → List (List Char) → Prop} {least : Nat}
    {most : Option Nat} {w : List Char} {texts : List (List Char)} :
  SpellsRounds spells least most w texts ↔
    (least = 0 ∧ w = [] ∧ texts = []) ∨
    (most ≠ some 0 ∧ ∃ u v s t, u ≠ [] ∧ spells u s ∧
      SpellsRounds spells (least - 1) (most.map (· - 1)) v t ∧ w = u ++ v ∧ texts = s ++ t)
  := by
  constructor
  · rintro ⟨rounds, hr, hleast, hmost, rfl, rfl⟩
    cases rounds with
    | nil => exact .inl ⟨Nat.le_zero.mp hleast, rfl, rfl⟩
    | cons x rounds =>
      obtain ⟨hx, hr⟩ := List.forall_mem_cons.mp hr
      right
      refine ⟨?_, x.1, _, x.2, _, hx.1, hx.2, ⟨rounds, hr, ?_, ?_, rfl, rfl⟩, rfl, rfl⟩
      · rintro rfl
        cases hmost 0 rfl
      · exact Nat.sub_le_of_le_add hleast
      · intro m hm
        obtain ⟨m', hm', rfl⟩ := Option.map_eq_some_iff.mp hm
        exact Nat.le_sub_one_of_lt (hmost m' hm')
  · rintro (⟨rfl, rfl, rfl⟩ | ⟨hz, u, v, s, t, hu, hs, ⟨rounds, hr, hleast, hmost, rfl, rfl⟩, rfl,
      rfl⟩)
    · exact ⟨[], by simp, Nat.le_refl _, by simp, rfl, rfl⟩
    · refine ⟨(u, s) :: rounds, List.forall_mem_cons.mpr ⟨⟨hu, hs⟩, hr⟩, ?_, ?_, rfl, rfl⟩
      · rw [List.length_cons]
        omega
      · intro m hm
        have hm' := hmost (m - 1) (Option.map_eq_some_iff.mpr ⟨m, hm, rfl⟩)
        have hne : m ≠ 0 := by
          rintro rfl
          exact hz hm
        rw [List.length_cons]
        omega

/-! ### Ends -/

/-- The ends of a repetition are the ends of its rounds. -/
theorem mem_repeatedEnds_iff {round : Reached → List Reached}
    {spells : List Char → List (List Char) → Prop}
    (hround : ∀ r s, s ∈ round r ↔ ∃ w texts, spells w texts ∧ r.Over s w texts) {greedy : Bool}
    {fuel least : Nat} {most : Option Nat} {r s : Reached} (hfuel : r.place.rest.length ≤ fuel) :
  s ∈ repeatedEnds round greedy fuel least most r ↔
    ∃ w texts, SpellsRounds spells least most w texts ∧ r.Over s w texts
  := by
  -- A round that takes up something leaves less to take up.
  have hless : ∀ {r t : Reached} {u : List Char} {texts : List (List Char)}, r.Over t u texts →
      (t.place.rest.length < r.place.rest.length ↔ u ≠ []) := by
    intro r t u texts h
    rw [h.rest, List.length_append, ← List.length_pos_iff]
    omega
  induction fuel generalizing least most r with
  | zero =>
    have hnil : r.place.rest = [] := List.length_eq_zero_iff.mp (Nat.le_zero.mp hfuel)
    rw [repeatedEnds, List.mem_ite_nil_right, List.mem_singleton]
    constructor
    · rintro ⟨rfl, rfl⟩
      exact ⟨[], [], spellsRounds_iff.mpr (.inl ⟨rfl, rfl, rfl⟩), .refl s⟩
    · rintro ⟨w, texts, hs, ho⟩
      obtain ⟨hl, rfl, rfl⟩ | ⟨_, u, v, _, _, hu, _, _, rfl, _⟩ := spellsRounds_iff.mp hs
      · exact ⟨hl, Reached.over_nil_iff.mp ho⟩
      · have hr := ho.rest
        simp [hnil, hu] at hr
  | succ fuel ih =>
    rw [mem_repeatedEnds_succ_iff]
    constructor
    · rintro (⟨rfl, rfl⟩ | ⟨hz, t, ht, hl, hs⟩)
      · exact ⟨[], [], spellsRounds_iff.mpr (.inl ⟨rfl, rfl, rfl⟩), .refl s⟩
      · obtain ⟨u, texts, hu, hro⟩ := (hround r t).mp ht
        obtain ⟨v, texts', hv, hto⟩ := (ih (by omega)).mp hs
        refine ⟨u ++ v, texts ++ texts', ?_, hro.trans hto⟩
        exact spellsRounds_iff.mpr
          (.inr ⟨hz, u, v, texts, texts', (hless hro).mp hl, hu, hv, rfl, rfl⟩)
    · rintro ⟨w, texts, hs, ho⟩
      obtain ⟨hl, rfl, rfl⟩ | ⟨hz, u, v, t, t', hne, hu, hv, rfl, rfl⟩ := spellsRounds_iff.mp hs
      · exact .inl ⟨hl, Reached.over_nil_iff.mp ho⟩
      · obtain ⟨m, hrm, hms⟩ := Reached.over_append_iff.mp ho
        have hl := (hless hrm).mpr hne
        exact .inr ⟨hz, m, (hround r m).mpr ⟨u, t, hu, hrm⟩, hl,
          (ih (by omega)).mpr ⟨v, t', hv, hms⟩⟩

/-- The ends of a pattern without conditions are the ends of the stretches that it spells. -/
theorem mem_ends_iff {p : Pattern} (hp : p.isFree) {r s : Reached} :
  s ∈ p.ends r ↔ ∃ w texts, p.Spells w texts ∧ r.Over s w texts
  := by
  induction p generalizing r s with
  | one allowed =>
    obtain ⟨⟨before, rest⟩, kept⟩ := r
    constructor
    · intro h
      cases rest with
      | nil => cases h
      | cons c rest =>
        rw [ends, List.mem_ite_nil_right] at h
        obtain rfl := List.mem_singleton.mp h.2
        exact ⟨[c], [], ⟨c, h.1, rfl, rfl⟩, rfl, rfl, (List.append_nil kept).symm⟩
    · rintro ⟨w, texts, ⟨c, hc, rfl, rfl⟩, hr, hb, hk⟩
      obtain ⟨⟨b, k⟩, kept'⟩ := s
      obtain rfl : rest = c :: k := hr
      obtain rfl : b = some c := hb
      obtain rfl : kept' = kept := hk.trans (List.append_nil kept)
      rw [ends, List.mem_ite_nil_right]
      exact ⟨hc, List.mem_singleton_self _⟩
  | nothing =>
    rw [ends, List.mem_singleton, ← Reached.over_nil_iff]
    constructor
    · exact fun h => ⟨[], [], ⟨rfl, rfl⟩, h⟩
    · rintro ⟨w, texts, ⟨rfl, rfl⟩, h⟩
      exact h
  | seq first second ihf ihs =>
    rw [isFree, Bool.and_eq_true] at hp
    rw [ends, List.mem_flatMap]
    constructor
    · rintro ⟨m, hm, hs⟩
      obtain ⟨u, t, hu, hrm⟩ := (ihf hp.1).mp hm
      obtain ⟨v, t', hv, hms⟩ := (ihs hp.2).mp hs
      exact ⟨u ++ v, t ++ t', ⟨u, v, t, t', hu, hv, rfl, rfl⟩, hrm.trans hms⟩
    · rintro ⟨w, texts, ⟨u, v, t, t', hu, hv, rfl, rfl⟩, ho⟩
      obtain ⟨m, hrm, hms⟩ := Reached.over_append_iff.mp ho
      exact ⟨m, (ihf hp.1).mpr ⟨u, t, hu, hrm⟩, (ihs hp.2).mpr ⟨v, t', hv, hms⟩⟩
  | either first second ihf ihs =>
    rw [isFree, Bool.and_eq_true] at hp
    rw [ends, List.mem_append, ihf hp.1, ihs hp.2]
    simp only [Spells, or_and_right, exists_or]
  | repeated greedy least most round ih =>
    have hround : ∀ r s, s ∈ round.ends r ↔ ∃ w texts, round.Spells w texts ∧ r.Over s w texts :=
      fun r s => ih hp
    exact mem_repeatedEnds_iff hround (Nat.le_refl _)
  | group body ih =>
    have hb : body.isFree := hp
    rw [ends, List.mem_map]
    constructor
    · rintro ⟨m, hm, rfl⟩
      obtain ⟨w, t, hw, ho⟩ := (ih hb).mp hm
      refine ⟨w, t ++ [w], ⟨t, hw, rfl⟩, ho.rest, ho.before, ?_⟩
      rw [ho.textUpTo, ho.kept, List.append_assoc]
    · rintro ⟨w, _, ⟨t, hw, rfl⟩, hr, hbefore, hk⟩
      have ho : r.Over ⟨s.place, r.kept ++ t⟩ w t := ⟨hr, hbefore, rfl⟩
      refine ⟨_, (ih hb).mpr ⟨w, t, hw, ho⟩, ?_⟩
      rw [ho.textUpTo, List.append_assoc, ← hk]
  | textStart => cases hp
  | lineStart => cases hp
  | textEnd => cases hp
  | lineEnd => cases hp
  | wordEdge => cases hp
  | ahead body ih => cases hp
  | notAhead body ih => cases hp

/-! ### Matches -/

/-- A pattern without conditions matches where the text goes on with a stretch that it spells. -/
theorem isSome_matchAt?_iff {p : Pattern} (hp : p.isFree) {index : Nat} {place : Place} :
  (p.matchAt? index place).isSome ↔ ∃ w texts rest, p.Spells w texts ∧ place.rest = w ++ rest
  := by
  rw [matchAt?, Option.isSome_map, List.isSome_head?]
  constructor
  · intro h
    obtain ⟨s, hs⟩ := List.exists_mem_of_ne_nil _ h
    obtain ⟨w, texts, hw, ho⟩ := (mem_ends_iff hp).mp hs
    exact ⟨w, texts, s.place.rest, hw, ho.rest⟩
  · rintro ⟨w, texts, rest, hw, hr⟩
    have ho : (⟨place, []⟩ : Reached).Over ⟨⟨w.getLast?.or place.before, rest⟩, texts⟩ w texts :=
      ⟨hr, rfl, rfl⟩
    exact List.ne_nil_of_mem ((mem_ends_iff hp).mpr ⟨w, texts, hw, ho⟩)

/-- The text of a match is spelled with the texts that the match keeps. -/
theorem spells_of_matchAt? {p : Pattern} (hp : p.isFree) {index : Nat} {place : Place} {m : Match}
    (h : p.matchAt? index place = some m) :
  p.Spells m.text m.kept ∧ m.text <+: place.rest
  := by
  obtain ⟨s, hs, rfl⟩ := Option.map_eq_some_iff.mp h
  obtain ⟨w, texts, hw, ho⟩ := (mem_ends_iff hp).mp (List.mem_of_mem_head? hs)
  have ht := ho.textUpTo
  have hk := ho.kept
  rw [List.nil_append] at hk
  simp only at ht
  rw [ht, hk]
  exact ⟨hw, s.place.rest, ho.rest.symm⟩

/-! ### Combinations -/

/-- A repetition of a class spells the runs of the class of the right length. -/
theorem spells_run_iff {allowed : Char → Bool} {greedy : Bool} {least : Nat} {most : Option Nat}
    {w : List Char} {texts : List (List Char)} :
  (repeated greedy least most (one allowed)).Spells w texts ↔
    (∀ c ∈ w, allowed c) ∧ least ≤ w.length ∧ (∀ m ∈ most, w.length ≤ m) ∧ texts = []
  := by
  constructor
  · rintro ⟨rounds, hr, hleast, hmost, rfl, rfl⟩
    have hrounds : ∃ w : List Char, (∀ c ∈ w, allowed c) ∧ rounds = w.map fun c => ([c], []) := by
      clear hleast hmost
      induction rounds with
      | nil => exact ⟨[], List.forall_mem_nil _, rfl⟩
      | cons x rounds ih =>
        obtain ⟨⟨_, c, hc, hx⟩, hr⟩ := List.forall_mem_cons.mp hr
        obtain ⟨w, hw, rfl⟩ := ih hr
        exact ⟨c :: w, List.forall_mem_cons.mpr ⟨hc, hw⟩, congrArg (· :: _) (Prod.ext hx.1 hx.2)⟩
    obtain ⟨w, hw, rfl⟩ := hrounds
    rw [List.length_map] at hleast hmost
    simpa [List.flatMap_map] using ⟨hw, hleast, hmost⟩
  · rintro ⟨hw, hleast, hmost, rfl⟩
    refine ⟨w.map fun c => ([c], []), ?_, ?_, ?_, ?_, ?_⟩
    · simpa [Spells] using hw
    · rwa [List.length_map]
    · rwa [List.length_map]
    · simp [List.flatMap_map]
    · simp [List.flatMap_map]

/-- At least one round of a class. -/
theorem spells_many1_iff {allowed : Char → Bool} {w : List Char} {texts : List (List Char)} :
  (many1 (one allowed)).Spells w texts ↔ (w ≠ [] ∧ ∀ c ∈ w, allowed c) ∧ texts = []
  := by
  rw [many1, spells_run_iff, Nat.one_le_iff_ne_zero, ne_eq, List.length_eq_zero_iff]
  simp [and_assoc, and_left_comm]

theorem spells_inOrder_cons_iff {p q : Pattern} {ps : List Pattern} {w : List Char}
    {texts : List (List Char)} :
  (inOrder (p :: q :: ps)).Spells w texts ↔
    ∃ u v s t, p.Spells u s ∧ (inOrder (q :: ps)).Spells v t ∧ w = u ++ v ∧ texts = s ++ t
  := Iff.rfl

/-- A word spells itself. -/
theorem spells_lit_iff {word : String} {w : List Char} {texts : List (List Char)} :
  (lit word).Spells w texts ↔ w = word.toList ∧ texts = []
  := by
  rw [lit]
  generalize word.toList = word
  induction word generalizing w texts with
  | nil => rfl
  | cons c word ih =>
    cases word with
    | nil => simp [inOrder, Spells]
    | cons d word =>
      rw [List.map_cons] at ih
      rw [List.map_cons, List.map_cons, spells_inOrder_cons_iff]
      simp only [ih]
      simp [Spells, and_comm]

/-- The pattern for a word of one character takes up this character. -/
theorem lit_of_toList_eq {word : String} {c : Char} (h : word.toList = [c]) :
  lit word = one (· = c)
  := by
  rw [lit, h]
  rfl

/-- A character that may be there or not. -/
theorem spells_optional_char_iff {c : Char} {w : List Char} {texts : List (List Char)} :
  (optional (one (· = c))).Spells w texts ↔ (w = [] ∨ w = [c]) ∧ texts = []
  := by
  rw [optional, spells_run_iff]
  match w with
  | [] => simp
  | [d] => simp
  | d :: e :: w => simp

/-! ### Whole texts -/

/-- The ends of some patterns and one more, one after the other. -/
theorem ends_inOrder_concat (ps : List Pattern) (p : Pattern) (r : Reached) :
  (inOrder (ps ++ [p])).ends r = ((inOrder ps).ends r).flatMap p.ends
  := by
  induction ps generalizing r with
  | nil => exact (List.flatMap_singleton ..).symm
  | cons q ps ih =>
    cases ps with
    | nil => rfl
    | cons q' ps =>
      have hrest : (inOrder (q' :: ps ++ [p])).ends =
          fun t => ((inOrder (q' :: ps)).ends t).flatMap p.ends := funext ih
      calc (inOrder (q :: q' :: ps ++ [p])).ends r =
          (q.ends r).flatMap (inOrder (q' :: ps ++ [p])).ends := rfl
        _ = ((q.ends r).flatMap (inOrder (q' :: ps)).ends).flatMap p.ends := by
          rw [hrest, List.flatMap_assoc]
        _ = ((inOrder (q :: q' :: ps)).ends r).flatMap p.ends := rfl

/-- The end of a text is also seen before the line feed that ends it. -/
theorem mem_ends_textEnd_iff {r s : Reached} :
  s ∈ textEnd.ends r ↔ s = r ∧ (r.place.rest = [] ∨ r.place.rest = ['\n'])
  := by
  rw [ends, condition, List.mem_ite_nil_right, List.mem_singleton, Bool.or_eq_true,
    List.isEmpty_iff, decide_eq_true_iff, and_comm]

/-- Patterns without conditions that are tied to the beginning and to the end of a text match if
they spell all of it, or all but a line feed at its end. -/
theorem beginsIn_whole_iff (ps : List Pattern) (hps : (inOrder ps).isFree) {text : List Char} :
  (inOrder (textStart :: (ps ++ [textEnd]))).beginsIn text ↔
    ∃ w texts, (inOrder ps).Spells w texts ∧ (text = w ∨ text = w ++ ['\n'])
  := by
  let r : Reached := ⟨.ofText text, []⟩
  have he : (inOrder (textStart :: (ps ++ [textEnd]))).ends r =
      ((inOrder ps).ends r).flatMap textEnd.ends := by
    rw [← ends_inOrder_concat]
    cases ps <;> exact List.flatMap_singleton ..
  rw [beginsIn, matchAt?, Option.isSome_map, List.isSome_head?, he]
  constructor
  · intro hne
    obtain ⟨s, hs⟩ := List.exists_mem_of_ne_nil _ hne
    obtain ⟨t, ht, hs⟩ := List.mem_flatMap.mp hs
    obtain ⟨w, texts, hw, ho⟩ := (mem_ends_iff hps).mp ht
    obtain ⟨-, hend⟩ := mem_ends_textEnd_iff.mp hs
    have hrest : text = w ++ t.place.rest := ho.rest
    refine ⟨w, texts, hw, hend.imp (fun h => ?_) (fun h => ?_)⟩
    · rw [hrest, h, List.append_nil]
    · rw [hrest, h]
  · rintro ⟨w, texts, hw, htext⟩
    obtain ⟨rest, ht, hend⟩ : ∃ rest, text = w ++ rest ∧ (rest = [] ∨ rest = ['\n']) := by
      obtain rfl | rfl := htext
      · exact ⟨[], (List.append_nil _).symm, .inl rfl⟩
      · exact ⟨['\n'], rfl, .inr rfl⟩
    have ho : r.Over ⟨⟨w.getLast?.or none, rest⟩, texts⟩ w texts := ⟨ht, rfl, rfl⟩
    exact List.ne_nil_of_mem (List.mem_flatMap.mpr ⟨_, (mem_ends_iff hps).mpr ⟨w, texts, hw, ho⟩,
      mem_ends_textEnd_iff.mpr ⟨rfl, hend⟩⟩)

end Pattern

end PipelineAudit
