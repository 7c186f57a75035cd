import PipelineAudit.Proofs.Json.Numbers

/-!
# Reading values

The reader accepts just the texts that are spellings of a value, and what it makes of them is that
value.

* `Writes.reads`: what stands for a phrase is read.
* `sound`: what is read stands for a phrase.
* `read_eq_ok_iff`: the texts that are read, and what they are read as.
-/

namespace PipelineAudit.Json

/-! ### What a value begins with, and what follows it -/

theorem Ends.of_gap {s t : List Char} {c : Char} (h : Gap s (c :: t)) (hc : c ∈ [',', ']', '}']) :
  Ends s
  := by
  obtain ⟨blanks, hb, rfl⟩ := h
  intro d hd
  cases blanks with
  | nil =>
    obtain rfl : c = d := Option.some.inj hd
    exact .inr hc
  | cons b blanks =>
    obtain rfl : b = d := Option.some.inj hd
    exact .inl (hb b List.mem_cons_self)

theorem Ends.of_gap_nil {s : List Char} (h : Gap s []) :
  Ends s
  := by
  obtain ⟨blanks, hb, rfl⟩ := h
  rw [List.append_nil]
  exact fun d hd => .inl (hb d (List.mem_of_mem_head? hd))

/-- A character may be the first one of a value, where some characters may be the first ones of
words. -/
def BeginsValue (firsts : List Char) (c : Char) : Prop :=
  c.isDigit ∨ c ∈ ['"', '[', '{', '-'] ++ firsts

instance (firsts : List Char) (c : Char) : Decidable (BeginsValue firsts c) :=
  inferInstanceAs (Decidable (_ ∨ _))

theorem exists_first_of_word {d : Dialect} {firsts : List Char}
    (hd : ∀ w ∈ d.words.map Prod.fst, w.toList.head?.any firsts.contains) {w : String} {x : Json}
    (h : (w, x) ∈ d.words) :
  ∃ c r, w.toList = c :: r ∧ c ∈ firsts
  := by
  have hw := hd w (List.mem_map_of_mem (f := Prod.fst) h)
  obtain ⟨c, hc, hfirst⟩ := (Option.any_eq_true _ _).mp hw
  obtain ⟨r, hr⟩ := List.head?_eq_some_iff.mp hc
  exact ⟨c, r, hr, List.contains_iff_mem.mp hfirst⟩

theorem IsWhole.exists_first {whole : List Char} (hw : IsWhole whole) (negative : Bool)
    (t : List Char) :
  ∃ c r, signText negative ++ (whole ++ t) = c :: r ∧ (c.isDigit ∨ c = '-')
  := by
  obtain ⟨c, r, rfl, hc⟩ := hw.exists_digit
  cases negative with
  | true => exact ⟨'-', _, rfl, .inr rfl⟩
  | false => exact ⟨c, _, rfl, .inl hc⟩

/-- What stands for a phrase begins like a value. -/
theorem Writes.exists_first {d : Dialect} {firsts : List Char}
    (hd : ∀ w ∈ d.words.map Prod.fst, w.toList.head?.any firsts.contains) {room : Nat}
    {s t : List Char} {p : Phrase} (h : Writes d room s p t) :
  ∃ c r, s = c :: r ∧ BeginsValue firsts c
  := by
  have hmark : ∀ c ∈ ['"', '[', '{', '-'], BeginsValue firsts c :=
    fun c hc => .inr (List.mem_append_left _ hc)
  have hnumber : ∀ (negative : Bool) {whole : List Char} (t : List Char), IsWhole whole →
      ∃ c r, signText negative ++ (whole ++ t) = c :: r ∧ BeginsValue firsts c := by
    intro negative whole t hw
    obtain ⟨c, r, he, hc⟩ := hw.exists_first negative t
    exact ⟨c, r, he, hc.imp_right fun h => List.mem_append_left _ (by simp [h])⟩
  induction h with
  | word h =>
    obtain ⟨c, r, hw, hc⟩ := exists_first_of_word hd h
    exact ⟨c, _, by rw [hw]; rfl, .inr (List.mem_append_right _ hc)⟩
  | int negative hw _ => exact hnumber negative _ hw
  | float negative hw _ _ _ => exact hnumber negative _ hw
  | lastItem hx hg ih => exact ih
  | item hx hg hg' h ih => exact ih
  | _ => exact ⟨_, _, rfl, hmark _ (by decide)⟩

/-- After a brace comes the end of the object or its members. -/
theorem Writes.of_brace {d : Dialect} {firsts : List Char}
    (hd : ∀ w ∈ d.words.map Prod.fst, w.toList.head?.any firsts.contains) (hf : '{' ∉ firsts)
    {room : Nat} {s t : List Char} {x : Json} (h : Writes d room ('{' :: s) (.value x) t) :
  Gap s ('}' :: t) ∨ ∃ room' s' ms, Gap s s' ∧ Writes d room' s' (.members ms) t
  := by
  have hnumber : ∀ (negative : Bool) {whole : List Char} (t : List Char), IsWhole whole →
      '{' :: s ≠ signText negative ++ (whole ++ t) := by
    intro negative whole t hw he
    obtain ⟨c, r, he', hc⟩ := hw.exists_first negative t
    rw [← (List.cons.inj (he.trans he')).1] at hc
    exact absurd hc (by decide)
  generalize he : '{' :: s = text at h
  cases h with
  | word h =>
    obtain ⟨c, r, hw, hc⟩ := exists_first_of_word hd h
    rw [hw] at he
    exact absurd ((List.cons.inj he).1 ▸ hc) hf
  | int negative hw => exact absurd he (hnumber negative _ hw)
  | float negative hw => exact absurd he (hnumber negative _ hw)
  | emptyObject h => exact .inl ((List.cons.inj he).2 ▸ h)
  | object hg h => exact .inr ⟨_, _, _, (List.cons.inj he).2 ▸ hg, h⟩
  | text | emptyList | list => cases he

/-- Members begin with a name, a colon and a value. -/
theorem Writes.of_members {d : Dialect} {room : Nat} {s t : List Char}
    {ms : List (String × Json)} (h : Writes d room s (.members ms) t) :
  ∃ r name s' s'' v x v', s = '"' :: r ∧ Quoted r name s' ∧ Gap s' (':' :: s'') ∧ Gap s'' v ∧
    Writes d room v (.value x) v'
  := by
  cases h with
  | lastMember hn hc hv hx => exact ⟨_, _, _, _, _, _, _, rfl, hn, hc, hv, hx⟩
  | member hn hc hv hx => exact ⟨_, _, _, _, _, _, _, rfl, hn, hc, hv, hx⟩

/-- The first characters of the words that the reader knows. -/
def wordFirsts : List Char :=
  ['n', 't', 'f', 'N', 'I', '-']

theorem accepted_words :
  ∀ w ∈ Dialect.accepted.words.map Prod.fst, w.toList.head?.any wordFirsts.contains
  := by decide

theorem BeginsValue.ne {c : Char} (h : BeginsValue wordFirsts c) :
  ¬ IsGap c ∧ c ≠ ']' ∧ c ≠ '}' ∧ c ≠ '\ufeff'
  := by
  have hall : ∀ c ∈ [' ', '\t', '\n', '\r', ']', '}', '\ufeff'], ¬ BeginsValue wordFirsts c :=
    List.all_iff_forall_prop.mp (by decide)
  refine ⟨?_, ?_, ?_, ?_⟩
  · rintro (rfl | rfl | rfl | rfl) <;> exact hall _ (by decide) h
  all_goals
    rintro rfl
    exact hall _ (by decide) h

theorem Writes.head_ne {room : Nat} {s t : List Char} {p : Phrase}
    (h : Writes .accepted room s p t) :
  (∀ c ∈ s.head?, ¬ IsGap c) ∧ (∀ r, s ≠ ']' :: r) ∧ (∀ r, s ≠ '}' :: r) ∧
    s.head? ≠ some '\ufeff'
  := by
  obtain ⟨c, r, rfl, hc⟩ := h.exists_first accepted_words
  obtain ⟨hgap, hbracket, hbrace, hmark⟩ := hc.ne
  refine ⟨fun d hd => ?_, fun r' he => hbracket (List.cons.inj he).1,
    fun r' he => hbrace (List.cons.inj he).1, ?_⟩
  · obtain rfl : c = d := Option.some.inj hd
    exact hgap
  · exact fun he => hmark (Option.some.inj he)

/-! ### Lengths -/

theorem Gap.length_le {s t : List Char} (h : Gap s t) :
  t.length ≤ s.length
  := by
  obtain ⟨blanks, _, rfl⟩ := h
  rw [List.length_append]
  exact Nat.le_add_left _ _

theorem Quoted.length_lt {s chars t : List Char} (h : Quoted s chars t) :
  t.length < s.length
  := by
  induction h <;> simp only [List.length_cons, List.length_append] <;> omega

theorem Writes.length_lt {room : Nat} {s t : List Char} {p : Phrase}
    (h : Writes .accepted room s p t) :
  t.length < s.length
  := by
  induction h with
  | word h =>
    obtain ⟨c, r, hw, _⟩ := exists_first_of_word accepted_words h
    grind
  | int negative hw hl => grind [hw.exists_digit]
  | float negative hw hf he hp => grind [hw.exists_digit]
  | _ => grind [→ Gap.length_le, → Quoted.length_lt]

/-! ### Words and numbers -/

/-- A word is told from the others by its first character. -/
theorem value_of_word {w : String} {x : Json} (h : (w, x) ∈ Dialect.accepted.words)
    (fuel room i : Nat) (t : List Char) :
  ∃ j, value (fuel + 1) room ⟨i, w.toList ++ t⟩ = .ok (x, ⟨j, t⟩)
  := by
  simp only [Dialect.accepted, Dialect.standard, List.mem_append, List.mem_cons, Prod.mk.injEq,
    List.not_mem_nil, or_false] at h
  rcases h with (⟨rfl, rfl⟩ | ⟨rfl, rfl⟩ | ⟨rfl, rfl⟩) | ⟨rfl, rfl⟩ | ⟨rfl, rfl⟩ | ⟨rfl, rfl⟩ <;>
    exact ⟨_, rfl⟩

/-- No word begins where a number stands. -/
theorem atom_of_number {negative : Bool} {whole t : List Char} (hw : IsWhole whole) (i : Nat) :
  atom ⟨i, signText negative ++ (whole ++ t)⟩ = number ⟨i, signText negative ++ (whole ++ t)⟩
  := by
  obtain ⟨c, r, rfl, hc⟩ := hw.exists_digit
  have hne : ∀ d ∈ ['n', 't', 'f', 'N', 'I', '-'], (d == c) = false := by
    have hall : ∀ d ∈ ['n', 't', 'f', 'N', 'I', '-'], d.isDigit = false :=
      List.all_iff_forall_prop.mp (by decide)
    intro d hd
    apply beq_false_of_ne
    rintro rfl
    rw [hall d hd] at hc
    cases hc
  have hnone : constants.find? (fun k => k.1.toList.isPrefixOf
      (signText negative ++ (c :: r ++ t))) = none := by
    apply List.find?_eq_none.mpr
    intro k hk
    simp only [constants, List.mem_cons, List.not_mem_nil, or_false] at hk
    cases negative <;> rcases hk with rfl | rfl | rfl | rfl | rfl | rfl <;>
      simp [signText, List.isPrefixOf, hne]
  rw [atom]
  simp only [hnone]

theorem value_of_number {negative : Bool} {whole t : List Char} (hw : IsWhole whole)
    (fuel room i : Nat) :
  value (fuel + 1) room ⟨i, signText negative ++ (whole ++ t)⟩ =
    number ⟨i, signText negative ++ (whole ++ t)⟩
  := by
  rw [← atom_of_number hw]
  obtain ⟨c, r, rfl, hc⟩ := hw.exists_digit
  cases negative with
  | true => rfl
  | false =>
    rw [value.eq_def]
    dsimp only
    split
    case h_4 => rfl
    all_goals
      obtain ⟨rfl, _⟩ := List.cons.inj ‹_ :: _ = _ :: _›
      cases hc

/-! ### Lists and objects -/

theorem advance_one (i : Nat) (c : Char) (s : List Char) :
  Spot.advance ⟨i, c :: s⟩ 1 = ⟨i + 1, s⟩
  := rfl

theorem skipBlanks_of_gap_cons {s t : List Char} {c : Char} (h : Gap s (c :: t))
    (hc : c ∈ [':', ',', ']', '}']) (i : Nat) :
  ∃ j, (Spot.mk i s).skipBlanks = ⟨j, c :: t⟩
  := by
  have hall : ∀ c ∈ [':', ',', ']', '}'], ¬ IsGap c := List.all_iff_forall_prop.mp (by decide)
  apply Spot.skipBlanks_of_gap h
  intro d hd
  obtain rfl : c = d := Option.some.inj hd
  exact hall c hc

section Steps

variable {fuel room j : Nat} {s s' s'' v v' t : List Char} {c : Char} {x : Json}

/-- After an item comes the end of the list or a further item. -/
theorem items_item {i : Nat} (hx : value fuel room ⟨i, s⟩ = .ok (x, ⟨j, s'⟩))
    (hg : Gap s' (c :: t)) (hc : c ∈ [',', ']']) (done : List Json) :
  ∃ k, items (fuel + 1) room done ⟨i, s⟩ =
    if c = ']' then .ok (.list (x :: done).reverse, ⟨k, t⟩)
    else items fuel room (x :: done) (Spot.mk k t).skipBlanks
  := by
  have hall : ∀ c ∈ [',', ']'], c ∈ [':', ',', ']', '}'] :=
    List.all_iff_forall_prop.mp (by decide)
  obtain ⟨k, hk⟩ := skipBlanks_of_gap_cons hg (hall c hc) j
  refine ⟨k + 1, ?_⟩
  rw [items, hx]
  dsimp only
  rw [hk]
  simp only [List.mem_cons, List.not_mem_nil, or_false] at hc
  obtain rfl | rfl := hc <;> rfl

/-- After a member comes the end of the object or a further member. -/
theorem members_member {name : List Char} (hn : Quoted s name s') (hcolon : Gap s' (':' :: s''))
    (hv : Gap s'' v) (hfirst : ∀ c ∈ v.head?, ¬ IsGap c)
    (hx : ∀ j, ∃ k, value fuel room ⟨j, v⟩ = .ok (x, ⟨k, v'⟩)) (hg : Gap v' (c :: t))
    (hc : c ∈ [',', '}']) (i : Nat) (done : List (String × Json)) :
  ∃ k, members (fuel + 1) room done ⟨i, '"' :: s⟩ =
    if c = '}' then .ok (.object (insert done (String.ofList name) x), ⟨k, t⟩)
    else members fuel room (insert done (String.ofList name) x) (Spot.mk k t).skipBlanks
  := by
  have hall : ∀ c ∈ [',', '}'], c ∈ [':', ',', ']', '}'] :=
    List.all_iff_forall_prop.mp (by decide)
  obtain ⟨n, hname⟩ := string_of_quoted hn (i + 1)
  obtain ⟨m, hm⟩ := skipBlanks_of_gap_cons hcolon (by decide) n
  obtain ⟨l, hl⟩ := Spot.skipBlanks_of_gap hv hfirst (m + 1)
  obtain ⟨j, hj⟩ := hx l
  obtain ⟨k, hk⟩ := skipBlanks_of_gap_cons hg (hall c hc) j
  refine ⟨k + 1, ?_⟩
  rw [members]
  dsimp only
  rw [advance_one, hname]
  dsimp only
  rw [hm]
  dsimp only
  rw [advance_one, hl, hj]
  dsimp only
  rw [hk]
  simp only [List.mem_cons, List.not_mem_nil, or_false] at hc
  obtain rfl | rfl := hc <;> rfl

/-- After an opening bracket that no closing one follows, the items of the list are read. -/
theorem value_list (hg : Gap s s') (hgap : ∀ c ∈ s'.head?, ¬ IsGap c)
    (hclose : ∀ r, s' ≠ ']' :: r) (fuel room i : Nat) :
  ∃ j, value (fuel + 1) (room + 1) ⟨i, '[' :: s⟩ = items fuel room [] ⟨j, s'⟩
  := by
  obtain ⟨j, hj⟩ := Spot.skipBlanks_of_gap hg hgap (i + 1)
  refine ⟨j, ?_⟩
  simp only [value, advance_one, hj]

/-- After an opening brace that no closing one follows, the members of the object are read. -/
theorem value_object (hg : Gap s s') (hgap : ∀ c ∈ s'.head?, ¬ IsGap c)
    (hclose : ∀ r, s' ≠ '}' :: r) (fuel room i : Nat) :
  ∃ j, value (fuel + 1) (room + 1) ⟨i, '{' :: s⟩ = members fuel room [] ⟨j, s'⟩
  := by
  obtain ⟨j, hj⟩ := Spot.skipBlanks_of_gap hg hgap (i + 1)
  refine ⟨j, ?_⟩
  simp only [value, advance_one, hj]

end Steps

/-! ### What stands for a value is read -/

/-- With fuel for every character, the reader makes of a text what it stands for, and goes on
after it. -/
def Reads (room : Nat) (s : List Char) (p : Phrase) (t : List Char) : Prop :=
  match p with
  | .value x =>
    Ends t → ∀ fuel i, 2 * s.length ≤ fuel + 1 →
      ∃ j, value (fuel + 1) room ⟨i, s⟩ = .ok (x, ⟨j, t⟩)
  | .items xs =>
    ∀ fuel i done, 2 * s.length ≤ fuel →
      ∃ j, items (fuel + 1) room done ⟨i, s⟩ = .ok (.list (done.reverse ++ xs), ⟨j, t⟩)
  | .members ms =>
    ∀ fuel i done, 2 * s.length ≤ fuel →
      ∃ j, members (fuel + 1) room done ⟨i, s⟩ =
        .ok (.object (ms.foldl (fun done m => insert done m.1 m.2) done), ⟨j, t⟩)

/-- What stands for a value is read with any fuel that suffices. -/
theorem Reads.exists_value {room : Nat} {s t : List Char} {x : Json}
    (h : Reads room s (.value x) t) (ht : Ends t) (hs : t.length < s.length) {fuel : Nat}
    (hfuel : 2 * s.length ≤ fuel) (i : Nat) :
  ∃ j, value fuel room ⟨i, s⟩ = .ok (x, ⟨j, t⟩)
  := by
  obtain ⟨fuel, rfl⟩ : ∃ n, fuel = n + 1 := Nat.exists_eq_add_one_of_ne_zero (by omega)
  exact h ht fuel i hfuel

/-- What stands for a phrase is read as that phrase. -/
theorem Writes.reads {room : Nat} {s t : List Char} {p : Phrase}
    (h : Writes .accepted room s p t) :
  Reads room s p t
  := by
  -- a nested phrase is shorter by a character at least, which pays for the calls that lead to it
  induction h with
  | word h => exact fun _ fuel i _ => value_of_word h fuel _ i _
  | int negative hw hl =>
    intro ht fuel i _
    obtain ⟨j, hj⟩ := number_append negative hw (.inl ⟨rfl, rfl⟩) (.inl ⟨rfl, rfl⟩) ht i
    rw [numberOf_int negative (hl 4300 rfl)] at hj
    exact ⟨j, (value_of_number hw fuel _ i).trans hj⟩
  | float negative hw hf he hp =>
    intro ht fuel i _
    obtain ⟨j, hj⟩ := number_append negative hw hf he ht i
    rw [numberOf_float negative hp] at hj
    exact ⟨j, (value_of_number hw fuel _ i).trans hj⟩
  | text h =>
    intro _ fuel i _
    obtain ⟨j, hj⟩ := string_of_quoted h (i + 1)
    refine ⟨j, ?_⟩
    rw [value.eq_def]
    dsimp only
    rw [advance_one, hj]
    rfl
  | emptyList h =>
    intro _ fuel i _
    obtain ⟨j, hj⟩ := skipBlanks_of_gap_cons h (by decide) (i + 1)
    refine ⟨j + 1, ?_⟩
    rw [value, advance_one, hj]
    rfl
  | @list room s s' t xs hg h ih =>
    intro _ fuel i hfuel
    obtain ⟨hgap, hclose, _⟩ := h.head_ne
    have hlength := hg.length_le
    rw [List.length_cons] at hfuel
    obtain ⟨fuel, rfl⟩ : ∃ n, fuel = n + 1 := Nat.exists_eq_add_one_of_ne_zero (by omega)
    obtain ⟨j, hj⟩ := value_list hg hgap hclose (fuel + 1) room i
    obtain ⟨k, hk⟩ := ih fuel j [] (by omega)
    exact ⟨k, hj.trans hk⟩
  | emptyObject h =>
    intro _ fuel i _
    obtain ⟨j, hj⟩ := skipBlanks_of_gap_cons h (by decide) (i + 1)
    refine ⟨j + 1, ?_⟩
    rw [value, advance_one, hj]
    rfl
  | @object room s s' t ms hg h ih =>
    intro _ fuel i hfuel
    obtain ⟨hgap, _, hclose, _⟩ := h.head_ne
    have hlength := hg.length_le
    rw [List.length_cons] at hfuel
    obtain ⟨fuel, rfl⟩ : ∃ n, fuel = n + 1 := Nat.exists_eq_add_one_of_ne_zero (by omega)
    obtain ⟨j, hj⟩ := value_object hg hgap hclose (fuel + 1) room i
    obtain ⟨k, hk⟩ := ih fuel j [] (by omega)
    exact ⟨k, hj.trans hk⟩
  | @lastItem room s s' t x hx hg ih =>
    intro fuel i done hfuel
    obtain ⟨j, hj⟩ := ih.exists_value (.of_gap hg (by decide)) hx.length_lt hfuel i
    obtain ⟨k, hk⟩ := items_item hj hg (by decide) done
    exact ⟨k, by rw [hk, if_pos rfl, List.reverse_cons]⟩
  | @item room s s' r r' t x xs hx hg hg' h ihx ih =>
    intro fuel i done hfuel
    have hshort := hx.length_lt
    have hlength := hg.length_le
    have hlength' := hg'.length_le
    rw [List.length_cons] at hlength
    obtain ⟨j, hj⟩ := ihx.exists_value (.of_gap hg (by decide)) hshort hfuel i
    obtain ⟨k, hk⟩ := items_item hj hg (by decide) done
    obtain ⟨l, hl⟩ := Spot.skipBlanks_of_gap hg' h.head_ne.1 k
    obtain ⟨fuel, rfl⟩ : ∃ n, fuel = n + 1 := Nat.exists_eq_add_one_of_ne_zero (by omega)
    obtain ⟨m, hm⟩ := ih fuel l (x :: done) (by omega)
    refine ⟨m, ?_⟩
    rw [hk, if_neg (by decide), hl, hm, reverse_cons_append]
  | @lastMember room s s' s'' v v' t name x hn hc hv hx hg ih =>
    intro fuel i done hfuel
    have hvalue : 2 * v.length ≤ fuel := by
      grind [→ Gap.length_le, → Quoted.length_lt]
    have hread := ih.exists_value (.of_gap hg (by decide)) hx.length_lt hvalue
    obtain ⟨k, hk⟩ := members_member hn hc hv hx.head_ne.1 hread hg (by decide) i done
    exact ⟨k, hk.trans (if_pos rfl)⟩
  | @member room s s' s'' v v' r r' t name x ms hn hc hv hx hg hg' h ihx ih =>
    intro fuel i done hfuel
    have hvalue : 2 * v.length ≤ fuel := by
      grind [→ Gap.length_le, → Quoted.length_lt]
    have hread := ihx.exists_value (.of_gap hg (by decide)) hx.length_lt hvalue
    obtain ⟨k, hk⟩ := members_member hn hc hv hx.head_ne.1 hread hg (by decide) i done
    obtain ⟨l, hl⟩ := Spot.skipBlanks_of_gap hg' h.head_ne.1 k
    have hless : 2 * r'.length + 1 ≤ fuel := by
      grind [→ Gap.length_le, → Quoted.length_lt, → Writes.length_lt]
    obtain ⟨fuel, rfl⟩ : ∃ n, fuel = n + 1 := Nat.exists_eq_add_one_of_ne_zero (by omega)
    obtain ⟨m, hm⟩ := ih fuel l (insert done (String.ofList name) x) (by omega)
    refine ⟨m, ?_⟩
    rw [hk, if_neg (by decide), hl, hm]
    rfl

/-! ### What is read stands for a value -/

theorem advance_rest {s : Spot} {c : Char} {r : List Char} (h : s.rest = c :: r) :
  (s.advance 1).rest = r
  := by
  rw [Spot.advance, h]
  rfl

/-- The blanks before a character, as the reader passes over them. -/
theorem gap_of_skipBlanks {s : Spot} {c : Char} {r : List Char} (h : s.skipBlanks.rest = c :: r) :
  Gap s.rest (c :: r)
  := h ▸ s.gap_skipBlanks

theorem writes_of_atom {room : Nat} {s after : Spot} {x : Json}
    (h : atom s = .ok (x, after)) :
  Writes .accepted room s.rest (.value x) after.rest
  := by
  rw [atom] at h
  split at h
  case h_1 w x' hfind =>
    obtain ⟨rfl, rfl⟩ := Prod.mk.inj (Except.ok.inj h)
    have hprefix : w.toList <+: s.rest := by
      simpa using List.find?_some hfind
    have hword : (w, x') ∈ Dialect.accepted.words := List.mem_of_find?_eq_some hfind
    obtain ⟨r, hr⟩ := hprefix
    have hafter : (s.advance w.length).rest = r := by
      rw [Spot.advance, ← hr, ← String.length_toList, List.drop_left]
    rw [hafter, ← hr]
    exact .word hword
  case h_2 => exact writes_of_number h

/-- What the functions of the reader make of a place stands for it. -/
structure Sound (fuel : Nat) : Prop where
  value : ∀ {room : Nat} {s after : Spot} {x : Json}, Json.value fuel room s = .ok (x, after) →
    Writes .accepted room s.rest (.value x) after.rest
  items : ∀ {room : Nat} {done : List Json} {s after : Spot} {x : Json},
    Json.items fuel room done s = .ok (x, after) →
    ∃ xs, x = .list (done.reverse ++ xs) ∧ Writes .accepted room s.rest (.items xs) after.rest
  members : ∀ {room : Nat} {done : List (String × Json)} {s after : Spot} {x : Json},
    Json.members fuel room done s = .ok (x, after) →
    ∃ ms, x = .object (ms.foldl (fun done m => insert done m.1 m.2) done) ∧
      Writes .accepted room s.rest (.members ms) after.rest

theorem Sound.value_succ {fuel : Nat} (ih : Sound fuel) {room : Nat} {s after : Spot} {x : Json}
    (h : Json.value (fuel + 1) room s = .ok (x, after)) :
  Writes .accepted room s.rest (.value x) after.rest
  := by
  rw [Json.value.eq_def] at h
  dsimp only at h
  split at h
  case h_1 r hs =>
    cases hstring : string (s.advance 1) with
    | error e =>
      rw [hstring] at h
      cases h
    | ok found =>
      rw [hstring] at h
      obtain ⟨rfl, rfl⟩ := Prod.mk.inj (Except.ok.inj h)
      obtain ⟨chars, he, hq⟩ := quoted_of_string hstring
      rw [advance_rest hs] at hq
      rw [hs, he]
      exact .text hq
  case h_2 r hs =>
    cases room with
    | zero => cases h
    | succ room =>
      dsimp only at h
      split at h
      case h_1 r' hr =>
        obtain ⟨rfl, rfl⟩ := Prod.mk.inj (Except.ok.inj h)
        rw [hs, advance_rest hr]
        exact .emptyObject (advance_rest hs ▸ gap_of_skipBlanks hr)
      case h_2 =>
        obtain ⟨ms, rfl, hw⟩ := ih.members h
        rw [hs]
        exact .object (advance_rest hs ▸ Spot.gap_skipBlanks _) hw
  case h_3 r hs =>
    cases room with
    | zero => cases h
    | succ room =>
      dsimp only at h
      split at h
      case h_1 r' hr =>
        obtain ⟨rfl, rfl⟩ := Prod.mk.inj (Except.ok.inj h)
        rw [hs, advance_rest hr]
        exact .emptyList (advance_rest hs ▸ gap_of_skipBlanks hr)
      case h_2 =>
        obtain ⟨xs, rfl, hw⟩ := ih.items h
        rw [hs]
        exact .list (advance_rest hs ▸ Spot.gap_skipBlanks _) hw
  case h_4 => exact writes_of_atom h

theorem Sound.items_succ {fuel : Nat} (ih : Sound fuel) {room : Nat} {done : List Json}
    {s after : Spot} {x : Json} (h : Json.items (fuel + 1) room done s = .ok (x, after)) :
  ∃ xs, x = .list (done.reverse ++ xs) ∧ Writes .accepted room s.rest (.items xs) after.rest
  := by
  rw [Json.items] at h
  split at h
  case h_1 => cases h
  case h_2 x' s' hx =>
    have hx := ih.value hx
    dsimp only at h
    split at h
    case h_1 r hr =>
      obtain ⟨rfl, rfl⟩ := Prod.mk.inj (Except.ok.inj h)
      refine ⟨[x'], by rw [List.reverse_cons], ?_⟩
      rw [advance_rest hr]
      exact .lastItem hx (gap_of_skipBlanks hr)
    case h_2 r hr =>
      obtain ⟨xs, rfl, hw⟩ := ih.items h
      refine ⟨x' :: xs, by rw [reverse_cons_append], ?_⟩
      exact .item hx (gap_of_skipBlanks hr) (advance_rest hr ▸ Spot.gap_skipBlanks _) hw
    case h_3 => cases h

theorem Sound.members_succ {fuel : Nat} (ih : Sound fuel) {room : Nat}
    {done : List (String × Json)} {s after : Spot} {x : Json}
    (h : Json.members (fuel + 1) room done s = .ok (x, after)) :
  ∃ ms, x = .object (ms.foldl (fun done m => insert done m.1 m.2) done) ∧
    Writes .accepted room s.rest (.members ms) after.rest
  := by
  rw [Json.members] at h
  split at h
  case h_2 => cases h
  case h_1 r hs =>
    split at h
    case h_1 => cases h
    case h_2 name s' hstring =>
      obtain ⟨chars, rfl, hname⟩ := quoted_of_string hstring
      rw [advance_rest hs] at hname
      dsimp only at h
      split at h
      case h_2 => cases h
      case h_1 r' hcolon =>
        split at h
        case h_1 => cases h
        case h_2 x' v' hx =>
          have hx := ih.value hx
          have hv : Gap r' (s'.skipBlanks.advance 1).skipBlanks.rest :=
            advance_rest hcolon ▸ Spot.gap_skipBlanks _
          rw [hs]
          split at h
          case h_1 t ht =>
            obtain ⟨rfl, rfl⟩ := Prod.mk.inj (Except.ok.inj h)
            refine ⟨[(String.ofList chars, x')], rfl, ?_⟩
            rw [advance_rest ht]
            exact .lastMember hname (gap_of_skipBlanks hcolon) hv hx (gap_of_skipBlanks ht)
          case h_2 t ht =>
            obtain ⟨ms, rfl, hw⟩ := ih.members h
            refine ⟨(String.ofList chars, x') :: ms, rfl, ?_⟩
            exact .member hname (gap_of_skipBlanks hcolon) hv hx (gap_of_skipBlanks ht)
              (advance_rest ht ▸ Spot.gap_skipBlanks _) hw
          case h_3 => cases h

theorem sound (fuel : Nat) :
  Sound fuel
  := by
  induction fuel with
  | zero => exact ⟨(nomatch ·), (nomatch ·), (nomatch ·)⟩
  | succ fuel ih => exact ⟨ih.value_succ, ih.items_succ, ih.members_succ⟩

/-! ### Whole texts -/

/-- A text is read as a value if and only if it is a spelling of that value. -/
theorem read_eq_ok_iff {text : List Char} {x : Json} :
  read text = .ok x ↔ IsText .accepted x text
  := by
  constructor
  · intro h
    rw [read] at h
    split at h
    case isTrue => cases h
    case isFalse =>
      split at h
      case h_1 => cases h
      case h_2 x' s hx =>
        dsimp only at h
        split at h
        case isFalse => cases h
        case isTrue hend =>
          obtain rfl : x' = x := Except.ok.inj h
          refine ⟨deepest, _, _, fun n hn => (Option.some.inj hn).le, Spot.gap_skipBlanks ⟨0, text⟩,
            (sound _).value hx, ?_⟩
          rw [← List.isEmpty_iff.mp hend]
          exact s.gap_skipBlanks
  · rintro ⟨room, s, t, hroom, hs, hw, ht⟩
    have hw : Writes .accepted deepest s (.value x) t := hw.mono (hroom deepest rfl)
    obtain ⟨hgap, _, _, hmark⟩ := hw.head_ne
    obtain ⟨i, hi⟩ := Spot.skipBlanks_of_gap hs hgap 0
    have hlength := hs.length_le
    have hfuel : 2 * s.length ≤ 2 * text.length + 2 := by omega
    obtain ⟨j, hj⟩ := hw.reads.exists_value (.of_gap_nil ht) hw.length_lt hfuel i
    obtain ⟨k, hk⟩ := Spot.skipBlanks_of_gap ht (by simp) j
    have hhead : text.head? ≠ some '\ufeff' := by
      obtain ⟨blanks, hb, rfl⟩ := hs
      cases blanks with
      | nil => exact hmark
      | cons b blanks =>
        intro he
        have := hb b List.mem_cons_self
        rw [Option.some.inj he] at this
        exact absurd this (by decide)
    rw [read, if_neg hhead, hi, hj]
    dsimp only
    rw [hk]
    rfl

end PipelineAudit.Json
