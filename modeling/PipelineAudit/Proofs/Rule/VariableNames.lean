import PipelineAudit.Proofs.Pattern.Occurrences
import PipelineAudit.Proofs.Pattern.Runs
import PipelineAudit.Proofs.Rule.Names

/-!
# Names of variables

The names of the variables that a text refers to are found by scanning it once, and a name that is
not made of words in capitals joined by single underscores is reported where it is found first.

* `Begins.matchAt?_eq`, `begins_of_matchAt?`: the matches are the references, with their names.
* `mem_places_iff`: every reference in a text is found.
* `isScreamingSnake_iff`: which names of variables are words in capitals.
* `mem_oddNames_iff`, `nodup_oddNames`, `pairwise_oddNames`: the names that a scan reports.
* `namingConventions_variables`: which variables are reported, and in which order.
-/

namespace PipelineAudit

open Pattern

namespace Variable

/-! ### References -/

/-- The name of a variable: capitals, digits and underscores, not beginning with a digit. -/
structure IsName (name : List Char) : Prop where
  ne_nil : name ≠ []
  chars : ∀ c ∈ name, isChar c
  head : ∀ c ∈ name.head?, c.isDigit = false

/-- A text goes on with a reference to a variable: a dollar sign, a brace or none, and the name,
which goes as far as it can.  What follows the name, a closing brace or not, makes no difference. -/
def Begins (name text : List Char) : Prop :=
  IsName name ∧ ∃ brace rest, (brace = [] ∨ brace = ['\x7b']) ∧
    text = '$' :: (brace ++ (name ++ rest)) ∧ ∀ c ∈ rest.head?, isChar c = false

/-- A text refers to a variable at a place, given by the number of characters before it. -/
def RefersAt (text : List Char) (place : Nat) (name : List Char) : Prop :=
  ∃ a b, text = a ++ b ∧ a.length = place ∧ Begins name b

/-- A name begins with one of its characters other than digits. -/
theorem isFirstChar_iff {c : Char} :
  isFirstChar c ↔ isChar c ∧ c.isDigit = false
  := by
  have hfirst : isFirstChar c → c.isDigit = false := by
    intro h
    rw [isFirstChar, Bool.or_eq_true, isCapital, Bool.and_eq_true, decide_eq_true_iff,
      decide_eq_true_iff] at h
    obtain ⟨h, _⟩ | h := h
    · rw [Char.isDigit, Bool.and_eq_false_iff]
      exact .inr (decide_eq_false fun h9 => absurd (Char.le_trans h h9) (by decide))
    · rw [of_decide_eq_true h]
      rfl
  constructor
  · intro h
    exact ⟨by rw [isChar, h, Bool.true_or], hfirst h⟩
  · rintro ⟨h, hdigit⟩
    rwa [isChar, hdigit, Bool.or_false] at h

theorem IsName.exists_cons {name : List Char} (h : IsName name) :
  ∃ c rest, name = c :: rest ∧ isFirstChar c ∧ ∀ d ∈ rest, isChar d
  := by
  obtain ⟨c, rest, rfl⟩ := List.exists_cons_of_ne_nil h.ne_nil
  obtain ⟨hc, hrest⟩ := List.forall_mem_cons.mp h.chars
  exact ⟨c, rest, rfl, isFirstChar_iff.mpr ⟨hc, h.head c rfl⟩, hrest⟩

theorem isName_cons {c : Char} {rest : List Char} (hc : isFirstChar c)
    (hrest : ∀ d ∈ rest, isChar d) :
  IsName (c :: rest)
  := by
  obtain ⟨hchar, hdigit⟩ := isFirstChar_iff.mp hc
  refine ⟨List.cons_ne_nil c rest, List.forall_mem_cons.mpr ⟨hchar, hrest⟩, ?_⟩
  rintro _ ⟨⟩
  exact hdigit

/-- A stretch is a reference to a variable, with a brace before the name and one after it, or with
only one of these or none. -/
def IsReference (name w : List Char) : Prop :=
  IsName name ∧ ∃ brace close, (brace = [] ∨ brace = ['\x7b']) ∧ (close = [] ∨ close = ['\x7d']) ∧
    w = '$' :: (brace ++ (name ++ close))

/-- What the pattern spells is a reference, of which the name is kept. -/
theorem exists_of_spells_reference {w : List Char} {texts : List (List Char)}
    (h : reference.Spells w texts) :
  ∃ name, IsReference name w ∧ texts = [name]
  := by
  obtain ⟨_, _, _, _, hdollar, ⟨brace, _, _, _, hbrace, ⟨name, close, _, _,
    ⟨_, ⟨_, rest, _, _, ⟨c, hc, rfl, rfl⟩, hrest, rfl, rfl⟩, rfl⟩, hclose, rfl, rfl⟩, rfl, rfl⟩,
      rfl, rfl⟩ := h
  have hopen : lit "\x7b" = one (· = '\x7b') := lit_of_toList_eq rfl
  have hend : lit "\x7d" = one (· = '\x7d') := lit_of_toList_eq rfl
  rw [hopen] at hbrace
  rw [hend] at hclose
  obtain ⟨rfl, rfl⟩ := spells_lit_iff.mp hdollar
  obtain ⟨hb, rfl⟩ := spells_optional_char_iff.mp hbrace
  obtain ⟨hd, rfl⟩ := spells_optional_char_iff.mp hclose
  obtain ⟨hr, _, _, rfl⟩ := spells_run_iff.mp hrest
  exact ⟨c :: rest, ⟨isName_cons hc hr, brace, close, hb, hd, rfl⟩, rfl⟩

/-- No brace stands where a name begins. -/
theorem IsName.head?_append {name : List Char} (h : IsName name) (rest : List Char) :
  ∀ c ∈ (name ++ rest).head?, c ≠ '\x7b'
  := by
  obtain ⟨d, name, rfl, hd, _⟩ := h.exists_cons
  rintro _ ⟨⟩ rfl
  exact absurd hd (by decide)

/-- A stretch is a reference to one variable. -/
theorem IsReference.unique {name name' w : List Char} (h : IsReference name w)
    (h' : IsReference name' w) :
  name = name'
  := by
  obtain ⟨hname, brace, close, hb, hd, rfl⟩ := h
  obtain ⟨hname', brace', close', hb', hd', he⟩ := h'
  have hbrace : ∀ {b : List Char}, b = [] ∨ b = ['\x7b'] → ∀ c ∈ b, decide (c = '\x7b') := by
    rintro _ (rfl | rfl) <;> simp
  have hclose : ∀ {b : List Char}, b = [] ∨ b = ['\x7d'] → ∀ c ∈ b.head?, isChar c = false := by
    rintro _ (rfl | rfl) <;> simp [isChar, isFirstChar, isCapital]
  have hafter : ∀ {n : List Char} (rest : List Char), IsName n →
      ∀ c ∈ (n ++ rest).head?, decide (c = '\x7b') = false :=
    fun rest hn c hc => decide_eq_false (hn.head?_append rest c hc)
  -- The braces are the run of their class at the beginning, and so are the names after them.
  obtain ⟨_, he⟩ := run_append_inj (hbrace hb) (hafter close hname) (hbrace hb')
    (hafter close' hname') (List.cons.inj he).2
  exact (run_append_inj hname.chars (hclose hd) hname'.chars (hclose hd') he).1

/-- The pattern reads a reference with the name as long as it can be, and a closing brace. -/
theorem Begins.exists_takes {name text : List Char} (h : Begins name text) :
  ∃ w rest, text = w ++ rest ∧ IsReference name w ∧ Takes reference w rest
  := by
  obtain ⟨hname, brace, rest, hb, rfl, hrest⟩ := h
  obtain ⟨close, rest, rfl, hd, hstop⟩ : ∃ close rest', rest = close ++ rest' ∧
      (close = [] ∨ close = ['\x7d']) ∧ (close = [] → ∀ c ∈ rest'.head?, c ≠ '\x7d') := by
    by_cases hclose : rest.head? = some '\x7d'
    · obtain ⟨rest, rfl⟩ := List.head?_eq_some_iff.mp hclose
      exact ⟨['\x7d'], rest, rfl, .inr rfl, by simp⟩
    · refine ⟨[], rest, rfl, .inl rfl, ?_⟩
      rintro - c hc rfl
      exact hclose hc
  refine ⟨'$' :: (brace ++ (name ++ close)), rest, by simp, ⟨hname, brace, close, hb, hd, rfl⟩, ?_⟩
  have hopen : Takes (optional (lit "\x7b")) brace ((name ++ close) ++ rest) := by
    rw [lit_of_toList_eq rfl, List.append_assoc]
    exact takes_optional_char hb fun _ => hname.head?_append (close ++ rest)
  have hend : Takes (optional (lit "\x7d")) close rest := by
    rw [lit_of_toList_eq rfl]
    exact takes_optional_char hd hstop
  have hgroup : Takes (group (seq (one isFirstChar) (many (one isChar)))) name
      (close ++ rest) := by
    obtain ⟨c, more, rfl, hc, hmore⟩ := hname.exists_cons
    exact ((takes_one hc _).seq
      (takes_run hmore (Nat.zero_le _) (by simp) (.inr hrest))).group
  exact (takes_lit "$" _).seq (hopen.seq (hgroup.seq hend))

/-- The match at a reference keeps its name. -/
theorem Begins.matchAt?_eq {name text : List Char} (h : Begins name text) (index : Nat)
    (before : Option Char) :
  ∃ w, reference.matchAt? index ⟨before, text⟩ = some ⟨index, w, [name]⟩
  := by
  obtain ⟨w, rest, rfl, hw, ht⟩ := h.exists_takes
  obtain ⟨kept, hm⟩ := ht.matchAt?_eq index before
  obtain ⟨name', hw', rfl⟩ := exists_of_spells_reference
    (spells_of_matchAt? (by decide) hm).1
  exact ⟨w, by rw [hm, hw.unique hw']⟩

/-- Where the pattern matches, there is a reference, and the match keeps its name. -/
theorem begins_of_matchAt? {index : Nat} {place : Place} {m : Match}
    (h : reference.matchAt? index place = some m) :
  ∃ name, Begins name place.rest ∧ m.kept = [name]
  := by
  obtain ⟨hspells, more, hrest⟩ := spells_of_matchAt? (by decide) h
  obtain ⟨_, ⟨hname, brace, close, hb, _, ht⟩, _⟩ := exists_of_spells_reference hspells
  obtain ⟨c, tail, rfl, hc, _⟩ := hname.exists_cons
  -- The name goes as far as the run does that it begins.
  obtain ⟨run, rest, hrun, hchars, hstop⟩ := exists_run isChar (tail ++ (close ++ more))
  have hbegins : Begins (c :: run) place.rest := by
    refine ⟨isName_cons hc hchars, brace, rest, hb, ?_, hstop⟩
    rw [← hrest, ht]
    simp [← hrun]
  obtain ⟨w, hm⟩ := hbegins.matchAt?_eq index place.before
  obtain rfl := Option.some.inj (h.symm.trans hm)
  exact ⟨c :: run, hbegins, rfl⟩

/-- A match begins with its only dollar sign. -/
theorem dollar_of_matchAt? {index : Nat} {place : Place} {m : Match}
    (h : reference.matchAt? index place = some m) :
  ∃ tail, m.text = '$' :: tail ∧ '$' ∉ tail
  := by
  obtain ⟨_, ⟨hname, brace, close, hb, hd, ht⟩, _⟩ := exists_of_spells_reference
    (spells_of_matchAt? (by decide) h).1
  refine ⟨_, ht, ?_⟩
  rw [List.mem_append, List.mem_append]
  rintro (hmem | hmem | hmem)
  · obtain rfl | rfl := hb <;> simp at hmem
  · exact absurd (hname.chars _ hmem) (by decide)
  · obtain rfl | rfl := hd <;> simp at hmem

/-! ### Places -/

/-- The references that are found in a text, each with the number of characters before it. -/
def places (text : List Char) : List (Nat × List Char) :=
  (reference.findAll text).filterMap fun m => m.kept.head?.map fun name => (m.start, name)

theorem references_eq (text : List Char) :
  references text = (places text).map (·.2)
  := by
  rw [places, List.map_filterMap]
  apply List.filterMap_congr
  intro m _
  rw [Option.map_map]
  exact Option.map_id'.symm

/-- Every reference in a text is found, and nothing else. -/
theorem mem_places_iff {text name : List Char} {place : Nat} :
  (place, name) ∈ places text ↔ RefersAt text place name
  := by
  rw [places, List.mem_filterMap]
  constructor
  · rintro ⟨m, hm, hkept⟩
    obtain ⟨a, b, ht, hs, hat⟩ := exists_of_mem_findAll hm
    obtain ⟨name', hbegins, hk⟩ := begins_of_matchAt? hat
    rw [hk, List.head?_cons, Option.map_some] at hkept
    obtain ⟨rfl, rfl⟩ := Prod.mk.inj (Option.some.inj hkept)
    exact ⟨a, b, ht, hs.symm, hbegins⟩
  · rintro ⟨a, b, rfl, rfl, hbegins⟩
    have hoccurs : reference.OccursAfter a b := by
      obtain ⟨w, hw⟩ := hbegins.matchAt?_eq 0 a.getLast?
      exact Option.isSome_of_eq_some hw
    obtain ⟨m, hm, hs, hat⟩ := exists_mem_findAll_at dollar_of_matchAt? hoccurs
    obtain ⟨w, hw⟩ := hbegins.matchAt?_eq m.start a.getLast?
    have hkept : m.kept = [name] := congrArg Match.kept (Option.some.inj (hat.symm.trans hw))
    exact ⟨m, hm, by rw [hkept, List.head?_cons, Option.map_some, hs]⟩

/-- The references are found from the left. -/
theorem pairwise_places (text : List Char) :
  (places text).Pairwise fun p q => p.1 < q.1
  := by
  rw [places, List.pairwise_filterMap]
  apply (pairwise_findAll reference text).imp_of_mem
  rintro m m' hm - hle _ hp _ hp'
  obtain ⟨_, _, rfl⟩ := Option.map_eq_some_iff.mp hp
  obtain ⟨_, _, rfl⟩ := Option.map_eq_some_iff.mp hp'
  obtain ⟨a, b, _, _, hat⟩ := exists_of_mem_findAll hm
  obtain ⟨tail, ht, _⟩ := dollar_of_matchAt? hat
  rw [ht, List.length_cons] at hle
  show m.start < m'.start
  omega

end Variable

namespace Naming

/-! ### Odd names -/

/-- A name of a variable is odd if an underscore stands at its beginning or at its end, or two of
them in a row. -/
def IsOdd (name : List Char) : Prop :=
  name.head? = some '_' ∨ name.getLast? = some '_' ∨ ['_', '_'] <:+: name

/-- A word that does not hold the separator changes nothing about where the separators stand in the
words after it. -/
theorem infix_word_append {separator : Char} {word text : List Char} (hword : separator ∉ word) :
  [separator, separator] <:+: word ++ text ↔ [separator, separator] <:+: text
  := by
  induction word with
  | nil => rfl
  | cons c word ih =>
    rw [List.mem_cons, not_or] at hword
    rw [List.cons_append, List.infix_cons_iff, List.cons_prefix_cons, ih hword.2]
    exact or_iff_right fun h => hword.1 h.1

/-- Words joined by a separator do not end with it, and hold no two of them in a row. -/
theorem separated_of_words {inside : Char → Bool} {separator : Char}
    (hinside : inside separator = false) {word : List Char} {groups : List (List Char)}
    (hword : separator ∉ word) (hgroups : ∀ g ∈ groups, g ≠ [] ∧ ∀ d ∈ g, inside d) :
  (word ++ groups.flatMap (separator :: ·)).getLast? ≠ some separator ∧
    ¬ [separator, separator] <:+: word ++ groups.flatMap (separator :: ·)
  := by
  rw [infix_word_append hword]
  induction groups generalizing word with
  | nil =>
    rw [List.flatMap_nil, List.append_nil]
    exact ⟨fun h => hword (List.mem_of_getLast? h), by simp⟩
  | cons g groups ih =>
    obtain ⟨⟨hg, hchars⟩, hgroups⟩ := List.forall_mem_cons.mp hgroups
    have hnot : separator ∉ g := fun h => Bool.false_ne_true (hinside.symm.trans (hchars _ h))
    obtain ⟨hlast, htwo⟩ := ih hnot hgroups
    obtain ⟨c, tail, rfl⟩ := List.exists_cons_of_ne_nil hg
    rw [List.flatMap_cons]
    constructor
    · rw [List.cons_append, List.getLast?_append_of_ne_nil _ (List.cons_ne_nil _ _),
        List.cons_append, List.getLast?_cons_cons]
      exact hlast
    · rw [List.cons_append, List.infix_cons_iff, infix_word_append hnot]
      rintro (h | h)
      · rw [List.cons_append, List.cons_prefix_cons, List.cons_prefix_cons] at h
        exact hnot (by simp [h.2.1])
      · exact htwo h

theorem getLast?_ne_of_cons {c d : Char} {text : List Char} (h : (c :: text).getLast? ≠ some d) :
  text.getLast? ≠ some d
  := by
  intro hlast
  apply h
  rw [List.getLast?_cons, hlast, Option.getD_some]

/-- A text without a separator at its end, or two of them in a row, consists of words joined by it.
-/
theorem exists_words {inside : Char → Bool} {separator : Char} {text : List Char}
    (hchars : ∀ c ∈ text, inside c ∨ c = separator) (hlast : text.getLast? ≠ some separator)
    (htwo : ¬ [separator, separator] <:+: text) :
  ∃ word groups, (∀ d ∈ word, inside d) ∧ (∀ g ∈ groups, g ≠ [] ∧ ∀ d ∈ g, inside d) ∧
    text = word ++ List.flatMap (separator :: ·) groups
  := by
  induction text with
  | nil => exact ⟨[], [], List.forall_mem_nil _, List.forall_mem_nil _, rfl⟩
  | cons c text ih =>
    obtain ⟨hc, hchars⟩ := List.forall_mem_cons.mp hchars
    obtain ⟨word, groups, hword, hgroups, rfl⟩ := ih hchars (getLast?_ne_of_cons hlast)
      fun h => htwo (List.infix_cons h)
    obtain hc | rfl := hc
    · exact ⟨c :: word, groups, List.forall_mem_cons.mpr ⟨hc, hword⟩, hgroups, rfl⟩
    · have hne : word ≠ [] := by
        rintro rfl
        cases groups with
        | nil => exact hlast rfl
        | cons g groups => exact htwo ⟨[], _, rfl⟩
      exact ⟨[], word :: groups, List.forall_mem_nil _,
        List.forall_mem_cons.mpr ⟨⟨hne, hword⟩, hgroups⟩, rfl⟩

/-- The names of variables that are words in capitals, joined by underscores, are those that are
not odd. -/
theorem isJoined_iff_not_isOdd {name : List Char} (h : Variable.IsName name) :
  IsJoined isCapital isCapitalOrDigit '_' name ↔ ¬ IsOdd name
  := by
  constructor
  · rintro ⟨c, word, groups, hc, hword, hgroups, rfl⟩
    have hinside : isCapitalOrDigit '_' = false := by decide
    have hnot : '_' ∉ c :: word := by
      rintro (⟨⟩ | ⟨_, hmem⟩)
      · exact absurd hc (by decide)
      · exact Bool.false_ne_true (hinside.symm.trans (hword _ hmem))
    obtain ⟨hlast, htwo⟩ := separated_of_words hinside hnot hgroups
    rintro (hfirst | hl | hi)
    · obtain rfl := Option.some.inj hfirst
      exact hnot List.mem_cons_self
    · exact hlast hl
    · exact htwo hi
  · intro hodd
    rw [IsOdd, not_or, not_or] at hodd
    obtain ⟨hfirst, hlast, htwo⟩ := hodd
    obtain ⟨c, tail, rfl, hc, htail⟩ := h.exists_cons
    have hcapital : isCapital c := by
      rw [Variable.isFirstChar, Bool.or_eq_true, decide_eq_true_iff] at hc
      exact hc.resolve_right fun he => hfirst (congrArg some he)
    have hchars : ∀ d ∈ tail, isCapitalOrDigit d ∨ d = '_' := by
      intro d hd
      have hchar := htail d hd
      rw [Variable.isChar, Variable.isFirstChar, Bool.or_right_comm, Bool.or_eq_true,
        decide_eq_true_iff] at hchar
      exact hchar
    obtain ⟨word, groups, hword, hgroups, rfl⟩ := exists_words hchars (getLast?_ne_of_cons hlast)
      fun hi => htwo (List.infix_cons hi)
    exact ⟨c, word, groups, hcapital, hword, hgroups, rfl⟩

/-- The test for words in capitals is exact for the names of variables, which hold no line feed. -/
theorem isScreamingSnake_iff {name : List Char} (h : Variable.IsName name) :
  isScreamingSnake name ↔ ¬ IsOdd name
  := by
  have hwords : isScreamingSnake name ↔ ∃ word, IsJoined isCapital isCapitalOrDigit '_' word ∧
      (name = word ∨ name = word ++ ['\n']) := beginsIn_joinedWords_iff rfl
  rw [hwords, ← isJoined_iff_not_isOdd h]
  constructor
  · rintro ⟨word, hword, rfl | rfl⟩
    · exact hword
    · exact absurd (h.chars '\n' (by simp)) (by decide)
  · intro hjoined
    exact ⟨name, hjoined, .inl rfl⟩

/-! ### Names that are reported -/

variable {seen names : List (List Char)} {name : List Char}

/-- The names that are reported are those of the list that are neither seen nor in capitals. -/
theorem mem_oddNames_iff :
  name ∈ oddNames seen names ↔ name ∈ names ∧ name ∉ seen ∧ isScreamingSnake name = false
  := by
  fun_induction oddNames seen names with
  | case1 seen => simp
  | case2 seen other rest h ih =>
    rw [Bool.or_eq_true, List.contains_iff_mem] at h
    have hne : name ∉ seen ∧ isScreamingSnake name = false → name ≠ other := by
      rintro ⟨hseen, hodd⟩ rfl
      obtain h | h := h
      · exact hseen h
      · exact Bool.false_ne_true (hodd.symm.trans h)
    rw [ih, List.mem_cons]
    constructor
    · rintro ⟨hmem, hname⟩
      exact ⟨.inr hmem, hname⟩
    · rintro ⟨hmem, hname⟩
      exact ⟨hmem.resolve_left (hne hname), hname⟩
  | case3 seen other rest h ih =>
    rw [Bool.or_eq_true, List.contains_iff_mem, not_or, Bool.not_eq_true] at h
    rw [List.mem_cons, ih, List.mem_cons, List.mem_cons, not_or]
    by_cases he : name = other
    · subst he
      simp [h]
    · simp [he]

/-- No name is reported twice. -/
theorem nodup_oddNames (seen names : List (List Char)) :
  (oddNames seen names).Nodup
  := by
  fun_induction oddNames seen names with
  | case1 seen => exact .nil
  | case2 seen other rest h ih => exact ih
  | case3 seen other rest h ih =>
    refine List.nodup_cons.mpr ⟨fun hmem => ?_, ih⟩
    exact (mem_oddNames_iff.mp hmem).2.1 List.mem_cons_self

/-- Of two names that are reported, the one that is found first at an earlier place comes first. -/
theorem pairwise_oddNames {found : List (Nat × List Char)} (h : found.Pairwise fun p q => p.1 < q.1)
    (seen : List (List Char)) :
  (oddNames seen (found.map (·.2))).Pairwise fun name later =>
    ∃ i, (i, name) ∈ found ∧ ∀ j, (j, later) ∈ found → i < j
  := by
  induction found generalizing seen with
  | nil => exact .nil
  | cons p found ih =>
    obtain ⟨hp, h⟩ := List.pairwise_cons.mp h
    -- A name that is passed over, or seen from now on, does not come up again.
    have hlift : ∀ seen, (p.2 ∈ seen ∨ isScreamingSnake p.2) →
        (oddNames seen (found.map (·.2))).Pairwise fun name later =>
          ∃ i, (i, name) ∈ p :: found ∧ ∀ j, (j, later) ∈ p :: found → i < j := by
      intro seen hpassed
      apply (ih h seen).imp_of_mem
      rintro name later - hlater ⟨i, hi, hbefore⟩
      refine ⟨i, List.mem_cons_of_mem p hi, fun j hj => ?_⟩
      obtain hj | hj := List.mem_cons.mp hj
      · obtain ⟨_, hseen, hodd⟩ := mem_oddNames_iff.mp hlater
        subst hj
        obtain hpassed | hpassed := hpassed
        · exact absurd hpassed hseen
        · exact absurd hpassed (by simp [hodd])
      · exact hbefore j hj
    rw [List.map_cons, oddNames]
    split
    · next hpassed =>
      rw [Bool.or_eq_true, List.contains_iff_mem] at hpassed
      exact hlift seen hpassed
    · refine List.pairwise_cons.mpr ⟨fun later hlater => ?_, hlift _ (.inl List.mem_cons_self)⟩
      refine ⟨p.1, List.mem_cons_self, fun j hj => ?_⟩
      obtain hj | hj := List.mem_cons.mp hj
      · obtain ⟨_, hseen, _⟩ := mem_oddNames_iff.mp hlater
        subst hj
        exact absurd List.mem_cons_self hseen
      · exact hp _ hj

/-! ### Reports -/

/-- A text refers to a variable before any reference to another one. -/
def ReferencedBefore (text name later : List Char) : Prop :=
  ∃ i, Variable.RefersAt text i name ∧ ∀ j, Variable.RefersAt text j later → i < j

/-- The variables that a text refers to under odd names are reported, each one once and in the order
of their first references.  The jobs of the document come first, so that each of them has to have a
name that can be written, as each of them has in a run that returns. -/
theorem namingConventions_variables (document : Document) (source : Source) :
  let outcome := Rule.namingConventions.check document source
  (outcome.failure = none → ∀ e ∈ Workflow.jobEntries document, e.1.isWritable) ∧
  ((∀ e ∈ Workflow.jobEntries document, e.1.isWritable) →
    ∃ names : List (List Char),
      filedUnder "env-var-naming" outcome.findings.issues = names.map referenceIssue ∧
      names.Nodup ∧
      names.Pairwise (ReferencedBefore source.text) ∧
      ∀ name, name ∈ names ↔ (∃ i, Variable.RefersAt source.text i name) ∧ IsOdd name)
  := by
  intro outcome
  refine ⟨fun hf => (named_of_failure_eq_none document source.text hf).1, ?_⟩
  intro hn
  have hplaces := Variable.pairwise_places source.text
  refine ⟨oddNames [] (Variable.references source.text),
    filedUnder_references document source.text hn, nodup_oddNames _ _, ?_, ?_⟩
  · rw [Variable.references_eq]
    apply (pairwise_oddNames hplaces []).imp
    simp only [Variable.mem_places_iff]
    exact id
  · intro name
    have hrefers : name ∈ Variable.references source.text ↔
        ∃ i, Variable.RefersAt source.text i name := by
      simp [Variable.references_eq, ← Variable.mem_places_iff]
    rw [mem_oddNames_iff, hrefers]
    constructor
    · rintro ⟨⟨i, hi⟩, -, hodd⟩
      obtain ⟨a, b, _, _, hname, _⟩ := id hi
      refine ⟨⟨i, hi⟩, ?_⟩
      by_contra hnot
      exact Bool.false_ne_true (hodd.symm.trans ((isScreamingSnake_iff hname).mpr hnot))
    · rintro ⟨⟨i, hi⟩, hodd⟩
      obtain ⟨a, b, _, _, hname, _⟩ := id hi
      refine ⟨⟨i, hi⟩, List.not_mem_nil, ?_⟩
      rw [← Bool.not_eq_true, isScreamingSnake_iff hname, not_not]
      exact hodd

/-- A workflow of one job. -/
def namedWorkflow : Document :=
  .map [(.ofText "jobs", .map [(.ofText "build", .map [])])]

/-- A name with two underscores in a row is reported, and a name in capitals is not. -/
theorem namingConventions_variables_namedWorkflow :
  let text := "$A__B $\x7bOK_1\x7d".toList
  (∀ e ∈ Workflow.jobEntries namedWorkflow, e.1.isWritable) ∧
  ∃ names : List (List Char),
    filedUnder "env-var-naming"
        (Rule.namingConventions.check namedWorkflow ⟨text, "github-actions"⟩).findings.issues =
      names.map referenceIssue ∧
    "A__B".toList ∈ names ∧ "OK_1".toList ∉ names
  := by
  intro text
  have hn : ∀ e ∈ Workflow.jobEntries namedWorkflow, e.1.isWritable := by decide +kernel
  obtain ⟨names, hfiled, -, -, hnames⟩ :=
    (namingConventions_variables namedWorkflow ⟨text, "github-actions"⟩).2 hn
  refine ⟨hn, names, hfiled, ?_, ?_⟩
  · have hname : Variable.IsName "A__B".toList :=
      Variable.isName_cons (by decide) (List.all_eq_true.mp (by decide))
    apply (hnames _).mpr
    constructor
    · refine ⟨0, [], text, rfl, rfl, hname, [], " $\x7bOK_1\x7d".toList, .inl rfl, rfl, ?_⟩
      rintro _ ⟨⟩
      rfl
    · exact .inr (.inr (by decide))
  · intro h
    obtain ⟨-, hodd⟩ := (hnames _).mp h
    rw [IsOdd] at hodd
    exact absurd hodd (by decide)

end Naming

end PipelineAudit
