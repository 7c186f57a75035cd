import PipelineAudit.Proofs.Pattern.Occurrences
import PipelineAudit.Proofs.Pattern.Runs
import PipelineAudit.Rule.ActionPins
import Mathlib.Data.List.Infix

/-!
# The lines of references to actions

The references to actions are found in the whole text.  The lines of a reference are those that
mention its action and its version with an at sign between them, be it as their own reference or as
a part of one with a longer name.

* `Begins.matchAt?_eq`, `begins_of_matchAt?`: the matches are the references, with what is kept of
  them.
* `mem_findAll_of_first`: the first reference on a line is found in the text.
* `unpinnedActionVersions_lists_iff`: when the issues list the lines of their references only.
-/

namespace PipelineAudit

open Pattern

namespace ActionReference

/-! ### References -/

/-- A stretch is a reference to an action at a version: the word `uses:`, blanks, a quotation mark
or none, and the action and the version with an at sign between them. -/
structure IsReference (action version w : List Char) : Prop where
  action_ne : action ≠ []
  action_chars : ∀ c ∈ action, isActionChar c
  version_ne : version ≠ []
  version_chars : ∀ c ∈ version, isVersionChar c
  text : ∃ blanks quote, (∀ c ∈ blanks, Text.isBlank c) ∧
    (quote.length ≤ 1 ∧ ∀ c ∈ quote, among "'\"" c) ∧
    w = "uses:".toList ++ (blanks ++ (quote ++ (action ++ '@' :: version)))

/-- A text goes on with a reference, the version of which goes as far as it can. -/
def Begins (action version w text : List Char) : Prop :=
  IsReference action version w ∧
  ∃ rest, text = w ++ rest ∧ ∀ c ∈ rest.head?, isVersionChar c = false

theorem isBlank_of_isActionChar {c : Char} (h : isActionChar c) :
  Text.isBlank c = false
  := by
  simp only [isActionChar, Bool.and_eq_true, Bool.not_eq_true'] at h
  exact h.1.1.2

theorem among_of_isActionChar {c : Char} (h : isActionChar c) :
  among "'\"" c = false
  := by
  simp only [isActionChar, Bool.and_eq_true, decide_eq_true_eq] at h
  simp [among, h.1.2, h.2]

theorem isBlank_of_among {c : Char} (h : among "'\"" c) :
  Text.isBlank c = false
  := by
  have hc : c = '\'' ∨ c = '"' := by simpa [among] using h
  obtain rfl | rfl := hc
  · decide
  · decide

/-- What stands before the action ends where the action begins. -/
theorem IsReference.head?_append {action version w : List Char} (h : IsReference action version w)
    {test : Char → Bool} (htest : ∀ c, isActionChar c → test c = false) (rest : List Char) :
  ∀ c ∈ (action ++ rest).head?, test c = false
  := by
  obtain ⟨d, action', rfl⟩ := List.exists_cons_of_ne_nil h.action_ne
  rintro c ⟨⟩
  exact htest d (h.action_chars d List.mem_cons_self)

theorem head?_quote_append {quote rest : List Char} (hquote : ∀ c ∈ quote, among "'\"" c)
    (hrest : ∀ c ∈ rest.head?, Text.isBlank c = false) :
  ∀ c ∈ (quote ++ rest).head?, Text.isBlank c = false
  := by
  cases quote with
  | nil => exact hrest
  | cons d quote =>
    rintro c ⟨⟩
    exact isBlank_of_among (hquote d List.mem_cons_self)

/-- A stretch is a reference to one action at one version. -/
theorem IsReference.unique {action version action' version' w : List Char}
    (h : IsReference action version w) (h' : IsReference action' version' w) :
  action = action' ∧ version = version'
  := by
  obtain ⟨blanks, quote, hb, hq, rfl⟩ := h.text
  obtain ⟨blanks', quote', hb', hq', he⟩ := h'.text
  have ha := h.head?_append (fun _ => among_of_isActionChar) ('@' :: version)
  have ha' := h'.head?_append (fun _ => among_of_isActionChar) ('@' :: version')
  have hafter := head?_quote_append hq.2
    (h.head?_append (fun _ => isBlank_of_isActionChar) ('@' :: version))
  have hafter' := head?_quote_append hq'.2
    (h'.head?_append (fun _ => isBlank_of_isActionChar) ('@' :: version'))
  have hat : isActionChar '@' = false := by decide
  obtain ⟨_, he⟩ := run_append_inj hb hafter hb' hafter' (List.append_cancel_left he)
  obtain ⟨_, he⟩ := run_append_inj hq.2 ha hq'.2 ha' he
  obtain ⟨hname, he⟩ := run_append_inj h.action_chars (by simpa using hat) h'.action_chars
    (by simpa using hat) he
  exact ⟨hname, List.tail_eq_of_cons_eq he⟩

/-- What the pattern spells is a reference, of which the action and the version are kept. -/
theorem exists_of_spells_reference {w : List Char} {texts : List (List Char)}
    (h : reference.Spells w texts) :
  ∃ action version, IsReference action version w ∧ texts = [action, version]
  := by
  obtain ⟨_, _, _, _, hword, ⟨blanks, _, _, _, hblanks, ⟨quote, _, _, _, hquote,
    ⟨action, _, _, _, ⟨_, haction, rfl⟩, ⟨_, version, _, _, hat, ⟨_, hversion, rfl⟩, rfl, rfl⟩,
      rfl, rfl⟩, rfl, rfl⟩, rfl, rfl⟩, rfl, rfl⟩ := h
  obtain ⟨rfl, rfl⟩ := spells_lit_iff.mp hword
  obtain ⟨hb, _, _, rfl⟩ := spells_run_iff.mp hblanks
  obtain ⟨hq, _, hone, rfl⟩ := spells_run_iff.mp hquote
  obtain ⟨⟨hane, ha⟩, rfl⟩ := spells_many1_iff.mp haction
  obtain ⟨rfl, rfl⟩ := spells_lit_iff.mp hat
  obtain ⟨⟨hvne, hv⟩, rfl⟩ := spells_many1_iff.mp hversion
  exact ⟨action, version, ⟨hane, ha, hvne, hv, blanks, quote, hb, ⟨hone 1 rfl, hq⟩, rfl⟩, rfl⟩

/-- The pattern reads a reference to the end of its version. -/
theorem IsReference.takes {action version w rest : List Char} (h : IsReference action version w)
    (hrest : ∀ c ∈ rest.head?, isVersionChar c = false) :
  Takes reference w rest
  := by
  obtain ⟨blanks, quote, hb, ⟨hone, hq⟩, rfl⟩ := h.text
  have hversion : Takes (many1 (one isVersionChar)) version rest :=
    takes_run h.version_chars (List.length_pos_of_ne_nil h.version_ne) (by simp) (.inr hrest)
  have haction : Takes (many1 (one isActionChar)) action ('@' :: version ++ rest) :=
    takes_run h.action_chars (List.length_pos_of_ne_nil h.action_ne) (by simp)
      (.inr (by simp [isActionChar]))
  have hquote : Takes (optional (oneOfChars "'\"")) quote (action ++ '@' :: version ++ rest) := by
    apply takes_run hq (Nat.zero_le _) (by simpa using hone)
    rw [List.append_assoc]
    exact .inr (h.head?_append (fun _ => among_of_isActionChar) _)
  have hblanks : Takes (many blank) blanks (quote ++ (action ++ '@' :: version) ++ rest) := by
    apply takes_run hb (Nat.zero_le _) (by simp)
    rw [List.append_assoc, List.append_assoc]
    exact .inr (head?_quote_append hq
      (h.head?_append (fun _ => isBlank_of_isActionChar) _))
  exact (takes_lit "uses:" _).seq (hblanks.seq (hquote.seq (haction.group.seq
    ((takes_lit "@" _).seq hversion.group))))

/-- Where a reference begins, it is the match, and its action and version are kept. -/
theorem Begins.matchAt?_eq {action version w text : List Char}
    (h : Begins action version w text) (index : Nat) (before : Option Char) :
  reference.matchAt? index ⟨before, text⟩ = some ⟨index, w, [action, version]⟩
  := by
  obtain ⟨href, rest, rfl, hrest⟩ := h
  obtain ⟨kept, hm⟩ := (href.takes hrest).matchAt?_eq index before
  obtain ⟨hw, _⟩ := spells_of_matchAt? (by decide) hm
  obtain ⟨action', version', href', hkept⟩ := exists_of_spells_reference hw
  obtain ⟨rfl, rfl⟩ := href.unique href'
  rw [hm, ← hkept]

/-- One reference begins at a place. -/
theorem Begins.unique {action version w action' version' w' text : List Char}
    (h : Begins action version w text) (h' : Begins action' version' w' text) :
  action = action' ∧ version = version' ∧ w = w'
  := by
  have he := (h.matchAt?_eq 0 none).symm.trans (h'.matchAt?_eq 0 none)
  simp only [Option.some_inj, Match.mk.injEq, List.cons.injEq, true_and, and_true] at he
  exact ⟨he.2.1, he.2.2, he.1⟩

/-- A match is a reference that begins where the match does. -/
theorem begins_of_matchAt? {index : Nat} {place : Place} {m : Match}
    (h : reference.matchAt? index place = some m) :
  ∃ action version, Begins action version m.text place.rest ∧ m.kept = [action, version]
  := by
  obtain ⟨hw, rest, hr⟩ := spells_of_matchAt? (by decide) h
  obtain ⟨action, version, href, hkept⟩ := exists_of_spells_reference hw
  -- The reference that goes on as far as it can is the match, and so no further than the match.
  obtain ⟨run, rest, rfl, hrun, hrest⟩ := exists_run isVersionChar rest
  have hlong : Begins action (version ++ run) (m.text ++ run) place.rest := by
    obtain ⟨blanks, quote, hb, hq, ht⟩ := href.text
    refine ⟨⟨href.action_ne, href.action_chars, List.append_ne_nil_of_left_ne_nil href.version_ne _,
      List.forall_mem_append.mpr ⟨href.version_chars, hrun⟩, blanks, quote, hb, hq, ?_⟩,
      rest, ?_, hrest⟩
    · rw [ht]
      simp only [List.append_assoc, List.cons_append]
    · rw [← hr, List.append_assoc]
  have he := hlong.matchAt?_eq index place.before
  rw [h, Option.some_inj] at he
  have ht : m.text = m.text ++ run := congrArg Match.text he
  rw [← ht] at hlong
  exact ⟨action, version ++ run, hlong, congrArg Match.kept he⟩

/-- A match is a reference to what it keeps. -/
theorem begins_of_kept {index : Nat} {place : Place} {m : Match} {action version : List Char}
    (h : reference.matchAt? index place = some m) (hk : m.kept = [action, version]) :
  Begins action version m.text place.rest
  := by
  obtain ⟨action', version', hb, hk'⟩ := begins_of_matchAt? h
  rw [hk] at hk'
  obtain ⟨rfl, rfl⟩ : action = action' ∧ version = version' := by simpa using hk'
  exact hb

theorem occursAfter_reference_iff {a b : List Char} :
  reference.OccursAfter a b ↔ ∃ action version w, Begins action version w b
  := by
  constructor
  · intro h
    obtain ⟨m, hm⟩ := Option.isSome_iff_exists.mp h
    obtain ⟨action, version, hb, _⟩ := begins_of_matchAt? hm
    exact ⟨action, version, m.text, hb⟩
  · rintro ⟨action, version, w, hb⟩
    exact Option.isSome_of_eq_some (hb.matchAt?_eq 0 a.getLast?)

/-! ### References on lines -/

/-- A reference begins on a line alone if it begins in the text and ends on the line. -/
theorem begins_upTo_iff {action version w text : List Char} :
  Begins action version w (Text.upTo '\n' text) ↔ Begins action version w text ∧ '\n' ∉ w
  := by
  have hfeed : isVersionChar '\n' = false := by decide
  constructor
  · rintro ⟨href, rest, hw, hrest⟩
    obtain ⟨later, ht, hlater⟩ := Text.exists_eq_upTo_append '\n' text
    have hnot := Text.not_mem_upTo '\n' text
    rw [hw, List.mem_append, not_or] at hnot
    refine ⟨⟨href, rest ++ later, ?_, ?_⟩, hnot.1⟩
    · rw [← List.append_assoc, ← hw, ← ht]
    · cases rest with
      | cons c rest => exact hrest
      | nil =>
        cases later with
        | nil => simp
        | cons c later =>
          have hc : c = '\n' := by simpa [Text.upTo] using hlater
          simpa [hc] using hfeed
  · rintro ⟨⟨href, rest, rfl, hrest⟩, hnot⟩
    refine ⟨href, Text.upTo '\n' rest, Text.upTo_append hnot rest, ?_⟩
    cases rest with
    | nil => simp [Text.upTo]
    | cons c rest =>
      by_cases hc : c = '\n'
      · simp [Text.upTo, hc]
      · simpa [Text.upTo, hc] using hrest

/-- Whether a reference begins at the beginning of a text. -/
def Starts (text : List Char) : Prop :=
  ∃ action version w, Begins action version w text

/-- No reference begins in a text `u ++ v` before its part `v`. -/
def NoneBefore (u v : List Char) : Prop :=
  ∀ x y, u = x ++ y → y ≠ [] → ¬ Starts (y ++ v)

theorem NoneBefore.eq_nil {u x v : List Char} (h : NoneBefore (u ++ x) v)
    (hx : Starts (x ++ v)) :
  x = []
  := by
  by_contra hne
  exact h u x rfl hne hx

/-- The first reference on a line is to an action at a version, and there is no other one after
it. -/
def RefersTo (line action version : List Char) : Prop :=
  ∃ u v w, line = u ++ v ∧ Begins action version w v ∧ NoneBefore u v ∧
    ∀ x y, v = x ++ y → w.length ≤ x.length → ¬ Starts y

/-- A line holds at most one reference. -/
def HoldsAtMostOne (line : List Char) : Prop :=
  (∀ x y, line = x ++ y → ¬ Starts y) ∨ ∃ action version, RefersTo line action version

/-- No reference in a text is broken over several lines. -/
def HoldsWhole (text : List Char) : Prop :=
  ∀ x y action version w, text = x ++ y → Begins action version w y → '\n' ∉ w

/-- A line has one reference at most to which it refers. -/
theorem RefersTo.unique {line action version action' version' : List Char}
    (h : RefersTo line action version) (h' : RefersTo line action' version') :
  action = action' ∧ version = version'
  := by
  obtain ⟨u, v, w, rfl, hb, hfirst, _⟩ := h
  obtain ⟨u', v', w', he, hb', hfirst', _⟩ := h'
  -- Neither of the two places comes before the other.
  have hv : v = v' := by
    obtain ⟨x, rfl, rfl⟩ | ⟨x, rfl, rfl⟩ := List.append_eq_append_iff.mp he
    · rw [hfirst'.eq_nil ⟨_, _, _, hb⟩, List.nil_append]
    · rw [hfirst.eq_nil ⟨_, _, _, hb'⟩, List.nil_append]
  subst hv
  obtain ⟨ha, hr, _⟩ := hb.unique hb'
  exact ⟨ha, hr⟩

/-- The first reference on a line is found in the text, unless one is broken over several lines. -/
theorem mem_findAll_of_first {a b action version w : List Char} (hwhole : HoldsWhole (a ++ b))
    (hb : Begins action version w b)
    (hfirst : NoneBefore (Text.afterLast '\n' a) (Text.upTo '\n' b)) :
  ⟨a.length, w, [action, version]⟩ ∈ reference.findAll (a ++ b)
  := by
  have ho : reference.OccursAfter a b := occursAfter_reference_iff.mpr ⟨_, _, _, hb⟩
  obtain ⟨m, hm, a₁, a₂, rfl, hs, hat, hcover⟩ := exists_mem_findAll ho
  by_cases ha : a₂ = []
  · rw [ha, List.nil_append, hb.matchAt?_eq, hs, Option.some_inj] at hat
    rw [ha, List.append_nil] at hm ⊢
    rw [hat]
    exact hm
  · -- A match around the place would be an earlier reference on its line.
    obtain ⟨action', version', hb', _⟩ := begins_of_matchAt? hat
    have hnot : '\n' ∉ m.text := hwhole a₁ (a₂ ++ b) _ _ _ (List.append_assoc ..) hb'
    have hbegins : a₂ <+: m.text := by
      obtain ⟨_, rest, hr, _⟩ := hb'
      exact List.prefix_of_prefix_length_le (List.prefix_append a₂ b) ⟨rest, hr.symm⟩
        (Nat.le_of_lt (hcover.resolve_left ha))
    have ha₂ : '\n' ∉ a₂ := fun h => hnot (hbegins.subset h)
    have hline := begins_upTo_iff.mpr ⟨hb', hnot⟩
    rw [Text.upTo_append ha₂] at hline
    rw [Text.afterLast_append a₁ ha₂] at hfirst
    exact absurd (hfirst.eq_nil ⟨_, _, _, hline⟩) ha

/-- A match that is found later on a line than its first reference begins after that. -/
theorem length_le_of_first {a x b action version w : List Char}
    (hwhole : HoldsWhole (a ++ (x ++ b))) (hb : Begins action version w (x ++ b))
    (hfirst : NoneBefore (Text.afterLast '\n' a) (Text.upTo '\n' (x ++ b)))
    {m : Match} (hm : m ∈ reference.findAll (a ++ (x ++ b)))
    (hs : m.start = a.length + x.length) (hx : x ≠ []) :
  w.length ≤ x.length
  := by
  have hm' := mem_findAll_of_first hwhole hb hfirst
  have hlater : a.length < m.start := by
    rw [hs]
    exact Nat.lt_add_of_pos_right (List.length_pos_iff.mpr hx)
  have hle := le_start_of_mem_findAll hm' hm hlater
  rw [hs] at hle
  exact Nat.le_of_add_le_add_left hle

/-- A match that is found in a text is the reference of its line, if no line holds two references
and none is broken over several lines. -/
theorem refersTo_of_mem_findAll {source : Source}
    (hone : ∀ line ∈ source.lines, HoldsAtMostOne line) (hwhole : HoldsWhole source.text)
    {m : Match} (hm : m ∈ reference.findAll source.text) {action version : List Char}
    (hk : m.kept = [action, version]) :
  ∃ line ∈ source.lines, RefersTo line action version
  := by
  obtain ⟨a, b, ht, hs, hat⟩ := exists_of_mem_findAll hm
  have hb := begins_of_kept hat hk
  have hbline := begins_upTo_iff.mpr ⟨hb, hwhole a b action version m.text ht hb⟩
  have hline : Text.afterLast '\n' a ++ Text.upTo '\n' b ∈ source.lines := by
    rw [Source.lines, ht]
    exact List.mem_of_getElem? (Text.getElem?_lines_append a b)
  obtain hnone | ⟨action', version', u, v, w, he, hb', hfirst, hrest⟩ := hone _ hline
  · exact absurd ⟨_, _, _, hbline⟩ (hnone _ _ rfl)
  have hv : v = Text.upTo '\n' b := by
    obtain ⟨x, hu, hx⟩ | ⟨x, hu, rfl⟩ := List.append_eq_append_iff.mp he
    · rw [hu] at hfirst
      rw [hx] at hbline ⊢
      rw [hfirst.eq_nil ⟨_, _, _, hbline⟩, List.nil_append]
    · by_contra hne
      -- The reference of the line begins earlier, so that the match comes after it.
      obtain ⟨first, ha, hlast⟩ := Text.exists_eq_append_afterLast '\n' a
      have hfeed := Text.not_mem_afterLast '\n' a
      rw [hu, List.mem_append, not_or] at hfeed
      rw [hu, ← List.append_assoc] at ha
      have hu' : Text.afterLast '\n' (first ++ u) = u := by
        rw [Text.afterLast_append _ hfeed.1, hlast, List.nil_append]
      rw [← Text.upTo_append hfeed.2] at hb' hfirst
      rw [← hu'] at hfirst
      rw [ht, ha, List.append_assoc] at hwhole hm
      rw [ha, List.length_append] at hs
      have hle := length_le_of_first hwhole (begins_upTo_iff.mp hb').1 hfirst hm hs
        (fun h => hne (by rw [h, List.nil_append]))
      exact hrest x _ rfl hle ⟨_, _, _, hbline⟩
  subst hv
  obtain ⟨rfl, rfl, _⟩ := hb'.unique hbline
  exact ⟨_, hline, u, _, w, he, hb', hfirst, hrest⟩

/-! ### Pinned versions -/

/-- A version is `latest`, or it neither begins with `v` nor is a commit of forty small hexadecimal
digits. -/
def Unpinned (version : List Char) : Prop :=
  version = "latest".toList ∨
    (version.head? ≠ some 'v' ∧
      ¬ (version.length = 40 ∧ ∀ c ∈ version, c.isDigit ∨ 'a' ≤ c ∧ c ≤ 'f'))

theorem beginsIn_commit_iff {version : List Char} (h : '\n' ∉ version) :
  commit.beginsIn version ↔
    version.length = 40 ∧ ∀ c ∈ version, c.isDigit ∨ 'a' ≤ c ∧ c ≤ 'f'
  := by
  let digits := times 40 (one fun c => c.isDigit || ('a' ≤ c && c ≤ 'f'))
  have hw : commit.beginsIn version ↔
      ∃ w texts, digits.Spells w texts ∧ (version = w ∨ version = w ++ ['\n']) :=
    beginsIn_whole_iff [digits] (by decide)
  rw [hw]
  constructor
  · rintro ⟨w, texts, hs, rfl | rfl⟩
    · obtain ⟨hdigits, hleast, hmost, _⟩ := spells_run_iff.mp hs
      exact ⟨Nat.le_antisymm (hmost 40 rfl) hleast, by simpa using hdigits⟩
    · exact absurd (by simp) h
  · rintro ⟨hlength, hdigits⟩
    exact ⟨version, [], spells_run_iff.mpr ⟨by simpa using hdigits, Nat.le_of_eq hlength.symm,
      by simp [hlength], rfl⟩, .inl rfl⟩

theorem isPinned_eq_false_iff {version : List Char} (h : '\n' ∉ version) :
  isPinned version = false ↔ Unpinned version
  := by
  have hv : Text.startsWith version "v" ↔ version.head? = some 'v' := by
    have hword : "v".toList = ['v'] := rfl
    rw [Text.startsWith, List.isPrefixOf_iff_prefix, hword]
    cases version with
    | nil => simp
    | cons c rest => simp [eq_comm]
  rw [Unpinned, ← beginsIn_commit_iff h, ne_eq, ← hv]
  simp only [isPinned, Bool.and_eq_false_iff, Bool.or_eq_false_iff, decide_eq_false_iff_not, ne_eq,
    not_not, Bool.not_eq_true]

/-! ### Issues -/

/-- An issue lists the lines of a source that have a property. -/
def Lists (i : Issue) (source : Source) (holds : List Char → Prop) : Prop :=
  ∃ ns : List Nat, i.lineNumbers = asLineNumbers ns ∧
    ∀ n, n ∈ ns ↔ ∃ line, (n, line) ∈ source.numberedLines ∧ holds line

theorem parts?_eq_some_iff {m : Match} {action version : List Char} :
  parts? m = some (action, version) ↔ m.kept = [action, version]
  := by
  rw [parts?]
  constructor
  · intro h
    split at h
    · rename_i hk
      rw [hk]
      obtain ⟨rfl, rfl⟩ := Prod.mk.inj (Option.some.inj h)
      rfl
    · cases h
  · intro h
    rw [h]

/-- The references that are found with a version that is not pinned are reported. -/
theorem mem_issues_iff {source : Source} {i : Issue} :
  i ∈ issues source ↔ ∃ m ∈ reference.findAll source.text, ∃ action version,
    m.kept = [action, version] ∧ Unpinned version ∧ i = issue source action version
  := by
  have hfeed : ∀ m ∈ reference.findAll source.text, ∀ action version,
      m.kept = [action, version] → '\n' ∉ version := by
    intro m hm action version hk
    obtain ⟨a, b, _, _, hat⟩ := exists_of_mem_findAll hm
    have hb := begins_of_kept hat hk
    exact fun h => absurd (hb.1.version_chars _ h) (by decide)
  rw [issues, List.mem_filterMap]
  constructor
  · rintro ⟨⟨action, version⟩, hp, hi⟩
    obtain ⟨m, hm, hparts⟩ := List.mem_filterMap.mp hp
    have hk := parts?_eq_some_iff.mp hparts
    simp only [Option.ite_none_left_eq_some, Option.some_inj] at hi
    obtain ⟨hpinned, rfl⟩ := hi
    have hu := (isPinned_eq_false_iff (hfeed m hm _ _ hk)).mp (Bool.not_eq_true _ ▸ hpinned)
    exact ⟨m, hm, action, version, hk, hu, rfl⟩
  · rintro ⟨m, hm, action, version, hk, hu, rfl⟩
    refine ⟨(action, version), List.mem_filterMap.mpr ⟨m, hm, parts?_eq_some_iff.mpr hk⟩, ?_⟩
    have hpinned := (isPinned_eq_false_iff (hfeed m hm _ _ hk)).mpr hu
    simp only [hpinned, Bool.false_eq_true, if_false]

/-- The lines of an issue hold its action and its version with an at sign between them. -/
theorem mem_linesHolding_iff {source : Source} {action version : List Char} {n : Nat} :
  n ∈ linesHolding source (action ++ '@' :: version) ↔
    ∃ x y, (n, x ++ '@' :: y) ∈ source.numberedLines ∧ action <:+ x ∧ version <+: y
  := by
  rw [linesHolding, List.mem_map]
  constructor
  · rintro ⟨⟨n, line⟩, hl, rfl⟩
    obtain ⟨hl, ho⟩ := List.mem_filter.mp hl
    obtain ⟨s, t, rfl⟩ : action ++ '@' :: version <:+: line := Text.occursIn_iff.mp ho
    refine ⟨s ++ action, version ++ t, ?_, List.suffix_append _ _, List.prefix_append _ _⟩
    simpa only [List.append_assoc, List.cons_append] using hl
  · rintro ⟨x, y, hl, ⟨s, rfl⟩, ⟨t, rfl⟩⟩
    refine ⟨_, List.mem_filter.mpr ⟨hl, Text.occursIn_iff.mpr ⟨s, t, ?_⟩⟩, rfl⟩
    simp only [List.append_assoc, List.cons_append]

/-- A line that refers to an action at a version holds the two with an at sign between them. -/
theorem RefersTo.exists_at {line action version : List Char} (h : RefersTo line action version) :
  ∃ x y, line = x ++ '@' :: y ∧ action <:+ x ∧ version <+: y
  := by
  obtain ⟨u, _, w, rfl, ⟨href, rest, rfl, _⟩, _⟩ := h
  obtain ⟨blanks, quote, _, _, rfl⟩ := href.text
  refine ⟨u ++ ("uses:".toList ++ (blanks ++ (quote ++ action))), version ++ rest, ?_, ?_,
    List.prefix_append _ _⟩
  · simp only [List.append_assoc, List.cons_append]
  · simp only [← List.append_assoc]
    exact List.suffix_append _ _

/-- An issue lists the lines of its reference if and only if no line of another reference, or of
none, holds its action and its version with an at sign between them. -/
theorem lists_issue_iff {source : Source} {action version : List Char} :
  Lists (issue source action version) source (RefersTo · action version) ↔
    ∀ x y, x ++ '@' :: y ∈ source.lines → action <:+ x → version <+: y →
      RefersTo (x ++ '@' :: y) action version
  := by
  constructor
  · rintro ⟨ns, hns, h⟩ x y hl hx hy
    obtain ⟨n, hl⟩ := Source.mem_lines_iff.mp hl
    have he : linesHolding source (action ++ '@' :: version) = ns :=
      List.map_injective_iff.mpr (fun _ _ => Int.ofNat_inj.mp) (Option.some.inj hns)
    have hn := mem_linesHolding_iff.mpr ⟨x, y, hl, hx, hy⟩
    rw [he] at hn
    obtain ⟨line, hl', hrefers⟩ := (h n).mp hn
    obtain ⟨_, rfl⟩ := Prod.mk.inj (Source.eq_of_mem_numberedLines hl' hl rfl)
    exact hrefers
  · intro h
    refine ⟨_, rfl, fun n => ?_⟩
    rw [mem_linesHolding_iff]
    constructor
    · rintro ⟨x, y, hl, hx, hy⟩
      exact ⟨_, hl, h x y (Source.mem_lines_iff.mpr ⟨n, hl⟩) hx hy⟩
    · rintro ⟨line, hl, hrefers⟩
      obtain ⟨x, y, rfl, hx, hy⟩ := hrefers.exists_at
      exact ⟨x, y, hl, hx, hy⟩

/-! ### Reading the references off -/

/-- A line with one match refers to what the match keeps. -/
theorem refersTo_of_findAll {line action version : List Char} {m : Match}
    (h : reference.findAll line = [m]) (hk : m.kept = [action, version]) :
  RefersTo line action version
  := by
  have hm : m ∈ reference.findAll line := by
    rw [h]
    exact List.mem_singleton_self m
  obtain ⟨u, v, rfl, hs, hat⟩ := exists_of_mem_findAll hm
  have hb := begins_of_kept hat hk
  -- Every place where a reference begins is that of the match, or lies inside of the match.
  have hinside : ∀ x y, u ++ v = x ++ y → Starts y →
      u.length ≤ x.length ∧ (x.length = u.length ∨ x.length < u.length + m.text.length) := by
    intro x y he hy
    have ho : reference.OccursAfter x y := occursAfter_reference_iff.mpr hy
    obtain ⟨m', hm', x₁, x₂, rfl, hs', _, hcover⟩ := exists_mem_findAll ho
    rw [← he, h, List.mem_singleton] at hm'
    rw [hm', hs] at hs'
    rw [hm'] at hcover
    rw [List.length_append, ← hs']
    refine ⟨Nat.le_add_right _ _, ?_⟩
    obtain rfl | hlt := hcover
    · exact .inl rfl
    · exact .inr (Nat.add_lt_add_left hlt _)
  refine ⟨u, v, m.text, rfl, hb, ?_, ?_⟩
  · rintro x y rfl hy hstarts
    have hle := (hinside x (y ++ v) (List.append_assoc ..) hstarts).1
    have hpos := List.length_pos_iff.mpr hy
    rw [List.length_append] at hle
    omega
  · rintro x y rfl hle hstarts
    have hpos : 0 < m.text.length := by
      obtain ⟨_, _, _, _, ht⟩ := hb.1.text
      rw [ht]
      exact Nat.zero_lt_succ _
    have hx := (hinside (u ++ x) y (List.append_assoc ..).symm hstarts).2
    rw [List.length_append] at hx
    omega

theorem holdsAtMostOne_of_findAll {line : List Char}
    (h : (reference.findAll line).length ≤ 1) :
  HoldsAtMostOne line
  := by
  by_cases hnil : reference.findAll line = []
  · left
    intro x y he hy
    exact findAll_ne_nil_iff.mpr ⟨x, y, he, occursAfter_reference_iff.mpr hy⟩ hnil
  · right
    obtain ⟨m, hm⟩ := List.length_eq_one_iff.mp
      (Nat.le_antisymm h (List.length_pos_iff.mpr hnil))
    obtain ⟨a, b, _, _, hat⟩ := exists_of_mem_findAll (hm ▸ List.mem_singleton_self m)
    obtain ⟨action, version, _, hk⟩ := begins_of_matchAt? hat
    exact ⟨action, version, refersTo_of_findAll hm hk⟩

theorem holdsWhole_of_tails {text : List Char}
    (h : ∀ y ∈ text.tails, ((reference.matchAt? 0 (.ofText y)).all (!·.text.contains '\n'))) :
  HoldsWhole text
  := by
  intro x y action version w ht hb
  have hy := h y ((List.mem_tails y text).mpr ⟨x, ht.symm⟩)
  rw [Place.ofText, hb.matchAt?_eq] at hy
  simpa using hy

/-- If no line holds two references and none is broken over several lines, the references with a
version that is not pinned are reported, and no others.  Each issue lists the lines of its reference
only if and only if there is no at sign on a line with another reference, or with none, between a
text that ends with the action of a reported reference and a text that begins with its version. -/
theorem unpinnedActionVersions_lists_iff (document : Document) {source : Source}
    (hone : ∀ line ∈ source.lines, HoldsAtMostOne line) (hwhole : HoldsWhole source.text) :
  let found := (Rule.unpinnedActionVersions.check document source).findings.issues
  (∀ line ∈ source.lines, ∀ action version, RefersTo line action version → Unpinned version →
    issue source action version ∈ found) ∧
  (∀ i ∈ found, ∃ line ∈ source.lines, ∃ action version, RefersTo line action version ∧
    Unpinned version ∧ i = issue source action version) ∧
  ((∀ action version, issue source action version ∈ found →
      Lists (issue source action version) source (RefersTo · action version)) ↔
    ∀ action version, issue source action version ∈ found →
      ∀ x y, x ++ '@' :: y ∈ source.lines → action <:+ x → version <+: y →
        RefersTo (x ++ '@' :: y) action version)
  := by
  intro found
  refine ⟨?_, ?_, ?_⟩
  · rintro line hl action version ⟨u, v, w, rfl, hb, hfirst, _⟩ hu
    obtain ⟨n, hl⟩ := Source.mem_lines_iff.mp hl
    obtain ⟨a, b, ht, _, rfl, rfl⟩ := Source.mem_numberedLines_iff.mp hl
    rw [ht] at hwhole
    have hm := mem_findAll_of_first hwhole (begins_upTo_iff.mp hb).1 hfirst
    rw [← ht] at hm
    exact mem_issues_iff.mpr ⟨_, hm, action, version, rfl, hu, rfl⟩
  · intro i hi
    obtain ⟨m, hm, action, version, hk, hu, rfl⟩ := mem_issues_iff.mp hi
    obtain ⟨line, hl, hrefers⟩ := refersTo_of_mem_findAll hone hwhole hm hk
    exact ⟨line, hl, action, version, hrefers, hu, rfl⟩
  · simp only [lists_issue_iff]

theorem unpinnedActionVersions_lists_iff_twoActions :
  let source : Source := ⟨"- uses: acme/tool@main\n- uses: acme/lint@v2".toList, "github-actions"⟩
  (∀ line ∈ source.lines, HoldsAtMostOne line) ∧ HoldsWhole source.text ∧
  RefersTo "- uses: acme/tool@main".toList "acme/tool".toList "main".toList ∧
  issue source "acme/tool".toList "main".toList ∈
    (Rule.unpinnedActionVersions.check .null source).findings.issues
  := by
  intro source
  have hone : ∀ line ∈ source.lines, HoldsAtMostOne line := by
    have hall : ∀ line ∈ source.lines, (reference.findAll line).length ≤ 1 := by decide +kernel
    exact fun line hl => holdsAtMostOne_of_findAll (hall line hl)
  have hwhole : HoldsWhole source.text := holdsWhole_of_tails (by decide +kernel)
  have hrefers : RefersTo "- uses: acme/tool@main".toList "acme/tool".toList "main".toList :=
    refersTo_of_findAll
      (m := ⟨2, "uses: acme/tool@main".toList, ["acme/tool".toList, "main".toList]⟩)
      (by decide +kernel) rfl
  have hu : Unpinned "main".toList := .inr ⟨by decide, by decide⟩
  exact ⟨hone, hwhole, hrefers, (unpinnedActionVersions_lists_iff .null hone hwhole).1 _
    (by decide +kernel) _ _ hrefers hu⟩

/-- The issue of an action at `main` lists the line of the same action at `main-2` as well. -/
theorem unpinnedActionVersions_longerVersion :
  let source : Source :=
    ⟨"- uses: acme/tool@main\n- uses: acme/tool@main-2".toList, "github-actions"⟩
  (∀ line ∈ source.lines, HoldsAtMostOne line) ∧
  issue source "acme/tool".toList "main".toList ∈
    (Rule.unpinnedActionVersions.check .null source).findings.issues ∧
  (issue source "acme/tool".toList "main".toList).lineNumbers = some [1, 2] ∧
  (2, "- uses: acme/tool@main-2".toList) ∈ source.numberedLines ∧
  ¬ RefersTo "- uses: acme/tool@main-2".toList "acme/tool".toList "main".toList
  := by
  intro source
  have hall : ∀ line ∈ source.lines, (reference.findAll line).length ≤ 1 := by decide +kernel
  have hrefers : RefersTo "- uses: acme/tool@main-2".toList "acme/tool".toList "main-2".toList :=
    refersTo_of_findAll
      (m := ⟨2, "uses: acme/tool@main-2".toList, ["acme/tool".toList, "main-2".toList]⟩)
      (by decide +kernel) rfl
  refine ⟨fun line hl => holdsAtMostOne_of_findAll (hall line hl), by decide +kernel,
    by decide +kernel, by decide +kernel, fun h => ?_⟩
  exact absurd (h.unique hrefers).2 (by decide)

end ActionReference

end PipelineAudit
