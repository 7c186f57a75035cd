import Mathlib.Data.List.TakeWhile
import PipelineAudit.Proofs.Secret.WebTokens
import PipelineAudit.Proofs.Text.Lines
import PipelineAudit.Rule.ExposedSecrets

/-!
# The search for secrets

The search goes through the matches of one signature after the other and ends at the first match
that has no answer.  What it finds are secrets of the signatures, and all of them if it comes to its
end.

* `allHits_eq_of_failure?_eq_none`: what is found if every match has an answer.
* `mem_allHits_of_mem_earlier`: the signatures that always answer and have only such before them are
  searched for in all lines.
* `signature_mem_of_mem_allHits`: after a match without an answer no other signature is searched
  for.
* `exists_container_of_failure?`: which matches have no answer.
-/

namespace PipelineAudit.Secret

variable {source : Source} {s : Signature} {l : Nat × List Char} {h : Hit}

/-! ### Matches on a line -/

theorem line_of_mem_matchesOn (hm : h ∈ s.matchesOn l) :
  h.line = l.1
  := by
  obtain ⟨-, m, -, rfl⟩ := Signature.mem_matchesOn_iff.mp hm
  rfl

theorem signature_of_mem_matchesOn (hm : h ∈ s.matchesOn l) :
  h.signature = s
  := by
  obtain ⟨-, m, -, rfl⟩ := Signature.mem_matchesOn_iff.mp hm
  rfl

theorem line_of_mem_hitsOn (hm : h ∈ s.hitsOn l) :
  h.line = l.1
  := line_of_mem_matchesOn (List.mem_of_mem_filter hm)

theorem signature_of_mem_hitsOn (hm : h ∈ s.hitsOn l) :
  h.signature = s
  := signature_of_mem_matchesOn (List.mem_of_mem_filter hm)

theorem matchesOn_of_isComment (s : Signature) (hc : isComment l.2) :
  s.matchesOn l = []
  := by
  have hp : isPassedOver l.2 := by simp [isPassedOver, hc]
  rw [Signature.matchesOn, if_pos hp]

/-! ### How far the search goes -/

theorem failure?_eq_none_iff :
  failure? source = none ↔ ∀ h ∈ allMatches source, h.failure? = none
  := List.findSome?_eq_none_iff

theorem mem_allMatches_iff :
  h ∈ allMatches source ↔
    ∃ s ∈ signatures, ∃ l ∈ source.numberedLines, h ∈ s.matchesOn l
  := by
  simp only [allMatches, List.mem_flatMap]

/-- What is found are secrets of the signatures on the lines. -/
theorem exists_of_mem_allHits (hm : h ∈ allHits source) :
  ∃ s ∈ signatures, ∃ l ∈ source.numberedLines, h ∈ s.hitsOn l
  := by
  obtain ⟨hm, ht⟩ := List.mem_filter.mp hm
  obtain ⟨s, hs, l, hl, hm⟩ := mem_allMatches_iff.mp ((List.takeWhile_subset _) hm)
  exact ⟨s, hs, l, hl, List.mem_filter.mpr ⟨hm, ht⟩⟩

/-- If every match has an answer, all secrets of all signatures are found. -/
theorem allHits_eq_of_failure?_eq_none (hf : failure? source = none) :
  allHits source = signatures.flatMap fun s => source.numberedLines.flatMap s.hitsOn
  := by
  have hall : ∀ h ∈ allMatches source, h.failure?.isNone := fun h hm =>
    Option.isNone_iff_eq_none.mpr (failure?_eq_none_iff.mp hf h hm)
  rw [allHits, List.takeWhile_eq_self_iff.mpr hall, allMatches, List.filter_flatMap]
  congr 1
  funext s
  exact List.filter_flatMap

/-- A signature that always answers, as all signatures before it do, is searched for in all
lines. -/
theorem mem_allHits_of_mem_earlier {earlier later : List Signature}
    (hall : signatures = earlier ++ later)
    (hok : ∀ s ∈ earlier, ∀ text, s.failure? text = none) (hs : s ∈ earlier)
    (hl : l ∈ source.numberedLines) (hm : h ∈ s.hitsOn l) :
  h ∈ allHits source
  := by
  obtain ⟨hm, ht⟩ := List.mem_filter.mp hm
  have hanswers : ∀ h ∈ earlier.flatMap fun s => source.numberedLines.flatMap s.matchesOn,
      h.failure?.isNone := by
    intro h hm
    obtain ⟨s, hs, hm⟩ := List.mem_flatMap.mp hm
    obtain ⟨l, _, hm⟩ := List.mem_flatMap.mp hm
    obtain rfl := signature_of_mem_matchesOn hm
    exact Option.isNone_iff_eq_none.mpr (hok _ hs h.text)
  rw [allHits, List.mem_filter, allMatches, hall, List.flatMap_append,
    List.takeWhile_append_of_pos hanswers]
  exact ⟨List.mem_append_left _
    (List.mem_flatMap.mpr ⟨s, hs, List.mem_flatMap.mpr ⟨l, hl, hm⟩⟩), ht⟩

/-- If a match of a signature has no answer, no signature after that is searched for. -/
theorem signature_mem_of_mem_allHits {earlier later : List Signature}
    (hall : signatures = earlier ++ s :: later) {m : Hit} (hl : l ∈ source.numberedLines)
    (hm : m ∈ s.matchesOn l) (hf : m.failure? ≠ none) (hh : h ∈ allHits source) :
  h.signature ∈ earlier ++ [s]
  := by
  let upTo : List Hit :=
    (earlier ++ [s]).flatMap fun s => source.numberedLines.flatMap s.matchesOn
  have hends : (upTo.takeWhile fun h => h.failure?.isNone).length ≠ upTo.length := by
    intro hlength
    have hself := (List.takeWhile_prefix fun h : Hit => h.failure?.isNone).eq_of_length hlength
    have hin : m ∈ upTo :=
      List.mem_flatMap.mpr ⟨s, List.mem_append_right _ List.mem_cons_self,
        List.mem_flatMap.mpr ⟨l, hl, hm⟩⟩
    have := List.takeWhile_eq_self_iff.mp hself m hin
    exact hf (Option.isNone_iff_eq_none.mp this)
  have hsplit : allMatches source =
      upTo ++ later.flatMap fun s => source.numberedLines.flatMap s.matchesOn := by
    rw [allMatches, hall, List.append_cons, List.flatMap_append]
  rw [allHits, List.mem_filter, hsplit, List.takeWhile_append, if_neg hends] at hh
  obtain ⟨s', hs', hh⟩ := List.mem_flatMap.mp ((List.takeWhile_subset _) hh.1)
  obtain ⟨l', _, hh⟩ := List.mem_flatMap.mp hh
  exact signature_of_mem_matchesOn hh ▸ hs'

/-! ### Why the search ends -/

/-- The only signature whose test may give no answer is that of web tokens. -/
theorem test_eq_or_failure?_eq_none :
  ∀ s ∈ signatures, s.test = testWebToken ∨ ∀ text, s.failure? text = none
  := by simp [signatures, Signature.failure?]

/-- The search ends early where what a web token encodes nests too deeply, and nowhere else. -/
theorem exists_container_of_failure? {e : Failure} (he : failure? source = some e) :
  ∃ container, e = .nestedTooDeep container
  := by
  obtain ⟨h, hm, he⟩ := List.exists_of_findSome?_eq_some he
  obtain ⟨s, hs, l, _, hm⟩ := mem_allMatches_iff.mp hm
  obtain rfl := signature_of_mem_matchesOn hm
  rw [Hit.failure?] at he
  obtain ht | hnone := test_eq_or_failure?_eq_none _ hs
  · rw [Signature.failure?, ht] at he
    split at he
    · cases he
    · cases he
      obtain ⟨-, -, -, -, -, -, -, -, container, -, -, rfl⟩ := exists_tooDeep_of_testWebToken ‹_›
      exact ⟨container, rfl⟩
  · rw [hnone] at he
    cases he

/-! ### The first secret of each place -/

theorem mem_of_mem_distinctHits {seen : List (Nat × Nat)} {found : List Hit}
    (hm : h ∈ distinctHits seen found) :
  h ∈ found
  := by
  induction found generalizing seen with
  | nil => cases hm
  | cons hit rest ih =>
    rw [distinctHits] at hm
    split at hm
    · exact List.mem_cons_of_mem _ (ih hm)
    · rcases List.mem_cons.mp hm with rfl | hm
      · exact List.mem_cons_self
      · exact List.mem_cons_of_mem _ (ih hm)

/-- A secret is reported at every place at which one is found. -/
theorem exists_mem_distinctHits {seen : List (Nat × Nat)} {found : List Hit} (hm : h ∈ found)
    (hs : h.place ∉ seen) :
  ∃ h' ∈ distinctHits seen found, h'.place = h.place
  := by
  induction found generalizing seen with
  | nil => cases hm
  | cons hit rest ih =>
    rw [distinctHits]
    split
    case isTrue hc =>
      obtain rfl | hm := List.mem_cons.mp hm
      · exact absurd (List.contains_iff_mem.mp hc) hs
      · exact ih hm hs
    case isFalse hc =>
      by_cases hp : hit.place = h.place
      · exact ⟨hit, List.mem_cons_self, hp⟩
      · obtain rfl | hm := List.mem_cons.mp hm
        · exact absurd rfl hp
        · have hs' : h.place ∉ hit.place :: seen := by
            rw [List.mem_cons, not_or]
            exact ⟨Ne.symm hp, hs⟩
          obtain ⟨h', hm', he⟩ := ih hm hs'
          exact ⟨h', List.mem_cons_of_mem _ hm', he⟩

/-- What is reported is a secret of a signature on a line. -/
theorem exists_of_mem_hits (hm : h ∈ hits source) :
  h.signature ∈ signatures ∧ ∃ l ∈ source.numberedLines, h ∈ h.signature.hitsOn l
  := by
  obtain ⟨s, hs, l, hl, hm⟩ := exists_of_mem_allHits (mem_of_mem_distinctHits hm)
  obtain rfl := signature_of_mem_hitsOn hm
  exact ⟨hs, l, hl, hm⟩

end PipelineAudit.Secret
