import PipelineAudit.Proofs.Secret.PasswordLines
import PipelineAudit.Proofs.Secret.Search

/-!
# Reports of passwords

A line has a secret if a signature takes something on it, and the signature for passwords takes an
assignment to one of its keys, unless the key is taken for the value.

* `exists_hit_on_line_iff`: when there is a secret on a line.
* `reports_password_iff`: when an assignment to a key for passwords is reported.
-/

namespace PipelineAudit.Secret

/-! ### Secrets on a line -/

/-- A secret is reported on a line if and only if the search finds one of some signature there. -/
theorem exists_hit_on_line_iff {source : Source} {l : Nat × List Char}
    (hl : l ∈ source.numberedLines) :
  (∃ h ∈ hits source, h.line = l.1) ↔ ∃ s ∈ signatures, ∃ h ∈ s.hitsOn l, h ∈ allHits source
  := by
  constructor
  · rintro ⟨h, hm, hline⟩
    have ha := mem_of_mem_distinctHits hm
    obtain ⟨hs, l', hl', hm⟩ := exists_of_mem_hits hm
    obtain rfl : l' = l :=
      Source.eq_of_mem_numberedLines hl' hl ((line_of_mem_hitsOn hm).symm.trans hline)
    exact ⟨h.signature, hs, h, hm, ha⟩
  · rintro ⟨s, hs, h, hm, ha⟩
    obtain ⟨h', hm', he⟩ := exists_mem_distinctHits ha (List.not_mem_nil (a := h.place))
    refine ⟨h', hm', ?_⟩
    rw [← line_of_mem_hitsOn hm]
    exact congrArg Prod.fst he

/-- What the signature for passwords takes is found: the signatures up to it answer on every
match. -/
theorem mem_allHits_of_password {source : Source} {l : Nat × List Char} {h : Hit}
    (hl : l ∈ source.numberedLines) (hm : h ∈ passwordSignature.hitsOn l) :
  h ∈ allHits source
  := by
  have hok : ∀ s ∈ signatures.take 9, ∀ text, s.failure? text = none := by
    simp [signatures, Signature.failure?]
  exact mem_allHits_of_mem_earlier (List.take_append_drop 9 signatures).symm hok
    (List.mem_of_getElem? (i := 8) rfl) hl hm

/-! ### Lines that assign a password -/

namespace PasswordLine

variable (l : PasswordLine)

theorem isPassedOver_text :
  isPassedOver l.text = false
  := by
  obtain ⟨c, rest, hb, hc⟩ := l.body_eq_cons
  have hfirst : ∀ c ∈ "paswordPASWORD".toList, Text.isBlank c = false ∧ c ≠ '#' :=
    List.all_iff_forall_prop.mp (by decide)
  have htrim : Text.trimLeft l.text = c :: rest := by
    rw [text, Text.trimLeft, List.dropWhile_append_of_pos l.indent_blank, hb,
      List.dropWhile_cons_of_neg (by simp [(hfirst c hc).1])]
  have hcomment : isComment l.text = false := by
    have hc : ('#' == c) = false := beq_false_of_ne (hfirst c hc).2.symm
    rw [isComment, htrim, Text.startsWith, show "#".toList = ['#'] from rfl, List.isPrefixOf, hc,
      Bool.false_and]
  have hdollar : '$' ∉ l.text := by
    rw [text, List.mem_append, not_or]
    refine ⟨fun h => ?_, l.not_mem_body (by decide) (by decide) (by decide) (by decide) fun h =>
      (l.value_chars _ h).2 rfl⟩
    exact Text.forall_isBlank (· ≠ '$') (by decide) (l.indent_blank _ h) rfl
  rw [isPassedOver, hcomment, Bool.false_or, ← Bool.not_eq_true, List.contains_iff_mem]
  exact hdollar

theorem hitsOn_password_iff (n : Nat) :
  passwordSignature.hitsOn (n, l.text) ≠ [] ↔ ¬ l.HidesValue
  := by
  obtain ⟨kept, hf⟩ := l.findAll_password
  have ht (start : Nat) :
      Hit.isTaken ⟨passwordSignature, n, start, l.body⟩ = isPassword l.body := by
    rw [Hit.isTaken, Signature.takes, l.isLikely_body, Bool.and_true]
    rfl
  rw [Signature.hitsOn, Signature.matchesOn, l.isPassedOver_text, if_neg Bool.false_ne_true, hf,
    List.map_singleton, List.filter_singleton, ht, ← isPassword_body_iff]
  cases isPassword l.body <;> simp

end PasswordLine

/-- A line that assigns a value to a key for passwords is reported, unless the key is `password` and
something other than an equality sign follows it at once: then the key is taken for the value, and
the line is reported only if another signature takes something on it before the search ends. -/
theorem reports_password_iff (l : PasswordLine) {source : Source} {n : Nat}
    (hl : (n, l.text) ∈ source.numberedLines) (document : Document) :
  (∃ v ∈ (Rule.hardcodedSecrets.check document source).findings.vulnerabilities,
    v.line = some (n : Int)) ↔
    ¬ l.HidesValue ∨
      ∃ s ∈ signatures, s.name ≠ "Generic Password" ∧
        ∃ h ∈ s.hitsOn (n, l.text), h ∈ allHits source
  := by
  have hv : (∃ v ∈ (Rule.hardcodedSecrets.check document source).findings.vulnerabilities,
      v.line = some (n : Int)) ↔ ∃ h ∈ hits source, h.line = n := by
    constructor
    · rintro ⟨v, hv, hline⟩
      obtain ⟨h, hh, rfl⟩ := List.mem_map.mp hv
      exact ⟨h, hh, Int.ofNat_inj.mp (Option.some.inj hline)⟩
    · rintro ⟨h, hh, rfl⟩
      exact ⟨h.vulnerability, List.mem_map_of_mem hh, rfl⟩
  rw [hv, exists_hit_on_line_iff hl, ← l.hitsOn_password_iff n]
  constructor
  · rintro ⟨s, hs, h, hm, ha⟩
    by_cases hn : s.name = "Generic Password"
    · exact .inl (eq_passwordSignature hs hn ▸ List.ne_nil_of_mem hm)
    · exact .inr ⟨s, hs, hn, h, hm, ha⟩
  · rintro (hne | ⟨s, hs, _, hm⟩)
    · obtain ⟨h, hm⟩ := List.exists_mem_of_ne_nil _ hne
      exact ⟨passwordSignature, passwordSignature_mem, h, hm, mem_allHits_of_password hl hm⟩
    · exact ⟨s, hs, hm⟩

/-- An indented line with the shortest key, in another case. -/
def shortKeyLine : PasswordLine where
  indent := [' ', ' ']
  key := ['P', 'w', 'd']
  before := []
  separator := ':'
  after := [' ']
  value := "Hunter2Battery9".toList
  indent_blank := List.all_eq_true.mp rfl
  key_name := by decide
  before_blank := List.forall_mem_nil _
  separator_eq := .inl rfl
  after_blank := List.all_eq_true.mp rfl
  value_chars := List.all_iff_forall_prop.mp (by decide)
  value_long := by decide
  value_likely := by decide
  value_real := by decide +kernel
  value_rare := by decide

theorem reports_password_iff_shortKeyLine :
  (1, shortKeyLine.text) ∈ Source.numberedLines ⟨shortKeyLine.text, "github-actions"⟩ ∧
  ¬ shortKeyLine.HidesValue ∧
  ∃ v ∈ (Rule.hardcodedSecrets.check .null
      ⟨shortKeyLine.text, "github-actions"⟩).findings.vulnerabilities,
    v.line = some 1
  := by
  have hl : (1, shortKeyLine.text) ∈
      Source.numberedLines ⟨shortKeyLine.text, "github-actions"⟩ := by
    decide
  have hshown : ¬ shortKeyLine.HidesValue := fun h => absurd h.1 (by decide)
  exact ⟨hl, hshown, (reports_password_iff shortKeyLine hl .null).mpr (.inl hshown)⟩

/-- A password after the key that is spelled out, a colon and a blank is not reported. -/
theorem hardcodedSecrets_spelledOutKey :
  let value := "Hunter2Battery9".toList
  (value.all isPasswordChar ∧ 8 ≤ value.length ∧ isLikely value ∧ isPlaceholder value = false ∧
    String.ofList (Text.lower value) ∉ obviousNonPasswords) ∧
  (Rule.hardcodedSecrets.check .null
    ⟨"password: ".toList ++ value, "github-actions"⟩).findings.vulnerabilities.isEmpty
  := by
  decide +kernel

end PipelineAudit.Secret
