import PipelineAudit.Proofs.Finding.Outcomes
import PipelineAudit.Proofs.Platform.StepReports
import PipelineAudit.Proofs.Related
import PipelineAudit.Proofs.Secret.Concealment

/-!
# What a masked secret tells

A masked secret tells the length of the secret and, if that is more than eight, the first four and
the last four characters.  Secrets that have these in common are `Alike`.

* `mask_mask`, `mask_eq_iff`: a masked secret stays as it is when masked again, and alike secrets
  are those that look the same when masked.
* `Masks`: what a check reports is made from the kinds of the secrets found and from the masked
  secrets, and tells both.
* `hardcodedSecrets_masks`, `highEntropyStrings_masks`, `GitHub.variables_masks`: the checks for
  credentials, for tokens and for variables do so.
-/

namespace PipelineAudit

namespace Secret

/-! ### Secrets that are alike -/

/-- Two texts have the same length and, unless that is at most eight, the same first four and the
same last four characters. -/
def Alike (s t : List Char) : Prop :=
  s.length = t.length ∧
    (s.length ≤ 8 ∨ s.take 4 = t.take 4 ∧ s.drop (s.length - 4) = t.drop (t.length - 4))

instance (s t : List Char) : Decidable (Alike s t) :=
  inferInstanceAs (Decidable (_ ∧ _))

namespace Alike

variable {s t u : List Char}

theorem symm (h : Alike s t) :
  Alike t s
  := by
  obtain ⟨hl, hshort | ⟨hfirst, hlast⟩⟩ := h
  · exact ⟨hl.symm, .inl (hl ▸ hshort)⟩
  · exact ⟨hl.symm, .inr ⟨hfirst.symm, hlast.symm⟩⟩

theorem trans (h : Alike s t) (k : Alike t u) :
  Alike s u
  := by
  obtain ⟨hl, hshort | ⟨hfirst, hlast⟩⟩ := h
  · exact ⟨hl.trans k.1, .inl hshort⟩
  · obtain ⟨kl, kshort | ⟨kfirst, klast⟩⟩ := k
    · exact ⟨hl.trans kl, .inl (hl ▸ kshort)⟩
    · exact ⟨hl.trans kl, .inr ⟨hfirst.trans kfirst, hlast.trans klast⟩⟩

/-- Alike secrets look the same when masked. -/
theorem mask_eq (h : Alike s t) :
  mask s = mask t
  := by
  obtain ⟨hl, hends⟩ := h
  rw [mask, mask, ← hl]
  split
  case isTrue => rfl
  case isFalse hlong =>
    obtain ⟨hfirst, hlast⟩ := hends.resolve_left hlong
    rw [hfirst, hlast, hl]

end Alike

/-- A masked secret is alike to the secret. -/
theorem mask_alike (s : List Char) :
  Alike (mask s) s
  := by
  refine ⟨length_mask s, ?_⟩
  rw [length_mask]
  rcases Nat.lt_or_ge 8 s.length with hlong | hshort
  case inr => exact .inl hshort
  case inl =>
    have hfirst : (s.take 4).length = 4 := by
      rw [List.length_take]
      omega
    have hmiddle : (s.take 4 ++ List.replicate (s.length - 8) '*').length = s.length - 4 := by
      rw [List.length_append, hfirst, List.length_replicate]
      omega
    rw [mask, if_neg (by omega)]
    refine .inr ⟨?_, List.drop_left' hmiddle⟩
    rw [List.append_assoc, List.take_left' hfirst]

/-- A masked secret stays as it is when masked again. -/
theorem mask_mask (s : List Char) :
  mask (mask s) = mask s
  := (mask_alike s).mask_eq

/-- Masking tells two secrets apart unless they are alike. -/
theorem mask_eq_iff {s t : List Char} :
  mask s = mask t ↔ Alike s t
  := by
  constructor
  · intro h
    have ht : Alike (mask s) t := h ▸ mask_alike t
    exact (mask_alike s).symm.trans ht
  · exact Alike.mask_eq

example :
  Alike "12345678".toList "abcdefgh".toList ∧ ¬ Alike "123456789".toList "12345678_".toList
  := by decide

/-! ### Checks that mask -/

/-- What a check reports in a run is made from the kinds of the secrets that it finds and from the
masked secrets, and it tells both. -/
structure Masks {ι κ ρ : Type} (found : ι → List (κ × List Char)) (reports : ι → List ρ) :
    Prop where
  /-- A report is a function of a kind and a masked secret. -/
  made : ∃ report : κ → List Char → ρ, ∀ run,
    reports run = (found run).map fun f => report f.1 (mask f.2)
  /-- Two runs report the same exactly if the secrets found are, one by one, of the same kind and
  alike. -/
  reports_eq_iff : ∀ run run', reports run = reports run' ↔
    List.Forall₂ (fun f g => f.1 = g.1 ∧ Alike f.2 g.2) (found run) (found run')

/-- A check masks secrets if from its reports the kinds and the masked secrets can be told. -/
theorem Masks.of_report {ι κ ρ : Type} {found : ι → List (κ × List Char)} {reports : ι → List ρ}
    (report : κ → List Char → ρ)
    (hreports : ∀ run, reports run = (found run).map fun f => report f.1 (mask f.2))
    (htells : ∀ run, ∀ f ∈ found run, ∀ run', ∀ g ∈ found run',
      report f.1 (mask f.2) = report g.1 (mask g.2) → f.1 = g.1 ∧ mask f.2 = mask g.2) :
  Masks found reports
  := by
  refine ⟨⟨report, hreports⟩, fun run run' => ?_⟩
  rw [hreports, hreports]
  apply map_eq_map_iff_forall₂
  intro f hf g hg
  rw [← mask_eq_iff]
  constructor
  · exact htells run f hf run' g hg
  · rintro ⟨hkind, hmask⟩
    rw [hkind, hmask]

/-! ### What a description shows -/

/-- What a description shows of a secret: what stands between its first quotation mark and its last
one. -/
def shown (description : String) : List Char :=
  let behind := (description.toList.dropWhile (· ≠ '"')).tail
  (behind.reverse.dropWhile (· ≠ '"')).tail.reverse

/-- What stands in quotation marks, with no quotation mark before or after it. -/
theorem shown_eq {description : String} {before secret after : List Char}
    (hd : description.toList = before ++ '"' :: (secret ++ '"' :: after)) (hb : '"' ∉ before)
    (ha : '"' ∉ after) :
  shown description = secret
  := by
  have hbefore : ∀ c ∈ before, decide (c ≠ '"') :=
    fun c hc => decide_eq_true fun h => hb (h ▸ hc)
  have hafter : ∀ c ∈ after.reverse, decide (c ≠ '"') :=
    fun c hc => decide_eq_true fun h => ha (h ▸ List.mem_reverse.mp hc)
  have hbehind : (secret ++ '"' :: after).reverse = after.reverse ++ '"' :: secret.reverse := by
    simp
  rw [shown, hd, List.dropWhile_append_of_pos hbefore, List.dropWhile_cons_of_neg (by decide),
    List.tail_cons, hbehind, List.dropWhile_append_of_pos hafter,
    List.dropWhile_cons_of_neg (by decide), List.tail_cons, List.reverse_reverse]

/-! ### Credentials of known forms -/

/-- What the description of a credential says before it shows the credential. -/
def Signature.announcement (s : Signature) : List Char :=
  "Potential ".toList ++ Text.lower s.name.toList ++ " found: ".toList

theorem quote_not_mem_announcement :
  ∀ s ∈ signatures, '"' ∉ s.announcement
  := by decide +kernel

/-- The known forms are announced differently. -/
theorem nodup_announcements :
  (signatures.map Signature.announcement).Nodup
  := by decide +kernel

/-- The description of a credential of a form. -/
def Signature.describe (s : Signature) (masked : List Char) : String :=
  "Potential " ++ String.ofList (Text.lower s.name.toList) ++ " found: \"" ++
    String.ofList masked ++ "\""

/-- A text in quotation marks after the announcement of a form.  The form is any text here, so that
no name is computed with. -/
theorem toList_announced (form text : List Char) :
  ("Potential " ++ String.ofList form ++ " found: \"" ++ String.ofList text ++ "\"").toList =
    "Potential ".toList ++ form ++ " found: ".toList ++ '"' :: (text ++ ['"'])
  := by
  have hfound : " found: \"".toList = " found: ".toList ++ ['"'] := by decide
  have hmark : "\"".toList = ['"'] := by decide
  simp only [String.toList_append, String.toList_ofList, hfound, hmark, List.append_assoc,
    List.cons_append, List.nil_append]

theorem Signature.toList_describe (s : Signature) (masked : List Char) :
  (s.describe masked).toList = s.announcement ++ '"' :: (masked ++ ['"'])
  := toList_announced (Text.lower s.name.toList) masked

/-- The description of a credential tells its form and the masked credential. -/
theorem Signature.eq_of_describe_eq {s t : Signature} (hs : s ∈ signatures) (ht : t ∈ signatures)
    {masked masked' : List Char} (h : s.describe masked = t.describe masked') :
  s = t ∧ masked = masked'
  := by
  have hshown : ∀ u ∈ signatures, ∀ m, shown (u.describe m) = m :=
    fun u hu m => shown_eq (u.toList_describe m) (quote_not_mem_announcement u hu) (by simp)
  have hmasked : masked = masked' := by rw [← hshown s hs masked, h, hshown t ht masked']
  have hl := congrArg String.toList h
  rw [toList_describe, toList_describe, hmasked, List.append_cancel_right_eq] at hl
  exact ⟨List.inj_on_of_nodup_map nodup_announcements hs ht hl, hmasked⟩

/-- The check for credentials masks them; they are of the kinds of their forms. -/
theorem hardcodedSecrets_masks :
  Masks (fun run : Document × Source => (hits run.2).map fun h => (h.signature, h.text))
    (fun run =>
      (Rule.hardcodedSecrets.check run.1 run.2).findings.vulnerabilities.map (·.description))
  := by
  apply Masks.of_report Signature.describe
  · intro run
    rw [List.map_map]
    exact List.map_map
  · intro run f hf run' g hg
    obtain ⟨h, hh, rfl⟩ := List.mem_map.mp hf
    obtain ⟨k, hk, rfl⟩ := List.mem_map.mp hg
    exact Signature.eq_of_describe_eq (Hit.exists_match hh).1 (Hit.exists_match hk).1

/-! ### Tokens of suspicious entropy -/

/-- The tokens of suspicious entropy in the lines of a source that are looked at. -/
def allSuspiciousTokens (source : Source) : List (List Char) :=
  source.numberedLines.flatMap fun l => if isScanned l.2 then suspiciousTokens l.2 else []

theorem quote_not_mem_fixedFloat (places : Nat) (x : Float) :
  '"' ∉ (Decimal.fixedFloat places x).toList
  := by
  have hdigits : ∀ num den, '"' ∉ Decimal.fixedDiv places num den :=
    fun num den h => absurd (mem_numeralChars_of_mem_fixedDiv h) (by decide)
  rw [Decimal.fixedFloat]
  split
  · decide
  · split
    · decide
    · decide
  · rw [String.toList_ofList, List.mem_append]
    rintro (h | h)
    · split at h
      · exact absurd h (by decide)
      · cases h
    · exact hdigits _ _ h

/-- The description of a token shows the masked token. -/
theorem shown_tokenVulnerability (line : Nat) (token : List Char) :
  shown (tokenVulnerability line token).description = mask token
  := by
  have hopen : "Potential secret detected: \"".toList =
      "Potential secret detected: ".toList ++ ['"'] := by decide
  have hclose : "\" (entropy: ".toList = '"' :: " (entropy: ".toList := by decide
  have hd : (tokenVulnerability line token).description.toList =
      "Potential secret detected: ".toList ++ '"' :: (mask token ++ '"' ::
        (" (entropy: ".toList ++ (Decimal.fixedFloat 2 (entropy token)).toList ++ ")".toList)) := by
    simp only [tokenVulnerability, String.toList_append, String.toList_ofList, hopen, hclose,
      List.append_assoc, List.cons_append, List.nil_append]
  apply shown_eq hd (by decide)
  simp only [List.mem_append, not_or]
  exact ⟨⟨by decide, quote_not_mem_fixedFloat 2 _⟩, by decide⟩

theorem shown_highEntropyStrings (document : Document) (source : Source) :
  (Rule.highEntropyStrings.check document source).findings.vulnerabilities.map
      (fun v => shown v.description) =
    (allSuspiciousTokens source).map mask
  := by
  change (source.numberedLines.flatMap tokenVulnerabilities).map _ = _
  rw [allSuspiciousTokens, List.map_flatMap, List.map_flatMap]
  congr 1
  funext l
  rw [tokenVulnerabilities]
  split
  · rw [List.map_map]
    apply List.map_congr_left
    intro token _
    rw [Function.comp_apply, shown_tokenVulnerability]
  · rfl

/-- The check for tokens of suspicious entropy masks them; they are all of one kind.  The entropy of
a token, which its description gives besides, is no part of what is shown of it. -/
theorem highEntropyStrings_masks :
  Masks (fun run : Document × Source => (allSuspiciousTokens run.2).map fun t => ((), t))
    (fun run => (Rule.highEntropyStrings.check run.1 run.2).findings.vulnerabilities.map
      fun v => shown v.description)
  := by
  apply Masks.of_report fun _ masked => masked
  · intro run
    rw [shown_highEntropyStrings, List.map_map]
    rfl
  · exact fun _ f _ _ g _ h => ⟨rfl, h⟩

end Secret

/-! ### Variables of steps -/

namespace GitHub

open Secret

/-- The wording between the name of a variable and its masked value. -/
def wording : String :=
  "\" may contain a hardcoded secret: \""

theorem length_wording :
  wording.toList.length = 35
  := by decide

/-- The wording does not occur a second time, further to the right. -/
theorem not_lt_length_name {name name' value value' : List Char} (hlong : 8 < value'.length)
    (h : name ++ (wording.toList ++ mask value) = name' ++ (wording.toList ++ mask value')) :
  ¬ name.length < name'.length
  := by
  intro hlt
  have hp : name <+: name' ++ (wording.toList ++ mask value') := h ▸ List.prefix_append name _
  obtain ⟨r, rfl⟩ := List.prefix_of_prefix_length_le hp (List.prefix_append name' _) hlt.le
  rw [List.append_assoc, List.append_cancel_left_eq] at h
  have hat : ∀ i : Nat,
      (wording.toList ++ mask value)[i]? = (r ++ (wording.toList ++ mask value'))[i]? :=
    fun i => by rw [h]
  have hlen := congrArg List.length h
  simp only [List.length_append, length_mask] at hlen hlt
  rcases Nat.lt_or_ge 4 r.length with hfar | hnear
  case inl =>
    -- the last quotation mark of the wording further right stands among the stars
    have hlast := hat (r.length + 34)
    rw [List.getElem?_append_right (by rw [length_wording]; omega), length_wording,
      getElem?_mask (by omega) (by omega), List.getElem?_append_right (by omega),
      Nat.add_sub_cancel_left, List.getElem?_append_left (by decide)] at hlast
    exact absurd hlast (by decide)
  case inr =>
    -- the first one stands in the wording further left, near its beginning
    have hfirst := hat r.length
    rw [List.getElem?_append_left (by rw [length_wording]; omega),
      List.getElem?_append_right (Nat.le_refl _), Nat.sub_self,
      List.getElem?_append_left (by decide)] at hfirst
    have hdiffer : ∀ k < 5, 0 < k → wording.toList[k]? ≠ wording.toList[0]? := by decide
    exact hdiffer r.length (by omega) (by omega) hfirst

/-- The description of a variable of a name. -/
def describe (name : String) (masked : List Char) : String :=
  "Variable \"" ++ name ++ wording ++ String.ofList masked ++ "\""

theorem toList_describe (name : String) (masked : List Char) :
  (describe name masked).toList =
    "Variable \"".toList ++ (name.toList ++ (wording.toList ++ masked)) ++ ['"']
  := by
  have hmark : "\"".toList = ['"'] := by decide
  rw [describe]
  simp only [String.toList_append, String.toList_ofList, hmark, List.append_assoc]

/-- The description of a variable tells its name and the masked value. -/
theorem eq_of_describe_eq {name name' : String} {value value' : List Char}
    (hv : 8 < value.length) (hv' : 8 < value'.length)
    (h : describe name (mask value) = describe name' (mask value')) :
  name = name' ∧ mask value = mask value'
  := by
  rw [← String.toList_inj, toList_describe, toList_describe, List.append_cancel_right_eq,
    List.append_cancel_left_eq] at h
  have hlen : name.toList.length = name'.toList.length := by
    have hle := not_lt_length_name hv' h
    have hge := not_lt_length_name hv h.symm
    omega
  obtain ⟨hn, hm⟩ := List.append_inj h hlen
  exact ⟨String.toList_inj.mp hn, List.append_cancel_left hm⟩

/-- The names and the values of the variables that are reported as secrets, up to the first variable
that cannot be named. -/
def hardcodedVariables (env : Document) : List (String × List Char) :=
  (env.entries.takeWhile isNamed).filterMap hardcoded?

theorem lt_length_of_mem_hardcodedVariables {env : Document} {v : String × List Char}
    (hv : v ∈ hardcodedVariables env) :
  8 < v.2.length
  := by
  obtain ⟨entry, -, he⟩ := List.mem_filterMap.mp hv
  obtain ⟨-, hh⟩ := Option.filter_eq_some_iff.mp he
  simp only [isHardcoded, Bool.and_eq_true, decide_eq_true_iff] at hh
  exact hh.1.2

/-- The variables that are reported as secrets are reported under an id of their own. -/
theorem filedUnder_checkVariables (place : String) (env : Document) :
  filedUnder "hardcoded-secret"
      (Reporter.each (checkVariable place) env.entries).alone.findings.issues =
    (hardcodedVariables env).map fun v => hardcodedSecret place v.1 v.2
  := by
  have hentry : ∀ entry : Key × Document,
      filedUnder "hardcoded-secret" (hardcodedIssues place entry ++ suspiciousIssues place entry) =
        hardcodedIssues place entry := by
    intro entry
    have hsuspicious : filedUnder "hardcoded-secret" (suspiciousIssues place entry) = [] := by
      rw [suspiciousIssues]
      split <;> rfl
    rw [filedUnder_append, hsuspicious, List.append_nil, hardcodedIssues]
    cases hardcoded? entry <;> rfl
  rw [Reporter.alone_each fun entry _ => adds_checkVariable place entry,
    Outcome.issues_each (fun _ _ => alone_checkVariable) (fun _ _ => alone_checkVariable_failed),
    filedUnder_flatMap, hardcodedVariables, List.map_filterMap, List.filterMap_eq_flatMap_toList]
  exact congrArg (List.flatMap · (env.entries.takeWhile isNamed)) (funext hentry)

/-- The check of the variables of a step masks the values that it takes for secrets; they are of the
kinds of their names. -/
theorem variables_masks :
  Masks (fun run : String × Document => hardcodedVariables run.2)
    (fun run => (filedUnder "hardcoded-secret"
      (Reporter.each (checkVariable run.1) run.2.entries).alone.findings.issues).map
        (·.description))
  := by
  apply Masks.of_report describe
  · intro run
    rw [filedUnder_checkVariables]
    exact List.map_map
  · intro run v hv run' w hw
    exact eq_of_describe_eq (lt_length_of_mem_hardcodedVariables hv)
      (lt_length_of_mem_hardcodedVariables hw)

end GitHub

/-! ### Runs -/

namespace Secret

/-- Masking reveals the length of a secret and, if that is more than eight, its ends, and nothing
else.  So what the checks for credentials, for tokens and for variables show of secrets of the same
kind is the same, in one run or in two, exactly if the secrets are alike. -/
theorem mask_reveals_ends :
  (∀ s, (mask s).length = s.length ∧ mask (mask s) = mask s) ∧
  (∀ s t, mask s = mask t ↔ Alike s t) ∧
  Masks (fun run : Document × Source => (hits run.2).map fun h => (h.signature, h.text))
    (fun run =>
      (Rule.hardcodedSecrets.check run.1 run.2).findings.vulnerabilities.map (·.description)) ∧
  Masks (fun run : Document × Source => (allSuspiciousTokens run.2).map fun t => ((), t))
    (fun run => (Rule.highEntropyStrings.check run.1 run.2).findings.vulnerabilities.map
      fun v => shown v.description) ∧
  Masks (fun run : String × Document => GitHub.hardcodedVariables run.2)
    (fun run => (filedUnder "hardcoded-secret"
      (Reporter.each (GitHub.checkVariable run.1) run.2.entries).alone.findings.issues).map
        (·.description))
  := ⟨fun s => ⟨length_mask s, mask_mask s⟩, fun _ _ => mask_eq_iff, hardcodedSecrets_masks,
    highEntropyStrings_masks, GitHub.variables_masks⟩

end Secret

end PipelineAudit
