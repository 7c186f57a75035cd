import PipelineAudit.Proofs.Secret.Placeholders

/-!
# Spellings of assignments

A key, a token or a cloud secret is judged on the whole assignment: the first run of the characters
it may have is looked for, from the name on.  A colon or a blank ends such a run, an equality sign
does not.  So the verdict is that on the value, unless the value follows the equality sign at once:
then the name is judged with it, and only a word for a sample tells the value from a credential.

* `any_isCredential_joined`: the verdict on a name, an equality sign and a value.
* `spellings_agree_iff`: the verdicts on the spellings of an assignment, and when they agree.
-/

namespace PipelineAudit.Secret

open Pattern

/-! ### Names that are judged with the value -/

/-- A text with a small letter and an equality sign is varied, if it is long enough. -/
theorem isVaried_joined {name run : List Char} (hsmall : name.any isSmall)
    (hlong : 8 ≤ (name ++ '=' :: run).length) :
  isVaried (name ++ '=' :: run)
  := by
  have hs : (name ++ '=' :: run).any isSmall := by
    rw [List.any_append, hsmall, Bool.true_or]
  have hm : (name ++ '=' :: run).any (among "+/=_-") := by
    rw [List.any_append, List.any_cons, show among "+/=_-" '=' = true from rfl, Bool.true_or,
      Bool.or_true]
  have hc : 2 ≤ ([isSmall, isCapital, Text.isDecimal, among "+/=_-"].filter
      (name ++ '=' :: run).any).length := by
    have hl : [isSmall, among "+/=_-"].Sublist
        [isSmall, isCapital, Text.isDecimal, among "+/=_-"] :=
      .cons_cons _ (.cons _ (.cons _ (.refl _)))
    have hf := (hl.filter (name ++ '=' :: run).any).length_le
    rw [List.filter_cons_of_pos hs, List.filter_cons_of_pos hm] at hf
    exact hf
  rw [isVaried, decide_eq_true hlong, decide_eq_true hc]
  rfl

/-- A name that tells nothing of a sample is a credential with every value but a sample. -/
theorem isCredential_joined {name run : List Char} (hsmall : name.any isSmall)
    (hname : namesSample name = false)
    (hbegins : beginsAsPlaceholder (name ++ '=' :: run) = false)
    (hlong : 8 ≤ (name ++ '=' :: run).length) :
  isCredential (name ++ '=' :: run) = !namesSample run
  := by
  rw [isCredential, isVaried_joined hsmall hlong, isPlaceholder_eq hbegins, namesSample_append_cons,
    hname, Bool.true_and, Bool.false_or]

/-! ### Verdicts on first runs -/

/-- Whether the first run of a class is a credential. -/
def judges (least : Nat) (most : Option Nat) (allowed : Char → Bool) (text : List Char) : Bool :=
  (firstRun (repeated true least most) allowed text).any isCredential

theorem isApiKey_eq :
  isApiKey = judges 16 none isKeyChar
  := rfl

theorem isToken_eq :
  isToken = judges 20 none isKeyChar
  := rfl

theorem isCloudSecret_eq :
  isCloudSecret = judges 40 (some 40) isCloudChar
  := rfl

section

variable {allowed : Char → Bool} {least : Nat} {most : Option Nat}

/-- A run that is too short is not judged. -/
theorem judges_append_cons (hmost : ∀ m ∈ most, least ≤ m) {run : List Char} {c : Char}
    (hrun : run.all allowed) (hshort : run.length < least) (hc : allowed c = false)
    (rest : List Char) :
  judges least most allowed (run ++ c :: rest) = judges least most allowed rest
  := by
  rw [judges, firstRun_append_cons hmost (List.all_eq_true.mp hrun) hshort hc, judges]

/-- A name that is too short, and what stands between it and a blank, are not judged. -/
theorem judges_apart (hmost : ∀ m ∈ most, least ≤ m) {name gap : List Char} {c : Char}
    (hname : name.all allowed ∧ name.length < least) (hc : allowed c = false)
    (hgap : gap.all allowed ∧ gap.length < least) (hblank : allowed ' ' = false)
    (value : List Char) :
  judges least most allowed (name ++ c :: (gap ++ ' ' :: value)) =
    judges least most allowed value
  := by
  rw [judges_append_cons hmost hname.1 hname.2 hc, judges_append_cons hmost hgap.1 hgap.2 hblank]

/-- A run that is all of the text is judged, as far as it may be read. -/
theorem judges_run (hmost : ∀ m ∈ most, least ≤ m) (hleast : 0 < least) {run : List Char}
    (hrun : ∀ c ∈ run, allowed c) (hlong : least ≤ run.length) :
  judges least most allowed run = isCredential (most.elim run run.take)
  := by
  have hr : firstRun (repeated true least most) allowed (run ++ []) =
      some (most.elim run run.take) :=
    firstRun_append_of_pos hmost hleast hrun hlong (by simp)
  rw [List.append_nil] at hr
  rw [judges, hr, Option.any_some]

/-- The verdict on a name, an equality sign and a value: the name and the sign are part of the first
run, if it is long enough. -/
theorem judges_joined {name : List Char} (hmost : ∀ m ∈ most, least ≤ m) (hleast : 8 ≤ least)
    (hlength : name.length < least) (hallowed : (name ++ ['=']).all allowed)
    (hsmall : name.any isSmall) (hname : namesSample name = false)
    (hbegins : ∀ run, beginsAsPlaceholder (name ++ '=' :: run) = false) (value : List Char) :
  let run := value.takeWhile allowed
  judges least most allowed (name ++ '=' :: value) =
    if least - (name.length + 1) ≤ run.length then
      !namesSample (most.elim run fun m => run.take (m - (name.length + 1)))
    else judges least most allowed value
  := by
  intro run
  have hj := firstRun_append hmost (Nat.zero_lt_of_lt hleast) (List.all_eq_true.mp hallowed) value
  rw [List.append_assoc, List.append_assoc, List.singleton_append, List.singleton_append] at hj
  have hl : (name ++ '=' :: run).length = name.length + 1 + run.length := by
    rw [List.length_append, List.length_cons]
    omega
  have hlong : least ≤ (name ++ '=' :: run).length ↔ least - (name.length + 1) ≤ run.length := by
    omega
  rw [judges, hj, ite_congr (propext hlong) (fun _ => rfl) (fun _ => rfl)]
  split_ifs with h
  · have h := hlong.mpr h
    rw [Option.any_some]
    cases most with
    | none => exact isCredential_joined hsmall hname (hbegins run) (Nat.le_trans hleast h)
    | some m =>
      have hm := hmost m rfl
      have ht : (name ++ '=' :: run).take m = name ++ '=' :: run.take (m - (name.length + 1)) := by
        obtain ⟨k, rfl⟩ : ∃ k, m = name.length + 1 + k := ⟨m - (name.length + 1), by omega⟩
        rw [List.take_append, List.take_of_length_le (by omega), Nat.add_sub_cancel_left,
          Nat.add_assoc, Nat.add_sub_cancel_left, Nat.add_comm 1, List.take_succ_cons]
      rw [Option.elim_some, Option.elim_some, ht]
      apply isCredential_joined hsmall hname (hbegins _)
      rw [← ht, List.length_take]
      omega
  · rfl

end

/-! ### The spellings of an assignment -/

theorem isApiKey_apart (value : List Char) :
  isApiKey ("api_key: ".toList ++ value) = isApiKey value ∧
  isApiKey ("apikey = ".toList ++ value) = isApiKey value
  := by
  have hcolon : "api_key: ".toList ++ value = "api_key".toList ++ ':' :: ([] ++ ' ' :: value) := by
    simp
  have hsign : "apikey = ".toList ++ value = "apikey".toList ++ ' ' :: (['='] ++ ' ' :: value) := by
    simp
  rw [hcolon, hsign, isApiKey_eq]
  exact ⟨judges_apart (by simp) (by decide) (by decide) (by decide) (by decide) value,
    judges_apart (by simp) (by decide) (by decide) (by decide) (by decide) value⟩

theorem isToken_apart (value : List Char) :
  isToken ("token: ".toList ++ value) = isToken value
  := by
  have hcolon : "token: ".toList ++ value = "token".toList ++ ':' :: ([] ++ ' ' :: value) := by
    simp
  rw [hcolon, isToken_eq]
  exact judges_apart (by simp) (by decide) (by decide) (by decide) (by decide) value

/-- The first words of the name of a cloud secret are not judged. -/
theorem isCloudSecret_append (rest : List Char) :
  isCloudSecret ("aws_secret_access_".toList ++ rest) = isCloudSecret rest
  := by
  have hwords : "aws_secret_access_".toList ++ rest =
      "aws".toList ++ '_' :: ("secret".toList ++ '_' :: ("access".toList ++ '_' :: rest)) := by
    simp
  rw [hwords, isCloudSecret_eq, judges_append_cons (by simp) (by decide) (by decide) (by decide),
    judges_append_cons (by simp) (by decide) (by decide) (by decide),
    judges_append_cons (by simp) (by decide) (by decide) (by decide)]

theorem isCloudSecret_apart (value : List Char) :
  isCloudSecret ("aws_secret_access_key: ".toList ++ value) = isCloudSecret value
  := by
  have hcolon : "aws_secret_access_key: ".toList ++ value =
      "aws_secret_access_".toList ++ ("key".toList ++ ':' :: ([] ++ ' ' :: value)) := by
    simp
  rw [hcolon, isCloudSecret_append, isCloudSecret_eq]
  exact judges_apart (by simp) (by decide) (by decide) (by decide) (by decide) value

/-- To hold no word for a sample is to be a credential, for a text that holds one and for a
credential. -/
theorem not_namesSample_eq_isCredential_iff (text : List Char) :
  (!namesSample text) = isCredential text ↔ namesSample text ∨ isCredential text
  := by
  cases hs : namesSample text with
  | true =>
    have hc : isCredential text = false := by
      rw [isCredential, isPlaceholder_of_namesSample hs, Bool.not_true, Bool.and_false]
    simp [hc]
  | false => rw [Bool.not_false, eq_comm, or_iff_right Bool.false_ne_true]

/-- The verdicts on the spellings of an assignment.  After a colon, or after an equality sign and a
blank, it is the verdict on the value.  After an equality sign alone, a value that begins with
enough characters of the class is taken for a credential if and only if these hold no word for a
sample; only thirty-six of them count for a cloud secret.  So on a value of one run the verdicts on
a key or a token agree if and only if it holds such a word or is a credential. -/
theorem spellings_agree_iff (value : List Char) :
  let run := value.takeWhile isKeyChar
  let block := value.takeWhile isCloudChar
  (isApiKey ("api_key: ".toList ++ value) = isApiKey value ∧
    isApiKey ("apikey = ".toList ++ value) = isApiKey value ∧
    isToken ("token: ".toList ++ value) = isToken value ∧
    isCloudSecret ("aws_secret_access_key: ".toList ++ value) = isCloudSecret value) ∧
  (isApiKey ("api_key=".toList ++ value) =
      (if 8 ≤ run.length then !namesSample run else isApiKey value) ∧
    isToken ("token=".toList ++ value) =
      (if 14 ≤ run.length then !namesSample run else isToken value) ∧
    isCloudSecret ("aws_secret_access_key=".toList ++ value) =
      (if 36 ≤ block.length then !namesSample (block.take 36) else isCloudSecret value)) ∧
  (run = value → 16 ≤ value.length → isApiKey value = isCredential value ∧
    (isApiKey ("api_key=".toList ++ value) = isApiKey value ↔
      namesSample value ∨ isCredential value)) ∧
  (run = value → 20 ≤ value.length → isToken value = isCredential value ∧
    (isToken ("token=".toList ++ value) = isToken value ↔
      namesSample value ∨ isCredential value)) ∧
  (block = value → value.length = 40 → isCloudSecret value = isCredential value ∧
    (isCloudSecret ("aws_secret_access_key=".toList ++ value) = isCloudSecret value ↔
      isCredential value = !namesSample (value.take 36)))
  := by
  intro run block
  have hkey : isApiKey ("api_key".toList ++ '=' :: value) =
      if 8 ≤ run.length then !namesSample run else isApiKey value :=
    judges_joined (by simp) (by decide) (by decide) (by decide) (by decide) (by decide)
      (fun _ => rfl) value
  have htoken : isToken ("token".toList ++ '=' :: value) =
      if 14 ≤ run.length then !namesSample run else isToken value :=
    judges_joined (by simp) (by decide) (by decide) (by decide) (by decide) (by decide)
      (fun _ => rfl) value
  have hcloud : isCloudSecret ("aws_secret_access_".toList ++ ("key".toList ++ '=' :: value)) =
      if 36 ≤ block.length then !namesSample (block.take 36) else isCloudSecret value :=
    (isCloudSecret_append _).trans
      (judges_joined (by simp) (by decide) (by decide) (by decide) (by decide) (by decide)
        (fun _ => rfl) value)
  have hkeyed : "api_key=".toList ++ value = "api_key".toList ++ '=' :: value := by simp
  have htokened : "token=".toList ++ value = "token".toList ++ '=' :: value := by simp
  have hclouded : "aws_secret_access_key=".toList ++ value =
      "aws_secret_access_".toList ++ ("key".toList ++ '=' :: value) := by simp
  rw [hkeyed, htokened, hclouded]
  refine ⟨⟨(isApiKey_apart value).1, (isApiKey_apart value).2, isToken_apart value,
    isCloudSecret_apart value⟩, ⟨hkey, htoken, hcloud⟩, ?_, ?_, ?_⟩
  · intro hrun hlong
    have hv : isApiKey value = isCredential value :=
      judges_run (by simp) (by decide) (List.takeWhile_eq_self_iff.mp hrun) hlong
    rw [hkey, hv, hrun, if_pos (by omega)]
    exact ⟨rfl, not_namesSample_eq_isCredential_iff value⟩
  · intro hrun hlong
    have hv : isToken value = isCredential value :=
      judges_run (by simp) (by decide) (List.takeWhile_eq_self_iff.mp hrun) hlong
    rw [htoken, hv, hrun, if_pos (by omega)]
    exact ⟨rfl, not_namesSample_eq_isCredential_iff value⟩
  · intro hblock hlong
    have hv : isCloudSecret value = isCredential (value.take 40) :=
      judges_run (by simp) (by decide) (List.takeWhile_eq_self_iff.mp hblock) hlong.ge
    rw [List.take_of_length_le (by omega)] at hv
    rw [hcloud, hv, hblock, if_pos (by omega)]
    exact ⟨rfl, eq_comm⟩

/-- A value of forty characters of three classes, without a word for a sample. -/
def variedValue : List Char :=
  "Ab3dEf6hIj9lMn2pQr5tUv8xYz1bCd4fGh7jKl0n".toList

theorem spellings_agree_iff_variedValue :
  isCredential variedValue ∧ namesSample (variedValue.take 36) = false ∧
  isApiKey ("api_key=".toList ++ variedValue) = isApiKey variedValue ∧
  isToken ("token=".toList ++ variedValue) = isToken variedValue ∧
  isCloudSecret ("aws_secret_access_key=".toList ++ variedValue) = isCloudSecret variedValue
  := by
  have hc : isCredential variedValue := by decide +kernel
  have hn : namesSample (variedValue.take 36) = false := by decide +kernel
  obtain ⟨-, -, hkey, htoken, hcloud⟩ := spellings_agree_iff variedValue
  refine ⟨hc, hn, ?_, ?_, ?_⟩
  · exact (hkey (by decide) (by decide)).2.mpr (.inr hc)
  · exact (htoken (by decide) (by decide)).2.mpr (.inr hc)
  · exact (hcloud (by decide) (by decide)).2.mpr (by rw [hc, hn]; rfl)

/-- A placeholder is no credential, but it is taken for one where it follows the equality sign at
once. -/
theorem isApiKey_joinedPlaceholder :
  let value := "your-api-key-goes-here-1234".toList
  value.all isKeyChar ∧ isCredential value = false ∧
  isApiKey ("api_key: ".toList ++ value) = false ∧ isApiKey ("apikey = ".toList ++ value) = false ∧
  isApiKey ("api_key=".toList ++ value) = true
  := by
  decide +kernel

end PipelineAudit.Secret
