import PipelineAudit.Proofs.Secret.Placeholders
import PipelineAudit.Secret.Signature

/-!
# Passwords on lines of their own

A line assigns a value to a key for passwords.  The signature reads all of the assignment, but the
value is looked for in it once more, as the first run of the characters of passwords.  That run is
the key itself if it is long enough and something other than an equality sign follows, and the key
`password` is no password.

* `PasswordLine`: such a line, part by part.
* `findAll_password`: what the signature for passwords reads on it.
* `isPassword_body_iff`: when the value counts as a password.
* `isLikely_body`: the assignment looks as little like sample data as the value does.
-/

namespace PipelineAudit.Secret

open Pattern

/-! ### Characters and runs -/

theorem isPasswordChar_of_isBlank {c : Char} (hc : Text.isBlank c) :
  isPasswordChar c = false
  := Text.forall_isBlank (isPasswordChar · = false) (by decide) hc

theorem isPasswordChar_ascii {c : Char} (hc : isPasswordChar c) :
  c.toNat < 128
  := by
  rw [isPasswordChar, Bool.or_eq_true] at hc
  obtain h | h := hc
  · delta Char.isAlphanum Char.isAlpha Char.isUpper Char.isLower Char.isDigit at h
    simp [UInt32.le_iff_toNat_le] at h
    omega
  · have hmarks : ∀ d ∈ "!@#$%^&*()_+=.-".toList, d.toNat < 128 :=
      List.all_iff_forall_prop.mp (by decide)
    exact hmarks c (List.contains_iff_mem.mp h)

/-- Whether a run is neither an obvious non-password nor a placeholder. -/
def isReal (run : List Char) : Bool :=
  !obviousNonPasswords.contains (String.ofList (Text.lower run)) && !isPlaceholder run

/-- The first run of the characters of passwords that is long enough. -/
def passwordRun (text : List Char) : Option (List Char) :=
  firstRun (repeated true 8 none) isPasswordChar text

theorem isPassword_eq (text : List Char) :
  isPassword text = (passwordRun text).any isReal
  := rfl

/-- A run with an equality sign is no obvious non-password. -/
theorem isReal_joined {a b : List Char} (hascii : ∀ c ∈ a ++ '=' :: b, c.toNat < 128)
    (ha : namesSample a = false) (hb : namesSample b = false)
    (hbegins : beginsAsPlaceholder (a ++ '=' :: b) = false) :
  isReal (a ++ '=' :: b)
  := by
  have hsign : ∀ word ∈ obviousNonPasswords, '=' ∉ word.toList := by decide
  have hrare : String.ofList (Text.lower (a ++ '=' :: b)) ∉ obviousNonPasswords := by
    intro hm
    have hn := hsign _ hm
    rw [String.toList_ofList, Text.lower_of_ascii hascii, List.map_append, List.mem_append] at hn
    exact hn (.inr List.mem_cons_self)
  rw [isReal, isPlaceholder_eq hbegins, namesSample_append_cons, ha, hb, Bool.or_false,
    Bool.not_false, Bool.and_true, Bool.not_eq_true', ← Bool.not_eq_true, List.contains_iff_mem]
  exact hrare

/-! ### The signature for passwords -/

/-- The names of passwords, in small letters. -/
def passwordNames : List (List Char) :=
  ["password".toList, "passwd".toList, "pwd".toList]

/-- A key for a password. -/
def passwordKey : Pattern :=
  oneOf [litFolded "password", litFolded "passwd", litFolded "pwd"]

/-- A character of the value of a password, as the signature has it. -/
def isPasswordLetter (c : Char) : Bool :=
  isAlnumFolded c || among "!@#$%^&*()_+=.-" c

/-- The known form of a password. -/
def passwordSignature : Signature where
  name := "Generic Password"
  pattern := inOrder [passwordKey, assignment, quotedValue (atLeast 8 (one isPasswordLetter))]
  threat := .high
  test := fun m => .ok (isPassword m)

theorem passwordSignature_mem :
  passwordSignature ∈ signatures
  := List.mem_of_getElem? (i := 8) rfl

/-- The signature for passwords is the one of its name. -/
theorem eq_passwordSignature {s : Signature} (hs : s ∈ signatures)
    (h : s.name = "Generic Password") :
  s = passwordSignature
  := by
  have hf : signatures.filter (·.name = "Generic Password") = [passwordSignature] := rfl
  have hm : s ∈ signatures.filter (·.name = "Generic Password") :=
    List.mem_filter.mpr ⟨hs, decide_eq_true h⟩
  rw [hf] at hm
  exact List.mem_singleton.mp hm

theorem isPasswordLetter_of_isPasswordChar {c : Char} (hc : isPasswordChar c) :
  isPasswordLetter c
  := by
  rw [isPasswordChar, Char.isAlphanum, Bool.or_eq_true, Bool.or_eq_true] at hc
  rw [isPasswordLetter, isAlnumFolded, isLetterFolded]
  obtain (h | h) | h := hc <;> simp [h]

/-- The signature reads nothing at a character other than the first letter of the keys. -/
theorem refuses_password {text : List Char} (h : beginsAlike ['p'] text = false) :
  Refuses passwordSignature.pattern text
  := by
  have hr : ∀ word : String, word.toList.head? = some 'p' → Refuses (litFolded word) text := by
    intro word hw
    apply refuses_letters
    obtain ⟨rest, hw⟩ := List.head?_eq_some_iff.mp hw
    rw [hw]
    cases text with
    | nil => rfl
    | cons c text =>
      rw [beginsAlike, beginsAlike, Bool.and_true] at h
      rw [beginsAlike, h, Bool.false_and]
  exact ((hr "password" rfl).either ((hr "passwd" rfl).either (hr "pwd" rfl))).seq _

/-! ### Lines -/

/-- A line that assigns a value to a key for passwords, the value being none of a sample. -/
structure PasswordLine where
  indent : List Char
  key : List Char
  /-- The blanks between the key and the separator. -/
  before : List Char
  separator : Char
  /-- The blanks between the separator and the value. -/
  after : List Char
  value : List Char
  indent_blank : ∀ c ∈ indent, Text.isBlank c
  key_name : key.map Char.toLower ∈ passwordNames
  before_blank : ∀ c ∈ before, Text.isBlank c
  separator_eq : separator = ':' ∨ separator = '='
  after_blank : ∀ c ∈ after, Text.isBlank c
  value_chars : ∀ c ∈ value, isPasswordChar c ∧ c ≠ '$'
  value_long : 8 ≤ value.length
  value_likely : isLikely value
  value_real : isPlaceholder value = false
  value_rare : String.ofList (Text.lower value) ∉ obviousNonPasswords

namespace PasswordLine

variable (l : PasswordLine)

/-- The part of the line from the key on. -/
def body : List Char :=
  l.key ++ (l.before ++ l.separator :: (l.after ++ l.value))

/-- The characters of the line. -/
def text : List Char :=
  l.indent ++ l.body

theorem key_cases :
  l.key.map Char.toLower = "password".toList ∨ l.key.map Char.toLower = "passwd".toList ∨
    l.key.map Char.toLower = "pwd".toList
  := by
  simpa only [passwordNames, List.mem_cons, List.not_mem_nil, or_false] using l.key_name

theorem mem_key {c : Char} (hc : c ∈ l.key) :
  c ∈ "paswordPASWORD".toList
  := by
  have hnames : ∀ d ∈ passwordNames.flatten, d ∈ "pasword".toList :=
    List.all_iff_forall_prop.mp (by decide)
  have hl : c.toLower ∈ "pasword".toList :=
    hnames _ (List.mem_flatten_of_mem l.key_name (List.mem_map_of_mem hc))
  obtain h | ⟨k, hk, rfl⟩ := Text.toLower_eq_or_capital c
  · rw [h] at hl
    exact List.mem_append_left "PASWORD".toList hl
  · have hs : ∀ k < 26, (Char.ofNat (65 + k)).toLower ∈ "pasword".toList →
        Char.ofNat (65 + k) ∈ "paswordPASWORD".toList := by decide
    exact hs k hk hl

theorem key_ascii :
  ∀ c ∈ l.key, c.toNat < 128
  := by
  have hs : ∀ c ∈ "paswordPASWORD".toList, c.toNat < 128 :=
    List.all_iff_forall_prop.mp (by decide)
  exact fun c hc => hs c (l.mem_key hc)

theorem key_chars :
  ∀ c ∈ l.key, isPasswordChar c
  := by
  have hs : ∀ c ∈ "paswordPASWORD".toList, isPasswordChar c := List.all_eq_true.mp (by decide)
  exact fun c hc => hs c (l.mem_key hc)

theorem body_eq_cons :
  ∃ c rest, l.body = c :: rest ∧ c ∈ "paswordPASWORD".toList
  := by
  cases hk : l.key with
  | nil =>
    have hn := l.key_name
    rw [hk] at hn
    exact absurd hn (by decide)
  | cons c rest =>
    exact ⟨c, rest ++ _, by rw [body, hk, List.cons_append], l.mem_key (hk ▸ List.mem_cons_self)⟩

/-- What holds of the keys in small letters holds of the key, if case does not matter. -/
theorem beginsAlike_key (word rest : List Char) :
  beginsAlike word (l.key ++ rest) = beginsAlike word (l.key.map Char.toLower ++ rest)
  := (beginsAlike_map_toLower l.key_ascii word rest).symm

/-! ### What the signature reads -/

theorem takes_key (rest : List Char) :
  Takes passwordKey l.key rest
  := by
  have ht : ∀ word : String, l.key.map Char.toLower = word.toList →
      Takes (litFolded word) l.key rest := by
    intro word hw
    have hb : beginsAlike word.toList (l.key ++ rest) := by
      rw [beginsAlike_key, hw]
      exact beginsAlike_append _ _
    have hl : word.toList.length = l.key.length := by rw [← hw, List.length_map]
    have ht := takes_letters hb
    rw [List.take_left' hl.symm, List.drop_left' hl.symm] at ht
    exact ht
  have hr : ∀ word : String, beginsAlike word.toList (l.key.map Char.toLower ++ rest) = false →
      Refuses (litFolded word) (l.key ++ rest) := by
    intro word hw
    rw [← beginsAlike_key] at hw
    exact refuses_letters hw
  obtain h | h | h := l.key_cases
  · exact (ht "password" h).left _
  · exact .right (hr "password" (by rw [h]; rfl)) ((ht "passwd" h).left _)
  · exact .right (hr "password" (by rw [h]; rfl))
      (.right (hr "passwd" (by rw [h]; rfl)) (ht "pwd" h))

theorem isPasswordChar_of_mem_head? {c : Char} (hc : c ∈ l.value.head?) :
  isPasswordChar c
  := (l.value_chars c (List.mem_of_mem_head? hc)).1

theorem takes_assignment :
  Takes assignment (l.before ++ ([l.separator] ++ l.after)) l.value
  := by
  have hs : Text.isBlank l.separator = false ∧ among "=:" l.separator := by
    obtain h | h := l.separator_eq <;> rw [h] <;> decide
  have hv : ∀ c ∈ l.value.head?, Text.isBlank c = false := by
    intro c hc
    by_contra hb
    have hp := l.isPasswordChar_of_mem_head? hc
    rw [isPasswordChar_of_isBlank (eq_true_of_ne_false hb)] at hp
    cases hp
  have hbefore : Takes (many blank) l.before ([l.separator] ++ l.after ++ l.value) := by
    apply takes_run l.before_blank (Nat.zero_le _) (by simp) (.inr _)
    rintro _ ⟨⟩
    exact hs.1
  have hseparator : Takes (oneOfChars "=:") [l.separator] (l.after ++ l.value) := takes_one hs.2 _
  have hafter : Takes (many blank) l.after l.value :=
    takes_run l.after_blank (Nat.zero_le _) (by simp) (.inr hv)
  exact hbefore.seq (hseparator.seq hafter)

theorem takes_value :
  Takes (quotedValue (atLeast 8 (one isPasswordLetter))) l.value []
  := by
  have hc : ∀ c ∈ l.value, isPasswordLetter c := fun c hc =>
    isPasswordLetter_of_isPasswordChar (l.value_chars c hc).1
  have hq : ∀ c ∈ l.value.head?, among "'\"" c = false := by
    intro c hc
    have hquotes : ∀ d ∈ "'\"".toList, isPasswordChar d = false :=
      List.all_iff_forall_prop.mp (by decide)
    by_contra ha
    have hm : c ∈ "'\"".toList := List.contains_iff_mem.mp (eq_true_of_ne_false ha)
    have hp := l.isPasswordChar_of_mem_head? hc
    rw [hquotes c hm] at hp
    cases hp
  have hquote : ∀ rest : List Char, (∀ c ∈ rest.head?, among "'\"" c = false) →
      Takes maybeQuote [] rest := fun rest hr =>
    takes_run (by simp) (Nat.zero_le _) (by simp) (.inr hr)
  have hvalue : Takes (group (atLeast 8 (one isPasswordLetter))) l.value ([] ++ []) :=
    (takes_run hc l.value_long (by simp) (.inr (by simp))).group
  have hall := Takes.seq (hquote (l.value ++ [] ++ []) (by simpa using hq))
    (hvalue.seq (hquote [] (by simp)))
  rw [List.append_nil, List.nil_append] at hall
  exact hall

theorem findAll_password :
  ∃ kept, passwordSignature.pattern.findAll l.text = [⟨l.indent.length, l.body, kept⟩]
  := by
  have htakes : Takes passwordSignature.pattern l.body [] := by
    have ha : Takes assignment (l.before ++ ([l.separator] ++ l.after)) (l.value ++ []) := by
      rw [List.append_nil]
      exact l.takes_assignment
    have hb : l.body = l.key ++ (l.before ++ ([l.separator] ++ l.after) ++ l.value) := by
      simp [body]
    rw [hb]
    exact (l.takes_key _).seq (ha.seq l.takes_value)
  apply findAll_of_takes _ _ htakes (refuses_password rfl)
  · obtain ⟨c, rest, hb, _⟩ := l.body_eq_cons
    rw [hb]
    exact List.cons_ne_nil _ _
  · intro c hc rest
    apply refuses_password
    rw [beginsAlike, beginsAlike, Bool.and_true]
    exact Text.forall_isBlank (sameLetter · 'p' = false) (by decide)
      (l.indent_blank c hc)

/-! ### The value that is looked for -/

theorem isReal_value :
  isReal l.value
  := by
  rw [isReal, l.value_real, Bool.not_false, Bool.and_true, Bool.not_eq_true', ← Bool.not_eq_true,
    List.contains_iff_mem]
  exact l.value_rare

theorem namesSample_value :
  namesSample l.value = false
  := by
  by_contra h
  have hp := isPlaceholder_of_namesSample (eq_true_of_ne_false h)
  rw [l.value_real] at hp
  cases hp

theorem namesSample_key :
  namesSample l.key = false
  := by
  have hnames : ∀ name ∈ passwordNames,
      namesSample name = false := by decide
  rw [← namesSample_map_toLower l.key_ascii]
  exact hnames _ l.key_name

theorem passwordRun_value {gap : List Char} (hgap : ∀ c ∈ gap, Text.isBlank c) :
  passwordRun (gap ++ l.value) = some l.value
  := by
  have hg : ∀ c ∈ gap, isPasswordChar c = false := fun c hc => isPasswordChar_of_isBlank (hgap c hc)
  have hv : firstRun (repeated true 8 none) isPasswordChar (l.value ++ []) = some l.value :=
    firstRun_append_of_pos (by simp) (by decide) (fun c hc => (l.value_chars c hc).1) l.value_long
      (by simp)
  rw [List.append_nil] at hv
  rw [passwordRun, firstRun_append_of_neg (by simp) (by decide) hg]
  exact hv

/-- A name joined to what follows the separator by an equality sign leaves a run that counts as a
password. -/
theorem any_isReal_joined {name : List Char} (hname : ∀ c ∈ name, isPasswordChar c)
    (hsample : namesSample name = false)
    (hbegins : ∀ rest, beginsAsPlaceholder (name ++ '=' :: rest) = false) :
  (passwordRun (name ++ '=' :: (l.after ++ l.value))).any isReal
  := by
  have hjoined : ∀ c ∈ name ++ ['='], isPasswordChar c := by
    rw [List.forall_mem_append]
    exact ⟨hname, List.forall_mem_singleton.mpr rfl⟩
  -- the run goes on with the value, or with nothing if a blank comes before the value
  obtain ⟨run, hrun, hchars, hs⟩ : ∃ run, (l.after ++ l.value).takeWhile isPasswordChar = run ∧
      (∀ c ∈ run, isPasswordChar c) ∧ namesSample run = false := by
    refine ⟨_, rfl, fun c hc => List.mem_takeWhile_imp hc, ?_⟩
    cases ha : l.after with
    | nil =>
      have hv : l.value.takeWhile isPasswordChar = l.value :=
        List.takeWhile_eq_self_iff.mpr fun c hc => (l.value_chars c hc).1
      rw [List.nil_append, hv]
      exact l.namesSample_value
    | cons c after =>
      have hc : isPasswordChar c = false :=
        isPasswordChar_of_isBlank (l.after_blank c (ha ▸ List.mem_cons_self))
      rw [List.cons_append, List.takeWhile_cons_of_neg (by simp [hc])]
      rfl
  have hj := @firstRun_append isPasswordChar 8 none (by simp) (by decide) _ hjoined
    (l.after ++ l.value)
  rw [List.append_assoc, List.append_assoc, List.singleton_append, List.singleton_append,
    hrun] at hj
  rw [passwordRun, hj]
  split_ifs with h
  · have hascii : ∀ c ∈ name ++ '=' :: run, c.toNat < 128 := by
      rw [List.forall_mem_append, List.forall_mem_cons]
      exact ⟨fun c hc => isPasswordChar_ascii (hname c hc), by decide,
        fun c hc => isPasswordChar_ascii (hchars c hc)⟩
    exact isReal_joined hascii hsample hs (hbegins run)
  · have hv := l.passwordRun_value l.after_blank
    rw [passwordRun] at hv
    rw [hv]
    exact l.isReal_value

/-- From the separator on, the value is found, if need be with the equality sign. -/
theorem any_isReal_separator :
  (passwordRun (l.separator :: (l.after ++ l.value))).any isReal
  := by
  obtain hs | hs := l.separator_eq
  · have hcolon : passwordRun ([] ++ ':' :: (l.after ++ l.value)) = some l.value :=
      (firstRun_append_cons (by simp) (by simp) (by decide) (by decide) _).trans
        (l.passwordRun_value l.after_blank)
    rw [hs, ← List.nil_append (':' :: _), hcolon]
    exact l.isReal_value
  · rw [hs]
    exact l.any_isReal_joined (List.forall_mem_nil _) rfl fun _ => rfl

/-- The key is taken for the value: it is long enough, and no equality sign follows it at once. -/
def HidesValue : Prop :=
  l.key.map Char.toLower = "password".toList ∧ ¬ (l.before = [] ∧ l.separator = '=')

/-- If no equality sign follows the key at once, a character does that ends the key as a run, and
the value is found after it. -/
theorem exists_end_of_key (h : ¬ (l.before = [] ∧ l.separator = '=')) :
  ∃ c rest, l.body = l.key ++ c :: rest ∧ isPasswordChar c = false ∧
    (passwordRun rest).any isReal
  := by
  cases hb : l.before with
  | nil =>
    have hs : l.separator = ':' := l.separator_eq.resolve_right fun hs => h ⟨hb, hs⟩
    refine ⟨':', l.after ++ l.value, by rw [body, hb, hs, List.nil_append], by decide, ?_⟩
    rw [l.passwordRun_value l.after_blank]
    exact l.isReal_value
  | cons c before =>
    have hblank : ∀ d ∈ c :: before, isPasswordChar d = false := fun d hd =>
      isPasswordChar_of_isBlank (l.before_blank d (hb ▸ hd))
    rw [List.forall_mem_cons] at hblank
    refine ⟨c, before ++ l.separator :: (l.after ++ l.value), by rw [body, hb, List.cons_append],
      hblank.1, ?_⟩
    rw [passwordRun, firstRun_append_of_neg (by simp) (by decide) hblank.2]
    exact l.any_isReal_separator

theorem beginsAsPlaceholder_key (rest : List Char) :
  beginsAsPlaceholder (l.key ++ '=' :: rest) = false
  := by
  have hb : beginsAsPlaceholder (l.key ++ '=' :: rest) =
      beginsAsPlaceholder (l.key.map Char.toLower ++ '=' :: rest) := by
    simp only [beginsAsPlaceholder, beginsAlike_key]
  rw [hb]
  obtain h | h | h := l.key_cases <;> rw [h] <;> rfl

/-- The value counts as a password unless the key is taken for it. -/
theorem isPassword_body_iff :
  isPassword l.body ↔ ¬ l.HidesValue
  := by
  by_cases hjoined : l.before = [] ∧ l.separator = '='
  case pos =>
    rw [isPassword_eq, body, hjoined.1, hjoined.2, List.nil_append]
    exact iff_of_true (l.any_isReal_joined l.key_chars l.namesSample_key l.beginsAsPlaceholder_key)
      fun h => h.2 hjoined
  case neg =>
    obtain ⟨c, rest, hb, hc, hrest⟩ := l.exists_end_of_key hjoined
    rw [isPassword_eq, hb]
    by_cases hk : l.key.map Char.toLower = "password".toList
    case pos =>
      have hlength : l.key.length = 8 := by rw [← List.length_map Char.toLower, hk]; rfl
      have hrun : passwordRun (l.key ++ c :: rest) = some l.key :=
        firstRun_append_of_pos (by simp) (by decide) l.key_chars hlength.ge
          (by rintro _ ⟨⟩; exact hc)
      have hreal : isReal l.key = false := by
        rw [isReal, Text.lower_of_ascii l.key_ascii, hk]
        rfl
      rw [hrun, Option.any_some, hreal]
      exact iff_of_false Bool.false_ne_true fun h => h ⟨hk, hjoined⟩
    case neg =>
      have hlength : l.key.length < 8 := by
        have hshort : ∀ name ∈ ["passwd".toList, "pwd".toList], name.length < 8 := by decide
        rw [← List.length_map Char.toLower]
        exact hshort _ ((List.mem_cons.mp l.key_name).resolve_left hk)
      have hrun : passwordRun (l.key ++ c :: rest) = passwordRun rest :=
        firstRun_append_cons (by simp) l.key_chars hlength hc rest
      rw [hrun]
      exact iff_of_true hrest fun h => hk h.1

/-! ### Sample words -/

/-- The blanks around the separator, and the separator. -/
def gap : List Char :=
  l.before ++ l.separator :: l.after

theorem body_eq :
  l.body = l.key ++ (l.gap ++ l.value)
  := by
  simp [body, gap]

theorem forall_mem_gap (P : Char → Prop)
    (hblank : ∀ r ∈ Text.blankRanges, ∀ k < r.2 + 1 - r.1, P (Char.ofNat (r.1 + k)))
    (hcolon : P ':') (hsign : P '=') :
  ∀ c ∈ l.gap, P c
  := by
  have hs : P l.separator := by
    obtain h | h := l.separator_eq <;> rwa [h]
  rw [gap, List.forall_mem_append, List.forall_mem_cons]
  exact ⟨fun c hc => Text.forall_isBlank P hblank (l.before_blank c hc), hs,
    fun c hc => Text.forall_isBlank P hblank (l.after_blank c hc)⟩

theorem lower_gap :
  Text.lower l.gap = l.gap
  := Text.lower_eq_self (l.forall_mem_gap (fun c => c ≠ 'Σ' ∧ Text.lowerChar c = [c]) (by decide)
    (by decide) (by decide))

theorem not_mem_body {d : Char} (hkey : d ∉ "paswordPASWORD".toList)
    (hblank : ∀ r ∈ Text.blankRanges, ∀ k < r.2 + 1 - r.1, Char.ofNat (r.1 + k) ≠ d)
    (hcolon : ':' ≠ d) (hsign : '=' ≠ d) (hvalue : d ∉ l.value) :
  d ∉ l.body
  := by
  rw [body_eq, List.mem_append, List.mem_append, not_or, not_or]
  exact ⟨fun h => hkey (l.mem_key h),
    fun h => l.forall_mem_gap (· ≠ d) hblank hcolon hsign d h rfl, hvalue⟩

/-- No sample word reaches over the separator, and the key holds none. -/
theorem isLikely_body :
  isLikely l.body
  := by
  have hkeys : ∀ name ∈ passwordNames,
      ∀ word ∈ sampleWords, ¬ Text.has name word := by decide
  have hwords : ∀ word ∈ sampleWords, word.toList.all fun c => isSmall c || c = '_' := by decide
  have hgap : ∀ c ∈ l.gap, ¬ (isSmall c || c = '_') :=
    l.forall_mem_gap (fun c => ¬ (isSmall c || c = '_')) (by decide) (by decide) (by decide)
  have hsigma : 'Σ' ∉ l.body :=
    l.not_mem_body (by decide) (by decide) (by decide) (by decide) fun h =>
      absurd (l.value_chars _ h).1 (by decide)
  have hlower : Text.lower l.body = l.key.map Char.toLower ++ (l.gap ++ Text.lower l.value) := by
    have hrest : 'Σ' ∉ l.gap ++ l.value := fun h => hsigma (l.body_eq ▸ List.mem_append_right _ h)
    rw [body_eq] at hsigma
    rw [body_eq, Text.lower_append hsigma, Text.lower_append hrest, l.lower_gap,
      Text.lower_of_ascii l.key_ascii]
  rw [isLikely, Text.hasAny, Bool.not_eq_true', List.any_eq_false]
  intro word hword hhas
  rw [hlower, Text.has_iff] at hhas
  have hvalue := l.value_likely
  rw [isLikely, Text.hasAny, Bool.not_eq_true', List.any_eq_false] at hvalue
  obtain ⟨c, gap, hg⟩ : ∃ c gap, l.gap = c :: gap :=
    List.exists_cons_of_ne_nil (List.append_ne_nil_of_right_ne_nil _ (List.cons_ne_nil _ _))
  have hout : ∀ d ∈ c :: gap, d ∉ word.toList := fun d hd hm =>
    hgap d (hg ▸ hd) (List.all_eq_true.mp (hwords word hword) d hm)
  rw [List.forall_mem_cons] at hout
  rw [hg] at hhas
  obtain hk | hv := Text.infix_append_cons hout.1 hhas
  · exact hkeys _ l.key_name word hword (Text.has_iff.mpr hk)
  · exact hvalue word hword (Text.has_iff.mpr (Text.infix_of_infix_append hout.2 hv))

end PasswordLine

end PipelineAudit.Secret
