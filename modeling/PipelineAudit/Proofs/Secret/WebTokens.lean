import Mathlib.Algebra.Group.Int.Defs
import Mathlib.Algebra.Group.Nat.Defs
import PipelineAudit.Proofs.Json.Reading
import PipelineAudit.Proofs.Text.Base64
import PipelineAudit.Secret.Plausible

/-!
# Web tokens

The test for web tokens undoes their encoding: it takes the text before the first of two dots for
the base64 of the UTF-8 of a JSON object, and looks at what that object says about the token.

* `encodedText?_eq_some_iff`: which texts encode a text.
* `isWebToken_iff`: which texts are web tokens.
* `isWebToken_encodeUrl_iff`: when the encoding of a header is taken for one.
-/

namespace PipelineAudit

namespace Text

/-! ### Three parts -/

theorem not_mem_of_mem_splitOn {c : Char} {part text : List Char} (h : part ∈ text.splitOn c) :
  c ∉ part
  := by
  induction text generalizing part with
  | nil =>
    rw [List.splitOn_nil, List.mem_singleton] at h
    rw [h]
    exact List.not_mem_nil
  | cons d text ih =>
    rw [List.splitOn_cons_eq_if_modifyHead] at h
    split at h
    · obtain rfl | h := List.mem_cons.mp h
      · exact List.not_mem_nil
      · exact ih h
    case isFalse hd =>
      obtain ⟨first, rest, hsplit⟩ := List.exists_cons_of_ne_nil (List.splitOn_ne_nil c text)
      rw [hsplit, List.modifyHead_cons] at h
      rw [hsplit] at ih
      obtain rfl | h := List.mem_cons.mp h
      · rw [List.mem_cons, not_or]
        refine ⟨?_, ih List.mem_cons_self⟩
        rintro rfl
        exact hd (beq_self_eq_true _)
      · exact ih (List.mem_cons_of_mem _ h)

/-- A text splits into three parts if it consists of them and two separators, and no part holds the
separator. -/
theorem splitOn_eq_three_iff {c : Char} {text x y z : List Char} :
  text.splitOn c = [x, y, z] ↔
    text = x ++ c :: (y ++ c :: z) ∧ c ∉ x ∧ c ∉ y ∧ c ∉ z
  := by
  constructor
  · intro h
    have hparts : ∀ part ∈ [x, y, z], c ∉ part := fun part hm => not_mem_of_mem_splitOn (h ▸ hm)
    refine ⟨?_, hparts x (by simp), hparts y (by simp), hparts z (by simp)⟩
    have hjoin : [c].intercalate (text.splitOn c) = text := List.intercalate_splitOn c
    rw [h] at hjoin
    rw [← hjoin]
    simp [List.intercalate]
  · rintro ⟨rfl, hx, hy, hz⟩
    rw [List.splitOn_append_cons_self_of_not_mem hx, List.splitOn_append_cons_self_of_not_mem hy,
      List.splitOn_eq_singleton hz]

end Text

namespace Secret

open Json

/-! ### Encoded values -/

/-- The bytes of a text in UTF-8. -/
def utf8 (text : String) : List UInt8 :=
  text.toUTF8.data.toList

theorem fromUTF8?_eq_some_iff {bytes : List UInt8} {text : String} :
  String.fromUTF8? ⟨bytes.toArray⟩ = some text ↔ bytes = utf8 text
  := by
  rw [String.fromUTF8?]
  constructor
  · intro h
    split at h
    case isTrue hv =>
      obtain rfl := Option.some.inj h
      rfl
    case isFalse => cases h
  · rintro rfl
    rw [utf8, Array.toArray_toList]
    exact dif_pos text.isValidUTF8

/-- A text encodes another one if, padded, it is base64 for the UTF-8 of that. -/
theorem encodedText?_eq_some_iff {text : List Char} {json : String} :
  encodedText? text = some json ↔
    Text.Base64.decode? (Text.Base64.padded text) = some (utf8 json)
  := by
  simp only [encodedText?, Option.bind_eq_bind, Option.bind_eq_some_iff, fromUTF8?_eq_some_iff]
  constructor
  · rintro ⟨_, hbytes, rfl⟩
    exact hbytes
  · exact fun hbytes => ⟨_, hbytes, rfl⟩

/-- The encoding of the UTF-8 of a text encodes that text. -/
theorem encodedText?_encodeUrl (json : String) :
  encodedText? (Text.Base64.encodeUrl (utf8 json)) = some json
  := encodedText?_eq_some_iff.mpr (Text.Base64.decode?_padded_encodeUrl _)

/-! ### Headers -/

/-- The members of an object that make it the header of a web token: its type is `JWT`, or its
algorithm counts as true. -/
def IsHeader (members : List (String × Json)) : Prop :=
  members.lookup "typ" = some (.text "JWT") ∨ ∃ x, members.lookup "alg" = some x ∧ isTrueJson x

theorem isJsonText_iff {s : String} {x : Json} :
  isJsonText s x ↔ x = .text s
  := by
  cases x <;> simp [isJsonText]

theorem isTokenHeader_iff {x : Json} :
  isTokenHeader x ↔ ∃ members, x = .object members ∧ IsHeader members
  := by
  cases x with
  | object members =>
    simp only [isTokenHeader, IsHeader, Bool.or_eq_true, Option.any_eq_true, isJsonText_iff,
      Json.object.injEq, exists_eq_left', exists_eq_right]
  | _ => simp [isTokenHeader]

/-- A text is found to be a header if it is read as one. -/
theorem testHeader_eq_true_iff {json : String} :
  (testHeader json).toOption.getD false ↔
    ∃ members, IsText .accepted (.object members) json.toList ∧ IsHeader members
  := by
  have hread : (testHeader json).toOption.getD false ↔
      ∃ x, Json.read json.toList = .ok x ∧ isTokenHeader x := by
    rw [testHeader]
    split
    case h_1 x hx => simp [hx, Except.toOption]
    case h_2 container hx => simp [hx, Except.toOption]
    case h_3 e _ hx => simp [hx, Except.toOption]
  simp only [hread, read_eq_ok_iff, isTokenHeader_iff]
  constructor
  · rintro ⟨_, hx, members, rfl, hm⟩
    exact ⟨members, hx, hm⟩
  · rintro ⟨members, hx, hm⟩
    exact ⟨_, hx, members, rfl, hm⟩

/-! ### Tokens -/

/-- A text is a web token if and only if it has three parts, and the first one encodes a header. -/
theorem isWebToken_iff {text : List Char} :
  isWebToken text ↔ ∃ header payload signature : List Char,
    text = header ++ '.' :: (payload ++ '.' :: signature) ∧
      '.' ∉ header ∧ '.' ∉ payload ∧ '.' ∉ signature ∧
      ∃ (json : String) (members : List (String × Json)),
        Text.Base64.decode? (Text.Base64.padded header) = some (utf8 json) ∧
          IsText .accepted (.object members) json.toList ∧ IsHeader members
  := by
  rw [isWebToken, testWebToken]
  constructor
  · intro h
    split at h
    case h_1 header payload signature hsplit =>
      cases henc : encodedText? header with
      | none =>
        rw [henc] at h
        cases h
      | some json =>
        rw [henc] at h
        obtain ⟨members, hjson, hm⟩ := testHeader_eq_true_iff.mp h
        have hbytes := encodedText?_eq_some_iff.mp henc
        obtain ⟨rfl, hh, hp, hs⟩ := Text.splitOn_eq_three_iff.mp hsplit
        exact ⟨header, payload, signature, rfl, hh, hp, hs, json, members, hbytes, hjson, hm⟩
    case h_2 => cases h
  · rintro ⟨header, payload, signature, ht, hh, hp, hs, json, members, hbytes, hjson, hm⟩
    rw [Text.splitOn_eq_three_iff.mpr ⟨ht, hh, hp, hs⟩]
    dsimp only
    rw [encodedText?_eq_some_iff.mpr hbytes]
    exact testHeader_eq_true_iff.mpr ⟨members, hjson, hm⟩

/-- With two parts after it, the encoding of a text passes the test if that text is a header, and
has no answer if it nests too deeply. -/
theorem testWebToken_append (json : String) {payload signature : List Char} (hp : '.' ∉ payload)
    (hs : '.' ∉ signature) :
  testWebToken (Text.Base64.encodeUrl (utf8 json) ++ '.' :: (payload ++ '.' :: signature)) =
    testHeader json
  := by
  have hsplit : (Text.Base64.encodeUrl (utf8 json) ++
      '.' :: (payload ++ '.' :: signature)).splitOn '.' =
      [Text.Base64.encodeUrl (utf8 json), payload, signature] :=
    Text.splitOn_eq_three_iff.mpr ⟨rfl, Text.Base64.dot_not_mem_encodeUrl _, hp, hs⟩
  rw [testWebToken, hsplit]
  dsimp only
  rw [encodedText?_encodeUrl]

theorem isWebToken_append (json : String) {payload signature : List Char} (hp : '.' ∉ payload)
    (hs : '.' ∉ signature) :
  isWebToken (Text.Base64.encodeUrl (utf8 json) ++ '.' :: (payload ++ '.' :: signature)) =
    (testHeader json).toOption.getD false
  := by
  rw [isWebToken, testWebToken_append json hp hs]

/-- With two parts after it, the encoding of a spelling of an object makes a web token if and only
if the object is a header. -/
theorem isWebToken_append_iff {members : List (String × Json)} {json : String}
    (hjson : IsText .accepted (.object members) json.toList) {payload signature : List Char}
    (hp : '.' ∉ payload) (hs : '.' ∉ signature) :
  isWebToken (Text.Base64.encodeUrl (utf8 json) ++ '.' :: (payload ++ '.' :: signature)) ↔
    IsHeader members
  := by
  rw [isWebToken_append json hp hs, testHeader_eq_true_iff]
  constructor
  · rintro ⟨members', hjson', hm⟩
    have hsame := (read_eq_ok_iff.mpr hjson').symm.trans (read_eq_ok_iff.mpr hjson)
    obtain rfl := Json.object.inj (Except.ok.inj hsame)
    exact hm
  · exact fun hm => ⟨members, hjson, hm⟩

/-- The test has no answer only where the first of three parts encodes what nests too deeply to be
read. -/
theorem exists_tooDeep_of_testWebToken {text : List Char} {e : Failure}
    (he : testWebToken text = .error e) :
  ∃ header payload signature : List Char,
    text = header ++ '.' :: (payload ++ '.' :: signature) ∧
      '.' ∉ header ∧ '.' ∉ payload ∧ '.' ∉ signature ∧
      ∃ (json : String) (container : Container),
        Text.Base64.decode? (Text.Base64.padded header) = some (utf8 json) ∧
          Json.read json.toList = .error (.tooDeep container) ∧ e = .nestedTooDeep container
  := by
  rw [testWebToken] at he
  split at he
  case h_2 => cases he
  case h_1 header payload signature hsplit =>
    obtain ⟨rfl, hh, hp, hs⟩ := Text.splitOn_eq_three_iff.mp hsplit
    split at he
    case h_2 => cases he
    case h_1 json henc =>
      rw [testHeader] at he
      split at he
      · cases he
      · cases he
        exact ⟨header, payload, signature, rfl, hh, hp, hs, json, _,
          encodedText?_eq_some_iff.mp henc, ‹_›, rfl⟩
      · cases he

/-- The test for web tokens undoes their encoding.  With two parts after it, the encoding of any
spelling of an object is taken for a token if and only if the type of the object is `JWT` or its
algorithm counts as true; and whatever is taken for a token has three parts, the first of which
encodes a spelling of an object.  There is an answer for every text, unless what its first part
encodes nests too deeply to be read. -/
theorem isWebToken_inverts_encoding :
  (∀ (members : List (String × Json)) (json : String) (payload signature : List Char),
    IsText .accepted (.object members) json.toList → '.' ∉ payload → '.' ∉ signature →
      (isWebToken (Text.Base64.encodeUrl (utf8 json) ++ '.' :: (payload ++ '.' :: signature)) ↔
        members.lookup "typ" = some (.text "JWT") ∨
          ∃ x, members.lookup "alg" = some x ∧ isTrueJson x)) ∧
    (∀ text : List Char, isWebToken text →
      ∃ header payload signature : List Char,
        text = header ++ '.' :: (payload ++ '.' :: signature) ∧
          '.' ∉ header ∧ '.' ∉ payload ∧ '.' ∉ signature ∧
          ∃ (json : String) (members : List (String × Json)),
            Text.Base64.decode? (Text.Base64.padded header) = some (utf8 json) ∧
              IsText .accepted (.object members) json.toList) ∧
    ∀ (text : List Char) (e : Failure), testWebToken text = .error e →
      ∃ header payload signature : List Char,
        text = header ++ '.' :: (payload ++ '.' :: signature) ∧
          '.' ∉ header ∧ '.' ∉ payload ∧ '.' ∉ signature ∧
          ∃ (json : String) (container : Container),
            Text.Base64.decode? (Text.Base64.padded header) = some (utf8 json) ∧
              Json.read json.toList = .error (.tooDeep container) ∧
              e = .nestedTooDeep container
  := by
  refine ⟨?_, ?_, fun text e => exists_tooDeep_of_testWebToken⟩
  · intro members json payload signature hjson hp hs
    exact isWebToken_append_iff hjson hp hs
  · intro text h
    obtain ⟨header, payload, signature, ht, hh, hp, hs, json, members, hbytes, hjson, _⟩ :=
      isWebToken_iff.mp h
    exact ⟨header, payload, signature, ht, hh, hp, hs, json, members, hbytes, hjson⟩

/-- A header that is spelled with blanks and escapes, and whose algorithm does not count. -/
def spacedHeader : String :=
  "\x7b \"alg\" : \"\", \"t\\u0079p\" : \"J\\u0057T\" \x7d"

theorem isText_spacedHeader :
  IsText .accepted (.object [("alg", .text ""), ("typ", .text "JWT")]) spacedHeader.toList
  := read_eq_ok_iff.mp rfl

theorem isWebToken_inverts_encoding_spacedHeader :
  IsText .accepted (.object [("alg", .text ""), ("typ", .text "JWT")]) spacedHeader.toList ∧
    '.' ∉ "e30".toList ∧ '.' ∉ ([] : List Char) ∧
    isWebToken (Text.Base64.encodeUrl (utf8 spacedHeader) ++ '.' :: ("e30".toList ++ ['.'])) ∧
    ∃ header payload signature : List Char,
      Text.Base64.encodeUrl (utf8 spacedHeader) ++ '.' :: ("e30".toList ++ ['.']) =
        header ++ '.' :: (payload ++ '.' :: signature) ∧
        '.' ∉ header ∧ '.' ∉ payload ∧ '.' ∉ signature ∧
        ∃ (json : String) (members : List (String × Json)),
          Text.Base64.decode? (Text.Base64.padded header) = some (utf8 json) ∧
            IsText .accepted (.object members) json.toList
  := by
  have hp : '.' ∉ "e30".toList := by decide
  have hs : '.' ∉ ([] : List Char) := List.not_mem_nil
  have htoken := (isWebToken_inverts_encoding.1 _ spacedHeader _ _ isText_spacedHeader hp hs).mpr
    (.inl rfl)
  exact ⟨isText_spacedHeader, hp, hs, htoken, isWebToken_inverts_encoding.2.1 _ htoken⟩

/-! ### Headers at the edge of JSON -/

/-- The digits of a power of ten. -/
def powerDigits (n : Nat) : List Char :=
  '1' :: List.replicate n '0'

theorem naturalOf_powerDigits (n : Nat) :
  Decimal.naturalOf (powerDigits n) = 10 ^ n
  := by
  have hzeros : ∀ k, (List.replicate n '0').foldl (fun n c => 10 * n + (c.toNat - '0'.toNat)) k =
      k * 10 ^ n := by
    induction n with
    | zero => exact fun k => (Nat.mul_one k).symm
    | succ n ih =>
      intro k
      rw [List.replicate_succ, List.foldl_cons, ih, Nat.pow_succ', ← Nat.mul_assoc, Nat.sub_self,
        Nat.add_zero, Nat.mul_comm 10 k]
  exact (hzeros 1).trans (Nat.one_mul _)

theorem isTrueJson_power (n : Nat) :
  isTrueJson (.int (10 ^ n))
  := decide_eq_true (Int.pow_ne_zero (by decide))

/-- A header whose algorithm is a power of ten. -/
def powerHeader (n : Nat) : String :=
  String.ofList ('{' :: '"' :: 'a' :: 'l' :: 'g' :: '"' :: ':' :: (powerDigits n ++ ['}']))

/-- Whatever the power of ten, its header is JSON. -/
theorem isText_powerHeader (n : Nat) :
  IsText .standard (.object [("alg", .int (10 ^ n))]) (powerHeader n).toList
  := by
  have hwhole : IsWhole (powerDigits n) := by
    refine ⟨⟨List.cons_ne_nil _ _, fun c hc => ?_⟩, fun h => absurd (Option.some.inj h) (by decide)⟩
    obtain rfl | hc := List.mem_cons.mp hc
    · rfl
    · rw [List.eq_of_mem_replicate hc]
      rfl
  have hvalue : Writes .standard 0 (powerDigits n ++ ['}']) (.value (.int (10 ^ n))) ['}'] := by
    have hint : Writes .standard 0 _ _ ['}'] := .int false hwhole (fun _ h => nomatch h)
    rw [if_neg Bool.false_ne_true, naturalOf_powerDigits, Int.natCast_pow] at hint
    exact hint
  have hname : Quoted ('a' :: 'l' :: 'g' :: '"' :: ':' :: (powerDigits n ++ ['}'])) ['a', 'l', 'g']
      (':' :: (powerDigits n ++ ['}'])) :=
    .plain (by decide) (.plain (by decide) (.plain (by decide) .close))
  have hmembers := Writes.lastMember hname (.refl _) (.refl _) hvalue (.refl _)
  have hobject := Writes.object (.refl _) hmembers
  rw [collect_singleton] at hobject
  rw [powerHeader, String.toList_ofList]
  exact ⟨1, _, [], (fun _ h => nomatch h), .refl _, hobject, .refl _⟩

/-- A header with a word for not-a-number. -/
def wordHeader : String :=
  String.ofList ['{', '"', 'n', '"', ':', 'N', 'a', 'N', ',', '"', 't', 'y', 'p', '"', ':', '"',
    'J', 'W', 'T', '"', '}']

theorem isText_wordHeader :
  IsText .accepted (.object [("n", .float (0.0 / 0.0)), ("typ", .text "JWT")]) wordHeader.toList
  := read_eq_ok_iff.mp rfl

/-- No value of JSON begins with a capital, so an object with such a member is not JSON. -/
theorem not_isText_of_capital (x : Json) (rest : List Char) :
  ¬ IsText .standard x ('{' :: '"' :: 'n' :: '"' :: ':' :: 'N' :: rest)
  := by
  have hwords : ∀ w ∈ Dialect.standard.words.map Prod.fst,
      w.toList.head?.any ['n', 't', 'f'].contains := by
    decide
  rintro ⟨_, s, t, _, hs, hw, _⟩
  obtain rfl := hs.eq_of_cons (by decide)
  obtain hempty | ⟨_, s, ms, hg, hm⟩ := hw.of_brace hwords (by decide)
  · cases hempty.eq_of_cons (by decide)
  · obtain rfl := hg.eq_of_cons (by decide)
    obtain ⟨r, name, u, u', v, y, v', hr, hn, hc, hv, hy⟩ := hm.of_members
    obtain rfl := (List.cons.inj hr).2
    cases hn with
    | plain _ hn =>
      cases hn with
      | plain hquote => exact absurd rfl hquote.2.1
      | close =>
        obtain ⟨_, rfl⟩ := List.cons.inj (hc.eq_of_cons (by decide))
        obtain rfl := hv.eq_of_cons (by decide)
        obtain ⟨c, r, he, hbegins⟩ := hy.exists_first hwords
        rw [← (List.cons.inj he).1] at hbegins
        exact absurd hbegins (by decide)

/-- An integer of more than 4300 digits is JSON, but the header with one makes no token; and the
header with the word for not-a-number is not JSON, but makes one. -/
theorem isWebToken_edgeHeaders :
  (IsText .standard (.object [("alg", .int (10 ^ 4300))]) (powerHeader 4300).toList ∧
    isTrueJson (.int (10 ^ 4300)) ∧
    ¬ isWebToken (Text.Base64.encodeUrl (utf8 (powerHeader 4300)) ++ ['.', 'x', '.', 'y'])) ∧
  (Text.Base64.decode? (Text.Base64.padded (Text.Base64.encodeUrl (utf8 wordHeader))) =
      some (utf8 wordHeader) ∧
    (∀ x, ¬ IsText .standard x wordHeader.toList) ∧
    isWebToken (Text.Base64.encodeUrl (utf8 wordHeader) ++ ['.', 'x', '.', 'y']))
  := by
  have hlong : ¬ isWebToken
      (Text.Base64.encodeUrl (utf8 (powerHeader 4300)) ++ ['.', 'x', '.', 'y']) := by
    have hread : (Json.read (powerHeader 4300).toList).toOption = none := by
      unfold powerHeader
      rw [String.toList_ofList]
      decide +kernel
    have hheader : ¬ (testHeader (powerHeader 4300)).toOption.getD false := by
      rw [testHeader_eq_true_iff]
      rintro ⟨members, hjson, _⟩
      rw [read_eq_ok_iff.mpr hjson] at hread
      cases hread
    have htoken := isWebToken_append (powerHeader 4300) (show '.' ∉ ['x'] by decide)
      (show '.' ∉ ['y'] by decide)
    rw [Bool.eq_false_iff.mpr hheader] at htoken
    exact Bool.eq_false_iff.mp htoken
  have hword : isWebToken (Text.Base64.encodeUrl (utf8 wordHeader) ++ ['.', 'x', '.', 'y']) :=
    (isWebToken_append_iff isText_wordHeader (show '.' ∉ ['x'] by decide)
      (show '.' ∉ ['y'] by decide)).mpr (.inl rfl)
  refine ⟨⟨isText_powerHeader 4300, isTrueJson_power 4300, hlong⟩,
    Text.Base64.decode?_padded_encodeUrl _, fun x => ?_, hword⟩
  unfold wordHeader
  rw [String.toList_ofList]
  exact not_isText_of_capital x _

end Secret

end PipelineAudit
