import PipelineAudit.Proofs.Document.Paths
import PipelineAudit.Proofs.Document.Unions

/-!
# Segments as indices

On a list, a segment of a path is an index: a numeral of decimal digits, of any script.  A segment
is taken for a numeral as soon as it consists of digits; but not every digit is decimal, and a
numeral of too many digits is not read.  A path fails at a list exactly on the segments that are
taken for a numeral and cannot be read as one.  On all others it leads to a part or to the default.

* `Text.natural?_eq_some_iff`: a text of digits is read as the number that it denotes.
* `step_eq_some_iff`, `step_eq_error_iff`: where a step leads, and when it fails.
* `follow_eq_some_iff`, `follow_eq_error_iff`: the same for a sequence of steps.
* `partAt_outcomes`: what stands at the end of a path, and on which paths and trees there is a
  failure instead.
-/

namespace PipelineAudit

namespace Text

/-! ### Numerals -/

/-- Whether a text is a numeral of decimal digits for a number. -/
def Denotes (text : List Char) (n : Nat) : Prop :=
  text ≠ [] ∧ ∃ values, List.Forall₂ (fun c v => decimalValue? c = some v) text values ∧
    values.foldl (fun n v => 10 * n + v) 0 = n

theorem isSome_decimalValue? (c : Char) :
  (decimalValue? c).isSome = isDecimal c
  := by
  rw [decimalValue?, Option.isSome_map, isDecimal, Ranges.has, Bool.eq_iff_iff,
    List.find?_isSome, List.any_eq_true]

theorem isDigit_of_isDecimal {c : Char} (h : isDecimal c) :
  isDigit c
  := by
  rw [isDigit, h, Bool.true_or]

theorem ne_underscore_of_isDigit {c : Char} (h : isDigit c) :
  c ≠ '_'
  := by
  rintro rfl
  exact absurd h (by decide)

/-- Without underscores, a run of digits is read digit by digit. -/
theorem readDigits_cons {c : Char} (hc : c ≠ '_') (value : Nat) (rest : List Char) :
  readDigits value (c :: rest) =
    (decimalValue? c).bind fun d => readDigits (10 * value + d) rest
  := by
  rw [readDigits]
  intro c' rest' h
  exact absurd h hc

/-- Without underscores, a run of digits is read as the value of its digits by their places. -/
theorem readDigits_eq_some_iff {s : List Char} (hs : ∀ c ∈ s, c ≠ '_') {value n : Nat} :
  readDigits value s = some n ↔
    ∃ values, List.Forall₂ (fun c v => decimalValue? c = some v) s values ∧
      values.foldl (fun n v => 10 * n + v) value = n
  := by
  induction s generalizing value with
  | nil => simp [readDigits]
  | cons c rest ih =>
    rw [List.forall_mem_cons] at hs
    rw [readDigits_cons hs.1, Option.bind_eq_some_iff]
    simp only [ih hs.2, List.forall₂_cons_left_iff]
    constructor
    · rintro ⟨d, hd, values, hvalues, hn⟩
      exact ⟨d :: values, ⟨d, values, hd, hvalues, rfl⟩, hn⟩
    · rintro ⟨_, ⟨d, values, hd, hvalues, rfl⟩, hn⟩
      exact ⟨d, hd, values, hvalues, hn⟩

/-- A text of digits is read as the number that it denotes. -/
theorem natural?_eq_some_iff {s : List Char} (hs : ∀ c ∈ s, isDigit c) {n : Nat} :
  natural? s = some n ↔ Denotes s n
  := by
  have hu : ∀ c ∈ s, c ≠ '_' := fun c hc => ne_underscore_of_isDigit (hs c hc)
  rw [Denotes, ← readDigits_eq_some_iff hu]
  cases s with
  | nil => simp [natural?]
  | cons c rest =>
    rw [natural?, readDigits_cons (hu c List.mem_cons_self), Nat.mul_zero]
    simp

theorem Denotes.isDecimal {s : List Char} {n : Nat} (h : Denotes s n) :
  ∀ c ∈ s, isDecimal c
  := by
  intro c hc
  obtain ⟨-, values, hvalues, -⟩ := h
  obtain ⟨v, -, hv⟩ := exists_of_mem_left hvalues hc
  rw [← isSome_decimalValue?, hv, Option.isSome_some]

/-- A nonempty text of decimal digits denotes a number. -/
theorem exists_denotes {s : List Char} (hne : s ≠ []) (hs : ∀ c ∈ s, isDecimal c) :
  ∃ n, Denotes s n
  := by
  have hvalues : List.Forall₂ (fun c v => decimalValue? c = some v) s
      (s.map fun c => (decimalValue? c).getD 0) := by
    rw [List.forall₂_map_right_iff, List.forall₂_same]
    intro c hc
    obtain ⟨v, hv⟩ := Option.isSome_iff_exists.mp ((isSome_decimalValue? c).trans (hs c hc))
    rw [hv, Option.getD_some]
  exact ⟨_, hne, _, hvalues, rfl⟩

end Text

namespace Document

open Text (Denotes isDigit isDecimal mostDigits)

/-! ### Segments -/

/-- How a segment that consists of digits cannot be read as an index: some digit is not decimal, or
there are too many digits. -/
inductive Misread (segment : List Char) : PathError → Prop
  | ornamental (hd : ∀ c ∈ segment, isDigit c) {c : Char} (hc : c ∈ segment) (ho : ¬ isDecimal c) :
    Misread segment (.notANumeral (String.ofList segment))
  | long {n : Nat} (hn : Denotes segment n) (hl : mostDigits < segment.length) :
    Misread segment (.tooManyDigits segment.length)

section

variable {segment : List Char}

theorem index?_of_not_digits (h : ¬ (segment ≠ [] ∧ ∀ c ∈ segment, isDigit c)) :
  index? segment = .ok none
  := by
  have hc : (segment.isEmpty || !segment.all isDigit) = true := by
    rw [not_and_or, not_not] at h
    simpa using h
  rw [index?, if_pos hc]

/-- A segment that consists of digits is read as a numeral, if it is not too long for one. -/
theorem index?_of_digits (hne : segment ≠ []) (hd : ∀ c ∈ segment, isDigit c) :
  index? segment =
    match Text.natural? segment with
    | some n =>
      if mostDigits < Text.digitCount segment then .error (.tooManyDigits (Text.digitCount segment))
      else .ok (some n)
    | none => .error (.notANumeral (String.ofList segment))
  := by
  have hc : ¬ (segment.isEmpty || !segment.all isDigit) = true := by
    simpa [hne] using hd
  exact if_neg hc

theorem digitCount_of_denotes {n : Nat} (h : Denotes segment n) :
  Text.digitCount segment = segment.length
  := List.countP_eq_length.mpr h.isDecimal

theorem index?_of_denotes {n : Nat} (h : Denotes segment n) :
  index? segment =
    if mostDigits < segment.length then .error (.tooManyDigits segment.length) else .ok (some n)
  := by
  have hd : ∀ c ∈ segment, isDigit c := fun c hc => Text.isDigit_of_isDecimal (h.isDecimal c hc)
  rw [index?_of_digits h.1 hd, (Text.natural?_eq_some_iff hd).mpr h, digitCount_of_denotes h]

theorem index?_of_ornamental (hd : ∀ c ∈ segment, isDigit c) {c : Char} (hc : c ∈ segment)
    (ho : ¬ isDecimal c) :
  index? segment = .error (.notANumeral (String.ofList segment))
  := by
  have hnone : Text.natural? segment = none := by
    rw [Option.eq_none_iff_forall_ne_some]
    intro n hn
    exact ho (((Text.natural?_eq_some_iff hd).mp hn).isDecimal c hc)
  rw [index?_of_digits (List.ne_nil_of_mem hc) hd, hnone]

/-- A segment is no numeral, or denotes a number, or consists of digits of which one is not
decimal. -/
theorem segment_cases (segment : List Char) :
  ¬ (segment ≠ [] ∧ ∀ c ∈ segment, isDigit c) ∨ (∃ n, Denotes segment n) ∨
    (∀ c ∈ segment, isDigit c) ∧ ∃ c ∈ segment, ¬ isDecimal c
  := by
  by_cases hd : segment ≠ [] ∧ ∀ c ∈ segment, isDigit c
  · by_cases hs : ∀ c ∈ segment, isDecimal c
    · exact .inr (.inl (Text.exists_denotes hd.1 hs))
    · push Not at hs
      obtain ⟨c, hc, ho⟩ := hs
      exact .inr (.inr ⟨hd.2, c, hc, by simpa using ho⟩)
  · exact .inl hd

theorem index?_eq_some_iff {n : Nat} :
  index? segment = .ok (some n) ↔ Denotes segment n ∧ segment.length ≤ mostDigits
  := by
  constructor
  · intro h
    obtain hn | ⟨m, hm⟩ | ⟨hd, c, hc, ho⟩ := segment_cases segment
    · rw [index?_of_not_digits hn] at h
      cases h
    · rw [index?_of_denotes hm] at h
      split at h
      case isTrue => cases h
      case isFalse hl =>
        cases h
        exact ⟨hm, Nat.le_of_not_lt hl⟩
    · rw [index?_of_ornamental hd hc ho] at h
      cases h
  · rintro ⟨hn, hl⟩
    rw [index?_of_denotes hn, if_neg (Nat.not_lt.mpr hl)]

theorem index?_eq_error_iff {e : PathError} :
  index? segment = .error e ↔ Misread segment e
  := by
  constructor
  · intro h
    obtain hn | ⟨m, hm⟩ | ⟨hd, c, hc, ho⟩ := segment_cases segment
    · rw [index?_of_not_digits hn] at h
      cases h
    · rw [index?_of_denotes hm] at h
      split at h
      case isTrue hl =>
        cases h
        exact .long hm hl
      case isFalse => cases h
    · rw [index?_of_ornamental hd hc ho] at h
      cases h
      exact .ornamental hd hc ho
  · intro h
    cases h with
    | ornamental hd hc ho => exact index?_of_ornamental hd hc ho
    | long hn hl => rw [index?_of_denotes hn, if_pos hl]

end

/-! ### Steps -/

/-- Whether a segment leads from a document to a part of it: from a mapping by name, and from a list
as the numeral of an index. -/
inductive StepsTo (d : Document) (segment : List Char) (part : Document) : Prop
  | name (hm : d.isMap) (hp : d.get? (String.ofList segment) = some part)
  | index (hd : d.isList) {n : Nat} (hn : Denotes segment n) (hl : segment.length ≤ mostDigits)
    (hp : d.items[n]? = some part)

theorem step_list (ds : List Document) (segment : List Char) :
  (list ds).step segment = (index? segment).map fun i => i.bind fun n => (list ds).items[n]?
  := rfl

theorem step_eq_some_iff {d part : Document} {segment : List Char} :
  d.step segment = .ok (some part) ↔ d.StepsTo segment part
  := by
  constructor
  · intro h
    cases d with
    | scalar s => cases h
    | up level => cases h
    | map es => exact .name rfl (Except.ok.inj h)
    | list ds =>
      rw [step_list] at h
      cases hi : index? segment with
      | error e =>
        rw [hi] at h
        cases h
      | ok i? =>
        rw [hi] at h
        have hb := Except.ok.inj h
        obtain ⟨n, rfl, hp⟩ := Option.bind_eq_some_iff.mp hb
        obtain ⟨hn, hl⟩ := index?_eq_some_iff.mp hi
        exact .index rfl hn hl hp
  · intro h
    cases h with
    | name hm hp =>
      cases d with
      | map es => exact congrArg Except.ok hp
      | _ => cases hm
    | index hd hn hl hp =>
      cases d with
      | list ds =>
        rw [step_list, index?_eq_some_iff.mpr ⟨hn, hl⟩]
        exact congrArg Except.ok hp
      | _ => cases hd

theorem step_eq_error_iff {d : Document} {segment : List Char} {e : PathError} :
  d.step segment = .error e ↔ d.isList ∧ Misread segment e
  := by
  rw [← index?_eq_error_iff]
  cases d with
  | list ds =>
    rw [step_list]
    cases index? segment <;> simp [Except.map, isList]
  | _ => simp [step, isList]

/-- Whether a sequence of steps leads from a document to a part of it. -/
inductive Leads : Document → List (List Char) → Document → Prop
  | here (d : Document) : Leads d [] d
  | step {d next part : Document} {segment : List Char} {rest : List (List Char)}
    (hs : d.StepsTo segment next) (hr : Leads next rest part) : Leads d (segment :: rest) part

/-- Whether a sequence of steps comes to a list at a segment that cannot be read as an index. -/
def Trips (d : Document) (segments : List (List Char)) (e : PathError) : Prop :=
  ∃ before segment after part, segments = before ++ segment :: after ∧ d.Leads before part ∧
    part.isList ∧ Misread segment e

theorem follow_eq_some_iff {d part : Document} {segments : List (List Char)} :
  d.follow segments = .ok (some part) ↔ d.Leads segments part
  := by
  constructor
  · intro h
    induction segments generalizing d with
    | nil =>
      cases h
      exact .here _
    | cons segment rest ih =>
      rw [follow] at h
      split at h
      case h_1 => cases h
      case h_2 => cases h
      case h_3 next hs => exact .step (step_eq_some_iff.mp hs) (ih h)
  · intro h
    induction h with
    | here d => rfl
    | step hs _ ih =>
      rw [follow, step_eq_some_iff.mpr hs]
      exact ih

theorem follow_eq_error_iff {d : Document} {segments : List (List Char)} {e : PathError} :
  d.follow segments = .error e ↔ d.Trips segments e
  := by
  constructor
  · intro h
    induction segments generalizing d with
    | nil => cases h
    | cons segment rest ih =>
      rw [follow] at h
      split at h
      case h_1 e' hs =>
        cases h
        obtain ⟨hl, hm⟩ := step_eq_error_iff.mp hs
        exact ⟨[], segment, rest, d, rfl, .here d, hl, hm⟩
      case h_2 => cases h
      case h_3 next hs =>
        obtain ⟨before, bad, after, part, rfl, hp, hl, hm⟩ := ih h
        exact ⟨segment :: before, bad, after, part, rfl, .step (step_eq_some_iff.mp hs) hp, hl, hm⟩
  · rintro ⟨before, segment, after, part, rfl, hp, hl, hm⟩
    have hfollow : part.follow (segment :: after) = .error e := by
      rw [follow, step_eq_error_iff.mpr ⟨hl, hm⟩]
    rw [follow_append, follow_eq_some_iff.mpr hp]
    exact hfollow

/-! ### A tree for each path -/

/-- The mapping that has a document at the end of some names. -/
def nest : List (List Char) → Document → Document
  | [], d => d
  | segment :: rest, d => map [(.ofText (String.ofList segment), nest rest d)]

theorem isClosed_nest {d : Document} (h : d.isClosed) (segments : List (List Char)) :
  (nest segments d).isClosed
  := by
  induction segments with
  | nil => exact h
  | cons segment rest ih =>
    apply isClosed_map
    simpa using ih

theorem leads_nest {d : Document} (h : d.isClosed) (segments : List (List Char)) :
  (nest segments d).Leads segments d
  := by
  induction segments with
  | nil => exact .here d
  | cons segment rest ih =>
    apply Leads.step _ ih
    apply StepsTo.name rfl
    have hclosed : ∀ e ∈ [(Key.ofText (String.ofList segment), nest rest d)], e.2.isClosed := by
      simpa using isClosed_nest h rest
    rw [get?, nest, entries_map_of_isClosed hclosed]
    simp [Key.isText, Key.ofText]

/-! ### Outcomes -/

theorem partAt_eq_error_iff {d : Document} {path : String} {default : Document} {e : PathError} :
  d.partAt path default = .error e ↔ d.Trips (path.toList.splitOn '.') e
  := by
  rw [← follow_eq_error_iff, partAt, path?]
  cases d.follow (path.toList.splitOn '.') <;> simp [Except.map]

theorem partAt_eq_ok_iff {d x : Document} {path : String} {default : Document} :
  d.partAt path default = .ok x ↔
    d.Leads (path.toList.splitOn '.') x ∨
    x = default ∧ (∀ part, ¬ d.Leads (path.toList.splitOn '.') part) ∧
      ∀ e, ¬ d.Trips (path.toList.splitOn '.') e
  := by
  simp only [← follow_eq_error_iff, ← follow_eq_some_iff, partAt, path?]
  cases d.follow (path.toList.splitOn '.') with
  | error e => simp [Except.map]
  | ok part? =>
    cases part? with
    | none => simp [Except.map, eq_comm]
    | some part => simp [Except.map]

/-- What stands at the end of a path is the part of the tree that its segments lead to, and else the
default; on a list, a segment leads on only if it denotes a number below the length of the list.
But a path fails if it comes to a list at a segment that consists of digits of which one is not
decimal, or that has too many digits.  So a path is safe on all trees if and only if it has no such
segment. -/
theorem partAt_outcomes (path : String) (default : Document) :
  let segments := path.toList.splitOn '.'
  (∀ d x : Document, d.partAt path default = .ok x ↔
    d.Leads segments x ∨
      x = default ∧ (∀ part, ¬ d.Leads segments part) ∧ ∀ e, ¬ d.Trips segments e) ∧
  (∀ (d : Document) (e : PathError), d.partAt path default = .error e ↔ d.Trips segments e) ∧
  ((∀ d : Document, ∃ x, d.partAt path default = .ok x) ↔
    ∀ segment ∈ segments, ∀ e, ¬ Misread segment e)
  := by
  intro segments
  refine ⟨fun d x => partAt_eq_ok_iff, fun d e => partAt_eq_error_iff, ?_, ?_⟩
  · intro h segment hs e hm
    obtain ⟨before, after, hsegments⟩ := List.append_of_mem hs
    obtain ⟨x, hx⟩ := h (nest before (list []))
    have he : (nest before (list [])).partAt path default = .error e :=
      partAt_eq_error_iff.mpr
        ⟨before, segment, after, list [], hsegments, leads_nest rfl before, rfl, hm⟩
    rw [hx] at he
    cases he
  · intro h d
    cases hp : d.partAt path default with
    | ok x => exact ⟨x, rfl⟩
    | error e =>
      obtain ⟨before, segment, after, -, hs, -, -, hm⟩ := partAt_eq_error_iff.mp hp
      have hmem : segment ∈ segments := by
        rw [show segments = before ++ segment :: after from hs]
        exact List.mem_append_right before List.mem_cons_self
      exact absurd hm (h segment hmem e)

/-- On a list, the path that is a superscript two fails. -/
theorem partAt_superscript :
  let d : Document := list [.scalar (.int 1)]
  (∀ default x : Document, d.partAt "²" default ≠ .ok x) ∧
  ∀ default : Document, d.partAt "²" default = .error (.notANumeral "²")
  := by
  have herror : ∀ default : Document,
      (list [.scalar (.int 1)]).partAt "²" default = .error (.notANumeral "²") := fun _ => rfl
  refine ⟨fun default x hx => ?_, herror⟩
  rw [herror default] at hx
  cases hx

end Document

end PipelineAudit
