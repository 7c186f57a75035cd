import PipelineAudit.Analysis.Metrics
import PipelineAudit.Proofs.Document.Writing
import PipelineAudit.Proofs.Text.Lines

/-!
# The height of a document

The height of a document is the number of lines that it takes as JSON with one item to a line: one
for a scalar or an empty container, and for any other container the heights of its parts and two
more for its brackets.  Nothing that is written on a line breaks it: line feeds in texts and in keys
are escaped, and numbers and dates have none.

* `count_prettyAt`: the line feeds of a document as JSON are one less than its height.
* `linesOfCode_eq_height`: which documents have lines of code; they are the height of the copy for
  JSON, and are determined by the shape of that copy.
-/

namespace PipelineAudit

/-! ### What is written on one line -/

theorem lineFeed_not_mem_toDigits (n : Nat) :
  '\n' ∉ Nat.toDigits 10 n
  := by
  intro h
  exact absurd (Nat.isDigit_of_mem_toDigits (by decide) (by decide) h) (by decide)

namespace Decimal

theorem lineFeed_not_mem_exponentText (n : Int) :
  '\n' ∉ exponentText n
  := by
  rw [exponentText, digitsPadded]
  split <;> simp [lineFeed_not_mem_toDigits]

/-- Placing a point among digits writes nothing but digits, a point and an exponent. -/
theorem lineFeed_not_mem_placedText {digits : List Char} (h : '\n' ∉ digits) (point : Int) :
  '\n' ∉ placedText digits point
  := by
  have he := lineFeed_not_mem_exponentText (point - 1)
  rw [placedText.eq_def]
  split
  · split
    · exact List.not_mem_nil
    · simpa [he] using h
    · simpa [he] using h
  · split
    · simp [h]
    · dsimp only
      split
      · simp [h]
      · have ht : '\n' ∉ digits.take point.toNat := fun hm => h (List.mem_of_mem_take hm)
        have hd : '\n' ∉ digits.drop point.toNat := fun hm => h (List.mem_of_mem_drop hm)
        simp [ht, hd]

theorem lineFeed_not_mem_digitsAndPoint (m : Nat) (e : Int) :
  '\n' ∉ (digitsAndPoint m e).1
  := by
  intro h
  have hd := (List.dropWhile_sublist _).subset (List.mem_reverse.mp h)
  exact lineFeed_not_mem_toDigits _ (List.mem_reverse.mp hd)

theorem lineFeed_not_mem_shortest (x : Float) :
  '\n' ∉ (shortest x).toList
  := by
  rw [shortest]
  split
  · decide
  · split <;> decide
  · rw [String.toList_ofList, List.mem_append, not_or]
    constructor
    · split <;> decide
    · dsimp only
      split
      · decide
      · exact lineFeed_not_mem_placedText (lineFeed_not_mem_digitsAndPoint _ _) _

end Decimal

namespace Json

/-- Every control character is escaped, the line feed among them. -/
theorem lineFeed_not_mem_escaped (c : Char) :
  '\n' ∉ escaped c
  := by
  have hdigit : ∀ n < 16, Nat.digitChar n ≠ '\n' := by decide
  rw [escaped]
  split_ifs with hquote hback hfeed hreturn htab hform hspace hcontrol
  · decide
  · decide
  · decide
  · decide
  · decide
  · decide
  · decide
  · have hhigh := hdigit (c.toNat / 16) (by omega)
    have hlow := hdigit (c.toNat % 16) (Nat.mod_lt _ (by decide))
    simp [hhigh.symm, hlow.symm]
  · simpa using fun h => hfeed h.symm

theorem lineFeed_not_mem_quotedText (s : String) :
  '\n' ∉ quotedText s
  := by
  simp [quotedText, lineFeed_not_mem_escaped]

theorem lineFeed_not_mem_floatText (x : Float) :
  '\n' ∉ (floatText x).toList
  := by
  rw [floatText]
  split
  · decide
  · split <;> decide
  · exact Decimal.lineFeed_not_mem_shortest x

theorem lineFeed_not_mem_integer (n : Int) :
  '\n' ∉ (toString n).toList
  := by
  cases n with
  | ofNat n =>
    have ht : (toString (Int.ofNat n)).toList = Nat.toDigits 10 n := Nat.toList_repr
    rw [ht]
    apply lineFeed_not_mem_toDigits
  | negSucc n =>
    have ht : (toString (Int.negSucc n)).toList = '-' :: Nat.toDigits 10 n.succ := by
      rw [← Nat.toList_repr]
      exact String.toList_append
    rw [ht, List.mem_cons, not_or]
    exact ⟨by decide, lineFeed_not_mem_toDigits _⟩

theorem count_newline (level : Nat) :
  (newline level).count '\n' = 1
  := by
  simp [newline, List.count_replicate]

theorem count_quotedText (s : String) :
  (quotedText s).count '\n' = 0
  := List.count_eq_zero.mpr (lineFeed_not_mem_quotedText s)

end Json

/-- A scalar is written on one line. -/
theorem Scalar.count_prettyAt (level : Nat) (s : Scalar) :
  (s.toJson.prettyAt level).count '\n' = 0
  := by
  apply List.count_eq_zero.mpr
  cases s with
  | null => exact (by decide : '\n' ∉ "null".toList)
  | bool b =>
    have hb : ∀ b : Bool, '\n' ∉ (if b then "true" else "false").toList := by decide
    exact hb b
  | int n => exact Json.lineFeed_not_mem_integer n
  | float x => exact Json.lineFeed_not_mem_floatText x
  | text t => exact Json.lineFeed_not_mem_quotedText t
  | date d => exact Json.lineFeed_not_mem_quotedText _
  | moment m => exact Json.lineFeed_not_mem_quotedText _

namespace Document

/-! ### Heights -/

/-- The height of a container, given the heights of its parts. -/
def containerHeight (parts : List Nat) : Nat :=
  if parts.isEmpty then 1 else 2 + total parts

namespace Walk

/-- The number of lines that a document takes with one item to a line. -/
def height : Walk Nat where
  scalar _ := 1
  again := 1
  list := containerHeight
  map parts := containerHeight (parts.map (·.2))

/-- What is left of a document without its scalars and keys. -/
def shape : Walk Document where
  scalar _ := null
  again := null
  list := .list
  map parts := .map (parts.map fun e => (.scalar .null, e.2))

end Walk

/-! ### The form with one item to a line -/

open Json in
mutual

/-- A document as JSON has one line feed less than its height. -/
theorem count_prettyAt (level : Nat) (d : Document) :
  (d.toJson.prettyAt level).count '\n' + 1 = Walk.height.fold d
  := by
  match d with
  | scalar s => rw [toJson, Scalar.count_prettyAt, Walk.fold, Walk.height]
  | up _ => rfl
  | list [] => rfl
  | map [] => rfl
  | list (d :: rest) =>
    have hh : Walk.height.fold (list (d :: rest)) =
        2 + (Walk.height.fold d + total (Walk.height.foldItems rest)) := rfl
    rw [hh, ← count_prettyAt (level + 1) d, ← count_prettyItems (level + 1) rest]
    simp [toJson, jsonItems, prettyAt, count_newline]
    omega
  | map ((k, d) :: rest) =>
    have hh : Walk.height.fold (map ((k, d) :: rest)) =
        2 + (Walk.height.fold d + total ((Walk.height.foldEntries rest).map (·.2))) := rfl
    rw [hh, ← count_prettyAt (level + 1) d, ← count_prettyMembers (level + 1) rest]
    simp [toJson, jsonMembers, prettyAt, count_newline, count_quotedText]
    omega

/-- The further items of a list take lines of their own. -/
theorem count_prettyItems (level : Nat) (ds : List Document) :
  (prettyItems level (jsonItems ds)).count '\n' = total (Walk.height.foldItems ds)
  := by
  match ds with
  | [] => rfl
  | d :: rest =>
    rw [Walk.foldItems, total, ← count_prettyAt level d, ← count_prettyItems level rest]
    simp [jsonItems, prettyItems, count_newline]
    omega

/-- The further members of a mapping take lines of their own. -/
theorem count_prettyMembers (level : Nat) (es : List (Key × Document)) :
  (prettyMembers level (jsonMembers es)).count '\n' =
    total ((Walk.height.foldEntries es).map (·.2))
  := by
  match es with
  | [] => rfl
  | (k, d) :: rest =>
    rw [Walk.foldEntries, List.map_cons, total, ← count_prettyAt level d,
      ← count_prettyMembers level rest]
    simp [jsonMembers, prettyMembers, count_newline, count_quotedText]
    omega

end

/-! ### The shape decides the height -/

namespace Walk

mutual

/-- A document is as high as what is left of it without its scalars and keys. -/
theorem height_shape (d : Document) :
  height.fold (shape.fold d) = height.fold d
  := by
  match d with
  | .scalar _ => rfl
  | .up _ => rfl
  | .list ds => exact congrArg containerHeight (height_shapeItems ds)
  | .map es => exact congrArg containerHeight (height_shapeEntries es)

theorem height_shapeItems (ds : List Document) :
  height.foldItems (shape.foldItems ds) = height.foldItems ds
  := by
  match ds with
  | [] => rfl
  | d :: rest => simp only [foldItems, height_shape d, height_shapeItems rest]

theorem height_shapeEntries (es : List (Key × Document)) :
  (height.foldEntries ((shape.foldEntries es).map fun e => (.scalar .null, e.2))).map (·.2) =
    (height.foldEntries es).map (·.2)
  := by
  match es with
  | [] => rfl
  | (k, d) :: rest =>
    simp only [foldEntries, List.map_cons, height_shape d, height_shapeEntries rest]

end

end Walk

end Document

namespace Measure

open Document (Walk)

theorem linesOfCode_eq (document : Document) :
  linesOfCode document = ifWritable document.hasJson (Walk.height.fold document.jsonSafe)
  := by
  rw [linesOfCode, Document.prettyJson, Document.jsonText_eq, map_ifWritable, Text.length_lines,
    Json.pretty, Document.count_prettyAt]

theorem cyclomaticComplexity_eq (document : Document) :
  cyclomaticComplexity document =
    ifWritable document.hasJson (branches document.jsonSafe.toJson.compact)
  := by
  rw [cyclomaticComplexity, Document.compactJson, Document.jsonText_eq, map_ifWritable]

/-- A document has a complexity if and only if it has a text as JSON. -/
theorem complexity_eq (document : Document) :
  complexity document = ifWritable document.hasJson
    (complexityFrom (branches document.jsonSafe.toJson.compact)
      (Walk.height.fold document.jsonSafe))
  := by
  rw [complexity, cyclomaticComplexity_eq, linesOfCode_eq]
  cases document.hasJson <;> rfl

/-- The lines of code of a document can be counted if and only if it has a text as JSON, as all
documents have that can be written.  Whatever its keys and texts are, they are the height of its
copy for JSON: one for a scalar or an empty container, and two and the sum of the heights of the
parts for any other container.  The walk that copies a closed document comes to that copy, also
where the document contains itself.  Documents whose copies have the same shape have the same number
of lines of code. -/
theorem linesOfCode_eq_height (document : Document) (lines : Nat) :
  ((complexity document).map (·.linesOfCode) = .ok lines ↔
    document.hasJson ∧ lines = Walk.height.fold document.jsonSafe) ∧
  (document.isWritable → document.hasJson) ∧
  (document.isClosed →
    Walk.copy.visit (document.containers + 1) [] ⟨document, []⟩ = some document.jsonSafe) ∧
  (∀ other : Document, document.hasJson → other.hasJson →
    Walk.shape.fold other.jsonSafe = Walk.shape.fold document.jsonSafe →
    (complexity other).map (·.linesOfCode) = (complexity document).map (·.linesOfCode))
  := by
  refine ⟨?_, Document.hasJson_of_isWritable, ?_, ?_⟩
  · rw [complexity_eq, map_ifWritable, ifWritable_eq_ok]
    exact and_congr_right fun _ => eq_comm
  · intro hc
    rw [Walk.visit_eq_fold _ hc, Walk.fold_copy]
  · intro other hd ho hs
    have hheight := calc Walk.height.fold other.jsonSafe
      _ = Walk.height.fold (Walk.shape.fold other.jsonSafe) := by rw [Walk.height_shape]
      _ = Walk.height.fold (Walk.shape.fold document.jsonSafe) := by rw [hs]
      _ = Walk.height.fold document.jsonSafe := by rw [Walk.height_shape]
    rw [complexity_eq, complexity_eq, map_ifWritable, map_ifWritable, ho, hd]
    exact congrArg Except.ok hheight

/-- A pipeline with line feeds in a key and in a text, which contains itself under a date. -/
def brokenLines : Document :=
  .map [(.ofText "ru\n\"n", .text "make\nmake test\u2028"),
    (.scalar (.date ⟨2024, 1, 1⟩), .list [.scalar (.int 7), .up 1, .map []])]

/-- A pipeline of the same shape without line feeds. -/
def plainLines : Document :=
  .map [(.ofText "run", .text "make"), (.ofText "on", .list [.null, .text "push", .map []])]

theorem linesOfCode_eq_height_brokenLines :
  brokenLines.isWritable ∧ brokenLines.isClosed ∧
  Walk.shape.fold plainLines.jsonSafe = Walk.shape.fold brokenLines.jsonSafe ∧
  Walk.height.fold brokenLines.jsonSafe = 8 ∧
  (complexity brokenLines).map (·.linesOfCode) = .ok 8 ∧
  (complexity plainLines).map (·.linesOfCode) = .ok 8
  := by
  obtain ⟨hiff, hwritable, -, hother⟩ := linesOfCode_eq_height brokenLines 8
  have hw : brokenLines.isWritable := by decide +kernel
  have hs : Walk.shape.fold plainLines.jsonSafe = Walk.shape.fold brokenLines.jsonSafe := rfl
  have hh : Walk.height.fold brokenLines.jsonSafe = 8 := rfl
  have hl := hiff.mpr ⟨hwritable hw, hh.symm⟩
  exact ⟨hw, rfl, hs, hh, hl, (hother plainLines (hwritable hw) (by decide +kernel) hs).trans hl⟩

/-- A pipeline with a number that is too long. -/
def longTimeout : Document :=
  .map [(.ofText "timeout", .scalar (.int overlongInteger))]

/-- The lines of that pipeline are not counted, though it has a height. -/
theorem complexity_longTimeout :
  Walk.height.fold longTimeout.jsonSafe = 3 ∧ complexity longTimeout = .error .longInteger
  := by
  refine ⟨rfl, ?_⟩
  rw [complexity_eq, show longTimeout.hasJson = false by decide +kernel]
  rfl

end Measure

end PipelineAudit
