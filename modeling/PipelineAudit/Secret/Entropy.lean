import PipelineAudit.Text.Blank

/-!
# Entropy

The entropy of a text in bits per character, and the tokens of a line whose entropy is of interest:
the maximal runs free of blanks, quotation marks, brackets and a few marks.
-/

namespace PipelineAudit.Secret

/-- The entropy from which on a token is suspicious. -/
def suspiciousEntropy : Float := 4.5

/-- The length from which on the entropy of a token is of interest. -/
def leastTokenLength : Nat := 20

/-- The counts with one more occurrence of a character; a new character comes last. -/
def countOne (c : Char) : List (Char × Nat) → List (Char × Nat)
  | [] => [(c, 1)]
  | (d, n) :: rest => if d = c then (d, n + 1) :: rest else (d, n) :: countOne c rest

/-- How often each character occurs in a text, in the order of the first occurrences. -/
def characterCounts (text : List Char) : List (Char × Nat) :=
  text.foldl (fun counts c => countOne c counts) []

/-- The entropy of a text in bits per character. -/
def entropy (text : List Char) : Float :=
  let length := text.length.toFloat
  (characterCounts text).foldl
    (fun sum (_, n) =>
      let p := n.toFloat / length
      sum - p * p.log2)
    0.0

/-- Whether a character separates tokens. -/
def isTokenSeparator (c : Char) : Bool :=
  Text.isBlank c || "\"'=:[]\x7b\x7d,()<>".toList.contains c

/-- The tokens of a line. -/
def tokens (line : List Char) : List (List Char) :=
  (line.splitOnP isTokenSeparator).filter (!·.isEmpty)

end PipelineAudit.Secret
