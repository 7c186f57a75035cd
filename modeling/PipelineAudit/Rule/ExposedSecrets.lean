import PipelineAudit.Decimal.Shortest
import PipelineAudit.Rule.Basic
import PipelineAudit.Secret.Entropy
import PipelineAudit.Secret.Mask
import PipelineAudit.Secret.Signature

/-!
# Exposed secrets

Two rules look for secrets in the lines of the raw text: one by the known forms of credentials, one
by the entropy of tokens.  Comments are passed over, and so are lines that refer to variables.

The known forms are looked for one after the other, each in all lines.  The search ends at the first
match that the test of its form gives no answer on, and no secret is found after it.
-/

namespace PipelineAudit

namespace Secret

/-- A match of a signature. -/
structure Hit where
  signature : Signature
  /-- The number of the line. -/
  line : Nat
  /-- The number of characters before the match on its line. -/
  start : Nat
  text : List Char

/-- Whether a line is passed over: it is a comment or refers to a variable. -/
def isPassedOver (line : List Char) : Bool :=
  isComment line || line.contains '$'

/-- The matches of a signature on a line. -/
def Signature.matchesOn (s : Signature) (line : Nat × List Char) : List Hit :=
  if isPassedOver line.2 then []
  else (s.pattern.findAll line.2).map fun m => ⟨s, line.1, m.start, m.text⟩

/-- Whether a match of a signature is taken for a secret. -/
def Signature.takes (s : Signature) (text : List Char) : Bool :=
  s.accepts text && isLikely text

/-- Whether a match is taken for a secret. -/
def Hit.isTaken (h : Hit) : Bool :=
  h.signature.takes h.text

/-- The failure of the test on a match, if there is one. -/
def Hit.failure? (h : Hit) : Option Failure :=
  h.signature.failure? h.text

/-- The secrets of a signature on a line, if its test fails on none of the matches. -/
def Signature.hitsOn (s : Signature) (line : Nat × List Char) : List Hit :=
  (s.matchesOn line).filter Hit.isTaken

theorem Signature.mem_matchesOn_iff {s : Signature} {l : Nat × List Char} {h : Hit} :
  h ∈ s.matchesOn l ↔ isPassedOver l.2 = false ∧
    ∃ m ∈ s.pattern.findAll l.2, ⟨s, l.1, m.start, m.text⟩ = h
  := by
  rw [matchesOn]
  cases isPassedOver l.2 <;> simp

theorem Signature.mem_hitsOn_iff {s : Signature} {l : Nat × List Char} {h : Hit} :
  h ∈ s.hitsOn l ↔ isPassedOver l.2 = false ∧
    ∃ m ∈ s.pattern.findAll l.2, s.takes m.text ∧ ⟨s, l.1, m.start, m.text⟩ = h
  := by
  rw [hitsOn, List.mem_filter, mem_matchesOn_iff]
  constructor
  · rintro ⟨⟨hl, m, hm, rfl⟩, ht⟩
    exact ⟨hl, m, hm, ht, rfl⟩
  · rintro ⟨hl, m, hm, ht, rfl⟩
    exact ⟨⟨hl, m, hm, rfl⟩, ht⟩

/-- The matches of a source, signature by signature. -/
def allMatches (source : Source) : List Hit :=
  signatures.flatMap fun s => source.numberedLines.flatMap s.matchesOn

/-- The failure that ends the search, if there is one. -/
def failure? (source : Source) : Option Failure :=
  (allMatches source).findSome? Hit.failure?

/-- The secrets of a source, signature by signature, up to where the search ends. -/
def allHits (source : Source) : List Hit :=
  ((allMatches source).takeWhile fun h => h.failure?.isNone).filter Hit.isTaken

/-- Where a secret begins: its line and the place on it. -/
def Hit.place (h : Hit) : Nat × Nat :=
  (h.line, h.start)

/-- The secrets that begin at none of the places seen, the first one of each place. -/
def distinctHits (seen : List (Nat × Nat)) : List Hit → List Hit
  | [] => []
  | h :: rest =>
    if seen.contains h.place then distinctHits seen rest
    else h :: distinctHits (h.place :: seen) rest

/-- The secrets of a source, those that begin at the same place reported once. -/
def hits (source : Source) : List Hit :=
  distinctHits [] (allHits source)

/-- The vulnerability that a secret is. -/
def Hit.vulnerability (h : Hit) : Vulnerability :=
  let name := h.signature.name
  { title := "Exposed " ++ name
    description := "Potential " ++ String.ofList (Text.lower name.toList) ++ " found: \"" ++
      String.ofList (mask h.text) ++ "\""
    severity := h.signature.threat
    recommendation := recommendation name
    line := some h.line }

/-- The tokens of a line that are long enough and of suspicious entropy. -/
def suspiciousTokens (line : List Char) : List (List Char) :=
  (tokens line).filter fun t =>
    leastTokenLength ≤ t.length && decide (suspiciousEntropy ≤ entropy t)

/-- Whether the tokens of a line are looked at: it is no comment and refers to no variable. -/
def isScanned (line : List Char) : Bool :=
  !isComment line && !Text.has line "$\x7b"

/-- The vulnerability that a token of suspicious entropy is. -/
def tokenVulnerability (line : Nat) (token : List Char) : Vulnerability where
  title := "High Entropy String"
  description := "Potential secret detected: \"" ++ String.ofList (mask token) ++
    "\" (entropy: " ++ Decimal.fixedFloat 2 (entropy token) ++ ")"
  severity := .high
  recommendation := "Avoid committing secrets or tokens directly in code. " ++
    "Use environment variables or secret managers."
  line := some line

/-- The tokens of suspicious entropy on a line, as vulnerabilities. -/
def tokenVulnerabilities (line : Nat × List Char) : List Vulnerability :=
  if isScanned line.2 then (suspiciousTokens line.2).map (tokenVulnerability line.1) else []

end Secret

namespace Rule

/-- Known forms of credentials. -/
def hardcodedSecrets : Rule where
  id := "hardcoded-secrets"
  name := "Hardcoded Secrets Detection"
  description := "Detects hardcoded secrets, API keys, passwords, and tokens"
  category := .security
  severity := .critical
  kind := "HardcodedSecretsRule"
  check _ source :=
    ⟨.ofVulnerabilities ((Secret.hits source).map Secret.Hit.vulnerability),
      Secret.failure? source⟩

/-- Tokens of suspicious entropy. -/
def highEntropyStrings : Rule where
  id := "high-entropy-strings"
  name := "High Entropy String Detection"
  description := "Flags tokens whose character distribution suggests a secret"
  category := .security
  severity := .error
  kind := "HighEntropyStringsRule"
  check _ source :=
    .done (.ofVulnerabilities (source.numberedLines.flatMap Secret.tokenVulnerabilities))

end Rule

end PipelineAudit
