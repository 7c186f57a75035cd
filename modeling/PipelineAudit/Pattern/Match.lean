import PipelineAudit.Pattern.Basic

/-!
# Matching

`Pattern.ends` lists the places where a stretch that begins at a given place can end, the preferred
one first, each with the texts kept on the way.  A match is the preferred end.  `findAll` lists the
matches in a text from the left, each beginning where the one before it ended or later.
-/

namespace PipelineAudit

/-- A place in a text: the character before it, and the characters after it. -/
structure Place where
  before : Option Char
  rest : List Char

/-- A place reached by a match, and the texts kept so far. -/
structure Reached where
  place : Place
  kept : List (List Char)

/-- A match in a text: the number of characters before it, its text, and the texts it kept. -/
structure Match where
  start : Nat
  text : List Char
  kept : List (List Char)
  deriving DecidableEq

namespace Place

/-- The place at the beginning of a text. -/
def ofText (text : List Char) : Place :=
  ⟨none, text⟩

/-- The text between a place and a later one. -/
def textUpTo (p q : Place) : List Char :=
  p.rest.take (p.rest.length - q.rest.length)

/-- Whether a word character stands before the place. -/
def wordBefore (p : Place) : Bool :=
  p.before.any Text.isWord

/-- Whether a word character stands after the place. -/
def wordAfter (p : Place) : Bool :=
  p.rest.head?.any Text.isWord

end Place

namespace Pattern

/-- The ends of a repetition from a place reached, for a round whose ends are `round`.  A round that
gains no character is not taken. -/
def repeatedEnds (round : Reached → List Reached) (greedy : Bool) :
    Nat → Nat → Option Nat → Reached → List Reached
  | 0, least, _, r => if least = 0 then [r] else []
  | fuel + 1, least, most, r =>
    let further :=
      if most = some 0 then []
      else
        ((round r).filter fun s => s.place.rest.length < r.place.rest.length).flatMap
          (repeatedEnds round greedy fuel (least - 1) (most.map (· - 1)))
    if 0 < least then further
    else if greedy then further ++ [r]
    else r :: further

/-- A place reached, under a condition on it. -/
def condition (holds : Bool) (r : Reached) : List Reached :=
  if holds then [r] else []

/-- The places where a stretch that begins at a place can end, the preferred one first. -/
def ends : Pattern → Reached → List Reached
  | one allowed, r =>
    match r.place.rest with
    | c :: rest => if allowed c then [⟨⟨some c, rest⟩, r.kept⟩] else []
    | [] => []
  | nothing, r => [r]
  | seq first second, r => (first.ends r).flatMap second.ends
  | either first second, r => first.ends r ++ second.ends r
  | repeated greedy least most round, r =>
    repeatedEnds round.ends greedy r.place.rest.length least most r
  | group body, r =>
    (body.ends r).map fun s => ⟨s.place, s.kept ++ [r.place.textUpTo s.place]⟩
  | textStart, r => condition r.place.before.isNone r
  | lineStart, r => condition (r.place.before.all (· = '\n')) r
  | textEnd, r => condition (r.place.rest.isEmpty || r.place.rest = ['\n']) r
  | lineEnd, r => condition (r.place.rest.head?.all (· = '\n')) r
  | wordEdge, r => condition (r.place.wordBefore != r.place.wordAfter) r
  | ahead body, r => condition (!(body.ends r).isEmpty) r
  | notAhead body, r => condition (body.ends r).isEmpty r

/-- The preferred match that begins at a place. -/
def matchAt? (p : Pattern) (index : Nat) (place : Place) : Option Match :=
  (p.ends ⟨place, []⟩).head?.map fun r => ⟨index, place.textUpTo r.place, r.kept⟩

/-- Whether a text begins with a match. -/
def beginsIn (p : Pattern) (text : List Char) : Bool :=
  (p.matchAt? 0 (.ofText text)).isSome

/-- The matches in a text from a place on, after the first `skip` characters. -/
def findFrom (p : Pattern) : Nat → Nat → Option Char → List Char → List Match
  | 0, index, before, [] => (p.matchAt? index ⟨before, []⟩).toList
  | _ + 1, _, _, [] => []
  | skip + 1, index, _, c :: rest => p.findFrom skip (index + 1) (some c) rest
  | 0, index, before, c :: rest =>
    match p.matchAt? index ⟨before, c :: rest⟩ with
    | some m => m :: p.findFrom (m.text.length - 1) (index + 1) (some c) rest
    | none => p.findFrom 0 (index + 1) (some c) rest

/-- The matches in a text from the left, none overlapping another. -/
def findAll (p : Pattern) (text : List Char) : List Match :=
  p.findFrom 0 0 none text

/-- The first match in a text from a place on. -/
def searchFrom (p : Pattern) : Nat → Option Char → List Char → Option Match
  | index, before, [] => p.matchAt? index ⟨before, []⟩
  | index, before, c :: rest =>
    (p.matchAt? index ⟨before, c :: rest⟩).or (p.searchFrom (index + 1) (some c) rest)

/-- The first match in a text. -/
def search? (p : Pattern) (text : List Char) : Option Match :=
  p.searchFrom 0 none text

/-- Whether a pattern occurs in a text. -/
def occursIn (p : Pattern) (text : List Char) : Bool :=
  (p.search? text).isSome

/-- The text that the first match keeps first. -/
def extract? (p : Pattern) (text : List Char) : Option (List Char) :=
  (p.search? text).bind (·.kept.head?)

end Pattern

end PipelineAudit
