/-
# IndexSnapshot.Pattern.Search -- finding a pattern in a name

`ends p` maps a place in a name to the places where a match of `p` from there can end, the
preferred match first.  A place that was found already need not be found again: whatever
follows fails there once more.  A repetition goes on only where it comes further, and a
name has only so many places, so the same places with the same number of repetitions
left are gone through only once.
-/
import IndexSnapshot.Pattern.Syntax

namespace IndexSnapshot.Pattern

set_option autoImplicit false

/-- A place in a name: the character before it, if any, and what follows. -/
structure Place where
  before : Option Char
  rest : List Char
  deriving DecidableEq, Repr

namespace Place

/-- One character further. -/
def next? (set : CharSet) (place : Place) : List Place :=
  match place.rest with
  | [] => []
  | c :: rest => if set.contains c then [⟨some c, rest⟩] else []

/-- Whether a word starts or ends here. -/
def isWordEdge (place : Place) : Bool :=
  let isWord (c : Option Char) : Bool := c.any CharSet.isWord
  isWord place.before != isWord place.rest.head?

/-- Adds places that are not there yet. -/
def merge (places others : List Place) : List Place :=
  others.foldl (fun all place => if all.contains place then all else all ++ [place]) places

/-- The places that exactly `count` steps reach. -/
def steps (step : Place → List Place) : Nat → List Place → List Place
  | 0, places => places
  | count + 1, places => steps step count (merge [] (places.flatMap step))

end Place

/-! ## Repetition -/

/-- A walk through the places that steps reach: the places gone through, each with the
number of steps that were left there, and the places found, in order of preference. -/
structure Walk where
  seen : List (Place × Nat) := []
  found : List Place := []

namespace Walk

/-- Finds a place, unless it was found before. -/
def find (walk : Walk) (place : Place) : Walk :=
  if walk.found.contains place then walk else { walk with found := walk.found ++ [place] }

/-- Finds the places that at most `count` steps reach from a place.  The places further on
are found before it or after it; a step that does not lead further is the last one. -/
def explore (step : Place → List Place) (furthestFirst : Bool) : Nat → Walk → Place → Walk
  | count, walk, place =>
      let key := (place, min count place.rest.length)
      if walk.seen.contains key then walk
      else
        let walk := { walk with seen := key :: walk.seen }
        let walk := if furthestFirst then walk else walk.find place
        let walk :=
          match count with
          | 0 => walk
          | count + 1 =>
              (step place).foldl
                (fun walk next =>
                  if next.rest.length < place.rest.length then
                    explore step furthestFirst count walk next
                  else walk.find next)
                walk
        if furthestFirst then walk.find place else walk

end Walk

/-- The places that at least `least` steps reach, and at most `most` if that is given, in
order of preference.  If more steps are needed than there are characters, one of them
stays where it is, and might as well be repeated. -/
def repeated (step : Place → List Place) (least : Nat) (most : Option Nat)
    (furthestFirst : Bool) (place : Place) : List Place :=
  let required := Place.steps step (min least (place.rest.length + 1)) [place]
  let more := (most.map (· - least)).getD place.rest.length
  Place.merge [] (required.flatMap fun place =>
    (Walk.explore step furthestFirst more {} place).found)

/-! ## Matches -/

/-- Keeps a place where a condition holds. -/
def keepIf (holds : Bool) (place : Place) : List Place :=
  if holds then [place] else []

/-- Where a match from a place can end, in order of preference. -/
def ends : Pattern → Place → List Place
  | .empty, place => [place]
  | .one set, place => place.next? set
  | .atStart, place => keepIf place.before.isNone place
  | .atEnd, place => keepIf (place.rest.isEmpty || place.rest == ['\n']) place
  | .atVeryEnd, place => keepIf place.rest.isEmpty place
  | .wordEdge inside, place => keepIf (place.isWordEdge == inside) place
  | .sequence p q, place => Place.merge [] ((ends p place).flatMap (ends q))
  | .either p q, place => Place.merge (ends p place) (ends q place)
  | .times p least most .more, place => repeated (ends p) least most true place
  | .times p least most .fewer, place => repeated (ends p) least most false place
  | .times p least most .all, place =>
      (repeated (fun place => (ends p place).take 1) least most true place).take 1
  | .committed p, place => (ends p place).take 1
  | .ahead isThere p, place => keepIf ((ends p place).isEmpty != isThere) place

/-- Whether the pattern matches from some place of `rest` on. -/
def searchFrom (p : Pattern) (before : Option Char) : List Char → Bool
  | [] => !(p.ends ⟨before, []⟩).isEmpty
  | c :: rest => !(p.ends ⟨before, c :: rest⟩).isEmpty || searchFrom p (some c) rest

/-- Whether the pattern matches somewhere in a name. -/
def search (p : Pattern) (name : String) : Bool :=
  searchFrom p none name.toList

end IndexSnapshot.Pattern
