import FormalLanguages.Regex.Syntax
/-!
# Where a match stands

A spot is a position in the text with the marks of the groups. Trying a part of a pattern ends in an
outcome: either what follows has accepted an end, or nothing has. A failure is a spot as well, because
two things outlive it:

* the position that was handed over last (`reached`), from which a possessive loop goes on after a
  round that failed;
* marks: a try that is given up (`Spot.after`) takes the marks above those that stood before it with
  it, but a lower mark that it has moved is put back only inside a loop.
-/
namespace FormalLanguages.Regex

/-- A position in the text and the marks of the groups: group `n` begins at mark `2 * n - 2` and ends at
mark `2 * n - 1`. The marks are those up to the highest that is set. -/
structure Spot where
  position : Nat
  /-- The position that was handed over last. -/
  reached : Nat
  marks : Array (Option Nat)
  deriving DecidableEq, Repr

namespace Spot

/-- The start of a match. -/
def start (i : Nat) : Spot := ⟨i, i, #[]⟩

/-- The spot further on. -/
def moved (s : Spot) (n : Nat) : Spot := { s with position := s.position + n }

/-- Hands its position over. -/
def handed (s : Spot) : Spot := { s with reached := s.position }

/-- The spot with a mark at its position; marks that are skipped are not set. -/
def mark (s : Spot) (i : Nat) : Spot where
  position := s.position
  reached := s.reached
  marks :=
    if i < s.marks.size then s.marks.setIfInBounds i (some s.position)
    else (s.marks ++ Array.replicate (i - s.marks.size) none).push (some s.position)

/-- The spot again, after a try from it that failed at `left`. -/
def after (s : Spot) (looping : Bool) (left : Spot) : Spot where
  position := s.position
  reached := left.reached
  marks := if looping then s.marks else left.marks.take s.marks.size

/-- Where a group begins and ends, if both are marked. -/
def span? (s : Spot) (n : Nat) : Option (Nat × Nat) :=
  match (s.marks[2 * n - 2]?).join, (s.marks[2 * n - 1]?).join with
  | some b, some e => some (b, e)
  | _, _ => none

/-- Where a group begins and ends, if it took part. -/
def group? (s : Spot) (n : Nat) : Option (Nat × Nat) := (s.span? n).filter fun (b, e) => b ≤ e

end Spot

/-- How a try ends: at the end of a match, or at a spot that a failure has left. -/
inductive Outcome where
  | found (s : Spot)
  | failed (s : Spot)
  deriving DecidableEq, Repr

/-- A failure hands the position over. -/
def Outcome.handing (i : Nat) : Outcome → Outcome
  | found s => found s
  | failed s => failed { s with reached := i }

/-- What follows a part of a pattern. -/
abbrev Continuation := Spot → Outcome

/-- A way to match: from a spot, all ends in turn to what follows, until it accepts one. -/
abbrev Matcher := Spot → Continuation → Outcome

/-- The first end of a match, without another way. -/
def Matcher.first (m : Matcher) (s : Spot) : Outcome := m s fun t => .found t.handed

end FormalLanguages.Regex
