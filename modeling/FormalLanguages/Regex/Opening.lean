import FormalLanguages.Regex.Member
/-!
# How an expression begins

What can be said about the first characters of a match before it is tried. Two questions are asked.

* `Expr.lead`: what a part of a pattern compares first. An alternative whose first character does not
  agree is passed over, and a loop gives back characters until the literal after it agrees.
* `Pattern.opening`: where a search tries a match at all. A leading set is asked under the flags of the
  whole pattern here, also when a scope around it changes the alphabet of the named classes.
-/
namespace FormalLanguages.Regex

/-- What an expression compares first: nothing, so that what follows it comes first; a literal; a
set; or something else. -/
inductive Lead where
  | nothing
  | literal (c : Nat)
  | oneOf (p : Nat → Bool)
  | other

namespace Lead

/-- What comes first in a sequence. -/
def andThen : Lead → Lead → Lead
  | nothing, l => l
  | l, _ => l

/-- The next character, if there is one, agrees. -/
def admits : Lead → Option Nat → Bool
  | literal c, next => next == some c
  | oneOf p, next => next.any p
  | _, _ => true

/-- The next character agrees, so far as a literal is concerned. -/
def admitsLiteral : Lead → Option Nat → Bool
  | literal c, next => next == some c
  | _, _ => true

end Lead

namespace Expr

/-- What an expression compares first. -/
def lead (f : Flags) : Expr → Lead
  | empty => .nothing
  | char c => if f.ignoreCase && f.cased c then .other else .literal c
  | set negated ms =>
    if f.ignoreCase && ms.any (·.cased f) then .other else .oneOf fun n => setHas f ms n != negated
  | seq r s => (lead f r).andThen (lead f s)
  | withFlags d r => lead (f.change d) r
  | _ => .other

/-- The literals that every match begins with, and whether there is nothing else in the expression. -/
def literalPrefix (f : Flags) : Expr → List Nat × Bool
  | empty => ([], true)
  | char c => if f.ignoreCase && f.cased c then ([], false) else ([c], true)
  | seq r s =>
    match literalPrefix f r with
    | (cs, true) => let (ds, whole) := literalPrefix f s; (cs ++ ds, whole)
    | (cs, false) => (cs, false)
  | capture _ r => literalPrefix f r
  | withFlags d r => literalPrefix (f.change d) r
  | _ => ([], false)

/-- The literals that the alternatives of a choice begin with, if all of them do. -/
def leadingLiterals? (f : Flags) : Expr → Option (List Nat)
  | never => some []
  | alt r others =>
    match r.items with
    | char c :: _ =>
      if f.ignoreCase && f.cased c then none else (leadingLiterals? f others).map (c :: ·)
    | _ => none
  | _ => none

/-- The member does not depend on letter case. -/
def isCaseless (f : Flags) : Member → Bool
  | .single c => !f.cased c
  | .range lo hi => hi ≤ 0xffff && !f.anyCased lo hi
  | .named _ _ => true

/-- The set that every match begins with a character of; its named classes are those of the alphabet
`ascii`. -/
def leadingSet? (ascii : Bool) (f : Flags) : Expr → Option (Nat → Bool)
  | seq r _ => leadingSet? ascii f r
  | capture _ r => leadingSet? ascii f r
  | withFlags d r => leadingSet? ascii (f.change d) r
  | char c => if f.ignoreCase && f.cased c then none else some (· == c)
  | set negated ms =>
    if f.ignoreCase && !ms.all (isCaseless f) then none
    else some fun n => ms.any (·.has ascii n) != negated
  | alt r others => (leadingLiterals? f (alt r others)).map fun cs n => cs.contains n
  | _ => none

end Expr

/-- Where a search tries a match: anywhere, at some literals, or at a character of a set. -/
inductive Opening where
  | anywhere
  | literals (cs : List Nat)
  | oneOf (p : Nat → Bool)

namespace Opening

/-- A match may be tried at the position. -/
def admits (text : Array Nat) (i : Nat) : Opening → Bool
  | anywhere => true
  | literals cs => (cs.zipIdx i).all fun (c, j) => text[j]? == some c
  | oneOf p => text[i]?.any p

end Opening

/-- The shortest and the longest match of a pattern. -/
def Pattern.width (p : Pattern) : Width := p.body.width p.widths

/-- Where a search tries a match of a pattern; one that can be empty is tried anywhere. -/
def Pattern.opening (p : Pattern) : Opening :=
  if p.width.lo = 0 then .anywhere
  else
    match p.body.literalPrefix p.flags with
    | ([], _) => ((p.body.leadingSet? p.flags.ascii p.flags).map Opening.oneOf).getD .anywhere
    | (cs, _) => .literals cs

end FormalLanguages.Regex
