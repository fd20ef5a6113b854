import FormalLanguages.Grammar.Basic
import FormalLanguages.FreshName
/-!
# Elimination of left recursion

The nonterminals are treated in order. In the alternatives of `A`, a leading nonterminal that was
treated before is replaced by each of its alternatives, again and again until nothing changes; then
the alternatives `A α` give way to a primed nonterminal, which is treated last. This does not always
come to an end: the number of rounds is bounded by an argument, and a result found with some bound is
found with every greater one.
-/
namespace FormalLanguages

/-- Why a grammar is not transformed. -/
inductive TransformError where
  /-- The first symbol of an empty alternative was asked for. -/
  | emptyAlternative
  /-- The bound on the rounds was reached. -/
  | roundsExhausted
  deriving DecidableEq

/-- The wording of an error. -/
def TransformError.message : TransformError → String
  | emptyAlternative => "list index out of range"
  | roundsExhausted => "no result within the bound on rounds"

namespace Grammar

/-- No alternative is empty. -/
def checkNonempty (alternatives : List Alternative) : Except TransformError Unit :=
  if [] ∈ alternatives then .error .emptyAlternative else .ok ()

/-- Replaces `B` in front of alternatives by each of its own alternatives. -/
def substitute (B : Symbol) (replacements alternatives : List Alternative) : List Alternative :=
  (alternatives.flatMap fun α =>
    match α with
    | [] => [[]]
    | s :: γ => if s = B then replacements.map (·.concat γ) else [s :: γ]).eraseDups

/-- Replaces in turn each of some nonterminals. -/
def substituteAll (g : Grammar) : (earlier : List Symbol) → List Alternative →
    Except TransformError (List Alternative)
  | [], alternatives => .ok alternatives
  | B :: earlier, alternatives => do
    checkNonempty alternatives
    substituteAll g earlier (substitute B (g.alternatives B) alternatives)

/-- Replaces until nothing changes. -/
def settle (g : Grammar) (earlier : List Symbol) : (rounds : Nat) → List Alternative →
    Except TransformError (List Alternative)
  | 0, _ => .error .roundsExhausted
  | n + 1, alternatives => do
    let next ← substituteAll g earlier alternatives
    if next = alternatives then return alternatives else settle g earlier n next

/-- What follows `A` in the alternatives that begin with it and go on. -/
def recursiveTails (A : Symbol) (alternatives : List Alternative) : List Alternative :=
  alternatives.filterMap fun α =>
    match α with
    | s :: t :: γ => if s = A then some (t :: γ) else none
    | _ => none

/-- The alternatives that do not begin with `A`. -/
def otherAlternatives (A : Symbol) (alternatives : List Alternative) : List Alternative :=
  alternatives.filter fun α => α.head? ≠ some A

/-- Replaces the alternatives of `A`. Where some begin with `A` and go on, a new nonterminal derives
what follows; an alternative that is `A` alone is dropped, unless there is no other. -/
def removeImmediate (g : Grammar) (taken : NameSet) (A : Symbol) (alternatives : List Alternative) :
    Grammar × NameSet :=
  let tails := recursiveTails A alternatives
  let others := otherAlternatives A alternatives
  if tails.isEmpty then (g.insert A (if others.isEmpty then alternatives else others), taken)
  else
    let prime := freshName A "'" taken.toList ""
    let heads := if others.isEmpty then [[prime]] else others.map fun β => Alternative.concat β [prime]
    ((g.insert A heads).insert prime
      (tails.map (fun α => Alternative.concat α [prime]) ++ [[epsilon]]), taken.insert prime)

/-- Treats the nonterminals from the `i`th on; `taken` are the names in use. -/
def eliminateFrom (rounds : Nat) : (count i : Nat) → Grammar → (taken : NameSet) →
    Except TransformError Grammar
  | 0, _, _, _ => .error .roundsExhausted
  | n + 1, i, g, taken =>
    match g.nonterminals[i]? with
    | none => .ok g
    | some A => do
      let alternatives ← settle g (g.nonterminals.take i) rounds (g.alternatives A)
      checkNonempty alternatives
      let (g, taken) := g.removeImmediate taken A alternatives
      eliminateFrom rounds n (i + 1) g taken

/-- The grammar without left recursion, if it is found within a number of rounds. -/
def eliminateLeftRecursion (rounds : Nat) (g : Grammar) : Except TransformError Grammar :=
  eliminateFrom rounds rounds 0 g g.symbols

/-- The bound on rounds for grammars that a reader writes by hand. -/
def roundLimit : Nat := 1000000

end Grammar

end FormalLanguages
