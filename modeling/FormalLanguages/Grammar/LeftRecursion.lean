import FormalLanguages.Grammar.Basic
import FormalLanguages.Exploration
import FormalLanguages.Inference
/-!
# Left recursion

A nonterminal is left recursive if it derives, in one step or more, a text that begins with itself.
Nonterminals that stand in front of an alternative once the symbols before them have vanished are its
fronts; left recursion is a cycle of fronts.
-/
namespace FormalLanguages.Grammar

/-- The nonterminals that derive the empty word, when an `ε` in an alternative is skipped. -/
def erasable (g : Grammar) : List Symbol :=
  consequences (g.productions.map fun p => (p.1, p.2.filter (· ≠ epsilon)))

/-- The nonterminals that can come to the front of a sequence. -/
def frontsOf (g : Grammar) (erasable : List Symbol) : List Symbol → List Symbol
  | [] => []
  | s :: α =>
    if g.isNonterminal s then
      if s ∈ erasable then s :: frontsOf g erasable α else [s]
    else []

/-- The nonterminals that can come to the front of an alternative of `A`. -/
def fronts (g : Grammar) (erasable : List Symbol) (A : Symbol) : List Symbol :=
  (g.alternatives A).flatMap (g.frontsOf erasable)

/-- The left-recursive nonterminals in the order of their declaration. -/
def leftRecursive (g : Grammar) : List Symbol :=
  let next := g.fronts g.erasable
  g.nonterminals.filter fun A => A ∈ reachable next (g.occurrences.length + 1) (next A)

end FormalLanguages.Grammar
