import FormalLanguages.Grammar.Basic
import FormalLanguages.Exploration
import FormalLanguages.Inference
/-!
# FIRST sets

`FIRST A` holds the terminals with which a text derived from `A` can begin, and `ε` if `A` derives
the empty word. A symbol is leading in an alternative if all symbols before it vanish; the terminals
of `FIRST A` are those that are reached from `A` through leading symbols. An `ε` inside an alternative
ends it.
-/
namespace FormalLanguages.Grammar

/-- The part of an alternative before its first `ε`. -/
def beforeEpsilon (α : Alternative) : Alternative := α.takeWhile (· ≠ epsilon)

/-- The nonterminals that derive the empty word, when an `ε` ends its alternative. -/
def vanishing (g : Grammar) : List Symbol :=
  consequences (g.productions.map fun p => (p.1, beforeEpsilon p.2))

/-- The symbols before which all symbols are of `vanishing`. -/
def leadingSymbols (vanishing : List Symbol) : Alternative → List Symbol
  | [] => []
  | s :: α => if s ∈ vanishing then s :: leadingSymbols vanishing α else [s]

/-- The symbols with which some alternative of `A` can begin. -/
def leadingOf (g : Grammar) (vanishing : List Symbol) (A : Symbol) : List Symbol :=
  (g.alternatives A).flatMap fun α => leadingSymbols vanishing (beforeEpsilon α)

/-- More than the number of symbols in a grammar. -/
def symbolBound (g : Grammar) : Nat := g.nonterminals.length + g.occurrences.length + 1

/-- The symbols with which a text derived from `A` can begin, `A` among them. -/
def heads (g : Grammar) (vanishing : List Symbol) (A : Symbol) : List Symbol :=
  reachable (g.leadingOf vanishing) g.symbolBound [A]

/-- The FIRST sets of all nonterminals. -/
def first (g : Grammar) : SymbolSets :=
  let vanishing := g.vanishing
  g.mapValues fun A _ =>
    let terminals := NameSet.ofList ((g.heads vanishing A).filter fun s => !g.isNonterminal s)
    if A ∈ vanishing then terminals.insert epsilon else terminals

/-- The FIRST set of a sequence, given the FIRST sets of the nonterminals; a nonterminal of which none
is given has an empty one. -/
def firstOf (first : SymbolSets) (isNonterminal : Symbol → Bool) : List Symbol → NameSet
  | [] => .singleton epsilon
  | s :: α =>
    if s = epsilon then .singleton epsilon
    else if !isNonterminal s then .singleton s
    else
      let F := first.getD s ∅
      if epsilon ∈ F then F.erase epsilon ∪ firstOf first isNonterminal α else F

end FormalLanguages.Grammar
