import FormalLanguages.Grammar.First
/-!
# FOLLOW sets

`FOLLOW B` holds the terminals that can stand right after `B`, and the end marker if `B` can stand at
the end of a text derived from the start symbol. Each place of `B` in an alternative of `A` gives the
FIRST set of what comes after it, and, where that can vanish, all of `FOLLOW A` as well; so the set
is gathered over the nonterminals from which such places lead to `B`.
-/
namespace FormalLanguages.Grammar

/-- A place of a nonterminal in an alternative. -/
structure Place where
  /-- The nonterminal of the alternative. -/
  owner : Symbol
  /-- The nonterminal at the place. -/
  symbol : Symbol
  /-- What comes after it. -/
  rest : List Symbol

/-- The places in a sequence of symbols. -/
def placesIn (g : Grammar) (owner : Symbol) : List Symbol → List Place
  | [] => []
  | s :: β =>
    if g.isNonterminal s then ⟨owner, s, β⟩ :: placesIn g owner β else placesIn g owner β

/-- The places of all nonterminals. -/
def places (g : Grammar) : List Place := g.productions.flatMap fun p => g.placesIn p.1 p.2

/-- What the places of `B` give directly: the terminals after them, and the end marker for the start
symbol. `places` are paired with the FIRST sets of what comes after them. -/
def followBase (places : List (Place × NameSet)) (start B : Symbol) : NameSet :=
  let after := .unions <| (places.filter (·.1.symbol = B)).map fun p => p.2.erase epsilon
  if B = start then after.insert endMarker else after

/-- The nonterminals at the end of whose alternatives `B` stands, what comes after it vanishing. -/
def endsWith (places : List (Place × NameSet)) (B : Symbol) : List Symbol :=
  (places.filter fun p => p.1.symbol = B ∧ epsilon ∈ p.2).map (·.1.owner)

/-- The FOLLOW sets of all nonterminals, given FIRST sets and a start symbol. -/
def follow (g : Grammar) (first : SymbolSets) (start : Symbol) : SymbolSets :=
  let places := g.places.map fun p => (p, firstOf first g.isNonterminal p.rest)
  g.mapValues fun B _ =>
    .unions <| (reachable (endsWith places) g.symbolBound [B]).map (followBase places start)

end FormalLanguages.Grammar
