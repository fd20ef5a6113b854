import FormalLanguages.Grammar.Follow
import FormalLanguages.Grammar.Notation
import FormalLanguages.Row
/-!
# Predictive tables

The cell of a nonterminal and a terminal holds the alternatives that the terminal predicts: those
whose FIRST set has it, and those that can vanish if the FOLLOW set has it. A cell with more than one
alternative is a conflict; a grammar without conflicts is LL(1).
-/
namespace FormalLanguages

/-- The alternatives of each cell, in the order in which the cells were filled. -/
abbrev PredictionTable := OrderedMap (Symbol × Symbol) (List Alternative)

/-- A cell with more than one alternative. -/
structure Conflict where
  nonterminal : Symbol
  terminal : Symbol
  alternatives : List Alternative
  deriving DecidableEq

/-- The alternatives of a cell or a conflict, for reading. -/
def renderChoices (render : Alternative → String) (alternatives : List Alternative) : String :=
  " || ".intercalate (alternatives.map render)

/-- The wording of a conflict. -/
def Conflict.message (c : Conflict) : String :=
  "Conflicto en M[" ++ c.nonterminal ++ ", " ++ c.terminal ++ "]: " ++
    renderChoices Alternative.render c.alternatives

namespace PredictionTable

/-- Puts an alternative into a cell, unless the cell has it. -/
def register (t : PredictionTable) (A a : Symbol) (α : Alternative) : PredictionTable :=
  t.alter (A, a) [] fun cell => if cell.contains α then cell else cell ++ [α]

/-- The alternatives of a cell. -/
def cell (t : PredictionTable) (A a : Symbol) : List Alternative := t.getD (A, a) []

/-- The conflicts, in the order of the cells. -/
def conflicts (t : PredictionTable) : List Conflict :=
  (t.entries.filter fun e => 1 < e.2.length).map fun e => ⟨e.1.1, e.1.2, e.2⟩

/-- No cell has more than one alternative. -/
def isLL1 (t : PredictionTable) : Bool := t.conflicts.isEmpty

/-- The terminals that have a column, the end marker last. -/
def terminals (t : PredictionTable) : List Symbol :=
  let columns := NameSet.ofList (t.keys.map Prod.snd)
  (columns.erase endMarker).toList ++ if endMarker ∈ columns then [endMarker] else []

/-- The table for reading: a row for each nonterminal, a column for each terminal. -/
def rows (t : PredictionTable) (g : Grammar) : List Row :=
  g.nonterminals.map fun A =>
    .ofList <| ("No Terminal", A) :: t.terminals.map fun a =>
      (a, renderChoices (fun α => A ++ " -> " ++ α.render) (t.cell A a))

end PredictionTable

namespace Grammar

/-- The terminals that predict an alternative of `A`: those of its FIRST set, and if it can vanish
those of FOLLOW. -/
def predict (g : Grammar) (first follow : SymbolSets) (A : Symbol) (α : Alternative) : List Symbol :=
  let F := firstOf first g.isNonterminal α
  (F.erase epsilon).toList ++ if epsilon ∈ F then (follow.getD A ∅).toList else []

/-- The predictive table for given FIRST and FOLLOW sets. -/
def predictionTable (g : Grammar) (first follow : SymbolSets) : PredictionTable :=
  g.productions.foldl
    (fun t p => (g.predict first follow p.1 p.2).foldl (fun t a => t.register p.1 a p.2) t) ∅

end Grammar

/-- The members of a set for reading. -/
def NameSet.render (s : NameSet) : String := ", ".intercalate s.toList

/-- FIRST and FOLLOW sets for reading: a row for each nonterminal that has a FIRST set. -/
def symbolSetRows (first follow : SymbolSets) : List Row :=
  first.entries.map fun e =>
    .ofList [("No Terminal", e.1), ("FIRST", e.2.render), ("FOLLOW", (follow.getD e.1 ∅).render)]

end FormalLanguages
