import FormalLanguages.Grammar.Basic
import FormalLanguages.Exploration
import FormalLanguages.Inference
import FormalLanguages.Row
/-!
# Diagnosis of a grammar

Which nonterminals are used, reachable from the start symbol and productive. Nothing in a report is an
error; a grammar is clean if nothing is reported. Further nonterminals may be declared from outside;
without alternatives they are never productive.
-/
namespace FormalLanguages

/-- The diagnosis of a grammar. -/
structure GrammarReport where
  /-- The nonterminals with alternatives. -/
  defined : NameSet
  /-- The declared nonterminals that occur in alternatives. -/
  used : NameSet
  /-- The nonterminals that the start symbol leads to. -/
  reachable : NameSet
  /-- The nonterminals that derive a word. -/
  productive : NameSet
  /-- The start symbol, which nothing has to use. -/
  start : Symbol

namespace GrammarReport

/-- Used, but without alternatives. -/
def undefined (r : GrammarReport) : NameSet := r.used.diff r.defined

/-- Defined, but the start symbol does not lead there. -/
def unreachable (r : GrammarReport) : NameSet := r.defined.diff r.reachable

/-- Defined, but in no alternative, and not the start symbol. -/
def neverUsed (r : GrammarReport) : NameSet := (r.defined.diff r.used).erase r.start

/-- Defined, but deriving no word. -/
def nonProductive (r : GrammarReport) : NameSet := r.defined.diff r.productive

/-- Nothing is reported. -/
def isClean (r : GrammarReport) : Bool :=
  r.undefined.isEmpty && r.unreachable.isEmpty && r.neverUsed.isEmpty && r.nonProductive.isEmpty

/-- A reported set for reading; a dash for none. -/
def renderSet (s : NameSet) : String :=
  match ", ".intercalate s.toList with
  | "" => "—"
  | text => text

/-- The report for reading. -/
def rows (r : GrammarReport) : List Row :=
  [("No definidos", r.undefined), ("Inalcanzables", r.unreachable), ("Nunca usados", r.neverUsed),
    ("No productivos", r.nonProductive)].map fun e =>
      .ofList [("Diagnóstico", e.1), ("Símbolos", renderSet e.2)]

end GrammarReport

namespace Grammar

/-- The nonterminals that the start symbol leads to, itself among them if it has alternatives. -/
def reachableFrom (g : Grammar) (start : Symbol) : NameSet :=
  if g.isNonterminal start then
    let next A := (g.alternatives A).flatten.filter g.isNonterminal
    .ofList (reachable next (g.occurrences.length + 1) [start])
  else ∅

/-- The nonterminals that derive a word of terminals; `extra` are nonterminals declared from outside. -/
def productive (g : Grammar) (extra : List Symbol) : NameSet :=
  let needed s := s ≠ epsilon ∧ (g.isNonterminal s ∨ s ∈ extra)
  .ofList (consequences (g.productions.map fun p => (p.1, p.2.filter needed)))

/-- The diagnosis of a grammar. -/
def report (g : Grammar) (start : Symbol) (extra : List Symbol) : GrammarReport where
  defined := .ofList g.nonterminals
  used := .ofList (g.occurrences.filter fun s => g.isNonterminal s ∨ s ∈ extra)
  reachable := g.reachableFrom start
  productive := g.productive extra
  start := start

end Grammar

end FormalLanguages
