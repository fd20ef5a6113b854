import FormalLanguages.Grammar.Factoring
import FormalLanguages.Grammar.Prediction
/-!
# Analysis of a grammar that is given as text

From a text to the sets of its grammar, and on to the predictive table, if wanted after the grammar has
been prepared for it.
-/
namespace FormalLanguages

/-- A grammar with its sets. -/
structure SymbolAnalysis where
  grammar : Grammar
  start : Symbol
  first : SymbolSets
  follow : SymbolSets

/-- A grammar with its sets and its predictive table. -/
structure LL1Analysis extends SymbolAnalysis where
  table : PredictionTable

/-- Why a text has no predictive table. -/
inductive LL1Error where
  | grammar (e : GrammarError)
  | transform (e : TransformError)
  deriving DecidableEq

namespace Grammar

/-- The sets of a grammar. -/
def analyzeSymbols (g : Grammar) (start : Symbol) : SymbolAnalysis where
  grammar := g
  start := start
  first := g.first
  follow := g.follow g.first start

/-- The sets and the table of a grammar. -/
def analyzeLL1 (g : Grammar) (start : Symbol) : LL1Analysis :=
  let sets := g.analyzeSymbols start
  { sets with table := g.predictionTable sets.first sets.follow }

/-- The sets of the grammar that a text writes. -/
def analyzeText (text : String) : Except GrammarError SymbolAnalysis := do
  let (g, start) ← parse text
  return g.analyzeSymbols start

/-- The sets and the table of the grammar that a text writes, prepared first if `transform` holds. -/
def analyzeLL1Text (rounds : Nat) (transform : Bool) (text : String) :
    Except LL1Error LL1Analysis := do
  let (g, start) ← (parse text).mapError .grammar
  let g ← if transform then (g.prepareLL1 rounds).mapError .transform else pure g
  return g.analyzeLL1 start

end Grammar

end FormalLanguages
