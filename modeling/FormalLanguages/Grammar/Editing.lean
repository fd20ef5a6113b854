import FormalLanguages.Grammar.Factoring
import FormalLanguages.Grammar.Notation
/-!
# Editing a grammar

A grammar is edited by steps. A transformation makes a new version; appending a symbol changes the
current version itself, so whoever refers to that version by its number sees the change.
-/
namespace FormalLanguages

/-- A way to transform a grammar. -/
inductive Transformation where
  | eliminateLeftRecursion
  | leftFactor
  | prepareLL1
  deriving DecidableEq

/-- Transforms a grammar. -/
def Transformation.apply (rounds : Nat) : Transformation → Grammar → Except TransformError Grammar
  | eliminateLeftRecursion => Grammar.eliminateLeftRecursion rounds
  | leftFactor => Grammar.leftFactor
  | prepareLL1 => Grammar.prepareLL1 rounds

/-- The grammar with a symbol more at the end of an alternative of `A`, if it has that many. -/
def Grammar.appendSymbol (g : Grammar) (A : Symbol) (index : Nat) (s : Symbol) : Grammar :=
  g.mapValues fun B alternatives =>
    if B = A then alternatives.modify index (· ++ [s]) else alternatives

/-- The versions of a grammar that is being edited. -/
structure GrammarEditor where
  /-- The versions that have been replaced, in the order in which they were made. -/
  replaced : List Grammar := []
  current : Grammar

namespace GrammarEditor

/-- All versions in the order in which they were made, the current one last. -/
def versions (e : GrammarEditor) : List Grammar := e.replaced ++ [e.current]

/-- A version by its number; the first has number zero. -/
def version (e : GrammarEditor) (n : Nat) : Grammar := e.versions.getD n e.current

/-- The number of the current version. -/
def currentNumber (e : GrammarEditor) : Nat := e.replaced.length

/-- Makes a new version. -/
def replace (e : GrammarEditor) (g : Grammar) : GrammarEditor := ⟨e.versions, g⟩

/-- Appends a symbol to an alternative of the current version. -/
def append (e : GrammarEditor) (A : Symbol) (index : Nat) (s : Symbol) : GrammarEditor :=
  { e with current := e.current.appendSymbol A index s }

/-- Makes a new version by transforming the current one. -/
def transform (rounds : Nat) (t : Transformation) (e : GrammarEditor) :
    Except TransformError GrammarEditor :=
  (t.apply rounds e.current).map e.replace

/-- Writes the current version, and reads what was written. -/
def reread (e : GrammarEditor) : String × GrammarReading :=
  (e.current.render, Grammar.read e.current.render)

end GrammarEditor

end FormalLanguages
