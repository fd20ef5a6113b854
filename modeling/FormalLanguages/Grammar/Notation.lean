import FormalLanguages.Grammar.Token
import FormalLanguages.Text.Lines
/-!
# Grammars as text

A grammar is written one production per line, `A -> α | β`. A reading takes every line that has an
arrow with something before it; the other lines are skipped and kept. A nonterminal may be declared
on several lines.
-/
namespace FormalLanguages

/-- What a line says. -/
inductive GrammarLine where
  | declaration (A : Symbol) (alternatives : List Alternative)
  | skipped (text : String)
  deriving DecidableEq

/-- Reads a line that is trimmed and not blank. -/
def GrammarLine.read (line : List Char) : GrammarLine :=
  match Text.splitArrow line with
  | none => .skipped (String.ofList line)
  | some (left, right) =>
    let A := Text.trim left
    if A.isEmpty then .skipped (String.ofList line)
    else .declaration (String.ofList A) ((right.splitOn '|').map Alternative.read)

/-- What a text says: its grammar, the nonterminal declared first, and the lines skipped. -/
structure GrammarReading where
  grammar : Grammar := ∅
  start : Option Symbol := none
  skipped : List String := []

/-- Why a text is no grammar. -/
inductive GrammarError where
  | noProduction
  deriving DecidableEq

/-- The wording of an error. -/
def GrammarError.message : GrammarError → String
  | noProduction => "Error: no se reconoció ninguna producción (formato 'A -> α | β')"

namespace GrammarReading

/-- A reading with one more line. -/
def addLine (r : GrammarReading) : GrammarLine → GrammarReading
  | .declaration A alternatives =>
    { r with grammar := r.grammar.add A alternatives, start := r.start.or (some A) }
  | .skipped text => { r with skipped := r.skipped ++ [text] }

/-- The error of a reading that found no production. -/
def error? (r : GrammarReading) : Option GrammarError :=
  if r.start.isNone then some .noProduction else none

end GrammarReading

namespace Grammar

/-- The lines of a text. -/
def readLines (text : String) : List GrammarLine := (Text.lines text.toList).map GrammarLine.read

/-- Reads a text. -/
def read (text : String) : GrammarReading := (readLines text).foldl .addLine {}

/-- The grammar of a text with its start symbol. -/
def parse (text : String) : Except GrammarError (Grammar × Symbol) :=
  match (read text).start with
  | some start => .ok ((read text).grammar, start)
  | none => .error .noProduction

end Grammar

/-- An alternative as it is written. -/
def Alternative.render (α : Alternative) : String := " ".intercalate α

/-- A production as it is written. -/
def renderDeclaration (A : Symbol) (alternatives : List Alternative) : String :=
  A ++ " -> " ++ " | ".intercalate (alternatives.map Alternative.render)

/-- A grammar as it is written, one line for each nonterminal. -/
def Grammar.render (g : Grammar) : String :=
  "\n".intercalate (g.entries.map fun e => renderDeclaration e.1 e.2)

end FormalLanguages
