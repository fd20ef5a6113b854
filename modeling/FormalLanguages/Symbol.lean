import FormalLanguages.Text.Caseless
/-!
# Symbols

The symbols of grammars and the input symbols of automata are names. `ε` stands for the empty word; the
word `epsilon`, in any case, is another spelling of it.
-/
namespace FormalLanguages

/-- A terminal, a nonterminal, an input symbol or `ε`. -/
abbrev Symbol := String

/-- The symbol of the empty word. -/
def epsilon : Symbol := "ε"

/-- The text is `ε` or the word `epsilon` in some case. -/
def isEpsilon (cs : List Char) : Bool := cs == ['ε'] || Text.isCaseOf "epsilon".toList cs

/-- The symbol that a text spells. -/
def Symbol.ofChars (cs : List Char) : Symbol := if isEpsilon cs then epsilon else String.ofList cs

end FormalLanguages
