import FormalLanguages.Automaton.Description
import FormalLanguages.Automaton.Subset
import FormalLanguages.Automaton.Completion
import FormalLanguages.Automaton.Minimal
/-!
# Analysis of an automaton that is given as text

From a description to the automaton, the deterministic one, its completion, and the minimal one, which
is made from the deterministic one as it is before the completion.
-/
namespace FormalLanguages

/-- An automaton and what is made of it. -/
structure AutomatonAnalysis where
  nfa : Automaton
  dfa : Automaton
  complete : Automaton
  minimal : Except MinimizeError Automaton

namespace Automaton

/-- What is made of an automaton. -/
def analyze (m : Automaton) : AutomatonAnalysis where
  nfa := m
  dfa := m.determinize
  complete := m.determinize.complete
  minimal := m.determinize.minimize

/-- What is made of the automaton that a text describes. -/
def analyzeText (text : String) : Except DescriptionError AutomatonAnalysis :=
  (parse text).map analyze

end Automaton

end FormalLanguages
