import FormalLanguages.Automaton.Basic
import FormalLanguages.FreshName
/-!
# Completion

An automaton is completed by one dead state, to which all missing transitions lead, its own among them.
An automaton that misses none is left as it is.
-/
namespace FormalLanguages.Automaton

/-- The pairs of a state and a symbol without targets. -/
def missing (m : Automaton) : List (State × Symbol) :=
  (m.states.flatMap fun s => m.alphabet.map fun a => (s, a)).filter fun p =>
    (m.targets p.1 p.2).isEmpty

/-- The automaton with a target for every state and symbol. The dead state is named `∅`, with primes if
the name is taken. -/
def complete (m : Automaton) : Automaton :=
  if m.missing.isEmpty then m
  else
    let dead := freshName "∅" "" m.states "'"
    let pairs := m.missing ++ m.alphabet.map fun a => (dead, a)
    { m with
      states := m.states ++ [dead]
      transitions := pairs.foldl (fun t p => t.insert p (.singleton dead)) m.transitions }

end FormalLanguages.Automaton
