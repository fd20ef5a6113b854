import FormalLanguages.Automaton.Basic
import FormalLanguages.Exploration
/-!
# The subset construction

A state of the deterministic automaton is a set of states of the given one, closed under `ε`-moves.
The sets are found breadth first from the closure of the start state, symbol by symbol in the order of
the alphabet, and are told apart by their names; the empty set is no state.
-/
namespace FormalLanguages

/-- The name of a set of states: its members in ascending order, or `∅`. -/
def subsetName (members : List State) : State :=
  if members.isEmpty then "∅" else ",".intercalate (members.mergeSort (· ≤ ·))

namespace Automaton

/-- What the states lead to by `ε`-moves alone, themselves among it. -/
def closure (m : Automaton) (states : List State) : NameSet :=
  .ofList (reachable (fun s => (m.targets s epsilon).toList) (states.length + m.allTargets.length)
    states)

/-- What the states lead to by one transition on a symbol. -/
def move (m : Automaton) (states : List State) (a : Symbol) : NameSet :=
  .unions (states.map fun s => m.targets s a)

/-- The closure of what a set of states leads to on a symbol. -/
def step (m : Automaton) (T : NameSet) (a : Symbol) : NameSet := m.closure (m.move T.toList a).toList

/-- The sets of states, other than the empty one, to which a set leads. -/
def successors (m : Automaton) (T : NameSet) : List NameSet :=
  (m.alphabet.map (m.step T)).filter fun U => !U.isEmpty

/-- The sets of states that the deterministic automaton has, in the order of their discovery. There are
at most as many as sets made of the start state and of targets. -/
def subsets (m : Automaton) : List NameSet :=
  let first := m.closure [m.start]
  explore (fun T => subsetName T.toList) m.successors (Nat.pow 2 (m.allTargets.length + 1)) [first]
    [first]

/-- The deterministic automaton whose states are sets of states. -/
def determinize (m : Automaton) : Automaton :=
  let subsets := m.subsets
  let name (T : NameSet) := subsetName T.toList
  { states := subsets.map name
    alphabet := m.alphabet
    start := name (m.closure [m.start])
    accept := .ofList ((subsets.filter (·.meets m.accept)).map name)
    transitions := .ofList <| subsets.flatMap fun T =>
      (m.alphabet.map fun a => (a, m.step T a)).filterMap fun (a, U) =>
        if U.isEmpty then none else some ((name T, a), .singleton (name U)) }

end Automaton

end FormalLanguages
