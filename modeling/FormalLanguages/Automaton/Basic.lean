import FormalLanguages.NameSet
import FormalLanguages.OrderedMap
import FormalLanguages.Symbol
/-!
# Finite automata

An automaton moves from a state on an input symbol, or on `ε` without reading, to any state of a set
of targets. Nothing is assumed of the parts: targets need not be declared, and sets of targets may be
empty.
-/
namespace FormalLanguages

/-- The name of a state. -/
abbrev State := String

/-- A finite automaton, deterministic or not. -/
structure Automaton where
  states : List State
  alphabet : List Symbol
  start : State
  accept : NameSet := ∅
  transitions : OrderedMap (State × Symbol) NameSet := ∅
  deriving DecidableEq

namespace Automaton

/-- Where a state leads on a symbol. -/
def targets (m : Automaton) (s : State) (a : Symbol) : NameSet := m.transitions.getD (s, a) ∅

/-- The automaton with one more target. -/
def addTransition (m : Automaton) (s : State) (a : Symbol) (t : State) : Automaton :=
  { m with transitions := m.transitions.alter (s, a) ∅ (·.insert t) }

/-- No transition is on `ε`, and none has two targets. -/
def isDeterministic (m : Automaton) : Bool :=
  m.transitions.entries.all fun e => e.1.2 != epsilon && e.2.size ≤ 1

/-- Every state has a target on every symbol of the alphabet. -/
def isComplete (m : Automaton) : Bool :=
  m.states.all fun s => m.alphabet.all fun a => !(m.targets s a).isEmpty

/-- All targets of all transitions. -/
def allTargets (m : Automaton) : List State := m.transitions.entries.flatMap fun e => e.2.toList

end Automaton

end FormalLanguages
