import FormalLanguages.Automaton.Basic
import FormalLanguages.Row
/-!
# Showing an automaton

An automaton is shown as a table, with a row for each state and a column for each symbol, and as a
directed graph in the DOT language, in which parallel transitions share an edge.
-/
namespace FormalLanguages.Automaton

/-- A set of targets for reading: a dash for none, braces around several. -/
def renderTargets (targets : NameSet) : String :=
  match targets.toList with
  | [] => "—"
  | [t] => t
  | ts => "\x7b" ++ ", ".intercalate ts ++ "\x7d"

/-- The symbols that have a column: the alphabet, and `ε` if there are transitions on it. -/
def columns (m : Automaton) : List Symbol :=
  m.alphabet ++ if m.transitions.keys.any (·.2 = epsilon) then [epsilon] else []

/-- The marks of a state: an arrow for the start, a star for an accepting state. -/
def marks (m : Automaton) (s : State) : String :=
  (if s = m.start then "→" else "") ++ if s ∈ m.accept then "*" else ""

/-- The table of transitions. -/
def rows (m : Automaton) : List Row :=
  m.states.map fun s =>
    .ofList <| ("Estado", m.marks s ++ s) :: m.columns.map fun a =>
      (a, renderTargets (m.targets s a))

/-- A double quote is written after a backslash; all else is written as it is. -/
def escapeQuotes (cs : List Char) : List Char :=
  cs.flatMap fun c => if c = '"' then ['\\', '"'] else [c]

/-- A string of the DOT language. -/
def dotString (s : String) : String := "\"" ++ String.ofList (escapeQuotes s.toList) ++ "\""

/-- The edges of the graph: for each pair of states that some transition joins, its symbols. -/
def edges (m : Automaton) : OrderedMap (State × State) (List Symbol) :=
  (m.transitions.entries.flatMap fun e => e.2.toList.map fun t => ((e.1.1, t), e.1.2)).foldl
    (fun edges p => edges.alter p.1 [] (· ++ [p.2])) ∅

/-- The statement of a state. -/
def dotNode (m : Automaton) (s : State) : String :=
  let shape := if s ∈ m.accept then "doublecircle" else "circle"
  "  " ++ dotString s ++ " [shape=" ++ shape ++ ", label=" ++ dotString s ++ "];"

/-- The statement of an edge. -/
def dotEdge (e : (State × State) × List Symbol) : String :=
  "  " ++ dotString e.1.1 ++ " -> " ++ dotString e.1.2 ++ " [label=" ++
    dotString (",".intercalate e.2) ++ "];"

/-- The graph of an automaton in the DOT language. -/
def toDot (m : Automaton) (name : String) : String :=
  "\n".intercalate <|
    ["digraph " ++ dotString name ++ " \x7b",
     "  rankdir=LR;",
     "  node [shape=circle, fontname=\"Courier\"];",
     "  __start [shape=point, label=\"\"];"] ++
    m.states.map m.dotNode ++
    ["  __start -> " ++ dotString m.start ++ ";"] ++
    m.edges.entries.map dotEdge ++
    ["\x7d"]

end FormalLanguages.Automaton
