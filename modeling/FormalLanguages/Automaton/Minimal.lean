import FormalLanguages.Automaton.Basic
import FormalLanguages.Exploration
/-!
# Minimization

States that no word tells apart are merged. The states that can be reached are divided into blocks,
first by acceptance, then again and again by the blocks that their transitions lead to, until no block
is divided. A missing transition counts as a block of its own. Of several targets the least counts.
-/
namespace FormalLanguages

/-- Why an automaton has no minimal one. -/
inductive MinimizeError where
  /-- There is no state, or the start is none. -/
  | noState
  /-- An accepting state or a target is not declared. -/
  | undeclared (s : State)
  deriving DecidableEq

/-- The wording of an error. -/
def MinimizeError.message : MinimizeError → String
  | noState => "Error: el autómata no tiene estados"
  | undeclared s => s

/-- States that are not told apart. -/
abbrev Block := List State

/-- The name of a block: its only state, or its states in ascending order between braces. -/
def Block.name (b : Block) : State :=
  match b with
  | [s] => s
  | _ => "\x7b" ++ ",".intercalate (b.mergeSort (· ≤ ·)) ++ "\x7d"

namespace Automaton

/-- The states that the start leads to, declared or not. -/
def reachableStates (m : Automaton) : List State :=
  reachable (fun s => (m.transitions.entries.filter (·.1.1 = s)).flatMap (·.2.toList))
    (m.allTargets.length + 1) [m.start]

/-- The automaton without the states that the start does not lead to. -/
def trim (m : Automaton) : Automaton :=
  let reached := m.reachableStates
  { m with
    states := m.states.filter (· ∈ reached)
    accept := m.accept.filter (· ∈ reached)
    transitions := m.transitions.filter fun p _ => p.1 ∈ reached }

/-- The least target. -/
def target? (m : Automaton) (s : State) (a : Symbol) : Option State := (m.targets s a).least?

/-- The number of the block that holds a state. -/
def blockIndex? (blocks : List Block) (s : State) : Option Nat := blocks.findIdx? (s ∈ ·)

/-- The blocks that a state leads to, symbol by symbol. -/
def signature (m : Automaton) (blocks : List Block) (s : State) : List (Option Nat) :=
  m.alphabet.map fun a => (m.target? s a).bind (blockIndex? blocks)

/-- Divides a block by the signatures of its states, in the order in which they first occur. -/
def splitBlock (m : Automaton) (blocks : List Block) (b : Block) : List Block :=
  ((b.map (m.signature blocks)).eraseDups).map fun σ => b.filter fun s => m.signature blocks s = σ

/-- Divides all blocks. -/
def refine (m : Automaton) (blocks : List Block) : List Block := blocks.flatMap (m.splitBlock blocks)

/-- Divides until no block is divided; `count` bounds the number of blocks. -/
def refineAll (m : Automaton) : (count : Nat) → List Block → List Block
  | 0, blocks => blocks
  | n + 1, blocks =>
    let next := m.refine blocks
    if next.length = blocks.length then blocks else refineAll m n next

/-- The blocks of states that no word tells apart, the block of the start first. -/
def blocks (m : Automaton) : List Block :=
  let initial := [m.states.filter (· ∈ m.accept), m.states.filter (· ∉ m.accept)].filter
    fun b => !b.isEmpty
  let blocks := m.refineAll m.states.length initial
  blocks.filter (m.start ∈ ·) ++ blocks.filter (m.start ∉ ·)

/-- The name of the block that holds a state. -/
def blockName (blocks : List Block) (s : State) : Except MinimizeError State :=
  match blocks.find? (s ∈ ·) with
  | some b => .ok b.name
  | none => .error (.undeclared s)

/-- The transitions of a block, which are those of its first state. -/
def blockTransitions (m : Automaton) (blocks : List Block) (b : Block) :
    Except MinimizeError (List ((State × Symbol) × NameSet)) :=
  match b with
  | [] => .ok []
  | s :: _ =>
    (m.alphabet.filterMap fun a => (m.target? s a).map fun t => (a, t)).mapM fun (a, t) => do
      return ((b.name, a), .singleton (← blockName blocks t))

/-- The automaton of the blocks. -/
def merged (m : Automaton) (blocks : List Block) : Except MinimizeError Automaton := do
  let start ← blockName blocks m.start
  let accept ← m.accept.toList.mapM (blockName blocks)
  let transitions ← blocks.mapM (m.blockTransitions blocks)
  return { states := blocks.map Block.name, alphabet := m.alphabet, start,
           accept := .ofList accept, transitions := .ofList transitions.flatten }

/-- The minimal automaton: the states that can be reached, merged where no word tells them apart. -/
def minimize (m : Automaton) : Except MinimizeError Automaton :=
  if m.start ∉ m.states then .error .noState else m.trim.merged m.trim.blocks

end Automaton

end FormalLanguages
