import FormalLanguages.Automaton.Subset
import FormalLanguages.Automaton.Completion
import FormalLanguages.Automaton.Minimal
/-!
# Editing an automaton

An automaton is edited by steps; it can be saved and restored, the last one saved first.
-/
namespace FormalLanguages

/-- An automaton that is being edited, and those that were saved. -/
structure AutomatonEditor where
  current : Automaton
  saved : List Automaton := []

/-- A step of editing. -/
inductive AutomatonEdit where
  | add (source : State) (symbol : Symbol) (target : State)
  | save
  | restore
  | determinize
  | complete
  | trim
  | minimize

namespace AutomatonEditor

/-- Makes a step; only minimization can fail. -/
def apply (e : AutomatonEditor) : AutomatonEdit → Except MinimizeError AutomatonEditor
  | .add s a t => .ok { e with current := e.current.addTransition s a t }
  | .save => .ok { e with saved := e.current :: e.saved }
  | .restore =>
    match e.saved with
    | [] => .ok e
    | m :: saved => .ok { current := m, saved }
  | .determinize => .ok { e with current := e.current.determinize }
  | .complete => .ok { e with current := e.current.complete }
  | .trim => .ok { e with current := e.current.trim }
  | .minimize => e.current.minimize.map fun m => { e with current := m }

end AutomatonEditor

end FormalLanguages
