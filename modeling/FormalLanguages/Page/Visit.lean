/-!
# Visits to a page

A visit is one run of the page: the tool that is chosen, the button that is pressed, whether the box is
checked, and the texts that were entered.
-/
namespace FormalLanguages.Page

/-- The tools of the page. -/
inductive Tool where
  | firstFollow
  | transformation
  | ll1
  | automata
  | regex
  deriving DecidableEq

namespace Tool

/-- All tools in the order in which they are offered. -/
def all : List Tool := [firstFollow, transformation, ll1, automata, regex]

/-- The name under which a tool is offered. -/
def label : Tool → String
  | firstFollow => "FIRST / FOLLOW"
  | transformation => "Transformaciones"
  | ll1 => "LL(1)"
  | automata => "Autómatas"
  | regex => "Regex"

/-- The tool with a name; the first tool if there is none. -/
def ofLabel (label : String) : Tool := (all.find? (·.label = label)).getD firstFollow

end Tool

/-- What a visitor does. -/
structure Visit where
  tool : Tool := .firstFollow
  pressed : Option String := none
  checked : Bool := false
  /-- The texts entered, by the labels of their widgets. -/
  entered : List (String × String) := []

/-- The text of a widget: what was entered, or what it holds at first. -/
def Visit.value (v : Visit) (label initial : String) : String :=
  (v.entered.lookup label).getD initial

/-- The button was pressed. -/
def Visit.presses (v : Visit) (label : String) : Bool := v.pressed = some label

end FormalLanguages.Page
