import FormalLanguages.Page.Tools
/-!
# Sessions

A session is a sequence of visits. Between visits only the last result of the LL(1) tool is kept; a
visit that fails leaves it as it is.
-/
namespace FormalLanguages.Page

/-- What is kept between visits. -/
structure Session where
  ll1 : Option KeptResult := none

/-- What every visit shows first. -/
def heading : List Element :=
  [.configuration "Gramáticas y Autómatas",
    shown .title "Herramientas de Compiladores: gramáticas y autómatas",
    shown .caption "Formato: `A -> α | β` (una producción por línea). ε o `epsilon` para la cadena vacía.",
    .choice "Herramienta" (Tool.all.map Tool.label)]

/-- A visit: the session after it, and what it shows. -/
def Session.visit (rounds : Nat) (s : Session) (v : Visit) :
    Except Failure (Session × List Element) := do
  match v.tool with
  | .firstFollow => return (s, heading ++ firstFollowTool v)
  | .transformation => return (s, heading ++ (← (transformationTool rounds v).mapError .transform))
  | .ll1 =>
    let (kept, elements) ← (ll1Tool rounds s.ll1 v).mapError .transform
    return ({ ll1 := kept }, heading ++ elements)
  | .automata => return (s, heading ++ (← automataTool v))
  | .regex => return (s, heading ++ (← regexTool v))

/-- The session after a visit. -/
def Session.after (rounds : Nat) (s : Session) (v : Visit) : Session :=
  match s.visit rounds v with
  | .ok (s, _) => s
  | .error _ => s

/-- What the visits of a session show, one after another. -/
def Session.run (rounds : Nat) (s : Session) : List Visit → List (Except Failure (List Element))
  | [] => []
  | v :: visits => (s.visit rounds v).map Prod.snd :: (s.after rounds v).run rounds visits

end FormalLanguages.Page
