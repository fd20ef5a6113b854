import FormalLanguages.Page.Element
import FormalLanguages.Page.Visit
import FormalLanguages.Grammar.Analysis
import FormalLanguages.Grammar.LeftRecursion
import FormalLanguages.Grammar.Report
import FormalLanguages.Automaton.Analysis
import FormalLanguages.Automaton.Display
/-!
# The tools of the page

What each tool shows on a visit. A text that cannot be read is answered by a message on the page; a
visit that fails shows nothing. The LL(1) tool shows the last result that was found, also on visits on
which its button is not pressed.
-/
namespace FormalLanguages.Page

/-- Why a visit fails. -/
inductive Failure where
  | transform (e : TransformError)
  | unknownSection (label : String)
  | search (e : Regex.SearchError)
  deriving DecidableEq

/-- A text in a style. -/
def shown (style : TextStyle) (text : String) : Element := .text style text

/-- A grammar without left recursion, ready for a predictive table. -/
def ll1Example : String := "E -> T E'\nE' -> + T E' | ε\nT -> F T'\nT' -> * F T' | ε\nF -> ( E ) | id\n"

/-- A grammar with left recursion. -/
def recursionExample : String := "E -> E + T | T\nT -> T * F | F\nF -> ( E ) | id\n"

/-- A grammar with alternatives to factor. -/
def factoringExample : String := "A -> a b c | a b d | a x | b y\n"

/-- A nondeterministic automaton. -/
def automatonExample : String :=
  "States: q0,q1,q2\nAlphabet: a,b\nStart: q0\nAccept: q2\n" ++
    "Transitions:\nq0,a->q0,q1\nq0,b->q0\nq1,b->q2\n"

/-! ## FIRST and FOLLOW -/

/-- The sets of a grammar and its diagnosis. -/
def showSymbols (a : SymbolAnalysis) : List Element :=
  let report := a.grammar.report a.start []
  [shown .caption ("Símbolo inicial: **" ++ a.start ++ "**"),
    .table (symbolSetRows a.first a.follow)] ++
  if report.isClean then
    [shown .success "Todos los no terminales son alcanzables y productivos."]
  else
    [shown .warning "La gramática tiene símbolos problemáticos:", .table report.rows]

/-- The tool for FIRST and FOLLOW sets. -/
def firstFollowTool (v : Visit) : List Element :=
  let text := v.value "Gramática:" recursionExample
  let press := "Calcular FIRST / FOLLOW"
  [shown .subheader "FIRST y FOLLOW", .textArea "Gramática:" recursionExample, .button press] ++
  if v.presses press then
    match Grammar.analyzeText (Text.trimmed text) with
    | .ok a => showSymbols a
    | .error e => [shown .error e.message]
  else []

/-! ## Transformations -/

/-- What the elimination of left recursion shows. -/
def showElimination (rounds : Nat) (g : Grammar) : Except TransformError (List Element) := do
  let recursive := g.leftRecursive
  let names := if recursive.isEmpty then "ninguno" else ", ".intercalate recursive
  let result ← g.eliminateLeftRecursion rounds
  return [shown .caption ("Recursivos por la izquierda: " ++ names), .code result.render "none"]

/-- What left factoring shows. -/
def showFactoring (g : Grammar) : Except TransformError (List Element) := do
  return [.code (← g.leftFactor).render "none"]

/-- A button, and what it shows if it is pressed: a message if the text is no grammar. -/
def transformationButton (v : Visit) (label : String) (reading : GrammarReading)
    (result : Grammar → Except TransformError (List Element)) :
    Except TransformError (List Element) := do
  if v.presses label then
    match reading.error? with
    | some e => return [.button label, shown .error e.message]
    | none => return .button label :: (← result reading.grammar)
  else return [.button label]

/-- The tool for left recursion and left factoring. -/
def transformationTool (rounds : Nat) (v : Visit) : Except TransformError (List Element) := do
  let initial := recursionExample ++ factoringExample
  let reading := Grammar.read (Text.trimmed (v.value "Gramática:" initial))
  let skipped := reading.skipped.length
  let eliminated ← transformationButton v "1) Eliminar recursión izquierda" reading
    (showElimination rounds)
  let factored ← transformationButton v "2) Factorizar por la izquierda" reading showFactoring
  return [shown .subheader "Recursión izquierda y factorización", .textArea "Gramática:" initial,
      .columns (.equal 2)] ++
    (if skipped = 0 then [] else [shown .info ("Líneas ignoradas: " ++ toString skipped)]) ++
    eliminated ++ factored

/-! ## Predictive tables -/

/-- A result that is kept: an analysis, and whether the grammar was transformed for it. -/
structure KeptResult where
  analysis : LL1Analysis
  transformed : Bool

/-- What is shown of a result. -/
def showResult (r : KeptResult) : List Element :=
  let a := r.analysis
  let conflicts := a.table.conflicts
  (if r.transformed then [.code a.grammar.render "none"] else []) ++
  [.table (symbolSetRows a.first a.follow), .table (a.table.rows a.grammar)] ++
  if conflicts.isEmpty then [shown .success "Sin conflictos: la gramática es LL(1)."]
  else shown .error "⚠️ Conflictos detectados:" ::
    conflicts.map fun c => shown .plain ("- " ++ c.message)

/-- The label of the button that builds a table. -/
def buildLabel : String := "Construir tabla LL(1)"

/-- What a visit finds: nothing new unless the button is pressed. -/
def buildResult (rounds : Nat) (v : Visit) : Except LL1Error (Option KeptResult) := do
  if v.presses buildLabel then
    let text := Text.trimmed (v.value "Gramática:" ll1Example)
    let analysis ← Grammar.analyzeLL1Text rounds v.checked text
    return some { analysis, transformed := v.checked }
  else return none

/-- The tool for predictive tables: the result to be kept, and what is shown. -/
def ll1Tool (rounds : Nat) (kept : Option KeptResult) (v : Visit) :
    Except TransformError (Option KeptResult × List Element) :=
  let heading := [shown .subheader "Tabla predictiva LL(1)", .textArea "Gramática:" ll1Example,
    .checkbox "Eliminar recursión y factorizar antes de construir la tabla", .button buildLabel]
  let result (kept : Option KeptResult) := (kept.map showResult).getD []
  match buildResult rounds v with
  | .ok new => .ok (new.or kept, heading ++ result (new.or kept))
  | .error (.grammar e) => .ok (kept, heading ++ [shown .error e.message] ++ result kept)
  | .error (.transform e) => .error e

/-! ## Automata -/

/-- An automaton with its table and its graph. -/
def showAutomaton (title : String) (m : Automaton) : List Element :=
  [shown .markdown ("**" ++ title ++ "**: " ++ toString m.states.length ++ " estados"),
    .table m.rows, shown .graph (m.toDot title)]

/-- An automaton and what is made of it. -/
def showAutomata (a : AutomatonAnalysis) : List Element :=
  showAutomaton "AFN" a.nfa ++ showAutomaton "AFD (subconjuntos)" a.dfa ++
  showAutomaton "AFD completo" a.complete ++
  match a.minimal with
  | .ok m => showAutomaton "AFD mínimo" m
  | .error e => [shown .error e.message]

/-- The tool for automata. -/
def automataTool (v : Visit) : Except Failure (List Element) :=
  let heading := [shown .subheader "AFN → AFD → AFD mínimo", .textArea "Autómata:" automatonExample,
    .button "Convertir"]
  if v.presses "Convertir" then
    match Automaton.analyzeText (v.value "Autómata:" automatonExample) with
    | .ok a => .ok (heading ++ showAutomata a)
    | .error .noState => .ok (heading ++ [shown .error DescriptionError.noState.message])
    | .error (.unknownSection label) => .error (.unknownSection label)
  else .ok heading

/-! ## Regular expressions -/

/-- The tool for regular expressions. -/
def regexTool (v : Visit) : Except Failure (List Element) :=
  let pattern := "\\b\\d+\\b"
  let text := "Pedidos: 42, 256 y 1024."
  let heading := [shown .subheader "Probador de expresiones regulares", .columns (.weighted [3, 1]),
    .textInput "Patrón:" pattern, .textInput "Flags:" "g", .textArea "Texto:" text, .button "Probar"]
  if v.presses "Probar" then
    match Regex.search (v.value "Patrón:" pattern) (v.value "Texto:" text) (v.value "Flags:" "g") with
    | .ok found => .ok (heading ++ [.matches found])
    | .error e =>
      if e.isOfNotation then .ok (heading ++ [shown .error ("Patrón inválido: " ++ e.message)])
      else .error (.search e)
  else .ok heading

end FormalLanguages.Page
