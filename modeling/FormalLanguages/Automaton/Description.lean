import FormalLanguages.Automaton.Basic
import FormalLanguages.Text.Lines
import FormalLanguages.Text.Caseless
/-!
# Automata as text

A description has five sections, each opened by a label: states, alphabet, start, accept and
transitions. A section may be opened again, and sections may come in any order; their contents are
gathered before anything is made of them. States and symbols are numbered in the order in which the
sections mention them: declared states first, then start and accepting states, then those of the
transitions. What cannot be read is skipped and kept.
-/
namespace FormalLanguages

/-- A section of a description. -/
inductive Section where
  | states
  | alphabet
  | start
  | accept
  | transitions
  deriving DecidableEq, Repr

namespace Section

/-- The label in small letters. -/
def label : Section → String
  | states => "states"
  | alphabet => "alphabet"
  | start => "start"
  | accept => "accept"
  | transitions => "transitions"

/-- All sections. -/
def all : List Section := [states, alphabet, start, accept, transitions]

end Section

/-- The heading above a line: a section, or a label that is spelled with letters outside of ASCII and
so belongs to no section. -/
inductive Heading where
  | section (s : Section)
  | unknown (label : String)
  deriving DecidableEq

/-- A transition as it is written: from a state, on a symbol, to some states. -/
structure TransitionEntry where
  source : State
  symbol : Symbol
  targets : List State
  deriving DecidableEq

/-- Why a text describes no automaton. -/
inductive DescriptionError where
  /-- A label that belongs to no section has contents. -/
  | unknownSection (label : String)
  /-- No state is mentioned. -/
  | noState
  deriving DecidableEq

/-- The wording of an error. -/
def DescriptionError.message : DescriptionError → String
  | unknownSection label => label
  | noState => "Error: no se pudo determinar ningún estado (sección 'States:')"

namespace Description

/-- The heading in front of a colon, and what comes after the colon, if the line has the label of
`s`. -/
def headingOf? (line : List Char) (s : Section) : Option (Heading × List Char) :=
  match Text.dropCaseOf s.label.toList line with
  | none => none
  | some (spelling, rest) =>
    match Text.trimStart rest with
    | ':' :: content =>
      let label := String.ofList (Text.lowered spelling)
      some (if label = s.label then .section s else .unknown label, Text.trim content)
    | _ => none

/-- The heading and the content of a line with a label. -/
def heading? (line : List Char) : Option (Heading × List Char) :=
  Section.all.findSome? (headingOf? line)

/-- Pairs every content with the heading that it stands under; `current` is the last heading. -/
def underHeadings : (current : Option Heading) → (lines : List (List Char)) →
    List (Option Heading × List Char)
  | _, [] => []
  | current, line :: lines =>
    match heading? line with
    | some (h, content) =>
      if content.isEmpty then underHeadings (some h) lines
      else (some h, content) :: underHeadings (some h) lines
    | none => (current, line) :: underHeadings current lines

/-- The contents of a section, in order. -/
def contentsOf (contents : List (Option Heading × List Char)) (s : Section) : List (List Char) :=
  (contents.filter fun c => c.1 = some (.section s)).map Prod.snd

/-- The first label with contents that belongs to no section. -/
def unknownLabel? (contents : List (Option Heading × List Char)) : Option String :=
  contents.findSome? fun c =>
    match c.1 with
    | some (.unknown label) => some label
    | _ => none

/-- The names in the lists of a section, divided by commas. -/
def names (contents : List (Option Heading × List Char)) (s : Section) : List String :=
  (contentsOf contents s).flatMap fun line => (Text.entries ',' line).map String.ofList

/-- Reads a transition `q,a->p,r`: exactly one comma in front of the arrow, and a target after it. -/
def transition? (entry : List Char) : Option TransitionEntry :=
  match Text.splitArrow entry with
  | none => none
  | some (left, right) =>
    match (left.splitOn ',').map Text.trim, (Text.entries ',' right).map String.ofList with
    | [source, symbol], t :: ts =>
      if source.isEmpty || symbol.isEmpty then none
      else some ⟨String.ofList source, .ofChars symbol, t :: ts⟩
    | _, _ => none

/-- The entries of the transition section, divided by semicolons. -/
def transitionTexts (contents : List (Option Heading × List Char)) : List (List Char) :=
  (contentsOf contents .transitions).flatMap (Text.entries ';')

end Description

/-- What a text says: the automaton, if it has states, and what was skipped. -/
structure AutomatonReading where
  automaton : Option Automaton
  skipped : List String
  deriving DecidableEq

namespace Automaton

open Description in
/-- What the contents of the sections say. -/
def ofContents (contents : List (Option Heading × List Char)) : AutomatonReading :=
  let texts := transitionTexts contents
  let transitions := texts.filterMap transition?
  let starts := names contents .start
  let accepting := names contents .accept
  let states := (names contents .states ++ starts.take 1 ++ accepting ++
    transitions.flatMap fun t => t.source :: t.targets).eraseDups
  let symbols := (names contents .alphabet).filter (fun a => !isEpsilon a.toList) ++
    (transitions.map (·.symbol)).filter (· ≠ epsilon)
  let outside := (contents.filter (·.1.isNone)).map Prod.snd
  let malformed := texts.filter fun t => (transition? t).isNone
  { automaton := states.head?.map fun first =>
      let m : Automaton :=
        { states, alphabet := symbols.eraseDups, start := starts.head?.getD first,
          accept := .ofList accepting }
      transitions.foldl (fun m t => t.targets.foldl (fun m q => m.addTransition t.source t.symbol q) m) m
    skipped := (outside ++ malformed).map String.ofList }

/-- Reads a description. A label that belongs to no section must have no contents. -/
def read (text : String) : Except DescriptionError AutomatonReading :=
  let contents := Description.underHeadings none (Text.lines text.toList)
  match Description.unknownLabel? contents with
  | some label => .error (.unknownSection label)
  | none => .ok (ofContents contents)

/-- The automaton that a text describes. -/
def parse (text : String) : Except DescriptionError Automaton := do
  match (← read text).automaton with
  | some m => return m
  | none => throw .noState

end Automaton

end FormalLanguages
