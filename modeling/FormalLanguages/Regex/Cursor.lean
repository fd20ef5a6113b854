import FormalLanguages.Regex.Syntax
import FormalLanguages.Regex.Error
/-!
# Reading a pattern token by token

A pattern is read as tokens: single characters, and a backslash with the character after it. The
state of the reader holds what is unread and what the parts read so far have declared: groups, their
names and widths, and flags. A backslash at the very end is refused as soon as it comes next.
-/
namespace FormalLanguages.Regex

/-- A character, or a backslash with a character. -/
inductive Token where
  | plain (c : Char)
  | escaped (c : Char)
  deriving DecidableEq, Repr

/-- The characters of a token. -/
def Token.text : Token → List Char
  | plain c => [c]
  | escaped c => ['\\', c]

/-- What is unread, and what has been declared so far. -/
structure ReaderState where
  rest : List Char
  position : Nat := 0
  flags : Flags
  /-- How many groups have been opened. -/
  opened : Nat := 0
  /-- The named groups. -/
  names : List (List Char × Nat) := []
  /-- The closed groups with their widths. -/
  closed : List (Nat × Width) := []
  /-- Inside a look-behind: how many groups were open before it, plus one. -/
  lookBehindFrom : Option Nat := none
  /-- The groups that conditions name by number, and where. -/
  conditions : List (Nat × Nat) := []

/-- Readers of parts of a pattern. -/
abbrev Read := StateT ReaderState (Except PatternError)

namespace Read

/-- Fails at a position. -/
def failAt {α : Type} (position : Nat) (f : Fault) : Read α := throw (.fault f (some position))

/-- Fails where the next token starts. -/
def failHere {α : Type} (f : Fault) : Read α := do failAt (← get).position f

/-- Fails some characters before the next token. -/
def failBack {α : Type} (n : Nat) (f : Fault) : Read α := do failAt ((← get).position - n) f

/-- The next token. -/
def peek : Read (Option Token) := do
  match (← get).rest with
  | [] => return none
  | '\\' :: c :: _ => return some (.escaped c)
  | c :: _ => return some (.plain c)

/-- Goes on after the next token. -/
def skip : Read Unit := do
  match ← peek with
  | none => return
  | some t =>
    let n := t.text.length
    modify fun s => { s with rest := s.rest.drop n, position := s.position + n }
    if (← get).rest = ['\\'] then failHere .danglingBackslash

/-- The next token, and goes on after it. -/
def take : Read (Option Token) := do
  let t ← peek
  skip
  return t

/-- Goes on after the character if it is next, and says whether it was. -/
def accept (c : Char) : Read Bool := do
  if (← peek) = some (.plain c) then
    skip
    return true
  else return false

/-- At most `n` characters of a class. -/
def takeUpTo (p : Char → Bool) : Nat → Read (List Char)
  | 0 => return []
  | n + 1 => do
    match ← peek with
    | some (.plain c) =>
      if p c then
        skip
        return c :: (← takeUpTo p n)
      else return []
    | _ => return []

/-- All the characters of a class that come next. -/
def takeWhile (p : Char → Bool) : Read (List Char) := do takeUpTo p (← get).rest.length

/-- The characters of a name up to its terminator, after those in `name`. -/
def takeNameAfter (terminator : Char) (missing : Fault) : Nat → List Char → Read (List Char)
  | 0, name => return name
  | n + 1, name => do
    match ← take with
    | none =>
      if name.isEmpty then failHere missing
      else failBack name.length (.unterminatedName terminator)
    | some t =>
      if t = .plain terminator then
        if name.isEmpty then failBack 1 missing else return name
      else takeNameAfter terminator missing n (name ++ t.text)

/-- A name that is not empty, and goes on after its terminator. -/
def takeName (terminator : Char) (missing : Fault) : Read (List Char) := do
  takeNameAfter terminator missing ((← get).rest.length + 1) []

/-- Goes on after the next token of one character `c`; false at the end of the pattern. -/
def skipPast (c : Char) : Nat → Read Bool
  | 0 => return false
  | n + 1 => do
    match ← take with
    | none => return false
    | some t => if t = .plain c then return true else skipPast c n

/-- Refuses a reference, from inside a look-behind, to a group that is open or that the look-behind
itself has declared. -/
def checkLookBehind (group : Nat) : Read Unit := do
  let s ← get
  match s.lookBehindFrom with
  | none => return
  | some n =>
    if (s.closed.lookup group).isNone then failHere .openGroupReference
    if n ≤ group then failHere .groupOfSameLookBehind

end Read

end FormalLanguages.Regex
