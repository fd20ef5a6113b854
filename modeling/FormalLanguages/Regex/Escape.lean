import FormalLanguages.Regex.Cursor
import FormalLanguages.Unicode.Name
import FormalLanguages.Unicode.Numeral
/-!
# Escapes and character sets

What a backslash and the characters after it stand for, outside and inside of a character set, and
the sets themselves. The reader stands after the token that starts the escape or the set.
-/
namespace FormalLanguages.Regex

/-- The value of a digit of a base up to sixteen. -/
def digitValue (c : Char) : Nat :=
  if c.isDigit then c.toNat - 48 else c.toLower.toNat - 87

/-- The number that some digits write. -/
def numberOf (base : Nat) (digits : List Char) : Nat :=
  digits.foldl (fun n c => n * base + digitValue c) 0

/-- An octal digit. -/
def isOctal (c : Char) : Bool := '0' ≤ c && c ≤ '7'

/-- A hexadecimal digit. -/
def isHex (c : Char) : Bool :=
  c.isDigit || ('a' ≤ c && c ≤ 'f') || ('A' ≤ c && c ≤ 'F')

/-- The control character that a letter names. -/
def controlEscape? : Char → Option Nat
  | 'a' => some 7
  | 'b' => some 8
  | 't' => some 9
  | 'n' => some 10
  | 'v' => some 11
  | 'f' => some 12
  | 'r' => some 13
  | '\\' => some 0x5c
  | _ => none

/-- The class that a letter names; a capital names the complement. -/
def classEscape? : Char → Option Member
  | 'd' => some (.named false .digit)
  | 'D' => some (.named true .digit)
  | 's' => some (.named false .space)
  | 'S' => some (.named true .space)
  | 'w' => some (.named false .word)
  | 'W' => some (.named true .word)
  | _ => none

/-- The place that a letter names. -/
def anchorEscape? : Char → Option Anchor
  | 'A' => some .textStart
  | 'Z' => some .textEnd
  | 'b' => some .wordEdge
  | 'B' => some .notWordEdge
  | _ => none

/-- How many hexadecimal digits follow a letter. -/
def hexDigits? : Char → Option Nat
  | 'x' => some 2
  | 'u' => some 4
  | 'U' => some 8
  | _ => none

namespace Read

/-- The code point that `count` hexadecimal digits name. -/
def hexEscape (c : Char) (count : Nat) : Read Nat := do
  let ds ← takeUpTo isHex count
  let text := '\\' :: c :: ds
  if ds.length < count then failBack text.length (.incompleteEscape text)
  else if numberOf 16 ds ≤ 0x10ffff then return numberOf 16 ds
  else failBack text.length (.badEscape text)

/-- The code point of the character whose name stands between braces. -/
def namedEscape : Read Nat := do
  if !(← accept '\x7b') then failHere .missingBrace
  let name ← takeName '\x7d' .missingCharacterName
  match Unicode.named? name with
  | some n => return n
  | none => failBack (name.length + 4) (.unknownCharacterName name)

/-- The code point that octal digits name, at most `0o377`. -/
def octalEscape (digits : List Char) : Read Nat := do
  if numberOf 8 digits ≤ 0o377 then return numberOf 8 digits
  else failBack (digits.length + 1) (.octalOutOfRange ('\\' :: digits))

/-- A character that stands for itself after a backslash; the letters and digits of ASCII do not. -/
def plainEscape (c : Char) : Read Nat :=
  if c.isAlphanum then failBack 2 (.badEscape ['\\', c]) else return c.toNat

/-- A reference to a group that is closed, by the digits of its number. -/
def groupReference (digits : List Char) : Read Expr := do
  let n := numberOf 10 digits
  let s ← get
  if s.opened < n then failBack digits.length (.invalidGroupReference n)
  else if (s.closed.lookup n).isNone then failBack (digits.length + 1) .openGroupReference
  else
    checkLookBehind n
    return .backref n

/-- One more digit, if one comes next. -/
def digit? (p : Char → Bool) : Read (List Char) := takeUpTo p 1

/-- An escape that starts with a digit other than zero: three octal digits name a character, and one
or two digits a group. -/
def numberEscape (c : Char) : Read Expr := do
  let second ← digit? Char.isDigit
  let third ← if isOctal c && !second.isEmpty && second.all isOctal then digit? isOctal else pure []
  if third.isEmpty then groupReference (c :: second)
  else return .char (← octalEscape (c :: second ++ third))

/-- What an escape stands for, outside of a set. -/
def escape (c : Char) : Read Expr := do
  match anchorEscape? c, classEscape? c, controlEscape? c, hexDigits? c with
  | some a, _, _, _ => return .anchor a
  | _, some m, _, _ => return .set false [m]
  | _, _, some n, _ => return .char n
  | _, _, _, some n => return .char (← hexEscape c n)
  | none, none, none, none =>
    if c = 'N' then return .char (← namedEscape)
    else if c = '0' then return .char (numberOf 8 (← takeUpTo isOctal 2))
    else if c.isDigit then numberEscape c
    else return .char (← plainEscape c)

/-- What an escape stands for, inside of a set. -/
def memberEscape (c : Char) : Read Member := do
  match classEscape? c, controlEscape? c, hexDigits? c with
  | some m, _, _ => return m
  | _, some n, _ => return .single n
  | _, _, some n => return .single (← hexEscape c n)
  | none, none, none =>
    if c = 'N' then return .single (← namedEscape)
    else if isOctal c then return .single (← octalEscape (c :: (← takeUpTo isOctal 2)))
    else return .single (← plainEscape c)

/-- The member that starts with a token. -/
def member : Token → Read Member
  | .plain c => return .single c.toNat
  | .escaped c => memberEscape c

/-- The members up to the closing bracket, after those in `ms`; a bracket that comes first is a member.
`start` is where the set starts. -/
def membersAfter (start : Nat) : Nat → List Member → Read (List Member)
  | 0, ms => return ms
  | n + 1, ms => do
    match ← take with
    | none => failAt start .unterminatedSet
    | some t =>
      if t = .plain ']' ∧ ms ≠ [] then return ms
      else
        let first ← member t
        if ← accept '-' then
          match ← take with
          | none => failAt start .unterminatedSet
          | some u =>
            if u = .plain ']' then return ms ++ [first, .single '-'.toNat]
            else
              let last ← member u
              let bad := failBack (t.text.length + 1 + u.text.length) (.badRange t.text u.text)
              match first, last with
              | .single lo, .single hi =>
                if hi < lo then bad else membersAfter start n (ms ++ [.range lo hi])
              | _, _ => bad
        else membersAfter start n (ms ++ [first])

/-- A character set, whose opening bracket has been read. -/
def charSet : Read Expr := do
  let start := (← get).position - 1
  let negated ← accept '^'
  let ms ← membersAfter start ((← get).rest.length + 1) []
  match ms.eraseDups with
  | [.single c] => return if negated then .notChar c else .char c
  | ms => return .set negated ms

end Read

end FormalLanguages.Regex
