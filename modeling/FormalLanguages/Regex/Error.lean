import FormalLanguages.Regex.Syntax
import FormalLanguages.Unicode.Printable
/-!
# Errors of patterns

Why a text is no pattern, where, and how that is said. A position counts characters from zero; when
the pattern has several lines the line and the column are said as well.
-/
namespace FormalLanguages.Regex

/-- Why a text is no pattern. -/
inductive Fault where
  | danglingBackslash
  | badEscape (text : List Char)
  | incompleteEscape (text : List Char)
  | octalOutOfRange (text : List Char)
  | openGroupReference
  | groupOfSameLookBehind
  | invalidGroupReference (n : Nat)
  | unterminatedSet
  | badRange (first last : List Char)
  | nothingToRepeat
  | multipleRepeat
  | countsReversed
  | unexpectedEnd
  | missingGroupName
  | missingCharacterName
  | missingBrace
  | unknownCharacterName (name : List Char)
  | unterminatedName (terminator : Char)
  | badGroupName (name : List Char)
  | unknownGroupName (name : List Char)
  | redefinedGroup (name : List Char) (new old : Nat)
  | unknownExtension (text : List Char)
  | unterminatedComment
  | unterminatedGroup
  | unbalancedParenthesis
  | groupNumberZero
  | tooManyBranches
  | flagsNotAtStart
  | flagOfBytes
  | alphabetsTogether
  | missingFlagEnd
  | missingFlag
  | missingColon
  | unknownFlag
  | alphabetOff
  | flagOnAndOff
  | globalFlagOn
  | globalFlagOff
  | repetitionInTemplate (g : Greed)
  | unboundedLookBehind
  deriving DecidableEq, Repr

/-- What is wrong with a pattern: a fault, at a position unless it is the whole pattern's; a
repetition count that is out of range; or a look-behind that is too wide to be run. -/
inductive PatternError where
  | fault (f : Fault) (position : Option Nat)
  | countTooLarge
  | lookBehindTooWide
  deriving DecidableEq, Repr

/-- A character inside quotes: escaped by a backslash or by its code when it cannot stand there. -/
def quotedChar (quote c : Char) : List Char :=
  let digits (width n : Nat) : List Char :=
    let ds := Nat.toDigits 16 n
    List.replicate (width - ds.length) '0' ++ ds
  if c = quote ∨ c = '\\' then ['\\', c]
  else if c = '\n' then ['\\', 'n']
  else if c = '\r' then ['\\', 'r']
  else if c = '\t' then ['\\', 't']
  else if Unicode.isPrintable c.toNat then [c]
  else if c.toNat < 0x100 then '\\' :: 'x' :: digits 2 c.toNat
  else if c.toNat < 0x10000 then '\\' :: 'u' :: digits 4 c.toNat
  else '\\' :: 'U' :: digits 8 c.toNat

/-- A text between single quotes, or between double quotes if it holds single quotes only. -/
def quoted (cs : List Char) : List Char :=
  let quote := if cs.contains '\'' && !cs.contains '"' then '"' else '\''
  quote :: cs.flatMap (quotedChar quote) ++ [quote]

/-- The wording of a fault. -/
def Fault.message : Fault → String
  | danglingBackslash => "bad escape (end of pattern)"
  | badEscape t => "bad escape " ++ String.ofList t
  | incompleteEscape t => "incomplete escape " ++ String.ofList t
  | octalOutOfRange t => "octal escape value " ++ String.ofList t ++ " outside of range 0-0o377"
  | openGroupReference => "cannot refer to an open group"
  | groupOfSameLookBehind => "cannot refer to group defined in the same lookbehind subpattern"
  | invalidGroupReference n => "invalid group reference " ++ toString n
  | unterminatedSet => "unterminated character set"
  | badRange a b => "bad character range " ++ String.ofList a ++ "-" ++ String.ofList b
  | nothingToRepeat => "nothing to repeat"
  | multipleRepeat => "multiple repeat"
  | countsReversed => "min repeat greater than max repeat"
  | unexpectedEnd => "unexpected end of pattern"
  | missingGroupName => "missing group name"
  | missingCharacterName => "missing character name"
  | missingBrace => "missing \x7b"
  | unknownCharacterName n => "undefined character name " ++ String.ofList (quoted n)
  | unterminatedName t => "missing " ++ t.toString ++ ", unterminated name"
  | badGroupName n => "bad character in group name " ++ String.ofList (quoted n)
  | unknownGroupName n => "unknown group name " ++ String.ofList (quoted n)
  | redefinedGroup n new old => "redefinition of group name " ++ String.ofList (quoted n) ++
      " as group " ++ toString new ++ "; was group " ++ toString old
  | unknownExtension t => "unknown extension ?" ++ String.ofList t
  | unterminatedComment => "missing ), unterminated comment"
  | unterminatedGroup => "missing ), unterminated subpattern"
  | unbalancedParenthesis => "unbalanced parenthesis"
  | groupNumberZero => "bad group number"
  | tooManyBranches => "conditional backref with more than two branches"
  | flagsNotAtStart => "global flags not at the start of the expression"
  | flagOfBytes => "bad inline flags: cannot use 'L' flag with a str pattern"
  | alphabetsTogether => "bad inline flags: flags 'a', 'u' and 'L' are incompatible"
  | missingFlagEnd => "missing -, : or )"
  | missingFlag => "missing flag"
  | missingColon => "missing :"
  | unknownFlag => "unknown flag"
  | alphabetOff => "bad inline flags: cannot turn off flags 'a', 'u' and 'L'"
  | flagOnAndOff => "bad inline flags: flag turned on and off"
  | globalFlagOn => "bad inline flags: cannot turn on global flag"
  | globalFlagOff => "bad inline flags: cannot turn off global flag"
  | repetitionInTemplate g => "internal: unsupported template operator " ++
      match g with
      | .greedy => "MAX_REPEAT"
      | .lazy => "MIN_REPEAT"
      | .possessive => "POSSESSIVE_REPEAT"
  | unboundedLookBehind => "look-behind requires fixed-width pattern"

/-- Where a position is, in words. -/
def positionText (pattern : List Char) (position : Nat) : String :=
  let before := pattern.take position
  let line := before.count '\n' + 1
  let column := (before.reverse.takeWhile (· ≠ '\n')).length + 1
  let lines := " (line " ++ toString line ++ ", column " ++ toString column ++ ")"
  " at position " ++ toString position ++ if pattern.contains '\n' then lines else ""

/-- The wording of an error of a pattern. -/
def PatternError.message (pattern : List Char) : PatternError → String
  | fault f (some p) => f.message ++ positionText pattern p
  | fault f none => f.message
  | countTooLarge => "the repetition number is too large"
  | lookBehindTooWide => "invalid SRE code"

end FormalLanguages.Regex
