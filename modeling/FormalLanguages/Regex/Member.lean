import FormalLanguages.Regex.Syntax
import FormalLanguages.Unicode.Case
import FormalLanguages.Unicode.Numeral
import FormalLanguages.Text.Blank
/-!
# What one character matches

Whether a code point is matched by a literal or a character set, under the flags. With `ignoreCase`
a code point is compared by its small letter:

* a literal without case is compared as it is, and a cased one with all small letters of the same
  capital;
* a set that holds a cased member is asked for the small letter, and each of its members below
  `0x10000` stands for its small letters; a single member from there on is taken as it is written;
* any other set is asked for the code point itself.
-/
namespace FormalLanguages.Regex

/-- Small letters of ASCII. -/
def asciiLower (n : Nat) : Nat := if 0x41 ≤ n && n ≤ 0x5a then n + 32 else n

/-- The letter by which a code point is compared when case is ignored. -/
def Flags.lower (f : Flags) (n : Nat) : Nat := if f.ascii then asciiLower n else Unicode.toLower n

/-- The code point has case. -/
def Flags.cased (f : Flags) (n : Nat) : Bool :=
  if f.ascii then (0x41 ≤ n && n ≤ 0x5a) || (0x61 ≤ n && n ≤ 0x7a) else Unicode.isCased n

/-- Some code point between `lo` and `hi` has case. -/
def Flags.anyCased (f : Flags) (lo hi : Nat) : Bool :=
  if f.ascii then (lo ≤ 0x5a && 0x41 ≤ hi && lo ≤ hi) || (lo ≤ 0x7a && 0x61 ≤ hi && lo ≤ hi)
  else Unicode.anyCased lo hi

/-- The small letters that match `n`. -/
def Flags.alike (f : Flags) (n : Nat) : List Nat := if f.ascii then [n] else Unicode.sameCapital n

/-- The code points whose small letter is `n`. -/
def Flags.loweredTo (f : Flags) (n : Nat) : List Nat :=
  if f.ascii then
    if 0x41 ≤ n && n ≤ 0x5a then []
    else if 0x61 ≤ n && n ≤ 0x7a then [n, n - 32]
    else [n]
  else Unicode.loweredTo n

/-- A named class holds the code point. -/
def NamedClass.has (ascii : Bool) (n : Nat) : NamedClass → Bool
  | digit => if ascii then 0x30 ≤ n && n ≤ 0x39 else Unicode.isDecimalDigit n
  | space =>
    if ascii then (9 ≤ n && n ≤ 13) || n == 0x20 else Text.isBlank (Char.ofNat n)
  | word =>
    if ascii then
      (0x30 ≤ n && n ≤ 0x39) || (0x41 ≤ n && n ≤ 0x5a) || (0x61 ≤ n && n ≤ 0x7a) || n == 0x5f
    else Unicode.isWordChar n

/-- A member holds the code point as it is. -/
def Member.has (ascii : Bool) (n : Nat) : Member → Bool
  | single c => n == c
  | range lo hi => lo ≤ n && n ≤ hi
  | named complement k => k.has ascii n != complement

/-- A member makes its set compare small letters. -/
def Member.cased (f : Flags) : Member → Bool
  | single c => 0x10000 ≤ c || f.cased c
  | range lo hi => 0x10000 ≤ hi || f.anyCased lo hi
  | named _ _ => false

/-- A member holds the small letter `n` when case is ignored. -/
def Member.hasLower (f : Flags) (n : Nat) : Member → Bool
  | single c => if 0x10000 ≤ c then n == c else (f.alike n).contains (f.lower c)
  | range lo hi =>
    ((f.alike n).any fun l => (f.loweredTo l).any fun c => lo ≤ c && c ≤ min hi 0xffff) ||
      (0x10000 ≤ hi &&
        ((lo ≤ n && n ≤ hi) || (lo ≤ Unicode.toUpper n && Unicode.toUpper n ≤ hi)))
  | named complement k => k.has f.ascii n != complement

/-- A set holds the code point. -/
def setHas (f : Flags) (members : List Member) (n : Nat) : Bool :=
  if f.ignoreCase && members.any (·.cased f) then members.any (·.hasLower f (f.lower n))
  else members.any (·.has f.ascii n)

/-- A literal matches the code point. -/
def literalHas (f : Flags) (c n : Nat) : Bool :=
  if f.ignoreCase && f.cased c then (f.alike (f.lower c)).contains (f.lower n) else n == c

/-- Two code points match in a reference to a group. -/
def sameChar (f : Flags) (m n : Nat) : Bool :=
  if f.ignoreCase then f.lower m == f.lower n else m == n

namespace Expr

/-- The characters that an expression of one character matches. -/
def oneChar? (f : Flags) : Expr → Option (Nat → Bool)
  | char c => some (literalHas f c)
  | notChar c => some fun n => !literalHas f c n
  | any => some fun n => f.dotAll || n != 10
  | set negated ms => some fun n => setHas f ms n != negated
  | withFlags d r => oneChar? (f.change d) r
  | _ => none

/-- An expression of one character is a set that compares small letters: a set with a cased member, or
a letter with several small letters. -/
def isFoldedSet (f : Flags) : Expr → Bool
  | char c | notChar c => f.ignoreCase && f.cased c && 1 < (f.alike (f.lower c)).length
  | set _ ms => f.ignoreCase && ms.any (·.cased f)
  | withFlags d r => isFoldedSet (f.change d) r
  | _ => false

end Expr

end FormalLanguages.Regex
