/-!
# Regular expressions

The syntax of patterns, as trees. Characters are code points (`Nat`), because an escape can name one
that no text holds. A reader of the notation makes a `Pattern`; a matcher runs it on a text.
-/
namespace FormalLanguages.Regex

/-- The modes that change how a pattern is read or matched. -/
structure Flags where
  /-- Letters match in either case. -/
  ignoreCase : Bool := false
  /-- `^` and `$` match at every line. -/
  multiLine : Bool := false
  /-- `.` matches a line feed as well. -/
  dotAll : Bool := false
  /-- Blanks and comments in the pattern are skipped. -/
  verbose : Bool := false
  /-- The named classes and letter case know ASCII only. -/
  ascii : Bool := false
  /-- The pattern is a template: it may hold no repetition. -/
  template : Bool := false
  deriving DecidableEq, Repr

/-- What a scoped group switches on and off; `ascii` is set when the scope chooses an alphabet. -/
structure FlagChange where
  on : Flags := {}
  off : Flags := {}
  ascii : Option Bool := none
  deriving DecidableEq, Repr

/-- The flags inside a scope. -/
def Flags.change (f : Flags) (d : FlagChange) : Flags where
  ignoreCase := (f.ignoreCase || d.on.ignoreCase) && !d.off.ignoreCase
  multiLine := (f.multiLine || d.on.multiLine) && !d.off.multiLine
  dotAll := (f.dotAll || d.on.dotAll) && !d.off.dotAll
  verbose := (f.verbose || d.on.verbose) && !d.off.verbose
  ascii := d.ascii.getD f.ascii
  template := f.template

/-- The union of two sets of flags. -/
def Flags.union (f g : Flags) : Flags where
  ignoreCase := f.ignoreCase || g.ignoreCase
  multiLine := f.multiLine || g.multiLine
  dotAll := f.dotAll || g.dotAll
  verbose := f.verbose || g.verbose
  ascii := f.ascii || g.ascii
  template := f.template || g.template

/-- The classes that have a letter: `\d`, `\s` and `\w`. -/
inductive NamedClass where
  | digit
  | space
  | word
  deriving DecidableEq, Repr

/-- A member of a character set. -/
inductive Member where
  | single (c : Nat)
  | range (lo hi : Nat)
  | named (complement : Bool) (k : NamedClass)
  deriving DecidableEq, Repr

/-- A place in the text: `^`, `$`, `\A`, `\Z`, `\b` and `\B`. -/
inductive Anchor where
  | lineStart
  | lineEnd
  | textStart
  | textEnd
  | wordEdge
  | notWordEdge
  deriving DecidableEq, Repr

/-- How a repetition chooses its length. -/
inductive Greed where
  /-- As many as possible first. -/
  | greedy
  /-- As few as possible first. -/
  | lazy
  /-- As many as possible, never fewer. -/
  | possessive
  deriving DecidableEq, Repr

/-- The shortest and the longest text that an expression can match. -/
structure Width where
  lo : Nat
  hi : Nat
  deriving DecidableEq, Repr

/-- Shortest widths are counted up to this number, and longest ones up to the next, which stands for
no bound as well; so the two always differ where they are not counted exactly. -/
def Width.limit : Nat := 4294967294

/-- A width of `lo` to `hi` characters. -/
def Width.upTo (lo hi : Nat) : Width := ⟨min lo limit, min hi (limit + 1)⟩

/-- A regular expression. A choice is a chain: `alt` adds an alternative in front of the others, and
`never` ends it. -/
inductive Expr where
  | empty
  | char (c : Nat)
  | notChar (c : Nat)
  | any
  | set (negated : Bool) (members : List Member)
  | anchor (a : Anchor)
  | seq (r s : Expr)
  | never
  | alt (r others : Expr)
  | capture (n : Nat) (r : Expr)
  | withFlags (d : FlagChange) (r : Expr)
  | atomic (r : Expr)
  | times (g : Greed) (min : Nat) (max : Option Nat) (r : Expr)
  | backref (n : Nat)
  | look (behind negated : Bool) (r : Expr)
  | conditional (n : Nat) (yes no : Expr)
  deriving DecidableEq, Repr

namespace Expr

/-- The sequence of some expressions. -/
def ofItems : List Expr → Expr
  | [] => empty
  | [r] => r
  | r :: rs => seq r (ofItems rs)

/-- The expressions that an expression is the sequence of. -/
def items : Expr → List Expr
  | empty => []
  | seq r s => items r ++ items s
  | r => [r]

/-- The choice between some expressions. -/
def ofChoices : List Expr → Expr
  | [] => never
  | r :: rs => alt r (ofChoices rs)

/-- The expression has no expression inside it, so that it can be compared by its text alone. -/
def isPlain : Expr → Bool
  | char _ | notChar _ | any | set _ _ | anchor _ | backref _ => true
  | _ => false

/-- The members of the character set that an expression of one character stands for, unless it is
a complement. -/
def setMembers? : Expr → Option (List Member)
  | char c => some [.single c]
  | set false ms => some ms
  | _ => none

/-- The width of an expression, given the widths of the groups. -/
def width (groups : Nat → Width) : Expr → Width
  | empty | anchor _ | look _ _ _ => ⟨0, 0⟩
  | char _ | notChar _ | any | set _ _ => ⟨1, 1⟩
  | never => ⟨Width.limit, 0⟩
  | seq r s => .upTo ((width groups r).lo + (width groups s).lo)
      ((width groups r).hi + (width groups s).hi)
  | alt r s | conditional _ r s => .upTo (min (width groups r).lo (width groups s).lo)
      (max (width groups r).hi (width groups s).hi)
  | capture _ r | withFlags _ r | atomic r => width groups r
  | times _ lo none r => .upTo ((width groups r).lo * lo)
      (if (width groups r).hi = 0 then 0 else Width.limit + 1)
  | times _ lo (some hi) r => .upTo ((width groups r).lo * lo) ((width groups r).hi * hi)
  | backref n => groups n

/-- Some part of the expression has the property. -/
def someSubexpr (p : Expr → Bool) : Expr → Bool
  | seq r s => p (seq r s) || someSubexpr p r || someSubexpr p s
  | alt r s => p (alt r s) || someSubexpr p r || someSubexpr p s
  | conditional n r s => p (conditional n r s) || someSubexpr p r || someSubexpr p s
  | capture n r => p (capture n r) || someSubexpr p r
  | withFlags d r => p (withFlags d r) || someSubexpr p r
  | atomic r => p (atomic r) || someSubexpr p r
  | times g lo hi r => p (times g lo hi r) || someSubexpr p r
  | look behind negated r => p (look behind negated r) || someSubexpr p r
  | r => p r

end Expr

/-- A pattern that has been read: its expression, its flags, the number of its groups and the width
of each. -/
structure Pattern where
  body : Expr
  flags : Flags
  groups : Nat
  widths : Nat → Width

end FormalLanguages.Regex
