import FormalLanguages.Regex.Loop
/-!
# Matching by backtracking

`Expr.run` tries an expression at a spot of the text and hands every spot where it can end, in order
of preference, to a continuation, until the continuation accepts one.
-/
namespace FormalLanguages.Regex

/-- What is matched: the code points, the widths of the groups. -/
structure Subject where
  text : Array Nat
  widths : Nat → Width

/-- What an expression is tried under. -/
structure Setting where
  flags : Flags
  /-- The expression stands inside a loop that gives back. -/
  looping : Bool := false
  /-- What is compared after the expression. -/
  next : Lead := .other

namespace Matcher

/-- Matches one character of a class. -/
def one (subject : Subject) (p : Nat → Bool) : Matcher := fun s k =>
  if subject.text[s.position]?.any p then k (s.moved 1) else .failed s

/-- Matches nothing, at the spots that `p` accepts. -/
def place (p : Spot → Bool) : Matcher := fun s k => if p s then k s else .failed s

/-- Matches the text of a group again. -/
def backref (subject : Subject) (f : Flags) (n : Nat) : Matcher := fun s k =>
  match s.group? n with
  | none => .failed s
  | some (b, e) =>
    let agrees := (List.range (e - b)).all fun i =>
      match subject.text[b + i]?, subject.text[s.position + i]? with
      | some c, some d => sameChar f c d
      | _, _ => false
    if agrees then k (s.moved (e - b)) else .failed s

/-- Looks ahead, or behind from `back` characters before, and goes on from where it stood; what has
been marked on the way stays. -/
def look (back : Nat) (body : Matcher) : Matcher := fun s k =>
  if s.position < back then .failed s
  else
    match body.first { s with position := s.position - back }.handed with
    | .found t => k { t with position := s.position }
    | .failed t => .failed t

/-- Goes on if looking ahead, or behind, finds nothing. -/
def lookNot (looping : Bool) (back : Nat) (body : Matcher) : Matcher := fun s k =>
  if s.position < back then k s
  else
    match body.first { s with position := s.position - back }.handed with
    | .found t => .failed t
    | .failed t => k (s.after looping t)

/-- Tries an alternative, unless its first character does not agree, and then the others. -/
def choose (subject : Subject) (looping : Bool) (lead : Lead) (m others : Matcher) : Matcher :=
  fun s k =>
    if lead.admits subject.text[s.position]? then
      match m s.handed k with
      | .found e => .found e
      | .failed t => others (s.after looping t) k
    else others s k

end Matcher

namespace Anchor

/-- The character at a position is of the class of words. -/
def wordAt (subject : Subject) (f : Flags) (i : Nat) : Bool :=
  (subject.text[i]?).any (NamedClass.word.has f.ascii)

/-- The position is between a word character and another; the ends of the text are no words. -/
def atEdge (subject : Subject) (f : Flags) (i : Nat) : Bool :=
  (i != 0 && wordAt subject f (i - 1)) != wordAt subject f i

/-- The place is at the position. -/
def holds (subject : Subject) (f : Flags) (i : Nat) : Anchor → Bool
  | textStart => i == 0
  | textEnd => i == subject.text.size
  | lineStart => i == 0 || (f.multiLine && subject.text[i - 1]? == some 10)
  | lineEnd =>
    i == subject.text.size ||
      (subject.text[i]? == some 10 && (f.multiLine || i + 1 == subject.text.size))
  | wordEdge => atEdge subject f i
  | notWordEdge => !subject.text.isEmpty && !atEdge subject f i

end Anchor

/-- Matches an expression. -/
def Expr.run (subject : Subject) (e : Setting) : Expr → Matcher
  | empty => fun s k => k s
  | char c => .one subject (literalHas e.flags c)
  | notChar c => .one subject fun n => !literalHas e.flags c n
  | any => .one subject fun n => e.flags.dotAll || n != 10
  | set negated ms => .one subject fun n => setHas e.flags ms n != negated
  | anchor a => .place fun s => a.holds subject e.flags s.position
  | seq r q => fun s k =>
    run subject { e with next := (q.lead e.flags).andThen e.next } r s fun t => run subject e q t k
  | never => fun s _ => .failed s
  | alt r others =>
    .choose subject e.looping (r.lead e.flags)
      (run subject { e with next := .other } r) (run subject e others)
  | capture n r => fun s k =>
    run subject { e with next := .other } r (s.mark (2 * n - 2)) fun t => k (t.mark (2 * n - 1))
  | withFlags d r => run subject { e with flags := e.flags.change d } r
  | atomic r => fun s k =>
    (run subject { e with next := .other } r).first s.handed |>.thenGoOn s.position k
  | times g min max r =>
    match r.oneChar? e.flags with
    | some has =>
      CharLoop.run
        { text := subject.text, has, handsOver := r.isFoldedSet e.flags, counts := ⟨min, max⟩
          looping := e.looping, next := e.next } g
    | none =>
      loop subject.text.size e.looping g ⟨min, max⟩
        (run subject { e with next := .other, looping := e.looping || g != .possessive } r)
  | backref n => .backref subject e.flags n
  | look behind negated r =>
    let back := if behind then (r.width subject.widths).lo else 0
    let body := run subject { e with next := .other } r
    if negated then .lookNot e.looping back body else .look back body
  | conditional n yes no => fun s k =>
    if (s.group? n).isSome then
      run subject { e with next := if no = .empty then e.next else .other } yes s k
    else run subject e no s k

end FormalLanguages.Regex
