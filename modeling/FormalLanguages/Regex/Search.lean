import FormalLanguages.Regex.Matcher
import FormalLanguages.Regex.Reader
/-!
# All matches in a text

Matches are searched from left to right, each from where the one before it ended. Next to an empty
match, the match that starts at the same place must not be empty.
-/
namespace FormalLanguages.Regex

/-- A match: its text, where it starts, and the text of each group that took part. -/
structure Match where
  text : String
  index : Nat
  groups : List (Option String)
  deriving DecidableEq, Repr

/-- The string of a part of the text. -/
def Subject.slice (subject : Subject) (b e : Nat) : String :=
  String.ofList ((subject.text.toList.drop b).take (e - b) |>.map Char.ofNat)

/-- The match of a pattern that starts at `i`; `moving` refuses an empty one. -/
def Pattern.matchAt (p : Pattern) (subject : Subject) (moving : Bool) (i : Nat) : Option Spot :=
  let accept : Continuation := fun s =>
    if moving && s.position == i then .failed s else .found s.handed
  match p.body.run subject { flags := p.flags } (.start i) accept with
  | .found s => some s
  | .failed _ => none

/-- The first match that starts at `i` or after it, where `opening` allows it; `count` places are
left. -/
def Pattern.firstFrom (p : Pattern) (subject : Subject) (opening : Opening) :
    (count : Nat) → (moving : Bool) → (i : Nat) → Option (Nat × Spot)
  | 0, _, _ => none
  | count + 1, moving, i =>
    let found := if opening.admits subject.text i then p.matchAt subject moving i else none
    match found with
    | some s => some (i, s)
    | none => firstFrom p subject opening count false (i + 1)

/-- The first match in the text from `i` on, which has to be long enough for it. A search that is
tried anywhere goes one place further than the shortest match allows. -/
def Pattern.searchFrom (p : Pattern) (subject : Subject) (moving : Bool) (i : Nat) :
    Option (Nat × Spot) :=
  let size := subject.text.size
  let shortest := p.width.lo
  if size < i + shortest then none
  else
    match p.opening with
    | .anywhere => p.firstFrom subject .anywhere (size + 2 - max shortest 1 - i) moving i
    | opening => p.firstFrom subject opening (size + 1 - i) false i

/-- Why a search was refused. -/
inductive SearchError where
  | unknownFlag (c : Char)
  | invalid (pattern : String) (f : Fault) (position : Option Nat)
  | countTooLarge
  | lookBehindTooWide
  /-- A group ends before it begins. -/
  | crossedGroup
  deriving DecidableEq, Repr

/-- The wording of a refusal. -/
def SearchError.message : SearchError → String
  | unknownFlag c => "Flag desconocida: '" ++ c.toString ++ "'"
  | invalid pattern f position => (PatternError.fault f position).message pattern.toList
  | countTooLarge => PatternError.countTooLarge.message []
  | lookBehindTooWide => PatternError.lookBehindTooWide.message []
  | crossedGroup => "The span of capturing group is wrong, please report a bug for the re module."

/-- The refusal is of what was written: the flags or the pattern. -/
def SearchError.isOfNotation : SearchError → Bool
  | unknownFlag _ | invalid _ _ _ => true
  | _ => false

/-- The text of a group, if it took part. -/
def Spot.groupText (s : Spot) (subject : Subject) (n : Nat) : Except SearchError (Option String) :=
  match s.span? n with
  | none => .ok none
  | some (b, e) => if b ≤ e then .ok (some (subject.slice b e)) else .error .crossedGroup

/-- The match between two positions. -/
def Pattern.toMatch (p : Pattern) (subject : Subject) (start : Nat) (s : Spot) :
    Except SearchError Match := do
  let groups ← (List.range p.groups).mapM fun n => s.groupText subject (n + 1)
  return { text := subject.slice start s.position, index := start, groups }

/-- The matches from `i` on; `moving` holds next to an empty match. A run that ends never searches
twice from one place in the same way, so `count`, twice the number of places, bounds it. -/
def Pattern.matchesFrom (p : Pattern) (subject : Subject) :
    (count : Nat) → (moving : Bool) → (i : Nat) → Except SearchError (List Match)
  | 0, _, _ => return []
  | count + 1, moving, i =>
    match p.searchFrom subject moving i with
    | none => return []
    | some (start, s) => do
      let first ← p.toMatch subject start s
      return first :: (← matchesFrom p subject count (s.position == start) s.position)

/-- All matches of a pattern in a text. -/
def Pattern.matches (p : Pattern) (text : String) : Except SearchError (List Match) :=
  let subject : Subject := ⟨(text.toList.map Char.toNat).toArray, p.widths⟩
  p.matchesFrom subject (2 * subject.text.size + 2) false 0

/-- The flags that some letters ask for; a search is always for all matches, so `g` adds nothing. -/
def flagsOfLetters : List Char → Except SearchError Flags
  | [] => .ok {}
  | c :: cs =>
    if c = 'g' then flagsOfLetters cs
    else match mode? c with
      | some f => (flagsOfLetters cs).map f.union
      | none => .error (.unknownFlag c)

/-- All matches of a pattern in a text, under the flags that some letters ask for. -/
def search (pattern text flags : String) : Except SearchError (List Match) := do
  let f ← flagsOfLetters flags.toList
  match readPattern f pattern.toList with
  | .ok p => p.matches text
  | .error (.fault e position) => .error (.invalid pattern e position)
  | .error .countTooLarge => .error .countTooLarge
  | .error .lookBehindTooWide => .error .lookBehindTooWide

end FormalLanguages.Regex
