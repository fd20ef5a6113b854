import FormalLanguages.Grammar.Elimination
/-!
# Left factoring

Alternatives of one nonterminal that begin with the same symbol are merged: what they all begin with
is written once, and a new nonterminal derives what they go on with. This is repeated while there are
such alternatives; each time fewer symbols that the grammar began with are left.
-/
namespace FormalLanguages.Grammar

/-- What two sequences begin with. -/
def commonStart : List Symbol → List Symbol → List Symbol
  | a :: as, b :: bs => if a = b then a :: commonStart as bs else []
  | _, _ => []

/-- What all sequences begin with. -/
def commonPrefix : List Alternative → List Symbol
  | [] => []
  | α :: others => others.foldl commonStart α

/-- The first symbol other than `ε` with which two alternatives begin. -/
def sharedHead? (alternatives : List Alternative) : Option Symbol :=
  (alternatives.filterMap List.head?).find? fun s =>
    s ≠ epsilon ∧ 2 ≤ alternatives.countP fun α => α.head? = some s

/-- Puts `merged` in the place of the first alternative that begins with `s`, and drops the others. -/
def mergeAlternatives (s : Symbol) (merged : Alternative) : List Alternative → List Alternative
  | [] => []
  | α :: rest =>
    if α.head? = some s then merged :: rest.filter (fun β => β.head? ≠ some s)
    else α :: mergeAlternatives s merged rest

/-- What an alternative goes on with after `n` symbols. -/
def remainder (n : Nat) (α : Alternative) : Alternative :=
  match α.drop n with
  | [] => [epsilon]
  | γ => γ

/-- Merges the alternatives of `A` that begin with `s`. -/
def extract (g : Grammar) (taken : NameSet) (A s : Symbol) : Grammar × NameSet :=
  let alternatives := g.alternatives A
  let members := alternatives.filter fun α => α.head? = some s
  let start := commonPrefix members
  let new := freshName A "_fact" taken.toList "_"
  ((g.insert A (mergeAlternatives s (start ++ [new]) alternatives)).insert new
    (members.map (remainder start.length)).eraseDups, taken.insert new)

/-- The first nonterminal that has alternatives to merge, and the symbol with which they begin. Of a
nonterminal with two alternatives or more, none may be empty. -/
def findShared? :
    List (Symbol × List Alternative) → Except TransformError (Option (Symbol × Symbol))
  | [] => .ok none
  | (A, alternatives) :: rest =>
    if alternatives.length < 2 then findShared? rest
    else if [] ∈ alternatives then .error .emptyAlternative
    else
      match sharedHead? alternatives with
      | some s => .ok (some (A, s))
      | none => findShared? rest

/-- Merges while there is something to merge; `count` bounds the number of symbols left. -/
def factorFrom : (count : Nat) → Grammar → (taken : NameSet) → Except TransformError Grammar
  | 0, g, _ => .ok g
  | n + 1, g, taken => do
    match ← findShared? g.entries with
    | none => return g
    | some (A, s) =>
      let (g, taken) := g.extract taken A s
      factorFrom n g taken

/-- The grammar in which no two alternatives of a nonterminal begin with the same symbol. -/
def leftFactor (g : Grammar) : Except TransformError Grammar :=
  factorFrom (g.occurrences.length + 1) g g.symbols

/-- The grammar prepared for a predictive table: first without left recursion, then factored. -/
def prepareLL1 (rounds : Nat) (g : Grammar) : Except TransformError Grammar := do
  leftFactor (← eliminateLeftRecursion rounds g)

end FormalLanguages.Grammar
