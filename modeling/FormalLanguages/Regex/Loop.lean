import FormalLanguages.Regex.Opening
import FormalLanguages.Regex.Spot
/-!
# Loops

The repetition of a part of a pattern. A loop over one character counts how many characters agree and
then gives back, or takes, one at a time. Any other loop runs its body round by round; it tries one
more round only if the text has moved on since the last optional round began, so an empty round ends
it. The argument `rounds` bounds the number of rounds.

A possessive loop never gives back a round. When its next round fails, it goes on from the position
that this round has handed over last.
-/
namespace FormalLanguages.Regex

/-- The bounds of a repetition. -/
structure Counts where
  min : Nat
  max : Option Nat
  deriving DecidableEq, Repr

namespace Counts

/-- After `count` rounds one more is required. -/
def requires (c : Counts) (count : Nat) : Bool := count < c.min

/-- After `count` rounds one more is allowed. -/
def allows (c : Counts) (count : Nat) : Bool := c.max.all (count < ·)

end Counts

/-! ## One character -/

/-- How many characters of the class, `limit` at most, stand at a position. -/
def runLength (text : Array Nat) (p : Nat → Bool) : (limit : Nat) → (i : Nat) → Nat
  | 0, _ => 0
  | limit + 1, i => if text[i]?.any p then runLength text p limit (i + 1) + 1 else 0

/-- A run is no longer than its limit. -/
theorem runLength_le (text : Array Nat) (p : Nat → Bool) (limit i : Nat) :
    runLength text p limit i ≤ limit := by
  induction limit generalizing i with
  | zero => simp [runLength]
  | succ limit ih =>
    rw [runLength]
    split
    · exact Nat.succ_le_succ (ih (i + 1))
    · exact Nat.zero_le _

/-- A repetition of one character. -/
structure CharLoop where
  text : Array Nat
  /-- The class of characters that are repeated. -/
  has : Nat → Bool
  /-- Every character that has been counted is handed over. -/
  handsOver : Bool
  counts : Counts
  /-- The loop stands inside another one. -/
  looping : Bool
  /-- What is compared after the loop. -/
  next : Lead

namespace CharLoop

/-- The spot from which `n` characters have been counted. -/
def counted (l : CharLoop) (s : Spot) (n : Nat) : Spot :=
  { s with reached := if l.handsOver then s.position + n else s.position }

/-- Goes on after `n` characters. -/
def goOn (l : CharLoop) (s : Spot) (n : Nat) (k : Continuation) : Outcome :=
  match k (s.moved n).handed with
  | .found e => .found e
  | .failed t => .failed (s.after l.looping t)

/-- Goes on after `n` characters if the literal after the loop stands there. -/
def goOnAtLiteral (l : CharLoop) (s : Spot) (n : Nat) (k : Continuation) : Outcome :=
  if l.next.admitsLiteral l.text[s.position + n]? then l.goOn s n k else .failed s

/-- Goes on after as many characters as possible, of which `extra` can be given back. -/
def giveBack (l : CharLoop) (k : Continuation) : (extra : Nat) → Spot → Outcome
  | 0, s => l.goOnAtLiteral s l.counts.min k
  | extra + 1, s =>
    match l.goOnAtLiteral s (l.counts.min + extra + 1) k with
    | .found e => .found e
    | .failed t => giveBack l k extra t

/-- Goes on after as few characters as possible, `n` at least; `left` more are in the text. -/
def takeMore (l : CharLoop) (k : Continuation) : (left n : Nat) → Spot → Outcome
  | 0, n, s => (l.goOn s n k).handing (s.position + n)
  | left + 1, n, s =>
    match l.goOn s n k with
    | .found e => .found e
    | .failed t =>
      if l.text[s.position + n]?.any l.has then
        let t := { t with reached := if l.handsOver then s.position + n + 1 else s.position + n }
        if l.counts.allows n then takeMore l k left (n + 1) t else .failed t
      else .failed { t with reached := s.position + n }

/-- Matches the loop. -/
def run (l : CharLoop) (g : Greed) : Matcher := fun s k =>
  let left := l.text.size - s.position
  if left < l.counts.min then .failed s
  else
    let limit := match g with
      | .lazy => l.counts.min
      | _ => (l.counts.max.getD left).min left
    let n := runLength l.text l.has limit s.position
    let s := l.counted s n
    if n < l.counts.min then .failed s
    else match g with
      | .greedy => l.giveBack k (n - l.counts.min) s
      | .lazy => l.takeMore k (left - n) n s
      | .possessive => k (s.moved n)

end CharLoop

/-! ## Any body -/

/-- A loop that takes as many rounds as it can; `count` have been made, and the last optional one
began at `last`. -/
def greedyLoop (body : Matcher) (c : Counts) :
    (rounds count : Nat) → (last : Option Nat) → Matcher
  | 0, _, _ => fun s k => k s
  | rounds + 1, count, last => fun s k =>
    let s := s.handed
    let again (last : Option Nat) := body s fun t => greedyLoop body c rounds (count + 1) last t k
    if c.requires count then (again last).handing s.position
    else if c.allows count && last != some s.position then
      match again (some s.position) with
      | .found e => .found e
      | .failed _ => (k s).handing s.position
    else (k s).handing s.position

/-- A loop that takes as few rounds as it can; `looping` holds inside of another loop. -/
def lazyLoop (looping : Bool) (body : Matcher) (c : Counts) :
    (rounds count : Nat) → (last : Option Nat) → Matcher
  | 0, _, _ => fun s k => k s
  | rounds + 1, count, last => fun s k =>
    let s := s.handed
    let again (last : Option Nat) (s : Spot) :=
      (body s fun t => lazyLoop looping body c rounds (count + 1) last t k).handing s.position
    if c.requires count then again last s
    else
      match k s with
      | .found e => .found e
      | .failed t =>
        let u := (s.after looping t).handed
        if c.allows count && last != some s.position then again (some s.position) u else .failed u

/-- The end of a loop that takes as many rounds as it can, each in the first way. -/
def possessiveLoop (body : Matcher) (c : Counts) :
    (rounds count : Nat) → (last : Option Nat) → Spot → Outcome
  | 0, _, _, s => .found s
  | rounds + 1, count, last, s =>
    if c.requires count then
      match body.first s with
      | .found t => possessiveLoop body c rounds (count + 1) last t
      | .failed t => .failed t
    else if c.allows count && last != some s.position then
      match body.first s with
      | .found t => possessiveLoop body c rounds (count + 1) (some s.position) t
      | .failed t => .found { s with position := t.reached, reached := t.reached }
    else .found s

/-- The part after a part that has one end only. -/
def Outcome.thenGoOn (o : Outcome) (i : Nat) (k : Continuation) : Outcome :=
  match o with
  | found t => k t
  | failed t => failed { t with reached := i }

/-- A loop over any body, in a text of the given size. -/
def loop (size : Nat) (looping : Bool) (g : Greed) (c : Counts) (body : Matcher) : Matcher :=
  fun s k =>
    let rounds := c.min + 2 * size + 2
    match g with
    | .greedy => greedyLoop body c rounds 0 none s k
    | .lazy => lazyLoop looping body c rounds 0 none s k
    | .possessive => (possessiveLoop body c rounds 0 none s.handed).thenGoOn s.position k

end FormalLanguages.Regex
