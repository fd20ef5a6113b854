import FormalLanguages.Regex.Escape
import FormalLanguages.Unicode.Identifier
import FormalLanguages.Text.Blank
/-!
# From text to pattern

`Pattern.read` reads the notation of regular expressions. The grammar has three levels: a choice of
sequences of items, where an item may be a group with a choice inside it. Two rules shape the tree:

* alternatives that begin with the same one-character items share them, and alternatives of one
  character each become one character set (`choice`);
* a plain group is replaced by its contents once the sequence around it is complete.
-/
namespace FormalLanguages.Regex

/-- Whether a repetition may follow an item. -/
inductive Repeatable where
  | repeatable
  | place
  | repetition
  deriving DecidableEq, Repr

/-- An item of a sequence that is still being read. -/
structure Item where
  body : Expr
  kind : Repeatable

/-- Takes off the items that all sequences begin with: those taken off, and what is left. -/
def sharedItems : List Expr → List (List Expr) → List Expr × List (List Expr)
  | [], others => ([], [] :: others)
  | r :: rs, others =>
    if r.isPlain && others.all (·.head? == some r) then
      let (shared, left) := sharedItems rs (others.map List.tail)
      (r :: shared, left)
    else ([], (r :: rs) :: others)

/-- The character set of alternatives of one character each, and otherwise the choice. -/
def mergeChoices (choices : List (List Expr)) : Expr :=
  let sets := choices.map fun rs =>
    match rs with
    | [r] => r.setMembers?
    | _ => none
  match sets.mapM id with
  | some ms => .set false ms.flatten.eraseDups
  | none => .ofChoices (choices.map Expr.ofItems)

/-- The items of a choice between sequences. -/
def choice : List (List Expr) → List Expr
  | [] => []
  | [rs] => rs
  | rs :: others =>
    let (shared, left) := sharedItems rs others
    shared ++ [mergeChoices left]

/-- The mode that a letter switches. -/
def mode? : Char → Option Flags
  | 'i' => some { ignoreCase := true }
  | 'm' => some { multiLine := true }
  | 's' => some { dotAll := true }
  | 'x' => some { verbose := true }
  | _ => none

/-- What a letter of an inline flag group switches; `none` for the alphabets' letters. -/
def flag? (c : Char) : Option Flags := if c = 't' then some { template := true } else mode? c

/-- A letter that may stand in an inline flag group. -/
def isFlagLetter (c : Char) : Bool := (flag? c).isSome || c == 'a' || c == 'u' || c == 'L'

/-- The number that a condition names: digits of any script, single low lines between them, a sign
before them and blanks around them are allowed. -/
def conditionNumber? (name : List Char) : Option Nat :=
  let name := Text.trim name
  let (negative, body) := match name with
    | '-' :: rest => (true, rest)
    | '+' :: rest => (false, rest)
    | _ => (false, name)
  let groups := body.splitOn '_'
  let digits := groups.flatten.map fun c => Unicode.decimalValue? c.toNat
  match digits.mapM id with
  | none => none
  | some ds =>
    let n := ds.foldl (fun n d => n * 10 + d) 0
    if groups.any List.isEmpty || (negative && n != 0) then none else some n

namespace Read

/-- The counts of a repetition whose opening brace has been read; a brace that starts no repetition
is left as a character. -/
def counts : Read (Option (Nat × Option Nat)) := do
  let saved ← get
  if (← peek) = some (.plain '}') then return none
  let lo ← takeWhile Char.isDigit
  let hi ← if ← accept ',' then takeWhile Char.isDigit else pure lo
  if !(← accept '}') then
    set saved
    return none
  let min := numberOf 10 lo
  if 4294967295 ≤ min then throw .countTooLarge
  if hi.isEmpty then return some (min, none)
  let max := numberOf 10 hi
  if 4294967295 ≤ max then throw .countTooLarge
  if max < min then failAt saved.position .countsReversed
  return some (min, some max)

/-- Repeats the last item; `start` is where the repetition starts. -/
def repetition (start min : Nat) (max : Option Nat) (items : List Item) : Read (List Item) := do
  match items.getLast? with
  | none | some ⟨_, .place⟩ => failAt start .nothingToRepeat
  | some ⟨_, .repetition⟩ => failAt start .multipleRepeat
  | some ⟨r, .repeatable⟩ =>
    let greed ← if ← accept '?' then pure Greed.lazy
      else if ← accept '+' then pure Greed.possessive
      else pure Greed.greedy
    return items.dropLast ++ [⟨.times greed min max r, .repetition⟩]

/-- A token that is no letter of a flag group. -/
def refuseFlag {α : Type} (t : Token) (otherwise : Fault) : Read α :=
  match t with
  | .plain c =>
    failBack 1 (if Unicode.isLetter c.toNat then .unknownFlag else otherwise)
  | .escaped _ => failBack 2 otherwise

/-- The flags switched on, from the letter `c`; then the character that ends them. -/
def flagsOn : Nat → Char → FlagChange → Read (FlagChange × Char)
  | 0, c, d => return (d, c)
  | n + 1, c, d => do
    if c = 'L' then failHere .flagOfBytes
    let d ← match flag? c with
      | some f => pure { d with on := d.on.union f }
      | none =>
        if d.ascii = some (c != 'a') then failHere .alphabetsTogether
        else pure { d with ascii := some (c == 'a') }
    match ← take with
    | none => failHere .missingFlagEnd
    | some t =>
      match t with
      | .plain e =>
        if e = ')' ∨ e = '-' ∨ e = ':' then return (d, e)
        else if isFlagLetter e then flagsOn n e d
        else refuseFlag t .missingFlagEnd
      | .escaped _ => refuseFlag t .missingFlagEnd

/-- The flags switched off, from the letter `c`, up to the colon. -/
def flagsOff : Nat → Char → FlagChange → Read FlagChange
  | 0, _, d => return d
  | n + 1, c, d => do
    let d ← match flag? c with
      | some f => pure { d with off := d.off.union f }
      | none => failHere .alphabetOff
    match ← take with
    | none => failHere .missingColon
    | some t =>
      match t with
      | .plain e =>
        if e = ':' then return d
        else if isFlagLetter e then flagsOff n e d
        else refuseFlag t .missingColon
      | .escaped _ => refuseFlag t .missingColon

/-- Two sets of flags that share none. -/
def disjointFlags (f g : Flags) : Bool :=
  !((f.ignoreCase && g.ignoreCase) || (f.multiLine && g.multiLine) || (f.dotAll && g.dotAll) ||
    (f.verbose && g.verbose))

/-- A flag group from its first character on: `none` if it changes the flags of the whole pattern,
and otherwise what it changes for the group that follows the colon. -/
def flagGroup (c : Char) : Read (Option FlagChange) := do
  let n := (← get).rest.length + 1
  let (d, e) ← if c = '-' then pure ({}, '-') else flagsOn n c {}
  if e = ')' then
    modify fun s =>
      { s with flags := s.flags.union { d.on with ascii := d.ascii = some true } }
    return none
  else if d.on.template then failBack 1 .globalFlagOn
  else if e = ':' then return some d
  else
    match ← take with
    | none => failHere .missingFlag
    | some t =>
      match t with
      | .plain e =>
        if isFlagLetter e then
          let d ← flagsOff n e d
          if d.off.template then failBack 1 .globalFlagOff
          if disjointFlags d.on d.off then return some d else failBack 1 .flagOnAndOff
        else refuseFlag t .missingFlag
      | .escaped _ => refuseFlag t .missingFlag

/-- Opens a group, and gives its number. -/
def openGroup (name : Option (List Char)) : Read Nat := do
  let s ← get
  let n := s.opened + 1
  match name with
  | none => set { s with opened := n }
  | some name =>
    match s.names.lookup name with
    | some old => failBack (name.length + 1) (.redefinedGroup name n old)
    | none => set { s with opened := n, names := s.names ++ [(name, n)] }
  return n

/-- The width of an expression whose groups are closed. -/
def widthOf (r : Expr) : Read Width := do
  let s ← get
  return r.width fun n => (s.closed.lookup n).getD ⟨0, 0⟩

/-- A group name up to its terminator; it has to be an identifier. -/
def groupName (terminator : Char) : Read (List Char) := do
  let name ← takeName terminator .missingGroupName
  if !Unicode.isIdentifier name then failBack (name.length + 1) (.badGroupName name)
  return name

/-- The number of a group with a name that was read just now. -/
def groupOfName (name : List Char) : Read Nat := do
  match (← get).names.lookup name with
  | some n => return n
  | none => failBack (name.length + 1) (.unknownGroupName name)

/-- The group that a condition asks for. -/
def conditionGroup : Read Nat := do
  let name ← takeName ')' .missingGroupName
  let back := name.length + 1
  let n ← if Unicode.isIdentifier name then groupOfName name else
    match conditionNumber? name with
    | none => failBack back (.badGroupName name)
    | some 0 => failBack back .groupNumberZero
    | some n =>
      if 1073741823 ≤ n then failBack back (.invalidGroupReference n)
      modify fun s =>
        if (s.conditions.lookup n).isSome then s
        else { s with conditions := s.conditions ++ [(n, s.position - back)] }
      pure n
  checkLookBehind n
  return n

/-- A reference to a named group. -/
def namedReference : Read Expr := do
  let name ← groupName ')'
  let n ← groupOfName name
  if ((← get).closed.lookup n).isNone then failBack (name.length + 1) .openGroupReference
  checkLookBehind n
  return .backref n

/-- What the characters after an opening parenthesis announce. -/
inductive GroupKind where
  | captured (name : Option (List Char))
  | plain
  | changed (d : FlagChange)
  | atomic
  | look (behind negated : Bool)
  | condition
  | reference
  | comment
  | globalFlags

/-- The kind of a group whose parenthesis, at `start`, has been read. -/
def groupKind : Read GroupKind := do
  if !(← accept '?') then return .captured none
  match ← take with
  | none => failHere .unexpectedEnd
  | some (.escaped c) => failBack 3 (.unknownExtension ['\\', c])
  | some (.plain 'P') =>
    if ← accept '<' then return .captured (some (← groupName '>'))
    if ← accept '=' then return .reference
    match ← take with
    | none => failHere .unexpectedEnd
    | some t => failBack (t.text.length + 2) (.unknownExtension ('P' :: t.text))
  | some (.plain '<') =>
    match ← take with
    | none => failHere .unexpectedEnd
    | some (.plain '=') => return .look true false
    | some (.plain '!') => return .look true true
    | some t => failBack (t.text.length + 2) (.unknownExtension ('<' :: t.text))
  | some (.plain ':') => return .plain
  | some (.plain '#') => return .comment
  | some (.plain '=') => return .look false false
  | some (.plain '!') => return .look false true
  | some (.plain '(') => return .condition
  | some (.plain '>') => return .atomic
  | some (.plain c) =>
    if isFlagLetter c || c == '-' then
      match ← flagGroup c with
      | some d => return .changed d
      | none => return .globalFlags
    else failBack 2 (.unknownExtension [c])

/-- The closing parenthesis of the group that starts at `start`. -/
def closeParenthesis (start : Nat) : Read Unit := do
  if !(← accept ')') then failAt start .unterminatedGroup

/-- Blanks that a verbose pattern may hold. -/
def isPatternBlank (c : Char) : Bool :=
  c == ' ' || c == '\t' || c == '\n' || c == '\r' || c == '\x0b' || c == '\x0c'

mutual

/-- A choice of sequences, as the items of one sequence. `top` holds outside of all groups. The first
argument bounds the depth. -/
def alternatives : Nat → (top verbose : Bool) → Read (List Expr)
  | 0, _, _ => return []
  | n + 1, top, verbose => do
    let first ← sequence n verbose top []
    return choice (first :: (← moreAlternatives n top verbose))

/-- The sequences after a vertical bar. -/
def moreAlternatives : Nat → (top verbose : Bool) → Read (List (List Expr))
  | 0, _, _ => return []
  | n + 1, top, verbose => do
    if ← accept '|' then
      let s ← get
      let verbose := if top then s.flags.verbose else verbose
      let next ← sequence n verbose false []
      return next :: (← moreAlternatives n top verbose)
    else return []

/-- The rest of a sequence, after `items`. `start` holds at the start of the whole pattern. -/
def sequence : Nat → (verbose start : Bool) → List Item → Read (List Expr)
  | 0, _, _, items => return items.flatMap fun i => i.body.items
  | n + 1, verbose, start, items => do
    let push (r : Expr) (kind : Repeatable) : Read (List Expr) :=
      sequence n verbose start (items ++ [⟨r, kind⟩])
    let repeated (min : Nat) (max : Option Nat) : Read (List Expr) := do
      sequence n verbose start (← repetition ((← get).position - 1) min max items)
    match ← peek with
    | none | some (.plain '|') | some (.plain ')') =>
      return items.flatMap fun i => i.body.items
    | some (.escaped c) =>
      skip
      let r ← escape c
      push r (if (anchorEscape? c).isSome then .place else .repeatable)
    | some (.plain c) =>
      skip
      if verbose && isPatternBlank c then sequence n verbose start items
      else if verbose && c == '#' then
        let _ ← skipPast '\n' ((← get).rest.length + 1)
        sequence n verbose start items
      else
        match c with
        | '[' => push (← charSet) .repeatable
        | '(' => group n verbose start items
        | '.' => push .any .repeatable
        | '^' => push (.anchor .lineStart) .place
        | '$' => push (.anchor .lineEnd) .place
        | '?' => repeated 0 (some 1)
        | '*' => repeated 0 none
        | '+' => repeated 1 none
        | '{' =>
          let position := (← get).position - 1
          match ← counts with
          | none => push (.char c.toNat) .repeatable
          | some (min, max) =>
            sequence n verbose start (← repetition position min max items)
        | c => push (.char c.toNat) .repeatable

/-- The rest of a sequence, from a group on whose parenthesis has been read. -/
def group : Nat → (verbose start : Bool) → List Item → Read (List Expr)
  | 0, _, _, items => return items.flatMap fun i => i.body.items
  | n + 1, verbose, start, items => do
    let position := (← get).position - 1
    let push (r : Expr) : Read (List Expr) :=
      sequence n verbose start (items ++ [⟨r, .repeatable⟩])
    match ← groupKind with
    | .captured name =>
      let k ← openGroup name
      let r := Expr.ofItems (← alternatives n false verbose)
      closeParenthesis position
      let w ← widthOf r
      modify fun s => { s with closed := (k, w) :: s.closed }
      push (.capture k r)
    | .plain =>
      let r := Expr.ofItems (← alternatives n false verbose)
      closeParenthesis position
      push r
    | .changed d =>
      let inner := (verbose || d.on.verbose) && !d.off.verbose
      let r := Expr.ofItems (← alternatives n false inner)
      closeParenthesis position
      push (.withFlags d r)
    | .atomic =>
      let r := Expr.ofItems (← alternatives n false verbose)
      closeParenthesis position
      push (.atomic r)
    | .look behind negated =>
      let outer := (← get).lookBehindFrom
      if behind && outer.isNone then
        modify fun s => { s with lookBehindFrom := some (s.opened + 1) }
      let r := Expr.ofItems (← alternatives n false verbose)
      modify fun s => { s with lookBehindFrom := outer }
      closeParenthesis position
      push (.look behind negated r)
    | .condition =>
      let k ← conditionGroup
      let yes ← sequence n verbose false []
      let no ← if ← accept '|' then
          let no ← sequence n verbose false []
          if (← peek) = some (.plain '|') then failHere .tooManyBranches
          pure no
        else pure []
      closeParenthesis position
      push (.conditional k (.ofItems yes) (.ofItems no))
    | .reference => push (← namedReference)
    | .comment =>
      if !(← skipPast ')' ((← get).rest.length + 1)) then failAt position .unterminatedComment
      sequence n verbose start items
    | .globalFlags =>
      if !start || !items.isEmpty then failAt position .flagsNotAtStart
      let s ← get
      sequence n s.flags.verbose start items

end

end Read

/-- Every look-behind has one width; a template has no repetition. -/
def checkParts (template : Bool) (widths : Nat → Width) : Expr → Except PatternError Unit
  | .look behind _ r => do
    let w := r.width widths
    if behind && w.lo != w.hi then throw (.fault .unboundedLookBehind none)
    checkParts template widths r
  | .seq r s | .alt r s | .conditional _ r s => do
    checkParts template widths r
    checkParts template widths s
  | .times g _ _ r => do
    if template then throw (.fault (.repetitionInTemplate g) none)
    checkParts template widths r
  | .capture _ r | .withFlags _ r | .atomic r => checkParts template widths r
  | _ => return ()

/-- A look-behind as wide as no text can be. -/
def isFarLookBehind (widths : Nat → Width) : Expr → Bool
  | .look true _ r => 0x80000000 ≤ (r.width widths).lo
  | _ => false

/-- Reads a whole pattern. -/
def Read.pattern : Read Pattern := do
  if (← get).rest = ['\\'] then Read.failHere .danglingBackslash
  let depth := 4 * (← get).rest.length + 4
  let items ← Read.alternatives depth true (← get).flags.verbose
  let s ← get
  if !s.rest.isEmpty then Read.failHere .unbalancedParenthesis
  match s.conditions.find? fun (n, _) => s.opened < n with
  | some (n, position) => Read.failAt position (.invalidGroupReference n)
  | none =>
    let r := Expr.ofItems items
    let widths n := (s.closed.lookup n).getD ⟨0, 0⟩
    checkParts s.flags.template widths r
    if r.someSubexpr (isFarLookBehind widths) then throw .lookBehindTooWide
    return { body := r, flags := s.flags, groups := s.opened, widths }

/-- The pattern that a text writes, under some flags. -/
def readPattern (flags : Flags) (text : List Char) : Except PatternError Pattern :=
  (Read.pattern.run { rest := text, flags }).map (·.1)

end FormalLanguages.Regex
