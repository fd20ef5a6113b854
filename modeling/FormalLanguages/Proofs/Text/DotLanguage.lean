import FormalLanguages.Automaton.Display
import Mathlib.Data.List.Basic
/-!
# Reading the DOT language

What a directed graph in the DOT language says, as far as graphs with attributes of single statements go. A text is
divided into names, bare or between double quotes, and marks. A quoted name ends at the first double quote that
does not follow a backslash; a double quote behind a backslash belongs to the name, and the backslash does not. Any
other backslash stands for itself.

A name is put between quotes by writing its double quotes behind backslashes. It is read back unless it ends with
a backslash: that one takes the closing quote into the name.

Results:
* `ReadsAs.append`, `ReadsAs.flatMap`: what texts are read as, one after the other.
* `tokensFrom_escapeQuotes`: what is between the quotes is read back.
* `readsAs_dotString`: a quoted name is read back unless it ends with a backslash, and only then.
* `read_eq_some_iff`: a text is read as a graph if it has just the tokens of the graph.
-/
namespace FormalLanguages

/-- A separator between members and in front of a last one is one behind each of the others. -/
theorem intercalate_append_singleton {α : Type} (sep : List α) (ls : List (List α)) (l : List α) :
    sep.intercalate (ls ++ [l]) = ls.flatMap (· ++ sep) ++ l := by
  induction ls with
  | nil => simp
  | cons m ls ih =>
    rw [List.flatMap_cons, List.append_assoc, ← ih]
    cases ls <;> simp [List.intercalate_cons_cons]

namespace Dot

/-! ## Tokens -/

/-- A name, without quotes or between them. -/
inductive Name where
  | bare (s : String)
  | quoted (s : String)
  deriving DecidableEq

/-- A part of a text. -/
inductive Token where
  | name (n : Name)
  | mark (c : Char)
  /-- A quoted name that does not end. -/
  | unfinished
  deriving DecidableEq

/-- Where a reader is: between tokens, or inside of a name of which it has read `cs`. -/
inductive Mode where
  | between
  | bare (cs : List Char)
  | quoted (cs : List Char)

/-- Letters and digits of ASCII, and the underscore. -/
def isNameChar (c : Char) : Bool := c.isAlphanum || c == '_'

/-- Goes on with a character that belongs to no token before it. -/
def start (c : Char) : Mode × List Token :=
  if c = '"' then (.quoted [], [])
  else if isNameChar c then (.bare [c], [])
  else if c.isWhitespace then (.between, [])
  else (.between, [.mark c])

/-- Reads a character: where the reader is then, and the tokens that have ended. -/
def step : Mode → Char → Mode × List Token
  | .between, c => start c
  | .bare cs, c =>
    if isNameChar c then (.bare (cs ++ [c]), [])
    else ((start c).1, .name (.bare (.ofList cs)) :: (start c).2)
  | .quoted cs, c =>
    if c = '"' then
      if cs.getLast? = some '\\' then (.quoted (cs.dropLast ++ ['"']), [])
      else (.between, [.name (.quoted (.ofList cs))])
    else (.quoted (cs ++ [c]), [])

/-- What ends with the text. -/
def finish : Mode → List Token
  | .between => []
  | .bare cs => [.name (.bare (.ofList cs))]
  | .quoted _ => [.unfinished]

/-- The tokens of the rest of a text. -/
def tokensFrom : Mode → List Char → List Token
  | mode, [] => finish mode
  | mode, c :: cs => (step mode c).2 ++ tokensFrom (step mode c).1 cs

/-- The tokens of a text. -/
def tokens (cs : List Char) : List Token := tokensFrom .between cs

/-! ## Graphs -/

/-- Attributes with their values. -/
abbrev Attributes := List (Name × Name)

/-- A statement about the graph, about a node, or about an edge. What is stated about `node` holds for all nodes. -/
inductive Statement where
  | setting (key value : Name)
  | node (name : Name) (attributes : Attributes)
  | edge (tail head : Name) (attributes : Attributes)
  deriving DecidableEq

/-- A directed graph, as the list of its statements. -/
structure Graph where
  name : Name
  statements : List Statement
  deriving DecidableEq

/-- What a name names: quotes make no difference, but `node` without quotes is no name of a node. -/
def Name.id? : Name → Option String
  | .bare s => if s = "node" then none else some s
  | .quoted s => some s

/-- The nodes that are stated. -/
def Graph.nodes (g : Graph) : List (Name × Attributes) :=
  g.statements.filterMap fun
    | .node n attributes => some (n, attributes)
    | _ => none

/-- The edges that are stated, from tail to head. -/
def Graph.edges (g : Graph) : List ((Name × Name) × Attributes) :=
  g.statements.filterMap fun
    | .edge tail head attributes => some ((tail, head), attributes)
    | _ => none

/-- Attributes up to the closing bracket. -/
def pairs? : List Token → Option Attributes
  | [.name key, .mark '=', .name value, .mark ']'] => some [(key, value)]
  | .name key :: .mark '=' :: .name value :: .mark ',' :: rest => (pairs? rest).map ((key, value) :: ·)
  | _ => none

/-- Attributes in brackets, if there are any. -/
def attributes? : List Token → Option Attributes
  | [] => some []
  | .mark '[' :: rest => pairs? rest
  | _ => none

/-- A statement without its semicolon. -/
def statement? : List Token → Option Statement
  | [.name key, .mark '=', .name value] => some (.setting key value)
  | .name tail :: .mark '-' :: .mark '>' :: .name head :: rest => (attributes? rest).map (.edge tail head)
  | .name n :: rest => (attributes? rest).map (.node n)
  | _ => none

/-- Statements, and behind the last semicolon the closing brace. -/
def statements? : List (List Token) → Option (List Statement)
  | [] => none
  | [[.mark '\x7d']] => some []
  | piece :: pieces => (statement? piece).bind fun s => (statements? pieces).map (s :: ·)

/-- A directed graph with a name. -/
def graph? : List Token → Option Graph
  | .name (.bare "digraph") :: .name n :: .mark '\x7b' :: rest =>
    (statements? (rest.splitOn (.mark ';'))).map (⟨n, ·⟩)
  | _ => none

/-- Reads a graph. -/
def read (text : String) : Option Graph := graph? (tokens text.toList)

/-! ## The tokens of a graph -/

/-- The tokens of attributes with the closing bracket. -/
def pairTokens : Attributes → List Token
  | [] => []
  | [(key, value)] => [.name key, .mark '=', .name value, .mark ']']
  | (key, value) :: rest => [.name key, .mark '=', .name value, .mark ','] ++ pairTokens rest

/-- The tokens of attributes. -/
def attributeTokens (attributes : Attributes) : List Token :=
  if attributes = [] then [] else .mark '[' :: pairTokens attributes

/-- The tokens of a statement without its semicolon. -/
def Statement.tokens : Statement → List Token
  | .setting key value => [.name key, .mark '=', .name value]
  | .node n attributes => .name n :: attributeTokens attributes
  | .edge tail head attributes =>
    [.name tail, .mark '-', .mark '>', .name head] ++ attributeTokens attributes

/-- The tokens of a graph. -/
def Graph.tokens (g : Graph) : List Token :=
  .name (.bare "digraph") :: .name g.name :: .mark '\x7b' ::
    (g.statements.flatMap (fun s => s.tokens ++ [.mark ';']) ++ [.mark '\x7d'])

variable {ts rest : List Token} {attributes : Attributes} {s : Statement} {ss : List Statement}
  {pieces : List (List Token)} {g : Graph}

theorem pairs?_eq_some_iff : pairs? ts = some attributes ↔ attributes ≠ [] ∧ ts = pairTokens attributes := by
  constructor
  · intro h
    induction ts using pairs?.induct generalizing attributes with
    | case1 key value => cases h; exact ⟨List.cons_ne_nil _ _, rfl⟩
    | case2 key value rest ih =>
      obtain ⟨more, hmore, rfl⟩ := Option.map_eq_some_iff.mp h
      obtain ⟨hne, rfl⟩ := ih hmore
      obtain ⟨pair, more, rfl⟩ := List.exists_cons_of_ne_nil hne
      exact ⟨List.cons_ne_nil _ _, rfl⟩
    | case3 ts h1 h2 => rw [pairs?] at h <;> simp_all
  · rintro ⟨hne, rfl⟩
    induction attributes with
    | nil => exact absurd rfl hne
    | cons pair more ih =>
      cases more with
      | nil => rfl
      | cons next more =>
        rw [pairTokens]
        · simp [pairs?, ih]
        · simp

theorem attributes?_eq_some_iff : attributes? ts = some attributes ↔ ts = attributeTokens attributes := by
  unfold attributeTokens
  constructor
  · intro h
    unfold attributes? at h
    split at h
    · cases h; rfl
    · obtain ⟨hne, rfl⟩ := pairs?_eq_some_iff.mp h
      rw [if_neg hne]
    · cases h
  · rintro rfl
    split
    · next h => subst h; rfl
    · next h => exact pairs?_eq_some_iff.mpr ⟨h, rfl⟩

theorem statement?_eq_some_iff : statement? ts = some s ↔ ts = s.tokens := by
  constructor
  · intro h
    unfold statement? at h
    split at h
    · cases h; rfl
    · obtain ⟨attributes, ha, rfl⟩ := Option.map_eq_some_iff.mp h
      rw [attributes?_eq_some_iff.mp ha]; rfl
    · obtain ⟨attributes, ha, rfl⟩ := Option.map_eq_some_iff.mp h
      rw [attributes?_eq_some_iff.mp ha]; rfl
    · cases h
  · rintro rfl
    cases s with
    | setting key value => rfl
    | edge tail head attributes =>
      have ha := attributes?_eq_some_iff.mpr (rfl : attributeTokens attributes = _)
      simp [Statement.tokens, statement?, ha]
    | node n attributes =>
      have ha := attributes?_eq_some_iff.mpr (rfl : attributeTokens attributes = _)
      cases attributes <;> simp_all [Statement.tokens, statement?, attributeTokens]

theorem semicolon_not_mem_pairTokens (attributes : Attributes) : Token.mark ';' ∉ pairTokens attributes := by
  induction attributes using pairTokens.induct <;> simp_all [pairTokens]

theorem semicolon_not_mem_tokens (s : Statement) : Token.mark ';' ∉ s.tokens := by
  have hattributes (attributes : Attributes) : Token.mark ';' ∉ attributeTokens attributes := by
    unfold attributeTokens
    split <;> simp [semicolon_not_mem_pairTokens]
  cases s <;> simp [Statement.tokens, hattributes]

theorem statements?_eq_some_iff :
    statements? pieces = some ss ↔ pieces = ss.map Statement.tokens ++ [[.mark '\x7d']] := by
  constructor
  · intro h
    induction pieces using statements?.induct generalizing ss with
    | case1 => cases h
    | case2 => cases h; rfl
    | case3 piece pieces hlast ih =>
      rw [statements?.eq_3 _ _ hlast] at h
      obtain ⟨s, hs, h⟩ := Option.bind_eq_some_iff.mp h
      obtain ⟨ss, hss, rfl⟩ := Option.map_eq_some_iff.mp h
      rw [statement?_eq_some_iff.mp hs, ih hss, List.map_cons, List.cons_append]
  · rintro rfl
    induction ss with
    | nil => rfl
    | cons s ss ih =>
      rw [List.map_cons, List.cons_append, statements?.eq_3, ih, statement?_eq_some_iff.mpr rfl]
      · rfl
      · simp

/-- A text is a graph if it has just the tokens of the graph. -/
theorem graph?_eq_some_iff : graph? ts = some g ↔ ts = g.tokens := by
  have hbody (ss : List Statement) : ss.flatMap (fun s => s.tokens ++ [Token.mark ';']) ++ [.mark '\x7d'] =
      [Token.mark ';'].intercalate (ss.map Statement.tokens ++ [[.mark '\x7d']]) := by
    rw [intercalate_append_singleton, List.flatMap_map]
  obtain ⟨n, ss⟩ := g
  rw [Graph.tokens, hbody]
  constructor
  · intro h
    unfold graph? at h
    split at h
    · obtain ⟨ss', hss, he⟩ := Option.map_eq_some_iff.mp h
      cases he
      rw [← statements?_eq_some_iff.mp hss, List.intercalate_splitOn]
    · cases h
  · rintro rfl
    have hpieces : ∀ piece ∈ ss.map Statement.tokens ++ [[Token.mark '\x7d']], Token.mark ';' ∉ piece := by
      intro piece hpiece
      rcases List.mem_append.mp hpiece with hpiece | hpiece
      · obtain ⟨s, -, rfl⟩ := List.mem_map.mp hpiece
        exact semicolon_not_mem_tokens s
      · rw [List.mem_singleton.mp hpiece]
        decide
    rw [graph?, List.splitOn_intercalate _ hpieces (by simp), statements?_eq_some_iff.mpr rfl]
    rfl

/-! ## Texts one after the other -/

/-- The characters are read as the tokens, whatever comes behind them, if `P` holds, and only then. -/
structure ReadsAs (cs : List Char) (ts : List Token) (P : Prop) : Prop where
  tokens_append : P → ∀ rest, tokens (cs ++ rest) = ts ++ tokens rest
  of_tokens_eq : ∀ rest us, tokens (cs ++ rest) = ts ++ us → P

namespace ReadsAs

variable {cs ds : List Char} {ts us : List Token} {P Q : Prop}

/-- What is read so whatever comes behind it. -/
theorem always (h : ∀ rest, tokens (cs ++ rest) = ts ++ tokens rest) : ReadsAs cs ts True :=
  ⟨fun _ => h, fun _ _ _ => trivial⟩

theorem congr (h : ReadsAs cs ts P) (hPQ : P ↔ Q) : ReadsAs cs ts Q := propext hPQ ▸ h

theorem append (h : ReadsAs cs ts P) (h' : ReadsAs ds us Q) : ReadsAs (cs ++ ds) (ts ++ us) (P ∧ Q) where
  tokens_append := fun ⟨hP, hQ⟩ rest => by
    rw [List.append_assoc, h.tokens_append hP, h'.tokens_append hQ, List.append_assoc]
  of_tokens_eq rest vs he := by
    rw [List.append_assoc, List.append_assoc] at he
    have hP := h.of_tokens_eq _ _ he
    rw [h.tokens_append hP] at he
    exact ⟨hP, h'.of_tokens_eq _ _ (List.append_cancel_left he)⟩

theorem flatMap {α : Type} {xs : List α} {f : α → List Char} {g : α → List Token} {P : α → Prop}
    (h : ∀ x ∈ xs, ReadsAs (f x) (g x) (P x)) : ReadsAs (xs.flatMap f) (xs.flatMap g) (∀ x ∈ xs, P x) := by
  induction xs with
  | nil => exact (always fun _ => rfl).congr (by simp)
  | cons x xs ih =>
    obtain ⟨hx, hxs⟩ := List.forall_mem_cons.mp h
    exact (hx.append (ih hxs)).congr List.forall_mem_cons.symm

/-- The whole text. -/
theorem tokens_eq_iff (h : ReadsAs cs ts P) : tokens cs = ts ↔ P := by
  have htokens : tokens [] = [] := rfl
  constructor
  · exact fun he => h.of_tokens_eq [] [] (by simpa using he)
  · exact fun hP => by simpa [htokens] using h.tokens_append hP []

end ReadsAs

/-! ## Quoted names -/

open Automaton (escapeQuotes dotString)

/-- The name does not end with a backslash. -/
def EndsPlain (s : String) : Prop := s.toList.getLast? ≠ some '\\'

instance (s : String) : Decidable (EndsPlain s) := inferInstanceAs (Decidable (_ ≠ _))

variable {cs acc : List Char}

theorem tokensFrom_quoted_cons {c : Char} (hc : c ≠ '"') (rest : List Char) :
    tokensFrom (.quoted acc) (c :: rest) = tokensFrom (.quoted (acc ++ [c])) rest := by
  rw [tokensFrom, step, if_neg hc]
  rfl

/-- What is between the quotes is read back. -/
theorem tokensFrom_escapeQuotes (acc cs rest : List Char) :
    tokensFrom (.quoted acc) (escapeQuotes cs ++ rest) = tokensFrom (.quoted (acc ++ cs)) rest := by
  induction cs generalizing acc with
  | nil => rw [List.append_nil]; rfl
  | cons c cs ih =>
    have hescape : escapeQuotes (c :: cs) = (if c = '"' then ['\\', '"'] else [c]) ++ escapeQuotes cs := rfl
    have happend : acc ++ c :: cs = (acc ++ [c]) ++ cs := by simp
    rw [hescape, List.append_assoc, happend, ← ih]
    split
    · next hc =>
      subst hc
      -- the backslash is read, and gives way to the quote
      rw [List.cons_append, tokensFrom_quoted_cons (by decide), List.cons_append, tokensFrom, step, if_pos rfl,
        if_pos (by simp), List.dropLast_concat]
      rfl
    · next hc => rw [List.cons_append, tokensFrom_quoted_cons hc]; rfl

/-- A quoted name that was begun goes on, unless a double quote replaces its last character. -/
theorem exists_tokensFrom_quoted (hacc : acc.getLast? ≠ some '\\') (more cs : List Char) :
    ∃ t ts, tokensFrom (.quoted (acc ++ more)) cs = t :: ts ∧
      (t = .unfinished ∨ ∃ more, t = .name (.quoted (.ofList (acc ++ more)))) := by
  induction cs generalizing more with
  | nil => exact ⟨_, _, rfl, Or.inl rfl⟩
  | cons c cs ih =>
    by_cases hc : c = '"'
    · subst hc
      rw [tokensFrom, step, if_pos rfl]
      split
      · next hlast =>
        have hmore : more ≠ [] := by
          rintro rfl
          rw [List.append_nil] at hlast
          exact hacc hlast
        rw [List.dropLast_append_of_ne_nil hmore, List.append_assoc]
        exact ih (more.dropLast ++ ['"'])
      · exact ⟨_, _, rfl, Or.inr ⟨more, rfl⟩⟩
    · rw [tokensFrom_quoted_cons hc, List.append_assoc]
      exact ih (more ++ [c])

/-- A name between quotes is read back unless it ends with a backslash, and only then. -/
theorem readsAs_dotString (s : String) : ReadsAs (dotString s).toList [.name (.quoted s)] (EndsPlain s) := by
  have hread (rest : List Char) :
      tokens ((dotString s).toList ++ rest) = tokensFrom (.quoted s.toList) ('"' :: rest) := by
    have hs : (dotString s).toList ++ rest = '"' :: (escapeQuotes s.toList ++ '"' :: rest) := by simp [dotString]
    rw [hs]
    exact tokensFrom_escapeQuotes [] s.toList ('"' :: rest)
  refine ⟨fun hplain rest => ?_, fun rest us he => ?_⟩
  · rw [hread, tokensFrom, step, if_pos rfl, if_neg hplain, String.ofList_toList]
    rfl
  · intro hlast
    obtain ⟨front, hfront⟩ := List.getLast?_eq_some_iff.mp hlast
    rw [hread, tokensFrom, step, if_pos rfl, if_pos hlast, hfront, List.dropLast_concat] at he
    -- the name that goes on has a double quote in the place of the backslash
    have hquote : (front ++ ['"']).getLast? ≠ some '\\' := by simp
    obtain ⟨t, ts, hts, ht⟩ := exists_tokensFrom_quoted hquote [] rest
    rw [List.append_nil] at hts
    rw [List.nil_append, hts] at he
    obtain ⟨rfl, -⟩ := List.cons.inj he
    rcases ht with ht | ⟨more, ht⟩
    · cases ht
    · have hname : s.toList = front ++ ['"'] ++ more := by
        rw [Name.quoted.inj (Token.name.inj ht), String.toList_ofList]
      rw [hfront] at hname
      simp at hname

/-- A text is read as a graph if it has just the tokens of the graph. -/
theorem read_eq_some_iff {text : String} : read text = some g ↔ tokens text.toList = g.tokens :=
  graph?_eq_some_iff

end Dot

end FormalLanguages
