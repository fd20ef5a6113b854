import FormalLanguages.Proofs.Grammar.Adjacency
import FormalLanguages.Proofs.Grammar.Prediction
/-!
# The predictive parser

A stack parser that is driven by the predictive table keeps the symbols that are still expected. A
nonterminal on top is replaced by the alternative that the next input symbol predicts, the end marker
standing for the end of the input; a terminal on top has to be the next input symbol.

**The invariant.** Whatever can come next after a nonterminal of the stack is in its FOLLOW set
(`Sound`). Under it an alternative that is used in a derivation of the rest of the input is in its
cell, so without conflicts the parser has no other choice.

**Halting.** Without reading, the parser can only work towards a terminal with which the top of the
stack begins, or let the top vanish; both are inductions on why it begins or vanishes (`Begins.halts`,
`Yields.halts`), so no assumption on left recursion or productive symbols is needed.

Results:
* `conflict_free_parser_decides`: if the table of a canonical grammar has no conflicts, the parser halts
  on every word of terminals, accepts the words that the start symbol derives, and each of these has
  exactly one leftmost derivation.
-/
namespace FormalLanguages

open FormalLanguages.Alternative (body)

/-- What the parser expects, and what it has still to read. -/
structure ParserState where
  stack : List Symbol
  input : List Symbol
  deriving DecidableEq

/-- What the parser does next. -/
inductive ParserMove where
  | go (next : ParserState)
  | stop (accepted : Bool)
  deriving DecidableEq

/-- The next input symbol, or the end marker. -/
def lookahead (input : List Symbol) : Symbol := input.headD endMarker

namespace Grammar

/-- The parser's next move with a table that has at most one alternative in each cell. -/
def parserMove (g : Grammar) (t : PredictionTable) (c : ParserState) : ParserMove :=
  match c.stack with
  | [] => .stop c.input.isEmpty
  | s :: stack =>
    if s ∈ g.nonterminals then
      match t.cell s (lookahead c.input) with
      | [] => .stop false
      | α :: _ => .go ⟨body α ++ stack, c.input⟩
    else
      match c.input with
      | [] => .stop false
      | a :: input => if a = s then .go ⟨stack, input⟩ else .stop false

/-- The parser comes to a stop, with this verdict. -/
inductive Halts (g : Grammar) (t : PredictionTable) : ParserState → Bool → Prop
  | stop {c : ParserState} {accepted : Bool} :
    g.parserMove t c = .stop accepted → Halts g t c accepted
  | go {c next : ParserState} {accepted : Bool} :
    g.parserMove t c = .go next → Halts g t next accepted → Halts g t c accepted

/-- A derivation in which each step replaces the first nonterminal, with the productions used. -/
inductive Leftmost (g : Grammar) : List Symbol → List Production → List Symbol → Prop
  | done {w : List Symbol} : g.IsWord w → Leftmost g w [] w
  | step {A : Symbol} {α : Alternative} {u after w : List Symbol} {ps : List Production} :
    g.IsWord u → α ∈ g.alternatives A → Leftmost g (u ++ (body α ++ after)) ps w →
    Leftmost g (u ++ A :: after) ((A, α) :: ps) w

variable {g : Grammar} {start : Symbol}

theorem Halts.unique {t : PredictionTable} {c : ParserState} {a b : Bool} (ha : Halts g t c a)
    (hb : Halts g t c b) : a = b := by
  induction ha with
  | stop h =>
    cases hb with
    | stop h' => rw [h] at h'; injection h'
    | go h' => rw [h] at h'; cases h'
  | go h _ ih =>
    cases hb with
    | stop h' => rw [h] at h'; cases h'
    | go h' hb =>
      rw [h] at h'
      injection h' with h'
      exact ih (h' ▸ hb)

/-! ## The choice of the alternative -/

theorem ahead_lookahead (hg : g.Canonical) {α v : List Symbol} (h : g.Yields α v)
    (hε : epsilon ∉ α) : g.Ahead α (lookahead v) := by
  cases v with
  | nil => exact Or.inr ⟨h, rfl⟩
  | cons a v => exact Or.inl (h.begins rfl hε hg)

/-- An alternative with which the rest of the input is derived is in its cell. -/
theorem mem_cell_of_yields (hg : g.Canonical) {A : Symbol} {α : Alternative} {stack w : List Symbol}
    (hα : α ∈ g.alternatives A) (hs : g.Sound start (A :: stack))
    (h : g.Yields (body α ++ stack) w) : α ∈ (g.ownTable start).cell A (lookahead w) := by
  obtain ⟨u, v, rfl, hu, hv⟩ := yields_append_iff.mp h
  have hu := hu.of_body
  refine (mem_cell_iff hg).mpr ⟨hα, ?_⟩
  cases u with
  | nil =>
    have hA := mem_nonterminals_of_mem_alternatives hα
    exact Or.inr ⟨hu, hs.2.1 hA _ (ahead_lookahead hg hv hs.2.2.epsilon_not_mem)⟩
  | cons a u =>
    rcases hg.cases hα with rfl | ⟨-, hne⟩
    · simp [yields_epsilon_iff hg.epsilon_not_mem] at hu
    · exact Or.inl (hu.begins rfl hne hg)

theorem cell_eq_singleton {t : PredictionTable} (ht : t.conflicts = []) {A a : Symbol}
    {α : Alternative} (hα : α ∈ t.cell A a) : t.cell A a = [α] := by
  have hlen := PredictionTable.length_cell_le_one ht A a
  match h : t.cell A a, hα, hlen with
  | [β], hα, _ => rw [List.mem_singleton.mp hα]
  | _ :: _ :: _, _, hlen => simp at hlen

theorem parserMove_expand {t : PredictionTable} (ht : t.conflicts = []) {A : Symbol}
    {α : Alternative} {stack input : List Symbol} (hA : A ∈ g.nonterminals)
    (hα : α ∈ t.cell A (lookahead input)) :
    g.parserMove t ⟨A :: stack, input⟩ = .go ⟨body α ++ stack, input⟩ := by
  simp only [parserMove, hA, if_true, cell_eq_singleton ht hα]

theorem parserMove_read {t : PredictionTable} {a : Symbol} (ha : a ∉ g.nonterminals)
    (stack input : List Symbol) :
    g.parserMove t ⟨a :: stack, a :: input⟩ = .go ⟨stack, input⟩ := by
  simp [parserMove, ha]

/-! ## Acceptance -/

/-- The parser accepts on the spot only when nothing is expected and nothing is left. -/
theorem parserMove_stop_true {t : PredictionTable} {c : ParserState}
    (h : g.parserMove t c = .stop true) : c = ⟨[], []⟩ := by
  obtain ⟨_ | ⟨s, stack⟩, input⟩ := c
  · simp only [parserMove, ParserMove.stop.injEq, List.isEmpty_iff] at h
    rw [h]
  · simp only [parserMove] at h
    split at h
    · split at h <;> simp at h
    · split at h
      · simp at h
      · split at h <;> simp at h

/-- The parser goes on by replacing the nonterminal on top or by reading the terminal on top. -/
theorem parserMove_go_cases {t : PredictionTable} {c next : ParserState}
    (h : g.parserMove t c = .go next) :
    (∃ A stack α, c = ⟨A :: stack, c.input⟩ ∧ α ∈ t.cell A (lookahead c.input) ∧
      next = ⟨body α ++ stack, c.input⟩) ∨
    ∃ a stack input, c = ⟨a :: stack, a :: input⟩ ∧ next = ⟨stack, input⟩ := by
  obtain ⟨_ | ⟨s, stack⟩, input⟩ := c
  · simp [parserMove] at h
  · simp only [parserMove] at h
    split at h
    · split at h
      · cases h
      · next α _ hcell =>
        cases h
        exact Or.inl ⟨s, stack, α, rfl, hcell ▸ List.mem_cons_self, rfl⟩
    · split at h
      · cases h
      · next a input =>
        split at h
        · next hs =>
          cases h
          exact Or.inr ⟨s, stack, input, by rw [hs], rfl⟩
        · cases h

/-- The parser accepts nothing but what its stack derives. -/
theorem Halts.yields {t : PredictionTable} (ht : ∀ A a α, α ∈ t.cell A a → α ∈ g.alternatives A)
    {c : ParserState} {accepted : Bool} (h : Halts g t c accepted) (ha : accepted = true)
    (hw : g.IsWord c.input) : g.Yields c.stack c.input := by
  induction h with
  | stop h =>
    subst ha
    rw [parserMove_stop_true h]
    exact .nil
  | @go c next _ h _ ih =>
    obtain ⟨A, stack, α, hc, hcell, rfl⟩ | ⟨a, stack, input, rfl, rfl⟩ := parserMove_go_cases h
    · rw [hc]
      exact (ih ha hw).of_step (Step.replace [] stack (ht A _ α hcell))
    · obtain ⟨⟨hn, he⟩, hw⟩ := isWord_cons_iff.mp hw
      exact .terminal hn he (ih ha hw)

/-- The parser accepts what its stack derives. -/
theorem Yields.accepted (hg : g.Canonical) (ht : (g.ownTable start).conflicts = [])
    {α u : List Symbol} (h : g.Yields α u) {stack v : List Symbol}
    (hs : g.Sound start (body α ++ stack)) (hv : g.Yields stack v)
    (hstack : Halts g (g.ownTable start) ⟨stack, v⟩ true) :
    Halts g (g.ownTable start) ⟨body α ++ stack, u ++ v⟩ true := by
  induction h generalizing stack v with
  | nil => exact hstack
  | vanish _ ih =>
    rw [Alternative.body_epsilon_cons] at hs ⊢
    exact ih hs hv hstack
  | terminal hn he _ ih =>
    rw [Alternative.body_cons_of_ne he] at hs ⊢
    exact .go (parserMove_read hn ..) (ih hs.2.2 hv hstack)
  | @nonterminal A α β u u' hα h1 h2 ihα ihβ =>
    have hA := mem_nonterminals_of_mem_alternatives hα
    have hAe := hg.ne_epsilon hA
    rw [Alternative.body_cons_of_ne hAe, List.cons_append] at hs ⊢
    rw [List.append_assoc]
    have hrest : g.Yields (body β ++ stack) (u' ++ v) := (h2.to_body hg.epsilon_not_mem).append hv
    have hcell := mem_cell_of_yields hg hα hs ((h1.to_body hg.epsilon_not_mem).append hrest)
    exact .go (parserMove_expand ht hA hcell)
      (ihα (hs.expand hg hα) hrest (ihβ hs.2.2 hv hstack))

/-! ## Halting -/

theorem FollowedBy.of_vanish {A a : Symbol} {α : Alternative} (hα : α ∈ g.alternatives A)
    (hv : g.Yields α []) (h : g.FollowedBy start A a) {B : Symbol} (hB : B ∈ α) :
    g.FollowedBy start B a := by
  obtain ⟨before, after, rfl⟩ := List.append_of_mem hB
  refine .last hα (.of_forall_mem fun s hs => hv.forall_mem s ?_) h
  simp [hs]

/-- Symbols that vanish, and that the lookahead follows, are taken from the stack. -/
theorem Yields.halts (hg : g.Canonical) (ht : (g.ownTable start).conflicts = []) {α w : List Symbol}
    (h : g.Yields α w) (hw : w = []) {stack input : List Symbol}
    (hα : ∀ B ∈ α, g.FollowedBy start B (lookahead input))
    (hstack : ∃ b, Halts g (g.ownTable start) ⟨stack, input⟩ b) :
    ∃ b, Halts g (g.ownTable start) ⟨body α ++ stack, input⟩ b := by
  induction h generalizing stack with
  | nil => exact hstack
  | vanish _ ih =>
    rw [Alternative.body_epsilon_cons]
    exact ih hw (fun B hB => hα B (by simp [hB])) hstack
  | terminal => cases hw
  | @nonterminal A α β u v hA h1 _ ihα ihβ =>
    obtain ⟨rfl, rfl⟩ := List.append_eq_nil_iff.mp hw
    have hn := mem_nonterminals_of_mem_alternatives hA
    have hfollow : g.FollowedBy start A (lookahead input) := hα A (by simp)
    have hcell := (mem_cell_iff hg).mpr ⟨hA, Or.inr ⟨h1, hfollow⟩⟩
    rw [Alternative.body_cons_of_ne (hg.ne_epsilon hn), List.cons_append]
    have hβ := ihβ rfl (fun B hB => hα B (by simp [hB])) hstack
    obtain ⟨b, hb⟩ := ihα rfl (fun B hB => hfollow.of_vanish hA h1 hB) hβ
    exact ⟨b, .go (parserMove_expand ht hn hcell) hb⟩

/-- The parser finds its way to a terminal with which the stack begins. -/
theorem Begins.halts (hg : g.Canonical) (ht : (g.ownTable start).conflicts = []) {α : List Symbol}
    {a : Symbol} (h : g.Begins α a) {stack input : List Symbol} (hs : g.Sound start (α ++ stack))
    (hread : ∀ stack, g.Sound start stack → ∃ b, Halts g (g.ownTable start) ⟨stack, input⟩ b) :
    ∃ b, Halts g (g.ownTable start) ⟨α ++ stack, a :: input⟩ b := by
  induction h generalizing stack with
  | here hn =>
    obtain ⟨b, hb⟩ := hread _ hs.2.2
    exact ⟨b, .go (parserMove_read hn ..) hb⟩
  | @inside A a α β hα h ih =>
    have hcell : α ∈ (g.ownTable start).cell A (lookahead (a :: input)) :=
      (mem_cell_iff hg).mpr ⟨hα, Or.inl h⟩
    have hbody : body α = α := Alternative.body_eq_self (hg.epsilon_not_mem_of_begins hα h)
    have hs' := hs.expand hg hα
    rw [hbody] at hs'
    obtain ⟨b, hb⟩ : ∃ b, Halts g (g.ownTable start) ⟨α ++ (β ++ stack), a :: input⟩ b := ih hs'
    refine ⟨b, .go (parserMove_expand ht (mem_nonterminals_of_mem_alternatives hα) hcell) ?_⟩
    rwa [hbody]
  | @after A a β hn hv h ih =>
    have hfollow : g.FollowedBy start A a := hs.2.1 hn a (Or.inl (h.append stack))
    have hlook : ∀ B ∈ [A], g.FollowedBy start B (lookahead (a :: input)) := by
      simpa [lookahead] using hfollow
    have hvanish := hv.halts hg ht rfl hlook (ih hs.2.2)
    rwa [Alternative.body_cons_of_ne hs.1, Alternative.body_nil] at hvanish

/-- The parser halts if it does so on the rest of the input after the next symbol. -/
theorem Sound.halts_of_rest (hg : g.Canonical) (hend : endMarker ∉ g.symbols)
    (ht : (g.ownTable start).conflicts = []) {stack input : List Symbol} (hs : g.Sound start stack)
    (hread : ∀ a rest, input = a :: rest → ∀ stack, g.Sound start stack →
      ∃ b, Halts g (g.ownTable start) ⟨stack, rest⟩ b) :
    ∃ b, Halts g (g.ownTable start) ⟨stack, input⟩ b := by
  induction stack with
  | nil => exact ⟨input.isEmpty, .stop rfl⟩
  | cons s stack ih =>
    have hstack := ih hs.2.2
    by_cases hn : s ∈ g.nonterminals
    · cases hcell : (g.ownTable start).cell s (lookahead input) with
      | nil => exact ⟨false, .stop (by simp [parserMove, hn, hcell])⟩
      | cons α _ =>
        obtain ⟨hα, h | ⟨hv, hfollow⟩⟩ := (mem_cell_iff hg).mp (hcell ▸ List.mem_cons_self)
        · cases input with
          | nil =>
            exact absurd (h.mem_symbols fun _ => mem_symbols_of_mem_alternatives hα) hend
          | cons a rest => exact Begins.halts hg ht (α := [s]) (.inside hα h) hs (hread a rest rfl)
        · have hvanish := (Yields.of_alternative hα hv).halts hg ht rfl (by simpa using hfollow) hstack
          rwa [Alternative.body_cons_of_ne hs.1] at hvanish
    · cases input with
      | nil => exact ⟨false, .stop (by simp [parserMove, hn])⟩
      | cons a rest =>
        by_cases ha : a = s
        · subst ha
          obtain ⟨b, hb⟩ := hread a rest rfl stack hs.2.2
          exact ⟨b, .go (parserMove_read hn ..) hb⟩
        · exact ⟨false, .stop (by simp [parserMove, hn, ha])⟩

/-- The parser halts on every input. -/
theorem Sound.halts (hg : g.Canonical) (hend : endMarker ∉ g.symbols)
    (ht : (g.ownTable start).conflicts = []) {stack : List Symbol} (hs : g.Sound start stack)
    (input : List Symbol) : ∃ b, Halts g (g.ownTable start) ⟨stack, input⟩ b := by
  induction input generalizing stack with
  | nil => exact hs.halts_of_rest hg hend ht (by simp)
  | cons a input ih =>
    refine hs.halts_of_rest hg hend ht fun b rest h stack hs => ?_
    obtain ⟨-, rfl⟩ := List.cons.inj h
    exact ih hs

/-! ## Leftmost derivations -/

theorem Leftmost.yields {γ w : List Symbol} {ps : List Production} (h : g.Leftmost γ ps w) :
    g.Yields γ w := by
  induction h with
  | done hw => exact .of_isWord hw
  | step _ hα _ ih => exact ih.of_step (Step.replace _ _ hα)

/-- What a part of a sequence yields can be derived there first. -/
theorem Yields.leftmost (hg : g.Canonical) {α u : List Symbol} (h : g.Yields α u)
    {x after w : List Symbol} {ps : List Production} (hx : g.IsWord x)
    (hl : g.Leftmost (x ++ (u ++ after)) ps w) :
    ∃ qs, g.Leftmost (x ++ (body α ++ after)) qs w := by
  induction h generalizing x after ps with
  | nil => exact ⟨ps, hl⟩
  | vanish _ ih =>
    rw [Alternative.body_epsilon_cons]
    exact ih hx hl
  | @terminal a α u hn he _ ih =>
    have hxa : g.IsWord (x ++ [a]) :=
      isWord_append_iff.mpr ⟨hx, isWord_cons_iff.mpr ⟨⟨hn, he⟩, isWord_nil⟩⟩
    obtain ⟨qs, hqs⟩ := ih hxa (show g.Leftmost (x ++ [a] ++ (u ++ after)) ps w by simpa using hl)
    exact ⟨qs, by simpa [Alternative.body_cons_of_ne he] using hqs⟩
  | @nonterminal A α β u v hα h1 _ ihα ihβ =>
    have hxu : g.IsWord (x ++ u) := isWord_append_iff.mpr ⟨hx, h1.isWord⟩
    obtain ⟨qs, hqs⟩ := ihβ hxu (show g.Leftmost (x ++ u ++ (v ++ after)) ps w by simpa using hl)
    obtain ⟨rs, hrs⟩ := ihα hx (show g.Leftmost (x ++ (u ++ (body β ++ after))) qs w by
      simpa using hqs)
    have hA := hg.ne_epsilon (mem_nonterminals_of_mem_alternatives hα)
    exact ⟨(A, α) :: rs, by
      simpa [Alternative.body_cons_of_ne hA] using Leftmost.step hx hα hrs⟩

theorem split_at_nonterminal {u v after after' : List Symbol} {A B : Symbol} (hu : g.IsWord u)
    (hv : g.IsWord v) (hA : A ∈ g.nonterminals) (hB : B ∈ g.nonterminals)
    (h : u ++ A :: after = v ++ B :: after') : u = v ∧ A = B ∧ after = after' := by
  induction u generalizing v with
  | nil =>
    cases v with
    | nil => simpa using h
    | cons b v =>
      obtain ⟨rfl, -⟩ := List.cons.inj h
      exact absurd hA (hv A (by simp)).1
  | cons a u ih =>
    cases v with
    | nil =>
      obtain ⟨rfl, -⟩ := List.cons.inj h
      exact absurd hB (hu a (by simp)).1
    | cons b v =>
      obtain ⟨rfl, htail⟩ := List.cons.inj h
      obtain ⟨rfl, hrest⟩ := ih (isWord_cons_iff.mp hu).2 (isWord_cons_iff.mp hv).2 htail
      exact ⟨rfl, hrest⟩

theorem Leftmost.unique (hg : g.Canonical) (ht : (g.ownTable start).conflicts = [])
    {γ w : List Symbol} {ps qs : List Production} (hs : g.Sound start γ) (h : g.Leftmost γ ps w)
    (h' : g.Leftmost γ qs w) : ps = qs := by
  induction h generalizing qs with
  | done hw =>
    cases h' with
    | done => rfl
    | step _ hα => exact absurd (mem_nonterminals_of_mem_alternatives hα) (hw _ (by simp)).1
  | @step A α u after w ps hu hα h ih =>
    have hA := mem_nonterminals_of_mem_alternatives hα
    generalize hγ : u ++ A :: after = γ at h'
    cases h' with
    | done hw => exact absurd hA (hw A (hγ ▸ by simp)).1
    | @step B β v after' _ qs hv hβ h' =>
      obtain ⟨rfl, rfl, rfl⟩ :=
        split_at_nonterminal hu hv hA (mem_nonterminals_of_mem_alternatives hβ) hγ
      have hcell : ∀ {δ : Alternative} {rs : List Production}, δ ∈ g.alternatives A →
          g.Leftmost (u ++ (body δ ++ after)) rs w →
          δ ∈ (g.ownTable start).cell A (lookahead (w.drop u.length)) := by
        intro δ rs hδ hl
        obtain ⟨x, y, rfl, hx, hy⟩ := yields_append_iff.mp hl.yields
        obtain rfl := (yields_word_iff hu).mp hx
        simpa using mem_cell_of_yields hg hδ hs.of_append hy
      have hαβ : α = β := by
        have hsingle := cell_eq_singleton ht (hcell hβ h')
        simpa [hsingle] using hcell hα h
      subst hαβ
      rw [ih (hs.of_step hg (.replace u after hα)) h']

/-! ## The parser decides the language -/

/-- Without conflicts the parser halts on every word, accepts the words that are derived from the start
symbol, and each of them has one leftmost derivation. -/
theorem conflict_free_parser_decides (hg : g.Canonical) (hend : endMarker ∉ g.symbols)
    (hstart : start ∈ g.nonterminals)
    (ht : (g.predictionTable g.first (g.follow g.first start)).conflicts = []) {w : List Symbol}
    (hw : ∀ a ∈ w, a ∈ g.terminals) :
    (∃! accepted, Halts g (g.predictionTable g.first (g.follow g.first start)) ⟨[start], w⟩ accepted) ∧
    (Halts g (g.predictionTable g.first (g.follow g.first start)) ⟨[start], w⟩ true ↔
      w ∈ g.language start) ∧
    (w ∈ g.language start → ∃! ps, g.Leftmost [start] ps w) := by
  have hword : g.IsWord w := fun a ha =>
    have ⟨_, he, hn⟩ := mem_terminals_iff.mp (hw a ha)
    ⟨hn, he⟩
  have hne : start ≠ epsilon := hg.ne_epsilon hstart
  have hsound : g.Sound start [start] := sound_start hne
  have hbody : body [start] = [start] := Alternative.body_eq_self (by simpa using hne.symm)
  have hlanguage : w ∈ g.language start ↔ g.Yields [start] w :=
    mem_language_iff hg.epsilon_not_mem hne
  change (g.ownTable start).conflicts = [] at ht
  change (∃! accepted, Halts g (g.ownTable start) _ accepted) ∧ (Halts g (g.ownTable start) _ _ ↔ _) ∧ _
  refine ⟨?_, ?_, ?_⟩
  · obtain ⟨accepted, h⟩ := hsound.halts hg hend ht w
    exact ⟨accepted, h, fun b hb => hb.unique h⟩
  · rw [hlanguage]
    constructor
    · exact fun h => h.yields (fun A a α hα => ((mem_cell_iff hg).mp hα).1) rfl hword
    · intro h
      have hdone : Halts g (g.ownTable start) ⟨[], []⟩ true := .stop rfl
      simpa [hbody] using h.accepted hg ht (by simpa [hbody] using hsound) .nil hdone
  · intro h
    have hdone : g.Leftmost ([] ++ (w ++ [])) [] w := by simpa using Leftmost.done hword
    obtain ⟨ps, hps⟩ := (hlanguage.mp h).leftmost hg isWord_nil hdone
    exact ⟨ps, by simpa [hbody] using hps, fun qs hqs =>
      hqs.unique hg ht hsound (by simpa [hbody] using hps)⟩

/-- Sums of numbers and of sums between brackets. -/
def sums : Grammar := .ofList
  [("E", [["T", "R"]]), ("R", [["+", "T", "R"], ["ε"]]), ("T", [["(", "E", ")"], ["n"]])]

theorem sums_parser_decides :
    sums.Canonical ∧ endMarker ∉ sums.symbols ∧ "E" ∈ sums.nonterminals ∧
    (sums.predictionTable sums.first (sums.follow sums.first "E")).conflicts = [] ∧
    (∀ a ∈ ["(", "n", ")", "+", "n"], a ∈ sums.terminals) ∧
    (∃! accepted, Halts sums (sums.predictionTable sums.first (sums.follow sums.first "E"))
      ⟨["E"], ["(", "n", ")", "+", "n"]⟩ accepted) ∧
    (Halts sums (sums.predictionTable sums.first (sums.follow sums.first "E"))
      ⟨["E"], ["(", "n", ")", "+", "n"]⟩ true ↔ ["(", "n", ")", "+", "n"] ∈ sums.language "E") ∧
    (["(", "n", ")", "+", "n"] ∈ sums.language "E" →
      ∃! ps, sums.Leftmost ["E"] ps ["(", "n", ")", "+", "n"]) := by
  have hg : sums.Canonical := by decide
  have hend : endMarker ∉ sums.symbols := by decide
  have hstart : "E" ∈ sums.nonterminals := by decide
  have ht : (sums.predictionTable sums.first (sums.follow sums.first "E")).conflicts = [] := by
    decide +kernel
  have hw : ∀ a ∈ ["(", "n", ")", "+", "n"], a ∈ sums.terminals := by decide
  exact ⟨hg, hend, hstart, ht, hw, conflict_free_parser_decides hg hend hstart ht hw⟩

end Grammar

end FormalLanguages
