import FormalLanguages.Proofs.Grammar.Follow
/-!
# Neighbours in derived sequences

FOLLOW sets say what can stand right after a nonterminal in a sequence that is derived, nonterminals
between the two that vanish aside.

**Invariant.** In a sequence that is derived from the start symbol, what can come next after a
nonterminal follows it, the end marker standing for the end of the sequence (`Sound`). A step puts an
alternative in the place of its nonterminal: inside the alternative its own symbols come next, behind
it what came next before.

Results:
* `Sound.of_derives`: derivations keep the invariant.
* `followedBy_iff_derives`: a terminal follows a nonterminal exactly if some nonterminal derives a
  sequence in which the two are neighbours.
* `followedBy_end_iff_derives`: the end marker follows a nonterminal exactly if the start symbol
  derives a sequence that ends with it.
-/
namespace FormalLanguages.Grammar

open FormalLanguages.Alternative (body)

variable {g : Grammar} {start : Symbol}

/-! ## The invariant -/

/-- A terminal can come first in what a sequence derives, or the end marker if it can vanish. -/
def Ahead (g : Grammar) (α : List Symbol) (a : Symbol) : Prop :=
  g.Begins α a ∨ g.Yields α [] ∧ a = endMarker

/-- What can come next after a nonterminal of the sequence follows it. -/
def Sound (g : Grammar) (start : Symbol) : List Symbol → Prop
  | [] => True
  | s :: stack => s ≠ epsilon ∧
    (s ∈ g.nonterminals → ∀ a, g.Ahead stack a → g.FollowedBy start s a) ∧ Sound g start stack

theorem Ahead.of_append {α β : List Symbol} {a : Symbol} (h : g.Ahead (α ++ β) a) :
    g.Begins α a ∨ g.Yields α [] ∧ g.Ahead β a := by
  rcases h with h | ⟨h, rfl⟩
  · exact h.of_append.imp_right fun ⟨hα, h⟩ => ⟨hα, Or.inl h⟩
  · obtain ⟨hu, hv⟩ := yields_append_nil_iff.mp h
    exact Or.inr ⟨hu, Or.inr ⟨hv, rfl⟩⟩

theorem sound_start (hstart : start ≠ epsilon) : g.Sound start [start] := by
  refine ⟨hstart, fun _ a ha => ?_, trivial⟩
  rcases ha with ha | ⟨-, rfl⟩
  · exact absurd ha not_begins_nil
  · exact .atEnd

theorem Sound.of_append {α β : List Symbol} (h : g.Sound start (α ++ β)) : g.Sound start β := by
  induction α with
  | nil => exact h
  | cons s α ih => exact ih h.2.2

theorem Sound.epsilon_not_mem {stack : List Symbol} (h : g.Sound start stack) : epsilon ∉ stack := by
  induction stack with
  | nil => simp
  | cons s stack ih => simpa using ⟨h.1.symm, ih h.2.2⟩

/-- Replacing the first nonterminal keeps the invariant: a symbol inside the alternative is followed by
what comes after it there, and where that can vanish by what follows the nonterminal. -/
theorem Sound.expand (hg : g.Canonical) {A : Symbol} {α : Alternative} {stack : List Symbol}
    (hα : α ∈ g.alternatives A) (h : g.Sound start (A :: stack)) :
    g.Sound start (body α ++ stack) := by
  have suffixes : ∀ after before : List Symbol, before ++ after = α → epsilon ∉ α →
      g.Sound start (after ++ stack) := by
    intro after
    induction after with
    | nil => exact fun _ _ _ => h.2.2
    | cons B after ih =>
      rintro before rfl hne
      refine ⟨fun hB => hne (by simp [hB]), fun _ a ha => ?_,
        ih (before ++ [B]) (by simp) (by simpa using hne)⟩
      rcases ha.of_append with ha | ⟨hv, ha⟩
      · exact .inside hα ha
      · exact .last hα hv (h.2.1 (mem_nonterminals_of_mem_alternatives hα) a ha)
  rcases hg.cases hα with rfl | ⟨-, hne⟩
  · simpa using h.2.2
  · rw [Alternative.body_eq_self hne]
    exact suffixes α [] rfl hne

/-- What comes next after a step came next before it. -/
theorem Ahead.of_step (hg : g.Canonical) {γ δ : List Symbol} {a : Symbol} (hs : g.Step γ δ)
    (hγ : epsilon ∉ γ) (h : g.Ahead δ a) : g.Ahead γ a :=
  h.imp (.of_step hg hs hγ) (And.imp_left (.of_step hs))

/-- A step anywhere in the sequence keeps the invariant. -/
theorem Sound.of_step (hg : g.Canonical) {γ δ : List Symbol} (hs : g.Step γ δ)
    (h : g.Sound start γ) : g.Sound start δ := by
  cases hs with
  | replace before after hα =>
    induction before with
    | nil => exact h.expand hg hα
    | cons s before ih =>
      obtain ⟨hs, hnext, hrest⟩ := h
      exact ⟨hs, fun hn a ha =>
        hnext hn a (ha.of_step hg (.replace before after hα) hrest.epsilon_not_mem), ih hrest⟩

theorem Sound.of_derives (hg : g.Canonical) {γ δ : List Symbol} (hd : g.Derives γ δ)
    (h : g.Sound start γ) : g.Sound start δ := by
  induction hd with
  | refl => exact h
  | tail _ hs ih => exact ih.of_step hg hs

/-- What can come next after a nonterminal of a derived sequence follows it. -/
theorem FollowedBy.of_derives (hg : g.Canonical) (hstart : start ≠ epsilon) {B a : Symbol}
    (hB : B ∈ g.nonterminals) {before after : List Symbol}
    (hd : g.Derives [start] (before ++ B :: after)) (ha : g.Ahead after a) :
    g.FollowedBy start B a :=
  ((sound_start hstart).of_derives hg hd).of_append.2.1 hB a ha

/-! ## Derivations that put symbols next to each other -/

theorem Canonical.epsilon_not_mem_of_place (hg : g.Canonical) {A B : Symbol}
    {before after : List Symbol} (hα : before ++ B :: after ∈ g.alternatives A)
    (hB : B ∈ g.nonterminals) : epsilon ∉ before ++ B :: after := by
  rcases hg.cases hα with he | ⟨-, he⟩
  · have hBe : B ∈ [epsilon] := he ▸ by simp
    exact absurd (List.mem_singleton.mp hBe) (hg.ne_epsilon hB)
  · exact he

/-- A nonterminal is replaced by an alternative, and what comes after a place in it is derived on. -/
theorem Derives.expand_at (hg : g.Canonical) {γ x y before after after' : List Symbol} {A B : Symbol}
    (h : g.Derives γ (x ++ A :: y)) (hα : before ++ B :: after ∈ g.alternatives A)
    (hB : B ∈ g.nonterminals) (hafter : g.Derives after after') :
    g.Derives γ (x ++ before ++ B :: (after' ++ y)) := by
  have hstep : g.Derives (x ++ A :: y) (x ++ (before ++ B :: after ++ y)) := by
    have := Step.replace x y hα
    rw [Alternative.body_eq_self (hg.epsilon_not_mem_of_place hα hB)] at this
    exact Relation.ReflTransGen.single this
  have hrest := hafter.context (x ++ before ++ [B]) y
  simp only [List.append_assoc, List.cons_append, List.nil_append] at hstep hrest ⊢
  exact (h.trans hstep).trans hrest

/-- What vanishes derives the empty sequence. -/
theorem Canonical.derives_nil_after (hg : g.Canonical) {A B : Symbol} {before after : List Symbol}
    (hα : before ++ B :: after ∈ g.alternatives A) (hv : g.Yields after []) : g.Derives after [] :=
  ((derives_iff_yields hg.epsilon_not_mem (hg.epsilon_not_mem_after hα)).mpr hv).2

theorem FollowedBy.exists_derives (hg : g.Canonical) {B b : Symbol} (h : g.FollowedBy start B b)
    (hB : B ∈ g.nonterminals) (hb : b ≠ endMarker) :
    ∃ C ∈ g.nonterminals, ∃ before after, g.Derives [C] (before ++ B :: b :: after) := by
  induction h with
  | atEnd => exact absurd rfl hb
  | @inside A B b before after hα ha =>
    obtain ⟨after', hd⟩ := ha.exists_derives hg (hg.epsilon_not_mem_after hα)
    have hA : g.Derives [A] ([] ++ A :: []) := .refl [A]
    exact ⟨A, mem_nonterminals_of_mem_alternatives hα, before, after', by
      simpa using hA.expand_at hg hα hB hd⟩
  | last hα hv _ ih =>
    obtain ⟨C, hC, x, y, hd⟩ := ih (mem_nonterminals_of_mem_alternatives hα) hb
    exact ⟨C, hC, _, y, hd.expand_at hg hα hB (hg.derives_nil_after hα hv)⟩

theorem FollowedBy.exists_derives_end (hg : g.Canonical) (hend : endMarker ∉ g.symbols) {B b : Symbol}
    (h : g.FollowedBy start B b) (hB : B ∈ g.nonterminals) (hb : b = endMarker) :
    start ∈ g.nonterminals ∧ ∃ before, g.Derives [start] (before ++ [B]) := by
  induction h with
  | atEnd => exact ⟨hB, [], .refl _⟩
  | inside hα ha =>
    refine absurd (hb ▸ ha.mem_symbols fun s hs => ?_) hend
    exact mem_symbols_of_mem_alternatives hα (by simp [hs])
  | last hα hv _ ih =>
    obtain ⟨hstart, x, hd⟩ := ih (mem_nonterminals_of_mem_alternatives hα) hb
    exact ⟨hstart, _, hd.expand_at hg hα hB (hg.derives_nil_after hα hv)⟩

/-! ## What follows in derived sequences -/

/-- The start symbol only decides what the end marker follows. -/
theorem FollowedBy.change_start {B b start' : Symbol} (h : g.FollowedBy start B b)
    (hb : b ≠ endMarker) : g.FollowedBy start' B b := by
  induction h with
  | atEnd => exact absurd rfl hb
  | inside hα ha => exact .inside hα ha
  | last hα hv _ ih => exact .last hα hv (ih hb)

/-- A terminal follows a nonterminal if it can be its neighbour in a derived sequence. -/
theorem followedBy_iff_derives (hg : g.Canonical) {B b : Symbol} (hB : B ∈ g.nonterminals)
    (hn : b ∉ g.nonterminals) (he : b ≠ epsilon) (hb : b ≠ endMarker) : g.FollowedBy start B b ↔
      ∃ C ∈ g.nonterminals, ∃ before after, g.Derives [C] (before ++ B :: b :: after) := by
  refine ⟨fun h => h.exists_derives hg hB hb, fun h => ?_⟩
  obtain ⟨C, hC, before, after, hd⟩ := h
  exact (FollowedBy.of_derives hg (hg.ne_epsilon hC) hB hd (Or.inl (.here hn he))).change_start hb

/-- The end marker follows a nonterminal if it can end what the start symbol derives. -/
theorem followedBy_end_iff_derives (hg : g.Canonical) (hend : endMarker ∉ g.symbols) {B : Symbol}
    (hB : B ∈ g.nonterminals) : g.FollowedBy start B endMarker ↔
      start ∈ g.nonterminals ∧ ∃ before, g.Derives [start] (before ++ [B]) := by
  refine ⟨fun h => h.exists_derives_end hg hend hB rfl, fun h => ?_⟩
  obtain ⟨hstart, before, hd⟩ := h
  exact .of_derives hg (hg.ne_epsilon hstart) hB hd (Or.inr ⟨.nil, rfl⟩)

/-- Only terminals and the end marker follow anything. -/
theorem FollowedBy.eq_end_or_terminal {B b : Symbol} (h : g.FollowedBy start B b) :
    b = endMarker ∨ b ∈ g.terminals := by
  induction h with
  | atEnd => exact Or.inl rfl
  | inside hα ha =>
    obtain ⟨hn, he⟩ := ha.terminal
    have hb := ha.mem_symbols fun s hs => mem_symbols_of_mem_alternatives hα (by simp [hs])
    exact Or.inr (mem_terminals_iff.mpr ⟨(mem_symbols_iff.mp hb).resolve_left hn, he, hn⟩)
  | last _ _ _ ih => exact ih

end FormalLanguages.Grammar
