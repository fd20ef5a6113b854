import FormalLanguages.Proofs.Grammar.First
import FormalLanguages.Proofs.Grammar.Passes
/-!
# The FIRST sets and derivations

The FIRST sets can be gathered in passes: every alternative contributes to the set of its nonterminal
the FIRST set that it has with the sets found so far. The sets only grow, what they hold always comes
from leading symbols, and sets that a pass leaves as they are hold everything to which leading symbols
lead, by induction on the path and on why a nonterminal vanishes.

Results:
* `gathers_first`: the passes come to rest at the FIRST sets, in every grammar.
* `first_iff_derives`: in a canonical one these hold the terminals that come first in what their nonterminal
  derives, and `ε` if it derives the empty word.
-/
namespace FormalLanguages.Grammar

open SymbolSets

variable {g : Grammar} {sets : SymbolSets}

/-- What each alternative contributes to the FIRST set of its nonterminal. -/
def firstContributions (g : Grammar) : List Contribution :=
  g.productions.map fun p => ⟨p.1, fun sets => firstOf sets g.isNonterminal p.2⟩

/-- An empty set for each nonterminal. -/
def noSymbols (g : Grammar) : SymbolSets := g.mapValues fun _ _ => ∅

theorem mem_firstContributions_iff {c : Contribution} :
    c ∈ g.firstContributions ↔ ∃ A, ∃ α ∈ g.alternatives A,
      ⟨A, fun sets => firstOf sets g.isNonterminal α⟩ = c := by
  simp only [firstContributions, List.mem_map, Prod.exists, mem_productions_iff]

theorem keys_first : g.first.keys = g.nonterminals := OrderedMap.keys_mapValues ..

theorem keys_noSymbols : g.noSymbols.keys = g.nonterminals := OrderedMap.keys_mapValues ..

/-! ## Sets that are within the FIRST sets -/

/-- Larger sets give a sequence a larger FIRST set. -/
theorem firstOf_mono {s t : SymbolSets} (h : s.Within t) {x : Symbol} {α : List Symbol}
    (hx : x ∈ firstOf s g.isNonterminal α) : x ∈ firstOf t g.isNonterminal α := by
  induction α with
  | nil => exact hx
  | cons B α ih =>
    by_cases he : B = epsilon
    · simpa [firstOf, he] using hx
    by_cases hB : B ∈ g.nonterminals
    · rw [mem_firstOf_nonterminal_cons_iff hB he] at hx ⊢
      exact hx.imp (And.imp_left (h.subset B x)) (And.imp (h.subset B epsilon) ih)
    · rwa [firstOf_terminal_cons hB] at hx ⊢

/-- A symbol that ends a path from a nonterminal and is none itself is not `ε`. -/
theorem ne_epsilon_of_reaches {v : List Symbol} {A x : Symbol} (hA : A ∈ g.nonterminals)
    (hr : Reaches (g.leadingOf v) A x) (hx : x ∉ g.nonterminals) : x ≠ epsilon := by
  cases hr with
  | refl => exact absurd hA hx
  | step _ hs =>
    obtain ⟨-, -, -, he⟩ := mem_alternative_of_mem_leadingOf hs
    exact he

theorem epsilon_mem_first_iff_vanishing {A : Symbol} (hA : A ∈ g.nonterminals) :
    epsilon ∈ g.first.getD A ∅ ↔ A ∈ g.vanishing := by
  rw [mem_first_iff_reaches hA]
  exact ⟨fun h => h.elim (fun ⟨hr, hn⟩ => absurd rfl (ne_epsilon_of_reaches hA hr hn)) And.right,
    fun h => Or.inr ⟨rfl, h⟩⟩

theorem mem_vanishing_of_alternative {A : Symbol} {α : Alternative} (hα : α ∈ g.alternatives A)
    (h : ∀ s ∈ beforeEpsilon α, s ∈ g.vanishing) : A ∈ g.vanishing := by
  simp only [vanishing, mem_consequences_iff] at h ⊢
  exact Follows.rule (r := (A, beforeEpsilon α))
    (List.mem_map.mpr ⟨(A, α), mem_productions_iff.mpr hα, rfl⟩) h

/-- What the FIRST sets give for a sequence comes from its leading symbols. -/
theorem leading_of_mem_firstOf_first {x : Symbol} {α : List Symbol}
    (hx : x ∈ firstOf g.first g.isNonterminal α) :
    (∃ s ∈ leadingSymbols g.vanishing (beforeEpsilon α),
      Reaches (g.leadingOf g.vanishing) s x ∧ x ∉ g.nonterminals) ∨
      x = epsilon ∧ ∀ s ∈ beforeEpsilon α, s ∈ g.vanishing := by
  induction α with
  | nil => exact Or.inr ⟨NameSet.mem_singleton.mp hx, by simp [beforeEpsilon]⟩
  | cons s α ih =>
    by_cases he : s = epsilon
    · subst he
      exact Or.inr ⟨by simpa [firstOf] using hx, by simp [beforeEpsilon]⟩
    rw [beforeEpsilon_cons_of_ne he]
    have hfront : s ∈ leadingSymbols g.vanishing (s :: beforeEpsilon α) :=
      mem_leadingSymbols_iff.mpr ⟨[], _, rfl, by simp⟩
    by_cases hs : s ∈ g.nonterminals
    · rcases (mem_firstOf_nonterminal_cons_iff hs he).mp hx with ⟨hx, hxε⟩ | ⟨hv, hx⟩
      · obtain h | ⟨hxe, -⟩ := (mem_first_iff_reaches hs).mp hx
        · exact Or.inl ⟨s, hfront, h⟩
        · exact absurd hxe hxε
      · have hv := (epsilon_mem_first_iff_vanishing hs).mp hv
        rw [leadingSymbols, if_pos hv]
        rcases ih hx with ⟨t, ht, h⟩ | ⟨hxε, h⟩
        · exact Or.inl ⟨t, List.mem_cons_of_mem s ht, h⟩
        · exact Or.inr ⟨hxε, List.forall_mem_cons.mpr ⟨hv, h⟩⟩
    · rw [firstOf_terminal_cons hs, NameSet.mem_singleton] at hx
      subst hx
      exact Or.inl ⟨x, hfront, .refl, hs⟩

theorem respects_first {c : Contribution} (hc : c ∈ g.firstContributions) : Respects g.first c := by
  obtain ⟨A, α, hα, rfl⟩ := mem_firstContributions_iff.mp hc
  have hA := mem_nonterminals_of_mem_alternatives hα
  refine ⟨keys_first ▸ hA, fun sets hsets x hx => (mem_first_iff_reaches hA).mpr ?_⟩
  rcases leading_of_mem_firstOf_first (firstOf_mono hsets hx) with ⟨s, hs, hr, hn⟩ | ⟨hx, hv⟩
  · exact Or.inl ⟨(Reaches.refl.step (mem_leadingOf_iff.mpr ⟨α, hα, hs⟩)).trans hr, hn⟩
  · exact Or.inr ⟨hx, mem_vanishing_of_alternative hα hv⟩

/-! ## Sets that are closed -/

theorem firstOf_subset_of_closed (hsets : Closed g.firstContributions sets) {A : Symbol}
    {α : Alternative} (hα : α ∈ g.alternatives A) {x : Symbol}
    (hx : x ∈ firstOf sets g.isNonterminal α) : x ∈ sets.getD A ∅ :=
  hsets _ (mem_firstContributions_iff.mpr ⟨A, α, hα, rfl⟩) x hx

/-- A sequence can vanish whose symbols up to the first `ε` have `ε` in their sets. -/
theorem epsilon_mem_firstOf_of_forall {α : List Symbol}
    (h : ∀ s ∈ beforeEpsilon α, s ∈ g.nonterminals ∧ epsilon ∈ sets.getD s ∅) :
    epsilon ∈ firstOf sets g.isNonterminal α := by
  induction α with
  | nil => simp [firstOf]
  | cons s α ih =>
    by_cases he : s = epsilon
    · simp [firstOf, he]
    rw [beforeEpsilon_cons_of_ne he] at h
    obtain ⟨⟨hs, hv⟩, h⟩ := List.forall_mem_cons.mp h
    exact (mem_firstOf_nonterminal_cons_iff hs he).mpr (Or.inr ⟨hv, ih h⟩)

/-- Closed sets have `ε` for each nonterminal that vanishes. -/
theorem epsilon_mem_of_vanishing (hsets : Closed g.firstContributions sets) {A : Symbol}
    (hA : A ∈ g.vanishing) : A ∈ g.nonterminals ∧ epsilon ∈ sets.getD A ∅ := by
  rw [vanishing, mem_consequences_iff] at hA
  induction hA with
  | rule hr _ ih =>
    obtain ⟨⟨A, α⟩, hp, rfl⟩ := List.mem_map.mp hr
    have hα := mem_productions_iff.mp hp
    exact ⟨mem_nonterminals_of_mem_alternatives hα,
      firstOf_subset_of_closed hsets hα (epsilon_mem_firstOf_of_forall ih)⟩

/-- A symbol gives a terminal: it is the terminal, or a nonterminal whose set has it. -/
def Gives (g : Grammar) (sets : SymbolSets) (s x : Symbol) : Prop :=
  s ∈ g.nonterminals ∧ x ∈ sets.getD s ∅ ∨ s ∉ g.nonterminals ∧ s = x

/-- With closed sets, what a leading symbol gives is in the FIRST set of the sequence. -/
theorem Gives.mem_firstOf (hsets : Closed g.firstContributions sets) {s x : Symbol} {α : List Symbol}
    (h : g.Gives sets s x) (hx : x ≠ epsilon)
    (hs : s ∈ leadingSymbols g.vanishing (beforeEpsilon α)) : x ∈ firstOf sets g.isNonterminal α := by
  induction α with
  | nil => simp [beforeEpsilon, leadingSymbols] at hs
  | cons t α ih =>
    by_cases he : t = epsilon
    · simp [beforeEpsilon, leadingSymbols, he] at hs
    rw [beforeEpsilon_cons_of_ne he, leadingSymbols] at hs
    have hfront : s = t → x ∈ firstOf sets g.isNonterminal (t :: α) := by
      rintro rfl
      rcases h with ⟨hn, h⟩ | ⟨hn, rfl⟩
      · exact (mem_firstOf_nonterminal_cons_iff hn he).mpr (Or.inl ⟨h, hx⟩)
      · rw [firstOf_terminal_cons hn, NameSet.mem_singleton]
    split at hs
    · next hv =>
      obtain ⟨ht, hε⟩ := epsilon_mem_of_vanishing hsets hv
      rcases List.mem_cons.mp hs with hs | hs
      · exact hfront hs
      · exact (mem_firstOf_nonterminal_cons_iff ht he).mpr (Or.inr ⟨hε, ih hs⟩)
    · exact hfront (List.mem_singleton.mp hs)

/-- With closed sets, nonterminals give what the symbols give to which leading symbols lead. -/
theorem Gives.of_reaches (hsets : Closed g.firstContributions sets) {A s x : Symbol}
    (hr : Reaches (g.leadingOf g.vanishing) A s) (hx : x ≠ epsilon) (h : g.Gives sets s x) :
    g.Gives sets A x := by
  induction hr with
  | refl => exact h
  | step _ hs ih =>
    obtain ⟨α, hα, hs⟩ := mem_leadingOf_iff.mp hs
    exact ih (Or.inl ⟨mem_nonterminals_of_mem_alternatives hα,
      firstOf_subset_of_closed hsets hα (h.mem_firstOf hsets hx hs)⟩)

theorem first_within_of_closed (hkeys : g.noSymbols.Within sets)
    (hsets : Closed g.firstContributions sets) : g.first.Within sets where
  keys := keys_first.trans (keys_noSymbols.symm.trans hkeys.keys)
  subset A x hx := by
    have hA : A ∈ g.nonterminals := keys_first ▸ mem_keys_of_mem_getD hx
    rcases (mem_first_iff_reaches hA).mp hx with ⟨hr, hn⟩ | ⟨rfl, hv⟩
    · obtain ⟨-, h⟩ | ⟨hnot, -⟩ :=
        Gives.of_reaches hsets hr (ne_epsilon_of_reaches hA hr hn) (Or.inr ⟨hn, rfl⟩)
      · exact h
      · exact absurd hA hnot
    · exact (epsilon_mem_of_vanishing hsets hv).2

/-! ## The sets -/

/-- In every grammar the passes over the alternatives come to rest, and at the FIRST sets. -/
theorem gathers_first (g : Grammar) : Gathers g.firstContributions g.noSymbols g.first := by
  refine gathers_limit ⟨keys_noSymbols.trans keys_first.symm, fun A x hx => ?_⟩ (fun c => respects_first)
    fun sets => first_within_of_closed
  rw [noSymbols, OrderedMap.getD, OrderedMap.get?_mapValues] at hx
  cases hA : g.get? A <;> simp [hA] at hx

/-- The passes over the alternatives come to rest, and at the FIRST sets. These hold the terminals with
which some sequence begins that is derived from the nonterminal, and `ε` if it derives the empty word. -/
theorem first_iff_derives (hg : g.Canonical) :
    Gathers g.firstContributions g.noSymbols g.first ∧
    ∀ A ∈ g.nonterminals,
      (∀ t, t ∉ g.nonterminals → t ≠ epsilon →
        (t ∈ g.first.getD A ∅ ↔ ∃ β, g.Derives [A] (t :: β))) ∧
      (epsilon ∈ g.first.getD A ∅ ↔ g.Derives [A] []) := by
  refine ⟨gathers_first g, fun A hA => ?_⟩
  have hAe : epsilon ∉ [A] := by
    simpa using (hg.ne_epsilon hA).symm
  refine ⟨fun t hn he => ?_, ?_⟩
  · rw [mem_first_iff hg hA, begins_iff_exists_derives hg hAe hn he]
    simp [he]
  · rw [epsilon_mem_first_iff hg hA, ← derives_iff_yields hg.epsilon_not_mem hAe]
    simp [isWord_nil]

/-- Lists of items; an item is a number with up to two signs. -/
def signed : Grammar := .ofList
  [("L", [["L", "I"], ["ε"]]), ("I", [["O", "O", "n"]]), ("O", [["-"], ["ε"]])]

theorem signed_first_derives :
    signed.Canonical ∧ Gathers signed.firstContributions signed.noSymbols signed.first ∧
    (∃ β, signed.Derives ["L"] ("n" :: β)) ∧ signed.Derives ["L"] [] ∧ ¬ signed.Derives ["I"] [] := by
  have hg : signed.Canonical := by decide
  obtain ⟨hpasses, hsets⟩ := first_iff_derives hg
  have hL := hsets "L" (by decide)
  have hI := hsets "I" (by decide)
  refine ⟨hg, hpasses, (hL.1 "n" (by decide) (by decide)).mp (by decide), hL.2.mp (by decide), ?_⟩
  exact hI.2.not.mp (by decide)

end FormalLanguages.Grammar
