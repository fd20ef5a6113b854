import FormalLanguages.Grammar.First
import FormalLanguages.Proofs.Grammar.Derivation
import Mathlib.Data.List.TakeWhile
/-!
# What the FIRST sets hold

A sequence can begin with a terminal that stands in it once the symbols before it have vanished, or
with one with which an alternative of a nonterminal there can begin. No word need be derived for this,
so it also makes sense where nothing is productive.

Results:
* `mem_vanishing_iff`: the nonterminals that vanish are those that yield the empty word.
* `mem_first_iff`, `mem_firstOf_iff`: FIRST sets hold the terminals with which a sequence can begin, and
  `ε` if it yields the empty word.
* `Yields.begins`: a word begins with a terminal with which its sequence can begin.
* `begins_iff_exists_derives`: a sequence can begin with a terminal exactly if it derives a sequence that
  has it in front.
-/
namespace FormalLanguages.Grammar

/-- A sequence can begin with a terminal. -/
inductive Begins (g : Grammar) : List Symbol → Symbol → Prop
  | here {a : Symbol} {β : List Symbol} : a ∉ g.nonterminals → a ≠ epsilon → Begins g (a :: β) a
  | inside {A a : Symbol} {α β : List Symbol} :
    α ∈ g.alternatives A → Begins g α a → Begins g (A :: β) a
  | after {A a : Symbol} {β : List Symbol} :
    A ∈ g.nonterminals → g.Yields [A] [] → Begins g β a → Begins g (A :: β) a

variable {g : Grammar}

theorem Begins.terminal {α : List Symbol} {a : Symbol} (h : g.Begins α a) :
    a ∉ g.nonterminals ∧ a ≠ epsilon := by
  induction h with
  | here hn he => exact ⟨hn, he⟩
  | inside _ _ ih => exact ih
  | after _ _ _ ih => exact ih

theorem not_begins_nil {a : Symbol} : ¬ g.Begins [] a := fun h => nomatch h

theorem Begins.append {α : List Symbol} {a : Symbol} (h : g.Begins α a) (β : List Symbol) :
    g.Begins (α ++ β) a := by
  induction h with
  | here hn he => exact .here hn he
  | inside hα h _ => exact .inside hα h
  | after hA hv _ ih => exact .after hA hv ih

theorem begins_terminal_cons_iff {s a : Symbol} {β : List Symbol} (hn : s ∉ g.nonterminals) :
    g.Begins (s :: β) a ↔ s ≠ epsilon ∧ a = s := by
  constructor
  · intro h
    cases h with
    | here _ he => exact ⟨he, rfl⟩
    | inside hα => exact absurd (mem_nonterminals_of_mem_alternatives hα) hn
    | after hA => exact absurd hA hn
  · intro h
    obtain ⟨he, rfl⟩ := h
    exact .here hn he

theorem begins_nonterminal_cons_iff {A a : Symbol} {β : List Symbol} (hA : A ∈ g.nonterminals) :
    g.Begins (A :: β) a ↔ g.Begins [A] a ∨ g.Yields [A] [] ∧ g.Begins β a := by
  constructor
  · intro h
    cases h with
    | here hn => exact absurd hA hn
    | inside hα h => exact Or.inl (.inside hα h)
    | after _ hv h => exact Or.inr ⟨hv, h⟩
  · intro h
    rcases h with h | ⟨hv, h⟩
    · simpa using h.append β
    · exact .after hA hv h

/-- Symbols that vanish may stand in front. -/
theorem Begins.prepend {α β : List Symbol} {a : Symbol}
    (hα : ∀ s ∈ α, s ∈ g.nonterminals ∧ g.Yields [s] []) (h : g.Begins β a) : g.Begins (α ++ β) a := by
  induction α with
  | nil => exact h
  | cons s α ih =>
    obtain ⟨hn, hv⟩ := hα s (by simp)
    exact .after hn hv (ih fun t ht => hα t (by simp [ht]))

theorem Begins.of_append {α β : List Symbol} {a : Symbol} (h : g.Begins (α ++ β) a) :
    g.Begins α a ∨ g.Yields α [] ∧ g.Begins β a := by
  induction α with
  | nil => exact Or.inr ⟨.nil, h⟩
  | cons s α ih =>
    cases h with
    | here hn he => exact Or.inl (.here hn he)
    | inside hα h => exact Or.inl (.inside hα h)
    | after hn hv h =>
      rcases ih h with h | ⟨hα, h⟩
      · exact Or.inl (.after hn hv h)
      · exact Or.inr ⟨yields_cons_nil_iff.mpr ⟨hv, hα⟩, h⟩

/-- A terminal with which a sequence can begin occurs in the grammar or in the sequence. -/
theorem Begins.mem_symbols {α : List Symbol} {a : Symbol} (h : g.Begins α a)
    (hα : ∀ s ∈ α, s ∈ g.symbols) : a ∈ g.symbols := by
  induction h with
  | here => exact hα _ (by simp)
  | inside hA _ ih => exact ih fun s hs => mem_symbols_of_mem_alternatives hA hs
  | after _ _ _ ih => exact ih fun s hs => hα s (by simp [hs])

theorem Yields.of_forall_mem {α : List Symbol} (h : ∀ s ∈ α, g.Yields [s] []) : g.Yields α [] := by
  induction α with
  | nil => exact .nil
  | cons s α ih =>
    exact yields_cons_nil_iff.mpr ⟨h s (by simp), ih fun t ht => h t (by simp [ht])⟩

theorem Yields.forall_mem {α : List Symbol} (h : g.Yields α []) : ∀ s ∈ α, g.Yields [s] [] := by
  induction α with
  | nil => simp
  | cons s α ih =>
    obtain ⟨hs, hα⟩ := yields_cons_nil_iff.mp h
    exact fun t ht => (List.mem_cons.mp ht).elim (fun e => e ▸ hs) (ih hα t)

theorem Yields.begins {α w : List Symbol} (h : g.Yields α w) {a : Symbol} {v : List Symbol}
    (hw : w = a :: v) (hε : epsilon ∉ α) (hg : g.Canonical) : g.Begins α a := by
  induction h generalizing v with
  | nil => cases hw
  | vanish => simp at hε
  | terminal hn he => cases hw; exact .here hn he
  | @nonterminal A α β u v' hα h1 h2 ihα ihβ =>
    cases u with
    | nil =>
      exact .after (mem_nonterminals_of_mem_alternatives hα) (.of_alternative hα h1)
        (ihβ hw (fun h => hε (by simp [h])))
    | cons b u =>
      obtain ⟨rfl, -⟩ := List.cons.inj hw
      refine .inside hα (ihα rfl fun h => ?_)
      rcases hg.cases hα with rfl | ⟨-, hne⟩
      · have := (yields_epsilon_iff hg.epsilon_not_mem).mp h1
        simp at this
      · exact hne h

/-! ## Derivations -/

/-- An alternative with which a text can begin is not `ε`. -/
theorem Canonical.epsilon_not_mem_of_begins (hg : g.Canonical) {A a : Symbol} {α : Alternative}
    (hα : α ∈ g.alternatives A) (h : g.Begins α a) : epsilon ∉ α := by
  rcases hg.cases hα with rfl | ⟨-, hne⟩
  · simp [begins_terminal_cons_iff hg.epsilon_not_mem] at h
  · exact hne

theorem Begins.append_of_vanish {α β : List Symbol} {a : Symbol} (hα : g.Yields α [])
    (hε : epsilon ∉ α) (h : g.Begins β a) : g.Begins (α ++ β) a := by
  refine .prepend (fun s hs => ?_) h
  have hs' := hα.forall_mem s hs
  refine ⟨Decidable.byContradiction fun hn => ?_, hs'⟩
  simp [yields_terminal_iff hn (ne_of_mem_of_not_mem hs hε)] at hs'

/-- What a sequence begins with after a step, it can begin with before the step. -/
theorem Begins.of_step (hg : g.Canonical) {γ δ : List Symbol} {a : Symbol} (hs : g.Step γ δ)
    (hγ : epsilon ∉ γ) (h : g.Begins δ a) : g.Begins γ a := by
  cases hs with
  | @replace A α before after hα =>
    have hbefore : epsilon ∉ before := fun he => hγ (by simp [he])
    rcases h.of_append with h | ⟨hv, h⟩
    · exact h.append _
    · refine .append_of_vanish hv hbefore ?_
      rcases h.of_append with h | ⟨hv, h⟩
      · rcases hg.cases hα with rfl | ⟨-, hne⟩
        · exact absurd h not_begins_nil
        · exact .inside hα (Alternative.body_eq_self hne ▸ h)
      · exact .after (mem_nonterminals_of_mem_alternatives hα) (.of_alternative hα hv.of_body) h

theorem Begins.of_derives (hg : g.Canonical) {γ δ : List Symbol} {a : Symbol} (h : g.Derives γ δ)
    (hγ : epsilon ∉ γ) (ha : g.Begins δ a) : g.Begins γ a := by
  induction h using Relation.ReflTransGen.head_induction_on with
  | refl => exact ha
  | head hs _ ih => exact (ih (hs.epsilon_not_mem hγ)).of_step hg hs hγ

/-- A sequence derives one that has the terminal in front with which it can begin. -/
theorem Begins.exists_derives (hg : g.Canonical) {α : List Symbol} {a : Symbol} (h : g.Begins α a)
    (hε : epsilon ∉ α) : ∃ β, g.Derives α (a :: β) := by
  induction h with
  | @here a β => exact ⟨β, .refl _⟩
  | @inside A a α β hα h ih =>
    have hαε := hg.epsilon_not_mem_of_begins hα h
    obtain ⟨γ, hγ⟩ := ih hαε
    have hA : g.Derives [A] α := by simpa [Alternative.body_eq_self hαε] using Derives.of_alternative hα
    exact ⟨γ ++ β, (hA.trans hγ).append (.refl β)⟩
  | @after A a β _ hv _ ih =>
    obtain ⟨hA, hβ⟩ := List.ne_and_not_mem_of_not_mem_cons hε
    obtain ⟨γ, hγ⟩ := ih hβ
    have hvanish := ((derives_iff_yields hg.epsilon_not_mem (by simpa using hA)).mpr hv).2
    exact ⟨γ, hvanish.append hγ⟩

theorem begins_iff_exists_derives (hg : g.Canonical) {α : List Symbol} {a : Symbol}
    (hε : epsilon ∉ α) (hn : a ∉ g.nonterminals) (he : a ≠ epsilon) :
    g.Begins α a ↔ ∃ β, g.Derives α (a :: β) :=
  ⟨fun h => h.exists_derives hg hε, fun ⟨_, h⟩ => .of_derives hg h hε (.here hn he)⟩

/-! ## Nonterminals that vanish -/

theorem mem_beforeEpsilon {s : Symbol} {α : Alternative} (h : s ∈ beforeEpsilon α) :
    s ∈ α ∧ s ≠ epsilon :=
  ⟨List.takeWhile_subset _ h, by simpa using List.mem_takeWhile_imp h⟩

theorem beforeEpsilon_eq_self {α : Alternative} (h : epsilon ∉ α) : beforeEpsilon α = α :=
  List.takeWhile_eq_self_iff.mpr fun s hs => by simpa using ne_of_mem_of_not_mem hs h

theorem beforeEpsilon_cons_of_ne {s : Symbol} (h : s ≠ epsilon) (α : Alternative) :
    beforeEpsilon (s :: α) = s :: beforeEpsilon α := by
  simp [beforeEpsilon, h]

/-- In a canonical grammar nothing is lost with what comes after an `ε`. -/
theorem Canonical.beforeEpsilon_eq {A : Symbol} {α : Alternative} (hg : g.Canonical)
    (h : α ∈ g.alternatives A) : α = [epsilon] ∧ beforeEpsilon α = [] ∨ beforeEpsilon α = α := by
  rcases hg.cases h with rfl | ⟨-, hne⟩
  · exact Or.inl ⟨rfl, by simp [beforeEpsilon]⟩
  · exact Or.inr (beforeEpsilon_eq_self hne)

theorem follows_of_yields_nil {α w : List Symbol} (h : g.Yields α w) (hw : w = []) :
    ∀ s ∈ α, s ≠ epsilon →
      Follows (g.productions.map fun p => (p.1, beforeEpsilon p.2)) s := by
  induction h with
  | nil => simp
  | vanish _ ih =>
    exact fun s hs he => (List.mem_cons.mp hs).elim (fun e => absurd e he) fun h => ih hw s h he
  | terminal => cases hw
  | @nonterminal A α β u v hα _ _ ihα ihβ =>
    obtain ⟨rfl, rfl⟩ := List.append_eq_nil_iff.mp hw
    intro s hs he
    rcases List.mem_cons.mp hs with rfl | hs
    · refine Follows.rule (r := (s, beforeEpsilon α)) ?_ fun t ht => ?_
      · exact List.mem_map.mpr ⟨(s, α), mem_productions_iff.mpr hα, rfl⟩
      · exact ihα rfl t (mem_beforeEpsilon ht).1 (mem_beforeEpsilon ht).2
    · exact ihβ rfl s hs he

theorem mem_vanishing_iff (hg : g.Canonical) {A : Symbol} :
    A ∈ g.vanishing ↔ A ∈ g.nonterminals ∧ g.Yields [A] [] := by
  rw [vanishing, mem_consequences_iff]
  constructor
  · intro h
    induction h with
    | rule hr _ ih =>
      obtain ⟨⟨A, α⟩, hp, rfl⟩ := List.mem_map.mp hr
      have hα := mem_productions_iff.mp hp
      refine ⟨mem_nonterminals_of_mem_alternatives hα, .of_alternative hα ?_⟩
      rcases hg.beforeEpsilon_eq hα with ⟨rfl, -⟩ | he
      · exact .vanish .nil
      · exact .of_forall_mem fun s hs => (ih s (by simpa [he] using hs)).2
  · intro h
    obtain ⟨hA, h⟩ := h
    exact follows_of_yields_nil h rfl A (by simp) (hg.ne_epsilon hA)

/-! ## Leading symbols -/

theorem mem_leadingSymbols_iff {v : List Symbol} {s : Symbol} {α : Alternative} :
    s ∈ leadingSymbols v α ↔ ∃ before after, α = before ++ s :: after ∧ ∀ t ∈ before, t ∈ v := by
  induction α with
  | nil => simp [leadingSymbols]
  | cons t α ih =>
    have front : ∃ before after, t :: α = before ++ t :: after ∧ ∀ u ∈ before, u ∈ v :=
      ⟨[], α, rfl, by simp⟩
    unfold leadingSymbols
    split
    · next ht =>
      rw [List.mem_cons, ih]
      constructor
      · intro h
        rcases h with rfl | ⟨before, after, rfl, hb⟩
        · exact front
        · exact ⟨t :: before, after, rfl, List.forall_mem_cons.mpr ⟨ht, hb⟩⟩
      · intro h
        obtain ⟨_ | ⟨u, before⟩, after, h, hb⟩ := h
        · exact Or.inl (List.cons.inj h).1.symm
        · exact Or.inr ⟨before, after, (List.cons.inj h).2, (List.forall_mem_cons.mp hb).2⟩
    · next ht =>
      rw [List.mem_singleton]
      constructor
      · intro h
        obtain rfl := h
        exact front
      · intro h
        obtain ⟨_ | ⟨u, before⟩, after, h, hb⟩ := h
        · exact (List.cons.inj h).1.symm
        · exact absurd ((List.cons.inj h).1 ▸ hb u (by simp)) ht

theorem mem_leadingOf_iff {v : List Symbol} {A s : Symbol} :
    s ∈ g.leadingOf v A ↔ ∃ α ∈ g.alternatives A, s ∈ leadingSymbols v (beforeEpsilon α) := by
  simp [leadingOf]

theorem mem_alternative_of_mem_leadingOf {v : List Symbol} {A s : Symbol} (h : s ∈ g.leadingOf v A) :
    ∃ α ∈ g.alternatives A, s ∈ α ∧ s ≠ epsilon := by
  obtain ⟨α, hα, hs⟩ := mem_leadingOf_iff.mp h
  obtain ⟨before, after, he, -⟩ := mem_leadingSymbols_iff.mp hs
  have : s ∈ beforeEpsilon α := by simp [he]
  exact ⟨α, hα, mem_beforeEpsilon this⟩

theorem mem_heads_iff {v : List Symbol} {A s : Symbol} (hA : A ∈ g.nonterminals) :
    s ∈ g.heads v A ↔ Reaches (g.leadingOf v) A s := by
  have hroot : [A] ⊆ g.nonterminals ++ g.occurrences := by simp [hA]
  rw [heads, mem_reachable_iff (g.nonterminals ++ g.occurrences) ?_ hroot (by
    simp only [symbolBound, List.length_append]; omega)]
  · simp
  · intro B _ s hs
    obtain ⟨α, hα, hs, -⟩ := mem_alternative_of_mem_leadingOf hs
    exact List.mem_append_right _ (mem_occurrences_iff.mpr ⟨B, α, hα, hs⟩)

/-- What a leading symbol of an alternative can begin with, its nonterminal can begin with. -/
theorem Begins.of_leading (hg : g.Canonical) {A s a : Symbol} (hs : s ∈ g.leadingOf g.vanishing A)
    (h : g.Begins [s] a) : g.Begins [A] a := by
  obtain ⟨α, hα, hs⟩ := mem_leadingOf_iff.mp hs
  obtain ⟨before, after, he, hb⟩ := mem_leadingSymbols_iff.mp hs
  rcases hg.beforeEpsilon_eq hα with ⟨-, hnil⟩ | hself
  · simp [hnil] at he
  · refine .inside hα ?_
    rw [hself] at he
    rw [he]
    exact .prepend (fun t ht => (mem_vanishing_iff hg).mp (hb t ht)) (h.append after)

theorem Begins.of_reaches (hg : g.Canonical) {A s a : Symbol}
    (hr : Reaches (g.leadingOf g.vanishing) A s) (h : g.Begins [s] a) : g.Begins [A] a := by
  induction hr with
  | refl => exact h
  | step _ hs ih => exact ih (h.of_leading hg hs)

theorem Begins.reaches (hg : g.Canonical) {α : List Symbol} {a : Symbol} (h : g.Begins α a) :
    ∃ s ∈ leadingSymbols g.vanishing (beforeEpsilon α),
      Reaches (g.leadingOf g.vanishing) s a := by
  have front : ∀ {s : Symbol} (β : List Symbol), s ≠ epsilon →
      s ∈ leadingSymbols g.vanishing (beforeEpsilon (s :: β)) := fun β hs =>
    mem_leadingSymbols_iff.mpr ⟨[], _, beforeEpsilon_cons_of_ne hs β, by simp⟩
  induction h with
  | @here a β _ he => exact ⟨a, front β he, .refl⟩
  | @inside A a α β hα _ ih =>
    obtain ⟨s, hs, hr⟩ := ih
    exact ⟨A, front β (hg.ne_epsilon (mem_nonterminals_of_mem_alternatives hα)),
      (Reaches.refl.step (mem_leadingOf_iff.mpr ⟨α, hα, hs⟩)).trans hr⟩
  | @after A a β hA hv _ ih =>
    obtain ⟨s, hs, hr⟩ := ih
    refine ⟨s, ?_, hr⟩
    rw [beforeEpsilon_cons_of_ne (hg.ne_epsilon hA), leadingSymbols,
      if_pos ((mem_vanishing_iff hg).mpr ⟨hA, hv⟩)]
    exact List.mem_cons_of_mem _ hs

theorem begins_iff_mem_heads (hg : g.Canonical) {A a : Symbol} (hA : A ∈ g.nonterminals) :
    g.Begins [A] a ↔ a ∈ g.heads g.vanishing A ∧ a ∉ g.nonterminals := by
  rw [mem_heads_iff hA]
  have hAe := hg.ne_epsilon hA
  constructor
  · intro h
    obtain ⟨s, hs, hr⟩ := h.reaches hg
    have hs : s = A := by
      rw [beforeEpsilon_cons_of_ne hAe] at hs
      unfold leadingSymbols at hs
      split at hs <;> simpa [beforeEpsilon, leadingSymbols] using hs
    exact ⟨hs ▸ hr, h.terminal.1⟩
  · intro h
    obtain ⟨hr, hn⟩ := h
    refine .of_reaches hg hr (.here hn ?_)
    cases hr with
    | refl => exact hAe
    | step _ hs =>
      obtain ⟨-, -, -, he⟩ := mem_alternative_of_mem_leadingOf hs
      exact he

/-! ## The sets -/

/-- FIRST sets hold the terminals to which leading symbols lead, and `ε` if the nonterminal vanishes; this
is so in every grammar. -/
theorem mem_first_iff_reaches {A a : Symbol} (hA : A ∈ g.nonterminals) :
    a ∈ g.first.getD A ∅ ↔
      Reaches (g.leadingOf g.vanishing) A a ∧ a ∉ g.nonterminals ∨ a = epsilon ∧ A ∈ g.vanishing := by
  obtain ⟨alternatives, hget⟩ := OrderedMap.mem_keys_iff.mp hA
  have hterminal : a ∈ NameSet.ofList ((g.heads g.vanishing A).filter fun s => !g.isNonterminal s) ↔
      Reaches (g.leadingOf g.vanishing) A a ∧ a ∉ g.nonterminals := by
    rw [← mem_heads_iff hA]
    simp [← isNonterminal_iff]
  simp only [first, OrderedMap.getD, OrderedMap.get?_mapValues, hget, Option.map_some,
    Option.getD_some]
  split
  · next hv => rw [NameSet.mem_insert, hterminal]; simp [hv, or_comm]
  · next hv => rw [hterminal]; simp [hv]

/-- FIRST sets hold the terminals with which a nonterminal can begin, and `ε` if it can vanish. -/
theorem mem_first_iff (hg : g.Canonical) {A a : Symbol} (hA : A ∈ g.nonterminals) :
    a ∈ g.first.getD A ∅ ↔ g.Begins [A] a ∨ a = epsilon ∧ g.Yields [A] [] := by
  rw [mem_first_iff_reaches hA, ← mem_heads_iff hA, ← begins_iff_mem_heads hg hA]
  simp [mem_vanishing_iff hg, hA]

theorem epsilon_mem_first_iff (hg : g.Canonical) {A : Symbol} (hA : A ∈ g.nonterminals) :
    epsilon ∈ g.first.getD A ∅ ↔ g.Yields [A] [] := by
  rw [mem_first_iff hg hA]
  constructor
  · intro h
    rcases h with h | ⟨-, h⟩
    · exact absurd rfl h.terminal.2
    · exact h
  · exact fun h => Or.inr ⟨rfl, h⟩

theorem firstOf_terminal_cons {a : Symbol} (hn : a ∉ g.nonterminals) (first : SymbolSets)
    (α : List Symbol) : firstOf first g.isNonterminal (a :: α) = .singleton a := by
  have hb : g.isNonterminal a = false := by simpa [← isNonterminal_iff] using hn
  rw [firstOf, hb]
  by_cases ha : a = epsilon <;> simp [ha]

theorem firstOf_nonterminal_cons {A : Symbol} (hA : A ∈ g.nonterminals) (he : A ≠ epsilon)
    (first : SymbolSets) (α : List Symbol) :
    firstOf first g.isNonterminal (A :: α) =
      if epsilon ∈ first.getD A ∅ then
        (first.getD A ∅).erase epsilon ∪ firstOf first g.isNonterminal α
      else first.getD A ∅ := by
  rw [firstOf, if_neg he, isNonterminal_iff.mpr hA]
  rfl

/-- What a sequence can begin with: with what its nonterminal in front can begin, or, if that can vanish,
with what the rest can begin. -/
theorem mem_firstOf_nonterminal_cons_iff {A x : Symbol} {α : List Symbol} {sets : SymbolSets}
    (hA : A ∈ g.nonterminals) (he : A ≠ epsilon) : x ∈ firstOf sets g.isNonterminal (A :: α) ↔
      x ∈ sets.getD A ∅ ∧ x ≠ epsilon ∨
        epsilon ∈ sets.getD A ∅ ∧ x ∈ firstOf sets g.isNonterminal α := by
  rw [firstOf_nonterminal_cons hA he]
  split
  · next hv => simp [hv]
  · next hv =>
    simp only [hv, false_and, or_false]
    exact ⟨fun h => ⟨h, ne_of_mem_of_not_mem h hv⟩, And.left⟩

theorem mem_firstOf_iff (hg : g.Canonical) {a : Symbol} {α : List Symbol}
    (hα : α = [epsilon] ∨ epsilon ∉ α) :
    a ∈ firstOf g.first g.isNonterminal α ↔ g.Begins α a ∨ a = epsilon ∧ g.Yields α [] := by
  induction α with
  | nil => simp [firstOf, not_begins_nil, yields_nil_iff]
  | cons s α ih =>
    rcases hα with hα | hα
    · obtain ⟨rfl, rfl⟩ := List.cons.inj hα
      simp [firstOf, begins_terminal_cons_iff hg.epsilon_not_mem, Yields.vanish Yields.nil]
    obtain ⟨hs, hα⟩ := List.ne_and_not_mem_of_not_mem_cons hα
    have hnil : g.Yields (s :: α) [] ↔ g.Yields [s] [] ∧ g.Yields α [] := by
      rw [yields_cons_iff]; simp
    by_cases hn : s ∈ g.nonterminals
    · have hfirst : a ∈ g.first.getD s ∅ ∧ a ≠ epsilon ↔ g.Begins [s] a := by
        rw [mem_first_iff hg hn]
        exact ⟨fun ⟨h, hne⟩ => h.resolve_right fun h => hne h.1, fun h => ⟨Or.inl h, h.terminal.2⟩⟩
      rw [mem_firstOf_nonterminal_cons_iff hn hs.symm, begins_nonterminal_cons_iff hn, hnil, hfirst,
        epsilon_mem_first_iff hg hn, ih (Or.inr hα), and_or_left, ← or_assoc]
      exact or_congr_right and_left_comm
    · have hnil : ¬ g.Yields (s :: α) [] := by simp [hnil, yields_terminal_iff hn hs.symm]
      rw [firstOf_terminal_cons hn, NameSet.mem_singleton, begins_terminal_cons_iff hn]
      simp [hnil, hs.symm]

theorem mem_erase_firstOf_iff (hg : g.Canonical) {a : Symbol} {α : List Symbol}
    (hα : α = [epsilon] ∨ epsilon ∉ α) :
    a ∈ (firstOf g.first g.isNonterminal α).erase epsilon ↔ g.Begins α a := by
  rw [NameSet.mem_erase, mem_firstOf_iff hg hα]
  exact ⟨fun ⟨h, hne⟩ => h.resolve_right fun h => hne h.1, fun h => ⟨Or.inl h, h.terminal.2⟩⟩

theorem epsilon_mem_firstOf_iff (hg : g.Canonical) {α : List Symbol}
    (hα : α = [epsilon] ∨ epsilon ∉ α) :
    epsilon ∈ firstOf g.first g.isNonterminal α ↔ g.Yields α [] := by
  rw [mem_firstOf_iff hg hα]
  exact ⟨fun h => h.elim (fun h => absurd rfl h.terminal.2) And.right, fun h => Or.inr ⟨rfl, h⟩⟩

end FormalLanguages.Grammar
