import FormalLanguages.Proofs.Grammar.Factoring
/-!
# The run of left factoring

New nonterminals are written once, so no two alternatives begin with one, and the symbols of the given grammar
run out: factoring comes to an end. Then no two alternatives of a nonterminal begin with the same symbol, and
factoring once more changes nothing.

Results:
* `Extractions.count_eq_one`: each new nonterminal is written once.
* `exists_extractions`: factoring ends after some extractions, with nothing left to merge.
* `factorFrom_induction`: what each extraction keeps, the whole run keeps.
* `pairwise_of_findShared?`: where nothing is left to merge, no two alternatives begin alike.
* `leftFactor_settles`: factoring comes to an end with a grammar that it leaves as it is.
-/
namespace FormalLanguages.Grammar

variable {s t : Symbol} {α β γ merged : Alternative} {αs alternatives : List Alternative} {g h r : Grammar}
  {A B C new : Symbol}

/-! ## All extractions -/

/-- Some extractions lead from a grammar to another, with these new nonterminals. -/
inductive Extractions (g : Grammar) : Grammar → List Symbol → Prop
  | refl : Extractions g g []
  | tail {h : Grammar} {added : List Symbol} {A s new : Symbol} :
    Extractions g h added → h.Mergeable A s new →
      Extractions g (h.extracted A s new) (added ++ [new])

variable {added : List Symbol}

namespace Extractions

theorem nonterminals_eq (hx : Extractions g h added) : h.nonterminals = g.nonterminals ++ added := by
  induction hx with
  | refl => simp
  | tail _ he ih => rw [he.nonterminals_extracted, ih, List.append_assoc]

theorem canonical (hg : g.Canonical) (hx : Extractions g h added) : h.Canonical := by
  induction hx with
  | refl => exact hg
  | tail _ he ih => exact Extractable.canonical_extracted ⟨he, ih⟩

/-- Symbols are not lost. -/
theorem mem_symbols (hx : Extractions g h added) (ht : t ∈ g.symbols) : t ∈ h.symbols := by
  induction hx with
  | refl => exact ht
  | tail _ he ih =>
    rcases mem_symbols_iff.mp ih with ht | ht
    · exact mem_symbols_iff.mpr (Or.inl (by rw [he.nonterminals_extracted]; simp [ht]))
    · exact mem_symbols_iff.mpr (Or.inr (he.mem_occurrences_extracted ht))

theorem ne_epsilon (hx : Extractions g h added) (hB : B ∈ added) : B ≠ epsilon := by
  induction hx with
  | refl => cases hB
  | tail _ he ih =>
    rcases List.mem_append.mp hB with hB | hB
    · exact ih hB
    · rw [List.mem_singleton.mp hB]
      exact he.new_ne_epsilon

/-- The new nonterminals are new. -/
theorem not_mem_symbols (hx : Extractions g h added) (hB : B ∈ added) : B ∉ g.symbols := by
  intro hmem
  induction hx with
  | refl => cases hB
  | tail hx he ih =>
    rcases List.mem_append.mp hB with hB | hB
    · exact ih hB
    · obtain rfl := List.mem_singleton.mp hB
      exact he.unused (hx.mem_symbols hmem)

/-- Each new nonterminal is written once. -/
theorem count_eq_one (hx : Extractions g h added) (hB : B ∈ added) : h.occurrences.count B = 1 := by
  induction hx with
  | refl => cases hB
  | tail hx he ih =>
    rcases List.mem_append.mp hB with hB | hB
    · exact he.count_eq_one (hx.ne_epsilon hB) (ih hB)
    · rw [List.mem_singleton.mp hB]
      exact he.count_new

theorem mem_symbols_cases (hx : Extractions g h added) (ht : t ∈ h.symbols) :
    t = epsilon ∨ t ∈ g.symbols ∨ t ∈ added := by
  induction hx with
  | refl => exact Or.inr (Or.inl ht)
  | tail _ he ih =>
    rcases he.mem_symbols_extracted ht with h | rfl | h
    · exact Or.inl h
    · simp
    · exact (ih h).imp_right (Or.imp_right (List.mem_append_left _))

theorem alternatives_ne_nil (hx : Extractions g h added) (hB : B ∈ added) : h.alternatives B ≠ [] := by
  induction hx with
  | refl => cases hB
  | tail _ he ih =>
    exact he.alternatives_extracted_ne_nil fun hnew =>
      ih ((List.mem_append.mp hB).resolve_right (by simpa using hnew))

end Extractions

/-! ## The search for alternatives to merge -/

/-- No alternative is empty. -/
def Filled (g : Grammar) : Prop := ∀ A, [] ∉ g.alternatives A

theorem filled_iff : g.Filled ↔ ∀ p ∈ g.productions, p.2 ≠ [] := by
  constructor
  · rintro hg ⟨A, α⟩ hp rfl
    exact hg A (mem_productions_iff.mp hp)
  · exact fun h A hA => h (A, []) (mem_productions_iff.mpr hA) rfl

theorem Canonical.filled (hg : g.Canonical) : g.Filled :=
  filled_iff.mpr fun p hp => (hg.2 p hp).1

theorem Filled.insert (hg : g.Filled) (h : [] ∉ alternatives) : Filled (g.insert A alternatives) := by
  intro C
  rw [alternatives_insert]
  split
  · exact h
  · exact hg C

theorem mem_of_mem_mergeAlternatives (h : α ∈ mergeAlternatives s merged alternatives) :
    α = merged ∨ α ∈ alternatives := by
  induction alternatives with
  | nil => cases h
  | cons β rest ih =>
    rw [mergeAlternatives] at h
    split at h
    · exact (List.mem_cons.mp h).imp_right fun h => List.mem_cons_of_mem _ (List.mem_filter.mp h).1
    · rcases List.mem_cons.mp h with rfl | h
      · exact Or.inr List.mem_cons_self
      · exact (ih h).imp_right (List.mem_cons_of_mem _)

theorem remainder_ne_nil (n : Nat) (α : Alternative) : remainder n α ≠ [] := by
  unfold remainder
  split
  · simp
  · next hdrop => exact hdrop

theorem Filled.extracted (hg : g.Filled) (A s new : Symbol) : (g.extracted A s new).Filled := by
  refine Filled.insert (hg.insert fun h => ?_) fun h => ?_
  · rcases mem_of_mem_mergeAlternatives h with h | h
    · simp at h
    · exact hg A h
  · obtain ⟨α, -, -, hα⟩ := mem_tails_iff.mp h
    exact remainder_ne_nil _ α hα

theorem alternatives_eq_of_mem_entries {e : Symbol × List Alternative} (he : e ∈ g.entries) :
    g.alternatives e.1 = e.2 := by
  rw [Grammar.alternatives, OrderedMap.getD, OrderedMap.mem_entries_iff.mp he, Option.getD_some]

theorem Filled.nil_not_mem_of_mem_entries (hg : g.Filled) {e : Symbol × List Alternative}
    (he : e ∈ g.entries) : [] ∉ e.2 :=
  alternatives_eq_of_mem_entries he ▸ hg e.1

theorem sharedHead?_eq_some (hs : sharedHead? αs = some s) :
    s ≠ epsilon ∧ 2 ≤ αs.countP fun α => α.head? = some s := by
  simpa using List.find?_some hs

/-- The search goes on if the first entry has nothing to merge. -/
theorem findShared?_cons (A : Symbol) (αs : List Alternative) (entries : List (Symbol × List Alternative)) :
    findShared? ((A, αs) :: entries) =
      if αs.length < 2 then findShared? entries
      else if [] ∈ αs then .error .emptyAlternative
      else
        match sharedHead? αs with
        | some s => .ok (some (A, s))
        | none => findShared? entries :=
  rfl

theorem findShared?_eq_ok {entries : List (Symbol × List Alternative)}
    (hne : ∀ e ∈ entries, [] ∉ e.2) : findShared? entries = .ok none ∨
      ∃ A αs s, findShared? entries = .ok (some (A, s)) ∧ (A, αs) ∈ entries ∧
        sharedHead? αs = some s := by
  induction entries with
  | nil => exact Or.inl rfl
  | cons e entries ih =>
    obtain ⟨A, αs⟩ := e
    obtain ⟨he, hentries⟩ := List.forall_mem_cons.mp hne
    have ih : findShared? entries = .ok none ∨ ∃ B βs s, findShared? entries = .ok (some (B, s)) ∧
        (B, βs) ∈ (A, αs) :: entries ∧ sharedHead? βs = some s := by
      refine (ih hentries).imp_right ?_
      rintro ⟨B, βs, s, h, hmem, hs⟩
      exact ⟨B, βs, s, h, List.mem_cons_of_mem _ hmem, hs⟩
    rw [findShared?_cons]
    by_cases htwo : αs.length < 2
    · rwa [if_pos htwo]
    · rw [if_neg htwo, if_neg (show [] ∉ αs from he)]
      cases hs : sharedHead? αs with
      | none => exact ih
      | some s => exact Or.inr ⟨A, αs, s, rfl, List.mem_cons_self, hs⟩

/-- A search finds nothing, or alternatives that can be merged. -/
theorem Filled.findShared? (hg : g.Filled) : Grammar.findShared? g.entries = .ok none ∨
    ∃ A s, Grammar.findShared? g.entries = .ok (some (A, s)) ∧ A ∈ g.nonterminals ∧ s ≠ epsilon ∧
      2 ≤ (g.sharers A s).length := by
  refine (findShared?_eq_ok fun _ => hg.nil_not_mem_of_mem_entries).imp_right ?_
  rintro ⟨A, αs, s, h, he, hs⟩
  obtain ⟨hε, htwo⟩ := sharedHead?_eq_some hs
  refine ⟨A, s, h, List.mem_map_of_mem he, hε, ?_⟩
  rwa [sharers, alternatives_eq_of_mem_entries he, ← List.countP_eq_length_filter]

/-- Two alternatives that begin alike are found as such. -/
theorem pairwise_of_sharedHead? (h : sharedHead? αs = none) :
    αs.Pairwise fun α β => ∀ s, α.head? = some s → β.head? = some s → s = epsilon := by
  refine List.pairwise_iff_forall_sublist.mpr fun {α β} hsub s hα hβ => ?_
  by_contra hε
  have htwo : 2 ≤ αs.countP fun α => α.head? = some s := by
    simpa [hα, hβ] using hsub.countP_le (p := fun α : Alternative => α.head? = some s)
  have hs : s ∈ αs.filterMap List.head? :=
    List.mem_filterMap.mpr ⟨α, hsub.subset List.mem_cons_self, hα⟩
  have := List.find?_eq_none.mp h s hs
  simp [hε, htwo] at this

theorem pairwise_of_findShared?_entries {entries : List (Symbol × List Alternative)}
    (h : findShared? entries = .ok none) : ∀ e ∈ entries,
      e.2.Pairwise fun α β => ∀ s, α.head? = some s → β.head? = some s → s = epsilon := by
  induction entries with
  | nil => simp
  | cons e entries ih =>
    obtain ⟨A, αs⟩ := e
    rw [findShared?_cons] at h
    split at h
    · next hlt =>
      refine List.forall_mem_cons.mpr ⟨?_, ih h⟩
      match αs, hlt with
      | [], _ => exact .nil
      | [α], _ => exact List.pairwise_singleton _ α
    · split at h
      · cases h
      · cases hs : sharedHead? αs with
        | none =>
          rw [hs] at h
          exact List.forall_mem_cons.mpr ⟨pairwise_of_sharedHead? hs, ih h⟩
        | some s =>
          rw [hs] at h
          cases h

/-- Where nothing is left to merge, no two alternatives begin alike. -/
theorem pairwise_of_findShared? (h : findShared? g.entries = .ok none) (A : Symbol) :
    (g.alternatives A).Pairwise fun α β => ∀ s, α.head? = some s → β.head? = some s → s = epsilon := by
  rw [alternatives, OrderedMap.getD]
  cases hA : g.get? A with
  | none => exact .nil
  | some αs => exact pairwise_of_findShared?_entries h (A, αs) (OrderedMap.mem_entries_iff.mpr hA)

theorem freshName_fact_ne_epsilon (A : Symbol) (taken : List Symbol) :
    freshName A "_fact" taken "_" ≠ epsilon := by
  intro h
  have hmem : '_' ∈ (freshName A "_fact" taken "_").toList :=
    mem_toList_freshName A (by decide) taken (by decide)
  rw [h] at hmem
  exact absurd hmem (by decide)

/-! ## The whole run -/

/-- A symbol with which alternatives begin is one that the grammar began with: a new one is written once. -/
theorem Extractions.mem_symbols_of_mergeable (hx : Extractions g h added) (he : h.Mergeable A s new) :
    s ∈ g.symbols := by
  obtain ⟨α, hα, hhead⟩ := he.exists_sharer
  have hsymbol : s ∈ h.symbols := mem_symbols_of_mem_alternatives hα (List.mem_of_mem_head? hhead)
  rcases hx.mem_symbols_cases hsymbol with h' | h' | h'
  · exact absurd h' he.ne_epsilon
  · exact h'
  · exact absurd (hx.count_eq_one h') he.count_ne_one

/-- An extraction lowers the number of symbols that are left of those that the grammar began with. -/
theorem Extractions.countP_occurrences_lt (hx : Extractions g h added) (he : h.Mergeable A s new) :
    (h.extracted A s new).occurrences.countP (fun t => decide (t ≠ epsilon ∧ t ∈ g.symbols)) <
      h.occurrences.countP fun t => decide (t ≠ epsilon ∧ t ∈ g.symbols) := by
  have hnew : new ∉ g.symbols := (hx.tail he).not_mem_symbols (by simp)
  have hle := he.countP_occurrences_le (p := fun t => decide (t ≠ epsilon ∧ t ∈ g.symbols))
    (by simp) (by simp [hnew])
  have hpos := he.countP_sharedStart_pos (p := fun t => decide (t ≠ epsilon ∧ t ∈ g.symbols))
    (decide_eq_true ⟨he.ne_epsilon, hx.mem_symbols_of_mergeable he⟩)
  omega

/-- Names stay in use, and the new one is added to them. -/
theorem Mergeable.mem_taken {taken : NameSet} (he : g.Mergeable A s new)
    (htaken : ∀ t ∈ g.symbols, t = epsilon ∨ t ∈ taken) :
    ∀ t ∈ (g.extracted A s new).symbols, t = epsilon ∨ t ∈ taken.insert new := by
  intro t ht
  rw [NameSet.mem_insert]
  rcases he.mem_symbols_extracted ht with h | h | h
  · exact Or.inl h
  · exact Or.inr (Or.inl h)
  · exact (htaken t h).imp_right Or.inr

/-- While a symbol is shared, it is one of those that the grammar began with, and these run out. -/
theorem Extractions.exists_factorFrom {taken : NameSet} {n : Nat} (hh : h.Filled)
    (hx : Extractions g h added) (htaken : ∀ t ∈ h.symbols, t = epsilon ∨ t ∈ taken)
    (hn : h.occurrences.countP (fun t => decide (t ≠ epsilon ∧ t ∈ g.symbols)) < n) :
    ∃ r added', factorFrom n h taken = .ok r ∧ Extractions g r added' ∧
      Grammar.findShared? r.entries = .ok none := by
  induction n generalizing h added taken with
  | zero => omega
  | succ n ih =>
    rcases hh.findShared? with hfind | ⟨A, s, hfind, hA, hs, htwo⟩
    · exact ⟨h, added, by rw [factorFrom, hfind]; rfl, hx, hfind⟩
    set new := freshName A "_fact" taken.toList "_"
    have hε : new ≠ epsilon := freshName_fact_ne_epsilon A taken.toList
    have hfree : new ∉ taken := freshName_not_mem (by decide) taken.toList
    have he : h.Mergeable A s new :=
      ⟨hA, hs, htwo, fun hmem => (htaken new hmem).elim hε hfree, hε⟩
    have hlt := hx.countP_occurrences_lt he
    obtain ⟨r, added', hr, hxr, hdone⟩ :=
      ih (hh.extracted A s new) (hx.tail he) (he.mem_taken htaken) (by omega)
    refine ⟨r, added', ?_, hxr, hdone⟩
    rw [factorFrom, hfind]
    exact hr

/-- What each extraction keeps, the whole run keeps. -/
theorem factorFrom_induction {P : Grammar → Prop}
    (hstep : ∀ (g : Grammar) (taken : NameSet) (A s : Symbol), P g → A ∈ g.nonterminals →
      P (g.extracted A s (freshName A "_fact" taken.toList "_")))
    {n : Nat} {taken : NameSet} (hg : g.Filled) (h : factorFrom n g taken = .ok r) (h0 : P g) : P r := by
  induction n generalizing g taken with
  | zero => cases h; exact h0
  | succ n ih =>
    rw [factorFrom] at h
    rcases hg.findShared? with hfind | ⟨A, s, hfind, hA, -⟩
    · rw [hfind] at h
      cases h; exact h0
    · rw [hfind] at h
      exact ih (hg.extracted A s _) h (hstep g taken A s h0 hA)

/-- Factoring ends after some extractions, with nothing left to merge. -/
theorem Filled.exists_leftFactor (hg : g.Filled) : ∃ r added, g.leftFactor = .ok r ∧
    Extractions g r added ∧ Grammar.findShared? r.entries = .ok none :=
  Extractions.refl.exists_factorFrom hg (fun _ ht => Or.inr ht)
    (Nat.lt_succ_of_le List.countP_le_length)

theorem exists_leftFactor (hg : g.Canonical) : ∃ r added, g.leftFactor = .ok r ∧
    Extractions g r added ∧ Grammar.findShared? r.entries = .ok none :=
  hg.filled.exists_leftFactor

/-- With nothing left to merge, a greater bound makes no difference. -/
theorem factorFrom_mono {taken : NameSet} {n m : Nat} (h : factorFrom n g taken = .ok r)
    (hdone : findShared? r.entries = .ok none) (hle : n ≤ m) : factorFrom m g taken = .ok r := by
  induction n generalizing g taken m with
  | zero =>
    cases h
    cases m with
    | zero => rfl
    | succ m => rw [factorFrom, hdone]; rfl
  | succ n ih =>
    obtain ⟨m, rfl⟩ : ∃ k, m = k + 1 := ⟨m - 1, by omega⟩
    rw [factorFrom] at h ⊢
    cases hfind : findShared? g.entries with
    | error e => rw [hfind] at h; cases h
    | ok found =>
      rw [hfind] at h
      cases found with
      | none => exact h
      | some p => exact ih h (by omega)

/-- Factoring a grammar without empty alternatives comes to an end: from some number of rounds on the result is the
same. In it no two alternatives of a nonterminal, at different places, begin with the same symbol other than `ε`, and
factoring leaves it as it is. -/
theorem leftFactor_settles (hg : g.Filled) : ∃ r, g.leftFactor = .ok r ∧
    (∃ n, ∀ rounds ≥ n, factorFrom rounds g g.symbols = .ok r) ∧
    (∀ A, (r.alternatives A).Pairwise fun α β =>
      ∀ s, α.head? = some s → β.head? = some s → s = epsilon) ∧
    r.leftFactor = .ok r := by
  obtain ⟨r, added, hr, -, hdone⟩ := hg.exists_leftFactor
  refine ⟨r, hr, ⟨_, fun rounds hn => factorFrom_mono hr hdone hn⟩, pairwise_of_findShared? hdone, ?_⟩
  exact factorFrom_mono (n := 0) rfl hdone (Nat.zero_le _)

/-- An alternative that is there twice, common starts one inside the other, a new name that is taken, and `ε` inside
alternatives and as a nonterminal. -/
def jumbled : Grammar := .ofList [
  ("S", [["a", "b", "c"], ["a", "b", "S_fact"], ["a"], ["a", "b"], ["a", "ε", "b"], ["a"]]),
  ("ε", [["ε", "S"], ["ε"], ["S", "c"], ["S", "ε"]])]

theorem jumbled_settles : jumbled.Filled ∧ ∃ r, jumbled.leftFactor = .ok r ∧
    (∃ n, ∀ rounds ≥ n, factorFrom rounds jumbled jumbled.symbols = .ok r) ∧
    (∀ A, (r.alternatives A).Pairwise fun α β =>
      ∀ s, α.head? = some s → β.head? = some s → s = epsilon) ∧
    r.leftFactor = .ok r := by
  have hg : jumbled.Filled := filled_iff.mpr (by decide +kernel)
  exact ⟨hg, leftFactor_settles hg⟩

end FormalLanguages.Grammar
