import FormalLanguages.Proofs.Grammar.FactoringRun
import FormalLanguages.Proofs.Grammar.Rereading
/-!
# Well-formed grammars

Each nonterminal has an alternative, and `ε` is an alternative or no part of one. Grammars are read in this form,
and the transformations keep to it. They leave the nonterminals as they are and in their order, and put new ones
behind them.

That a new name is not in use takes more than a look at the names of the moment. The names that factoring avoids
are those of the grammar without left recursion, so none of the given grammar may be lost before. Where a front
gives way to its alternatives, what comes behind it is kept in each, and there is one; where an alternative is
dropped, it is a nonterminal alone.

Results:
* `Extends.trans`: a name that is new after one transformation was new before it.
* `Shaped.removeImmediate`, `Mergeable.wellFormed`: one step of each transformation.
* `WellFormed.eliminateLeftRecursion`, `WellFormed.leftFactor`, `WellFormed.prepareLL1`: whole runs.
* `wellFormed_of_parse`: what is read is well-formed.
* `transformations_keep_form`: the form of grammars that are read and transformed.
-/
namespace FormalLanguages

/-- `ε` alone, or some plain symbols, none of which is `ε`. -/
theorem Alternative.Spelled.isCanonical {α : Alternative} (hα : α.Spelled) : α.IsCanonical :=
  hα.imp_right fun ⟨hne, hplain⟩ => ⟨hne, fun hε => (hplain epsilon hε).ne_epsilon rfl⟩

namespace Grammar

/-- Each nonterminal has an alternative, and each alternative is `ε` alone or some symbols without `ε`. -/
structure WellFormed (g : Grammar) : Prop where
  ne_nil : ∀ A ∈ g.nonterminals, g.alternatives A ≠ []
  isCanonical : ∀ A, ∀ α ∈ g.alternatives A, α.IsCanonical

/-- The second grammar has new nonterminals behind those of the first, with names that the first does not use. It
loses no name of the first but `ε`. -/
structure Extends (g h : Grammar) (added : List Symbol) : Prop where
  nonterminals_eq : h.nonterminals = g.nonterminals ++ added
  not_mem_symbols : ∀ B ∈ added, B ∉ g.symbols
  ne_epsilon : ∀ B ∈ added, B ≠ epsilon
  mem_symbols : ∀ s ∈ g.symbols, s = epsilon ∨ s ∈ h.symbols

/-- For each alternative there is one of the others in which its symbols are kept, `ε` and nonterminals apart. -/
def Carried (g : Grammar) (alternatives others : List Alternative) : Prop :=
  ∀ α ∈ alternatives, ∃ β ∈ others, ∀ s ∈ α, s = epsilon ∨ s ∈ g.nonterminals ∨ s ∈ β

variable {g h r : Grammar} {A B s prime start : Symbol} {α : Alternative} {taken : NameSet}
  {as bs cs alternatives : List Alternative} {added more earlier : List Symbol} {i n rounds : Nat}

/-! ## The form -/

theorem wellFormed_iff : g.WellFormed ↔ ∀ e ∈ g.entries, e.2 ≠ [] ∧ ∀ α ∈ e.2, α.IsCanonical := by
  constructor
  · intro hg e he
    rw [← alternatives_eq_of_mem_entries he]
    exact ⟨hg.ne_nil e.1 (List.mem_map_of_mem he), hg.isCanonical e.1⟩
  · intro hg
    have hall : ∀ A ∈ g.nonterminals, g.alternatives A ≠ [] ∧ ∀ α ∈ g.alternatives A, α.IsCanonical := by
      intro A hA
      obtain ⟨e, he, rfl⟩ := List.mem_map.mp hA
      exact alternatives_eq_of_mem_entries he ▸ hg e he
    exact ⟨fun A hA => (hall A hA).1, fun A α hα =>
      (hall A (mem_nonterminals_of_mem_alternatives hα)).2 α hα⟩

instance (g : Grammar) : Decidable g.WellFormed := decidable_of_iff' _ wellFormed_iff

theorem WellFormed.filled (hg : g.WellFormed) : g.Filled := fun A hA =>
  (hg.isCanonical A [] hA).ne_nil rfl

theorem Spelled.wellFormed (hg : g.Spelled) : g.WellFormed :=
  wellFormed_iff.mpr fun e he =>
    have ⟨_, hne, halternatives⟩ := hg e he
    ⟨hne, fun α hα => (halternatives α hα).isCanonical⟩

/-! ## New names -/

namespace Extends

theorem refl (g : Grammar) : Extends g g [] where
  nonterminals_eq := (List.append_nil _).symm
  not_mem_symbols _ hB := nomatch hB
  ne_epsilon _ hB := nomatch hB
  mem_symbols _ hs := Or.inr hs

/-- A name that the second grammar does not use is not in use in the first. -/
theorem trans (h1 : Extends g h added) (h2 : Extends h r more) : Extends g r (added ++ more) where
  nonterminals_eq := by rw [h2.nonterminals_eq, h1.nonterminals_eq, List.append_assoc]
  not_mem_symbols B hB hmem := by
    rcases List.mem_append.mp hB with hB | hB
    · exact h1.not_mem_symbols B hB hmem
    · exact (h1.mem_symbols B hmem).elim (h2.ne_epsilon B hB) (h2.not_mem_symbols B hB)
  ne_epsilon B hB := (List.mem_append.mp hB).elim (h1.ne_epsilon B) (h2.ne_epsilon B)
  mem_symbols s hs := (h1.mem_symbols s hs).elim Or.inl (h2.mem_symbols s)

/-- It is enough to look at the alternatives that were changed. -/
theorem of_alternatives (hn : h.nonterminals = g.nonterminals ++ added) (hunused : ∀ B ∈ added, B ∉ g.symbols)
    (hε : ∀ B ∈ added, B ≠ epsilon)
    (hsame : ∀ C ∈ g.nonterminals, C ≠ A → h.alternatives C = g.alternatives C)
    (hA : ∀ α ∈ g.alternatives A, ∀ s ∈ α, s = epsilon ∨ s ∈ h.symbols) : Extends g h added := by
  refine ⟨hn, hunused, hε, fun s hs => ?_⟩
  rcases mem_symbols_iff.mp hs with hs | hs
  · exact Or.inr (mem_symbols_of_mem_nonterminals (by simp [hn, hs]))
  · obtain ⟨C, α, hα, hs⟩ := mem_occurrences_iff.mp hs
    by_cases hC : C = A
    · exact hA α (hC ▸ hα) s hs
    · rw [← hsame C (mem_nonterminals_of_mem_alternatives hα) hC] at hα
      exact Or.inr (mem_symbols_of_mem_alternatives hα hs)

/-- The new nonterminals are names that the given grammar does not have, neither for a nonterminal nor in an
alternative. -/
theorem not_mem (hx : Extends g h added) (hB : B ∈ added) : B ∉ g.nonterminals ∧ B ∉ g.occurrences := by
  have hunused := hx.not_mem_symbols B hB
  rwa [mem_symbols_iff, not_or] at hunused

end Extends

/-! ## Elimination of left recursion -/

namespace Carried

theorem refl (g : Grammar) (as : List Alternative) : g.Carried as as := fun α hα =>
  ⟨α, hα, fun _ hs => Or.inr (Or.inr hs)⟩

theorem trans (h1 : g.Carried as bs) (h2 : g.Carried bs cs) : g.Carried as cs := by
  intro α hα
  obtain ⟨β, hβ, hαβ⟩ := h1 α hα
  obtain ⟨γ, hγ, hβγ⟩ := h2 β hβ
  refine ⟨γ, hγ, fun s hs => ?_⟩
  rcases hαβ s hs with h | h | h
  · exact Or.inl h
  · exact Or.inr (Or.inl h)
  · exact hβγ s h

theorem ne_nil (hc : g.Carried as bs) (has : as ≠ []) : bs ≠ [] := by
  obtain ⟨α, hα⟩ := List.exists_mem_of_ne_nil as has
  obtain ⟨β, hβ, -⟩ := hc α hα
  exact List.ne_nil_of_mem hβ

end Carried

/-- A substitution keeps what comes behind the front. -/
theorem exists_mem_substitute {replacements : List Alternative} (hne : replacements ≠ [])
    (hα : α ∈ alternatives) :
    ∃ β ∈ substitute B replacements alternatives, ∀ s ∈ α, s = epsilon ∨ s = B ∨ s ∈ β := by
  by_cases hhead : α.head? = some B
  · obtain ⟨γ, rfl⟩ := List.head?_eq_some_iff.mp hhead
    obtain ⟨δ, hδ⟩ := List.exists_mem_of_ne_nil _ hne
    refine ⟨δ.concat γ, mem_substitute_iff.mpr (Or.inr ⟨γ, δ, hα, hδ, rfl⟩), fun s hs => ?_⟩
    by_cases hε : s = epsilon
    · exact Or.inl hε
    · exact Or.inr ((List.mem_cons.mp hs).imp_right fun hs => Alternative.mem_concat_of_ne hε (Or.inr hs))
  · exact ⟨α, mem_substitute_iff.mpr (Or.inl ⟨hα, hhead⟩), fun s hs => Or.inr (Or.inr hs)⟩

/-- Settling loses no symbol but `ε`. -/
theorem carried_of_settle (hg : ∀ B ∈ g.nonterminals, g.alternatives B ≠ [])
    (hearlier : ∀ B ∈ earlier, B ∈ g.nonterminals)
    (h : g.settle earlier n alternatives = .ok as) : g.Carried alternatives as := by
  refine settle_induction (P := g.Carried alternatives) (fun B hB bs _ hbs => hbs.trans fun α hα => ?_) h
    (.refl g alternatives)
  obtain ⟨β, hβ, hkept⟩ := exists_mem_substitute (hg B (hearlier B hB)) hα
  refine ⟨β, hβ, fun s hs => (hkept s hs).imp_right (Or.imp_left ?_)⟩
  rintro rfl
  exact hearlier s hB

/-- Where the elimination stands: the names in use are taken, and each nonterminal has an alternative. -/
structure Shaped (g : Grammar) (taken : NameSet) : Prop extends Listed g taken where
  ne_nil : ∀ A ∈ g.nonterminals, g.alternatives A ≠ []

theorem WellFormed.shaped_symbols (hg : g.WellFormed) : Shaped g g.symbols :=
  ⟨listed_symbols hg.isCanonical, hg.ne_nil⟩

/-- Splitting off a new nonterminal loses no symbol but `ε`. -/
theorem mem_symbols_splitOff (hA : A ∈ g.nonterminals) (hp : A ≠ prime) (hα : α ∈ alternatives) (hs : s ∈ α) :
    s = epsilon ∨ s ∈ (g.splitOff A prime alternatives).symbols := by
  by_cases hε : s = epsilon
  · exact Or.inl hε
  have hkept : ∀ {α : Alternative}, s ∈ α → s ∈ α.concat [prime] := fun hs =>
    Alternative.mem_concat_of_ne hε (Or.inl hs)
  by_cases hhead : α.head? = some A
  · obtain ⟨β, rfl⟩ := List.head?_eq_some_iff.mp hhead
    rcases List.mem_cons.mp hs with rfl | hs
    · exact Or.inr (mem_symbols_of_mem_nonterminals (mem_nonterminals_splitOff.mpr (Or.inr (Or.inl rfl))))
    · have htail := mem_recursiveTails_iff.mpr ⟨List.ne_nil_of_mem hs, hα⟩
      refine Or.inr (mem_symbols_of_mem_alternatives (A := prime) ?_ (hkept hs))
      rw [alternatives_splitOff, if_pos rfl]
      exact List.mem_append_left _ (List.mem_map_of_mem htail)
  · have hother := mem_otherAlternatives_iff.mpr ⟨hα, hhead⟩
    refine Or.inr (mem_symbols_of_mem_alternatives (A := A) ?_ (hkept hs))
    rw [alternatives_splitOff, if_neg hp, if_pos rfl]
    exact List.mem_map_of_mem hother

namespace Shaped

theorem wellFormed (hs : Shaped g taken) : g.WellFormed :=
  ⟨hs.ne_nil, fun A α hα => (hs.known A α hα).1⟩

section
variable (hs : Shaped g taken) (hA : A ∈ g.nonterminals) (hc : g.Carried (g.alternatives A) alternatives)
  (hknown : ∀ α ∈ alternatives, Known taken α)
include hs hA hc hknown

theorem insert : Shaped (g.insert A alternatives) taken ∧ Extends g (g.insert A alternatives) [] := by
  have hn := nonterminals_insert_of_mem hA alternatives
  refine ⟨⟨hs.toListed.insert hA hknown, fun C hC => ?_⟩, .of_alternatives (A := A) (by simp [hn])
    (fun _ hB => nomatch hB) (fun _ hB => nomatch hB)
    (fun C _ hC => by rw [alternatives_insert, if_neg hC]) fun α hα s hmem => ?_⟩
  · rw [alternatives_insert]
    split
    · exact hc.ne_nil (hs.ne_nil A hA)
    · exact hs.ne_nil C (hn ▸ hC)
  · obtain ⟨β, hβ, hkept⟩ := hc α hα
    rcases hkept s hmem with h | h | h
    · exact Or.inl h
    · exact Or.inr (mem_symbols_of_mem_nonterminals (hn ▸ h))
    · exact Or.inr (mem_symbols_of_mem_alternatives (A := A) (by rwa [alternatives_insert, if_pos rfl]) h)

theorem splitOff (hothers : otherAlternatives A alternatives ≠ []) (hp : prime ∉ taken)
    (hpε : prime ≠ epsilon) : Shaped (g.splitOff A prime alternatives) (taken.insert prime) ∧
      Extends g (g.splitOff A prime alternatives) [prime] := by
  have hunused := hs.not_mem_symbols hp hpε
  have hnew : prime ∉ g.nonterminals := fun h => hunused (mem_symbols_of_mem_nonterminals h)
  have hn := nonterminals_splitOff alternatives hA hnew
  refine ⟨⟨hs.toListed.splitOff hA hknown, fun C hC => ?_⟩, .of_alternatives (A := A) hn
    (by simpa using hunused) (by simpa using hpε) (fun C hC hCA => ?_) fun α hα s hmem => ?_⟩
  · rw [alternatives_splitOff]
    split
    · simp
    · split
      · simpa using hothers
      · next hCp hCA =>
        exact hs.ne_nil C (((mem_nonterminals_splitOff.mp hC).resolve_left hCp).resolve_left hCA)
  · rw [alternatives_splitOff, if_neg (ne_of_mem_of_not_mem hC hnew), if_neg hCA]
  · obtain ⟨β, hβ, hkept⟩ := hc α hα
    rcases hkept s hmem with h | h | h
    · exact Or.inl h
    · exact Or.inr (mem_symbols_of_mem_nonterminals (by simp [hn, h]))
    · exact mem_symbols_splitOff hA (ne_of_mem_of_not_mem hA hnew) hβ h

end

/-- A turn keeps the form, and what it adds is new. -/
theorem removeImmediate (hs : Shaped g taken) (hA : g.nonterminals[i]? = some A)
    (h : g.settle (g.nonterminals.take i) rounds (g.alternatives A) = .ok alternatives) :
    Shaped (g.removeImmediate taken A alternatives).1 (g.removeImmediate taken A alternatives).2 ∧
      ∃ added, Extends g (g.removeImmediate taken A alternatives).1 added := by
  have hmem := List.mem_of_getElem? hA
  have hknown := hs.known_of_settle h
  have hc := carried_of_settle hs.ne_nil (fun B hB => List.mem_of_mem_take hB) h
  have hne := hc.ne_nil (hs.ne_nil A hmem)
  by_cases htails : recursiveTails A alternatives = []
  · obtain ⟨kept, hkept, hsub, hnil, hdropped⟩ := exists_removeImmediate_of_no_tails g taken htails
    obtain ⟨β, hβ⟩ := List.exists_mem_of_ne_nil kept (hnil hne)
    -- what is dropped has no symbol but `A`, so that any alternative stands for it
    have hckept : g.Carried alternatives kept := fun α hα => by
      rcases hdropped α hα with hα | rfl
      · exact Carried.refl g kept α hα
      · exact ⟨β, hβ, fun s hs => Or.inr (Or.inl (List.mem_singleton.mp hs ▸ hmem))⟩
    obtain ⟨hshaped, hx⟩ := hs.insert hmem (hc.trans hckept) fun α hα => hknown α (hsub hα)
    rw [hkept]
    exact ⟨hshaped, [], hx⟩
  · have hAε : A ≠ epsilon := by
      rintro rfl
      obtain ⟨β, hβ⟩ := List.exists_mem_of_ne_nil _ htails
      obtain ⟨hβ, hα⟩ := mem_recursiveTails_iff.mp hβ
      rcases (hknown _ hα).1 with he | ⟨-, he⟩
      · exact hβ (List.cons.inj he).2
      · exact he List.mem_cons_self
    obtain ⟨all, hall, hothers, hsub, hcases⟩ := exists_removeImmediate_of_tails g taken hAε htails
    have hcall : g.Carried alternatives all := fun α hα => Carried.refl g all α (hsub hα)
    have hknownall : ∀ α ∈ all, Known taken α := fun α hα =>
      (hcases α hα).elim (hknown α) fun h => h ▸ known_epsilon taken
    obtain ⟨hshaped, hx⟩ := hs.splitOff hmem (hc.trans hcall) hknownall hothers (prime_not_mem A taken)
      (prime_ne_epsilon A taken)
    rw [hall]
    exact ⟨hshaped, _, hx⟩

end Shaped

/-- The elimination of left recursion keeps the form, and the nonterminals that it adds are new. -/
theorem WellFormed.eliminateLeftRecursion (hg : g.WellFormed) (h : g.eliminateLeftRecursion rounds = .ok r) :
    r.WellFormed ∧ ∃ added, Extends g r added := by
  obtain ⟨taken, hshaped, hx⟩ := eliminateFrom_induction
    (P := fun k taken => Shaped k taken ∧ ∃ added, Extends g k added)
    (fun i k taken A as ⟨hk, added, hx⟩ hA hs _ => by
      obtain ⟨hnext, more, hmore⟩ := hk.removeImmediate hA hs
      exact ⟨hnext, _, hx.trans hmore⟩)
    h ⟨hg.shaped_symbols, [], .refl g⟩
  exact ⟨hshaped.wellFormed, hx⟩

/-! ## Left factoring -/

theorem Mergeable.wellFormed {new : Symbol} (he : g.Mergeable A s new) (hg : g.WellFormed) :
    (g.extracted A s new).WellFormed where
  ne_nil C hC := by
    refine he.alternatives_extracted_ne_nil fun hnew => hg.ne_nil C ?_
    rw [he.nonterminals_extracted] at hC
    exact (List.mem_append.mp hC).resolve_right (by simpa using hnew)
  isCanonical := he.isCanonical_extracted hg.isCanonical

theorem Extractions.wellFormed (hx : Extractions g h added) (hg : g.WellFormed) : h.WellFormed := by
  induction hx with
  | refl => exact hg
  | tail _ he ih => exact he.wellFormed ih

theorem Extractions.extends (hx : Extractions g h added) : Extends g h added :=
  ⟨hx.nonterminals_eq, fun _ => hx.not_mem_symbols, fun _ => hx.ne_epsilon, fun _ hs => Or.inr (hx.mem_symbols hs)⟩

/-- Left factoring keeps the form, and the nonterminals that it adds are new. -/
theorem WellFormed.leftFactor (hg : g.WellFormed) (h : g.leftFactor = .ok r) :
    r.WellFormed ∧ ∃ added, Extends g r added := by
  obtain ⟨r', added, hr, hx, -⟩ := hg.filled.exists_leftFactor
  obtain rfl : r' = r := Except.ok.inj (hr.symm.trans h)
  exact ⟨hx.wellFormed hg, added, hx.extends⟩

/-- So does the preparation, which does both: what factoring adds is new in the given grammar, too. -/
theorem WellFormed.prepareLL1 (hg : g.WellFormed) (h : g.prepareLL1 rounds = .ok r) :
    r.WellFormed ∧ ∃ added, Extends g r added := by
  rw [Grammar.prepareLL1] at h
  cases he : g.eliminateLeftRecursion rounds with
  | error e => rw [he] at h; cases h
  | ok k =>
    rw [he] at h
    obtain ⟨hk, added, hx⟩ := hg.eliminateLeftRecursion he
    obtain ⟨hr, more, hmore⟩ := hk.leftFactor h
    exact ⟨hr, _, hx.trans hmore⟩

/-! ## Reading -/

theorem wellFormed_of_parse {text : String} (h : parse text = .ok (g, start)) :
    g.WellFormed ∧ g.nonterminals.head? = some start ∧
      ∀ s ∈ g.occurrences, ∀ c ∈ s.toList, Text.isBlank c = false := by
  obtain ⟨hg, hstart⟩ := spelled_of_parse h
  exact ⟨hg.wellFormed, hstart, fun _ hs c hc => (hg.apart hs c hc).1⟩

/-! ## The form of all grammars -/

/-- From a well-formed grammar each transformation makes a well-formed one, if it comes to an end. The nonterminals
stay first and in their order, and those behind them have names that the given grammar has nowhere. What is read is
well-formed; the start symbol is its first nonterminal, and no symbol of an alternative has a blank. -/
theorem transformations_keep_form :
    (∀ (g r : Grammar) (rounds : Nat), g.WellFormed →
      (g.eliminateLeftRecursion rounds = .ok r ∨ g.leftFactor = .ok r ∨ g.prepareLL1 rounds = .ok r) →
      r.WellFormed ∧ ∃ added, r.nonterminals = g.nonterminals ++ added ∧
        ∀ B ∈ added, B ∉ g.nonterminals ∧ B ∉ g.occurrences) ∧
    ∀ (text : String) (g : Grammar) (start : Symbol), parse text = .ok (g, start) →
      g.WellFormed ∧ g.nonterminals.head? = some start ∧
        ∀ s ∈ g.occurrences, ∀ c ∈ s.toList, Text.isBlank c = false := by
  refine ⟨fun g r rounds hg h => ?_, fun _ _ _ => wellFormed_of_parse⟩
  obtain ⟨hr, added, hx⟩ : r.WellFormed ∧ ∃ added, Extends g r added := by
    rcases h with h | h | h
    · exact hg.eliminateLeftRecursion h
    · exact hg.leftFactor h
    · exact hg.prepareLL1 h
  exact ⟨hr, added, hx.nonterminals_eq, fun _ => hx.not_mem⟩

/-- Terminals have the names that the transformations would choose first. -/
def crowded : Grammar :=
  .ofList [("S", [["S", "a"], ["b", "S'"], ["b", "S_fact"]]), ("T", [["S", "c"], ["ε"]])]

/-- What `crowded` is made into. -/
def crowdedPrepared : Grammar :=
  .ofList [("S", [["b", "S_fact_"]]), ("T", [["b", "T_fact"], ["ε"]]), ("S''", [["a", "S''"], ["ε"]]),
    ("S_fact_", [["S'", "S''"], ["S_fact", "S''"]]),
    ("T_fact", [["S'", "S''", "c"], ["S_fact", "S''", "c"]])]

theorem crowded_keeps_form :
    parse "S -> S a | b S' | b S_fact \n T → S c |" = .ok (crowded, "S") ∧
    (crowded.WellFormed ∧ crowded.nonterminals.head? = some "S" ∧
      ∀ s ∈ crowded.occurrences, ∀ c ∈ s.toList, Text.isBlank c = false) ∧
    crowded.prepareLL1 9 = .ok crowdedPrepared ∧
    crowdedPrepared.WellFormed ∧ ∃ added, crowdedPrepared.nonterminals = crowded.nonterminals ++ added ∧
      ∀ B ∈ added, B ∉ crowded.nonterminals ∧ B ∉ crowded.occurrences := by
  have hparse : parse "S -> S a | b S' | b S_fact \n T → S c |" = .ok (crowded, "S") := by decide +kernel
  have hread := transformations_keep_form.2 _ _ _ hparse
  have hprepare : crowded.prepareLL1 9 = .ok crowdedPrepared := by decide +kernel
  exact ⟨hparse, hread, hprepare,
    transformations_keep_form.1 crowded crowdedPrepared 9 hread.1 (Or.inr (Or.inr hprepare))⟩

end Grammar

end FormalLanguages
