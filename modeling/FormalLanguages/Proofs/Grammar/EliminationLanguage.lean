import FormalLanguages.Proofs.Grammar.Elimination
/-!
# Elimination of left recursion keeps the languages

Each rewrite is checked against readings. A substitution unfolds a production, and an alternative that
is its nonterminal alone adds nothing. When `A → A β | γ` gives way to `A → γ A'` and `A' → β A' | ε`,
the new nonterminal is read as the star of the tails (`Split.meaning_prime`), and with that reading
each grammar respects the other's languages. An alternative that does not begin with `A` has to exist;
it does as long as `A` yields some word.

Results:
* `meaning_settle`, `Split.meaning_eq`: the two rewrites keep what every nonterminal yields.
* `eliminateLeftRecursion_language`: if every nonterminal of a canonical grammar derives some word,
  each derives the same words in the result.
-/
namespace FormalLanguages

open FormalLanguages.Alternative (body)
open scoped Computability

namespace Grammar

variable {g h : Grammar} {A B prime : Symbol}

/-- A grammar yields no more than another with the same nonterminals that reads its alternatives inside
their nonterminals. -/
theorem meaning_le_meaning (hn : ∀ s, s ∈ g.nonterminals ↔ s ∈ h.nonterminals)
    (hp : ∀ A, ∀ α ∈ g.alternatives A, h.meaning.ofSeq α ≤ h.meaning A) (s : Symbol) :
    g.meaning s ≤ h.meaning s :=
  meaning_le ⟨meaning_respects.epsilon,
    fun a ha he => meaning_respects.terminal a ((hn a).not.mp ha) he, hp⟩ s

theorem meaning_insert_le {as bs : List Alternative}
    (hle : ∀ α ∈ as, (meaning (g.insert A bs)).ofSeq α ≤ meaning (g.insert A bs) A) (s : Symbol) :
    meaning (g.insert A as) s ≤ meaning (g.insert A bs) s := by
  refine meaning_le_meaning (fun s => by simp [mem_nonterminals_insert]) ?_ s
  refine forall_alternatives_insert.mpr ⟨hle, fun C hC α hα => ofSeq_meaning_le ?_⟩
  rwa [alternatives_insert, if_neg hC]

theorem ofSeq_meaning_insert_le {as : List Alternative} {α : Alternative} (hα : α ∈ as) :
    (meaning (g.insert A as)).ofSeq α ≤ meaning (g.insert A as) A :=
  ofSeq_meaning_le (by rwa [alternatives_insert, if_pos rfl])

theorem meaning_insert_self (hA : A ∈ g.nonterminals) :
    meaning (g.insert A (g.alternatives A)) = g.meaning := by
  have hn : ∀ s, s ∈ nonterminals (g.insert A (g.alternatives A)) ↔ s ∈ g.nonterminals := fun s => by
    rw [nonterminals_insert_of_mem hA]
  have ha : ∀ C, Grammar.alternatives (g.insert A (g.alternatives A)) C = g.alternatives C := by
    intro C
    rw [alternatives_insert]
    split
    · next h => rw [h]
    · rfl
  funext s
  refine le_antisymm (meaning_le_meaning hn (fun C α hα => ?_) s)
    (meaning_le_meaning (fun s => (hn s).symm) (fun C α hα => ?_) s)
  · exact ofSeq_meaning_le (ha C ▸ hα)
  · exact ofSeq_meaning_le ((ha C).symm ▸ hα)

/-! ## Substitution -/

/-- Unfolding a leading nonterminal in the alternatives of another changes nothing. -/
theorem meaning_substitute (hε : epsilon ∉ g.nonterminals) (hA : A ∈ g.nonterminals)
    (hB : B ∈ g.nonterminals) (hne : B ≠ A) (alternatives : List Alternative) :
    meaning (g.insert A (substitute B (g.alternatives B) alternatives)) =
      meaning (g.insert A alternatives) := by
  have hB' : ∀ as, Grammar.alternatives (g.insert A as) B = g.alternatives B := fun as => by
    rw [alternatives_insert, if_neg hne]
  have hone : ∀ as, meaning (g.insert A as) epsilon = 1 := fun as =>
    meaning_epsilon (by rwa [nonterminals_insert_of_mem hA])
  funext s
  refine le_antisymm (meaning_insert_le (fun α hα => ?_) s) (meaning_insert_le (fun α hα => ?_) s)
  · rcases mem_substitute_iff.mp hα with ⟨hα, -⟩ | ⟨γ, δ, hγ, hδ, rfl⟩
    · exact ofSeq_meaning_insert_le hα
    · rw [Reading.ofSeq_concat (hone _)]
      refine (mul_le_mul' (ofSeq_meaning_le (A := B) ?_) le_rfl).trans (ofSeq_meaning_insert_le hγ)
      rwa [hB']
  · by_cases hhead : α.head? = some B
    · obtain ⟨γ, rfl⟩ := List.head?_eq_some_iff.mp hhead
      rw [Reading.ofSeq_cons, meaning_eq_any (mem_nonterminals_insert.mpr (Or.inr hB))
        (ne_of_mem_of_not_mem hB hε), hB']
      refine Reading.any_mul_le fun δ hδ => ?_
      rw [← Reading.ofSeq_concat (hone _)]
      exact ofSeq_meaning_insert_le (mem_substitute_iff.mpr (Or.inr ⟨γ, δ, hα, hδ, rfl⟩))
    · exact ofSeq_meaning_insert_le (mem_substitute_iff.mpr (Or.inl ⟨hα, hhead⟩))

/-- Settling the alternatives of a nonterminal changes nothing. -/
theorem meaning_settle (hε : epsilon ∉ g.nonterminals) (hA : A ∈ g.nonterminals)
    {earlier : List Symbol} (hsub : ∀ B ∈ earlier, B ∈ g.nonterminals ∧ B ≠ A) {n : Nat}
    {alternatives : List Alternative}
    (h : g.settle earlier n (g.alternatives A) = .ok alternatives) :
    meaning (g.insert A alternatives) = g.meaning := by
  refine settle_induction (P := fun as => meaning (g.insert A as) = g.meaning)
    (fun B hB as _ has => ?_) h (meaning_insert_self hA)
  rw [meaning_substitute hε hA (hsub B hB).1 (hsub B hB).2, has]

/-! ## Immediate left recursion -/

/-- Alternatives that are their nonterminal alone add nothing. -/
theorem meaning_insert_of_dropped {kept alternatives : List Alternative} (hsub : kept ⊆ alternatives)
    (hdropped : ∀ α ∈ alternatives, α ∈ kept ∨ α = [A]) :
    meaning (g.insert A kept) = meaning (g.insert A alternatives) := by
  funext s
  refine le_antisymm (meaning_insert_le (fun α hα => ofSeq_meaning_insert_le (hsub hα)) s)
    (meaning_insert_le (fun α hα => ?_) s)
  rcases hdropped α hα with hα | rfl
  · exact ofSeq_meaning_insert_le hα
  · rw [Reading.ofSeq_singleton]

/-- `h` is `g` with a new nonterminal for what follows `A` in its own alternatives. -/
structure Split (g h : Grammar) (A prime : Symbol) : Prop where
  mem : A ∈ g.nonterminals
  epsilon_not_mem : epsilon ∉ g.nonterminals
  prime_not_mem : prime ∉ g.nonterminals
  prime_ne_epsilon : prime ≠ epsilon
  prime_unused : ∀ C, ∀ α ∈ g.alternatives C, prime ∉ α
  nonterminals : ∀ s, s ∈ h.nonterminals ↔ s = prime ∨ s ∈ g.nonterminals
  atPrime : h.alternatives prime =
    (recursiveTails A (g.alternatives A)).map (Alternative.concat · [prime]) ++ [[epsilon]]
  atNonterminal : h.alternatives A =
    (otherAlternatives A (g.alternatives A)).map (Alternative.concat · [prime])
  elsewhere : ∀ C, C ≠ A → C ≠ prime → h.alternatives C = g.alternatives C

namespace Split

theorem meaning_epsilon (hs : Split g h A prime) : h.meaning epsilon = 1 :=
  Grammar.meaning_epsilon fun he =>
    ((hs.nonterminals _).mp he).elim (fun h => hs.prime_ne_epsilon h.symm) hs.epsilon_not_mem

theorem prime_not_mem_tail (hs : Split g h A prime) {β : Alternative}
    (hβ : β ∈ recursiveTails A (g.alternatives A)) : prime ∉ β := fun h =>
  hs.prime_unused A _ (mem_recursiveTails_iff.mp hβ).2 (List.mem_cons_of_mem _ h)

/-- A reading of the old grammar with another language for the new nonterminal. -/
def withPrime (L : Reading) (prime : Symbol) (K : Language Symbol) : Reading :=
  Function.update L prime K

theorem withPrime_self (L : Reading) (K : Language Symbol) : withPrime L prime K prime = K :=
  Function.update_self ..

theorem withPrime_of_ne (L : Reading) (K : Language Symbol) {s : Symbol} (h : s ≠ prime) :
    withPrime L prime K s = L s :=
  Function.update_of_ne h ..

theorem ofSeq_withPrime (L : Reading) (K : Language Symbol) {α : List Symbol} (h : prime ∉ α) :
    (withPrime L prime K).ofSeq α = L.ofSeq α :=
  Reading.ofSeq_congr fun _ hs => withPrime_of_ne L K (ne_of_mem_of_not_mem hs h)

theorem ofSeq_concat_withPrime (hs : Split g h A prime) {L : Reading} (hL : L epsilon = 1)
    (K : Language Symbol) {α : Alternative} (hα : prime ∉ α) :
    (withPrime L prime K).ofSeq (α.concat [prime]) = L.ofSeq α * K := by
  rw [Reading.ofSeq_concat (by rw [withPrime_of_ne L K hs.prime_ne_epsilon.symm, hL]),
    ofSeq_withPrime L K hα, Reading.ofSeq_singleton, withPrime_self]

/-- To respect the new grammar is a matter of the two nonterminals that were changed and of those that
were not. -/
theorem respects (hs : Split g h A prime) {L : Reading} {K : Language Symbol} (hε : L epsilon = 1)
    (hterminal : ∀ a ∉ h.nonterminals, a ≠ epsilon → [a] ∈ L a)
    (hone : 1 ≤ K)
    (htail : ∀ β ∈ recursiveTails A (g.alternatives A), L.ofSeq β * K ≤ K)
    (hother : ∀ γ ∈ otherAlternatives A (g.alternatives A), L.ofSeq γ * K ≤ L A)
    (helsewhere : ∀ C, C ≠ A → C ≠ prime → ∀ α ∈ g.alternatives C, L.ofSeq α ≤ L C) :
    (withPrime L prime K).Respects h := by
  refine ⟨?_, fun a ha hne => ?_, fun C α hα => ?_⟩
  · rw [withPrime_of_ne L K hs.prime_ne_epsilon.symm, hε]; rfl
  · have hap : a ≠ prime := fun he => ha ((hs.nonterminals a).mpr (Or.inl he))
    rw [withPrime_of_ne L K hap]
    exact hterminal a ha hne
  · by_cases hC : C = prime
    · subst hC
      rw [withPrime_self]
      rw [hs.atPrime, List.mem_append, List.mem_map, List.mem_singleton] at hα
      rcases hα with ⟨β, hβ, rfl⟩ | rfl
      · rw [hs.ofSeq_concat_withPrime hε K (hs.prime_not_mem_tail hβ)]
        exact htail β hβ
      · rwa [Reading.ofSeq_singleton, withPrime_of_ne L K hs.prime_ne_epsilon.symm, hε]
    · rw [withPrime_of_ne L K hC]
      by_cases hCA : C = A
      · subst hCA
        rw [hs.atNonterminal, List.mem_map] at hα
        obtain ⟨γ, hγ, rfl⟩ := hα
        rw [hs.ofSeq_concat_withPrime hε K (hs.prime_unused C γ (mem_otherAlternatives_iff.mp hγ).1)]
        exact hother γ hγ
      · rw [hs.elsewhere C hCA hC] at hα
        rw [ofSeq_withPrime L K (hs.prime_unused C α hα)]
        exact helsewhere C hCA hC α hα

theorem ofSeq_concat_prime (hs : Split g h A prime) (α : Alternative) :
    h.meaning.ofSeq (α.concat [prime]) = h.meaning.ofSeq α * h.meaning prime := by
  rw [Reading.ofSeq_concat hs.meaning_epsilon, Reading.ofSeq_singleton]

theorem ofSeq_tail_mul_le (hs : Split g h A prime) {β : Alternative}
    (hβ : β ∈ recursiveTails A (g.alternatives A)) :
    h.meaning.ofSeq β * h.meaning prime ≤ h.meaning prime := by
  rw [← hs.ofSeq_concat_prime]
  exact ofSeq_meaning_le (hs.atPrime ▸ List.mem_append_left _ (List.mem_map_of_mem hβ))

theorem one_le_meaning_prime (hs : Split g h A prime) : 1 ≤ h.meaning prime := by
  rw [← hs.meaning_epsilon, ← Reading.ofSeq_singleton (L := h.meaning) epsilon]
  exact ofSeq_meaning_le (hs.atPrime ▸ List.mem_append_right _ (by simp))

theorem ofSeq_other_mul_le (hs : Split g h A prime) {γ : Alternative}
    (hγ : γ ∈ otherAlternatives A (g.alternatives A)) :
    h.meaning.ofSeq γ * h.meaning prime ≤ h.meaning A := by
  rw [← hs.ofSeq_concat_prime]
  exact ofSeq_meaning_le (hs.atNonterminal ▸ List.mem_map_of_mem hγ)

/-- The new nonterminal yields the star of the tails. -/
theorem meaning_prime (hs : Split g h A prime) :
    h.meaning prime = (h.meaning.any (recursiveTails A (g.alternatives A)))∗ := by
  set K := (h.meaning.any (recursiveTails A (g.alternatives A)))∗
  have hle : K ≤ h.meaning prime := by
    have := kstar_mul_le hs.one_le_meaning_prime
      (Reading.any_mul_le fun β hβ => hs.ofSeq_tail_mul_le hβ)
    rwa [mul_one] at this
  have hrespects : (withPrime h.meaning prime K).Respects h := by
    refine hs.respects hs.meaning_epsilon meaning_respects.terminal one_le_kstar (fun β hβ => ?_)
      (fun γ hγ => ?_) fun C hCA hC α hα => ?_
    · exact (mul_le_mul' (Reading.le_any hβ) le_rfl).trans mul_kstar_le_kstar
    · exact (mul_le_mul' le_rfl hle).trans (hs.ofSeq_other_mul_le hγ)
    · exact ofSeq_meaning_le (hs.elsewhere C hCA hC ▸ hα)
  refine le_antisymm ?_ hle
  have := meaning_le hrespects prime
  rwa [withPrime_self] at this

/-- In the new grammar, too, a tail can be added to `A` on the right. -/
theorem meaning_mul_ofSeq_tail_le (hs : Split g h A prime) {β : Alternative}
    (hβ : β ∈ recursiveTails A (g.alternatives A)) :
    h.meaning A * h.meaning.ofSeq β ≤ h.meaning A := by
  have hprime : h.meaning prime * h.meaning.ofSeq β ≤ h.meaning prime := by
    rw [hs.meaning_prime]
    exact (mul_le_mul' le_rfl (Reading.le_any hβ)).trans kstar_mul_le_kstar
  have hA : A ∈ h.nonterminals := (hs.nonterminals A).mpr (Or.inr hs.mem)
  conv_lhs => rw [meaning_eq_any hA (ne_of_mem_of_not_mem hs.mem hs.epsilon_not_mem)]
  refine Reading.any_mul_le fun α hα => ?_
  rw [hs.atNonterminal, List.mem_map] at hα
  obtain ⟨γ, hγ, rfl⟩ := hα
  calc h.meaning.ofSeq (Alternative.concat γ [prime]) * h.meaning.ofSeq β
      = h.meaning.ofSeq γ * (h.meaning prime * h.meaning.ofSeq β) := by
        rw [hs.ofSeq_concat_prime, mul_assoc]
    _ ≤ h.meaning.ofSeq γ * h.meaning prime := mul_le_mul' le_rfl hprime
    _ ≤ h.meaning A := hs.ofSeq_other_mul_le hγ

theorem meaning_le_old (hs : Split g h A prime) {s : Symbol} (hne : s ≠ prime) :
    h.meaning s ≤ g.meaning s := by
  set K := (g.meaning.any (recursiveTails A (g.alternatives A)))∗
  have hrespects : (withPrime g.meaning prime K).Respects h := by
    refine hs.respects (Grammar.meaning_epsilon hs.epsilon_not_mem)
      (fun a ha => meaning_respects.terminal a fun hg => ha ((hs.nonterminals a).mpr (Or.inr hg)))
      one_le_kstar (fun β hβ => ?_) (fun γ hγ => ?_) fun C _ _ α hα => ofSeq_meaning_le hα
    · exact (mul_le_mul' (Reading.le_any hβ) le_rfl).trans mul_kstar_le_kstar
    · refine mul_kstar_le (ofSeq_meaning_le (mem_otherAlternatives_iff.mp hγ).1)
        (Reading.mul_any_le fun β hβ => ?_)
      rw [← Reading.ofSeq_cons]
      exact ofSeq_meaning_le (mem_recursiveTails_iff.mp hβ).2
  have := meaning_le hrespects s
  rwa [withPrime_of_ne _ _ hne] at this

theorem old_le_meaning (hs : Split g h A prime) {s : Symbol} (hne : s ≠ prime) :
    g.meaning s ≤ h.meaning s := by
  -- the given grammar has no such nonterminal: there it is a terminal that yields itself
  have hrespects : (withPrime h.meaning prime {[prime]}).Respects g := by
    refine ⟨?_, fun a ha he => ?_, fun C α hα => ?_⟩
    · rw [withPrime_of_ne _ _ hs.prime_ne_epsilon.symm]
      exact meaning_respects.epsilon
    · by_cases hap : a = prime
      · subst hap
        rw [withPrime_self]; rfl
      · rw [withPrime_of_ne _ _ hap]
        exact meaning_respects.terminal a (fun h => ((hs.nonterminals a).mp h).elim hap ha) he
    · have hC : C ≠ prime :=
        ne_of_mem_of_not_mem (mem_nonterminals_of_mem_alternatives hα) hs.prime_not_mem
      rw [withPrime_of_ne _ _ hC, ofSeq_withPrime _ _ (hs.prime_unused C α hα)]
      by_cases hCA : C = A
      · subst hCA
        by_cases hhead : α.head? = some C
        · obtain ⟨γ, rfl⟩ := List.head?_eq_some_iff.mp hhead
          rw [Reading.ofSeq_cons]
          by_cases hγ : γ = []
          · rw [hγ, Reading.ofSeq_nil, mul_one]
          · exact hs.meaning_mul_ofSeq_tail_le (mem_recursiveTails_iff.mpr ⟨hγ, hα⟩)
        · exact (le_mul_of_one_le_right' hs.one_le_meaning_prime).trans
            (hs.ofSeq_other_mul_le (mem_otherAlternatives_iff.mpr ⟨hα, hhead⟩))
      · exact ofSeq_meaning_le ((hs.elsewhere C hCA hC).symm ▸ hα)
  have := meaning_le hrespects s
  rwa [withPrime_of_ne _ _ hne] at this

/-- The new nonterminal changes nothing for the others. -/
theorem meaning_eq (hs : Split g h A prime) {s : Symbol} (hne : s ≠ prime) :
    h.meaning s = g.meaning s :=
  le_antisymm (hs.meaning_le_old hne) (hs.old_le_meaning hne)

end Split

/-! ## The invariant of a run -/

/-- The grammar is canonical, its names are in use, and each nonterminal yields some word. -/
structure Workable (g : Grammar) (taken : NameSet) : Prop where
  epsilon_not_mem : epsilon ∉ g.nonterminals
  known : ∀ A, ∀ α ∈ g.alternatives A, Known taken α
  named : ∀ A ∈ g.nonterminals, A ∈ taken
  productive : ∀ A ∈ g.nonterminals, g.meaning A ≠ 0

/-- The nonterminals of the first grammar yield the same in the second. -/
def Preserves (g h : Grammar) : Prop :=
  ∀ B ∈ g.nonterminals, B ∈ h.nonterminals ∧ h.meaning B = g.meaning B

theorem Preserves.refl (g : Grammar) : Preserves g g := fun _ hB => ⟨hB, rfl⟩

theorem Preserves.trans {k : Grammar} (h1 : Preserves g h) (h2 : Preserves h k) : Preserves g k :=
  fun B hB =>
    have ⟨hB', h1⟩ := h1 B hB
    have ⟨hB'', h2⟩ := h2 B hB'
    ⟨hB'', h2.trans h1⟩

/-- The nonterminals before a place of the order are others than the one at the place. -/
theorem mem_take_of_getElem? {i : Nat} (hA : g.nonterminals[i]? = some A) :
    ∀ B ∈ g.nonterminals.take i, B ∈ g.nonterminals ∧ B ≠ A := by
  intro B hB
  refine ⟨List.mem_of_mem_take hB, ?_⟩
  intro h
  obtain rfl := h
  obtain ⟨j, hj, hB⟩ := List.mem_take_iff_getElem.mp hB
  obtain ⟨hi, hA⟩ := List.getElem?_eq_some_iff.mp hA
  have := (List.Nodup.getElem_inj_iff (show g.nonterminals.Nodup from g.distinct)).mp (hB.trans hA.symm)
  omega

/-- The grammar is canonical, and its names are in use. -/
structure Tidy (g : Grammar) (taken : NameSet) : Prop where
  epsilon_not_mem : epsilon ∉ g.nonterminals
  known : ∀ A, ∀ α ∈ g.alternatives A, Known taken α
  named : ∀ A ∈ g.nonterminals, A ∈ taken

theorem Workable.tidy {taken : NameSet} (hw : Workable g taken) : Tidy g taken :=
  ⟨hw.epsilon_not_mem, hw.known, hw.named⟩

/-- Where an alternative begins with `A` and goes on, another does not begin with `A`. -/
def Grounded (A : Symbol) (alternatives : List Alternative) : Prop :=
  recursiveTails A alternatives ≠ [] → otherAlternatives A alternatives ≠ []

variable {taken : NameSet} {alternatives : List Alternative} {i rounds : Nat}

namespace Tidy

theorem canonical (ht : Tidy g taken) : g.Canonical :=
  canonical_iff.mpr ⟨ht.epsilon_not_mem, fun A α hα => (ht.known A α hα).1⟩

theorem listed (ht : Tidy g taken) : Listed g taken := ⟨ht.known, ht.named⟩

theorem known_of_settle (ht : Tidy g taken) {earlier : List Symbol}
    (h : g.settle earlier rounds (g.alternatives A) = .ok alternatives) :
    ∀ α ∈ alternatives, Known taken α :=
  ht.listed.known_of_settle h

/-- Settled alternatives are not empty. -/
theorem nil_not_mem_of_settle (ht : Tidy g taken) {earlier : List Symbol}
    (h : g.settle earlier rounds (g.alternatives A) = .ok alternatives) : [] ∉ alternatives := fun hnil =>
  Alternative.IsCanonical.ne_nil (ht.known_of_settle h [] hnil).1 rfl

theorem meaning_of_settle (ht : Tidy g taken) (hA : g.nonterminals[i]? = some A)
    (h : g.settle (g.nonterminals.take i) rounds (g.alternatives A) = .ok alternatives) :
    meaning (g.insert A alternatives) = g.meaning :=
  meaning_settle ht.epsilon_not_mem (List.mem_of_getElem? hA) (mem_take_of_getElem? hA) h

/-- Where all alternatives begin with their nonterminal, it yields nothing. -/
theorem meaning_eq_zero_of_settle (ht : Tidy g taken) (hA : g.nonterminals[i]? = some A)
    (h : g.settle (g.nonterminals.take i) rounds (g.alternatives A) = .ok alternatives)
    (hnil : otherAlternatives A alternatives = []) : g.meaning A = 0 := by
  have hmem := List.mem_of_getElem? hA
  rw [← ht.meaning_of_settle hA h]
  refine meaning_eq_zero (mem_nonterminals_insert.mpr (Or.inl rfl))
    (ne_of_mem_of_not_mem hmem ht.epsilon_not_mem) fun α hα => ?_
  rw [alternatives_insert, if_pos rfl] at hα
  by_contra hhead
  exact List.not_mem_nil (hnil ▸ mem_otherAlternatives_iff.mpr ⟨hα, hhead⟩)

/-- The new nonterminal is split off from the settled grammar. -/
theorem split (ht : Tidy g taken) (hA : A ∈ g.nonterminals)
    (hknown : ∀ α ∈ alternatives, Known taken α) (hp : prime ∉ taken) (hpε : prime ≠ epsilon) :
    Split (g.insert A alternatives) (g.splitOff A prime alternatives) A prime where
  mem := mem_nonterminals_insert.mpr (Or.inl rfl)
  epsilon_not_mem := by rw [nonterminals_insert_of_mem hA]; exact ht.epsilon_not_mem
  prime_not_mem := by rw [nonterminals_insert_of_mem hA]; exact fun h => hp (ht.named _ h)
  prime_ne_epsilon := hpε
  prime_unused := by
    have unused : ∀ {α : Alternative}, Known taken α → prime ∉ α := fun h hmem =>
      (h.2 prime hmem).elim hpε hp
    exact forall_alternatives_insert.mpr
      ⟨fun α hα => unused (hknown α hα), fun C _ α hα => unused (ht.known C α hα)⟩
  nonterminals s := by rw [mem_nonterminals_splitOff, mem_nonterminals_insert]
  atPrime := by simp [alternatives_splitOff, alternatives_insert]
  atNonterminal := by
    have hne : A ≠ prime := fun h => hp (h ▸ ht.named A hA)
    simp [alternatives_splitOff, alternatives_insert, hne]
  elsewhere C hCA hC := by simp [alternatives_splitOff, alternatives_insert, hCA, hC]

theorem insert (ht : Tidy g taken) (hA : A ∈ g.nonterminals)
    (hknown : ∀ α ∈ alternatives, Known taken α) : Tidy (g.insert A alternatives) taken :=
  have hl := ht.listed.insert hA hknown
  ⟨nonterminals_insert_of_mem hA alternatives ▸ ht.epsilon_not_mem, hl.known, hl.named⟩

theorem splitOff (ht : Tidy g taken) (hA : A ∈ g.nonterminals)
    (hknown : ∀ α ∈ alternatives, Known taken α) (hpε : prime ≠ epsilon) :
    Tidy (g.splitOff A prime alternatives) (taken.insert prime) := by
  have hl : Listed (g.splitOff A prime alternatives) (taken.insert prime) := ht.listed.splitOff hA hknown
  refine ⟨fun h => ?_, hl.known, hl.named⟩
  rcases mem_nonterminals_splitOff.mp h with h | h | h
  · exact hpε h.symm
  · exact ht.epsilon_not_mem (h ▸ hA)
  · exact ht.epsilon_not_mem h

/-- Splitting off a new nonterminal keeps what the others yield, and the new one yields something. -/
theorem meaning_splitOff (ht : Tidy g taken) (hA : A ∈ g.nonterminals)
    (hknown : ∀ α ∈ alternatives, Known taken α) (hp : prime ∉ taken) (hpε : prime ≠ epsilon) :
    (∀ B ∈ g.nonterminals, B ∈ (g.splitOff A prime alternatives).nonterminals ∧
      (g.splitOff A prime alternatives).meaning B = meaning (g.insert A alternatives) B) ∧
    ∀ B ∈ (g.splitOff A prime alternatives).nonterminals, B ∉ g.nonterminals →
      (g.splitOff A prime alternatives).meaning B ≠ 0 := by
  have hs := ht.split hA hknown hp hpε
  refine ⟨fun B hB => ⟨mem_nonterminals_splitOff.mpr (Or.inr (Or.inr hB)),
    hs.meaning_eq fun h => hp (h ▸ ht.named B hB)⟩, fun B hB hnew hzero => ?_⟩
  obtain rfl : B = prime :=
    (mem_nonterminals_splitOff.mp hB).resolve_right fun h => hnew (h.elim (· ▸ hA) id)
  have hnil : [] ∈ (g.splitOff A B alternatives).meaning B := hs.one_le_meaning_prime rfl
  rw [hzero] at hnil
  exact Language.notMem_zero [] hnil

/-- Treating a nonterminal with an alternative to begin with keeps what the nonterminals yield, and a new one
yields something. -/
theorem removeImmediate (ht : Tidy g taken) (hA : g.nonterminals[i]? = some A)
    (h : g.settle (g.nonterminals.take i) rounds (g.alternatives A) = .ok alternatives)
    (hground : Grounded A alternatives) :
    Tidy (g.removeImmediate taken A alternatives).1 (g.removeImmediate taken A alternatives).2 ∧
      Preserves g (g.removeImmediate taken A alternatives).1 ∧
      ∀ B ∈ (g.removeImmediate taken A alternatives).1.nonterminals, B ∉ g.nonterminals →
        (g.removeImmediate taken A alternatives).1.meaning B ≠ 0 := by
  have hmem := List.mem_of_getElem? hA
  have hknown := ht.known_of_settle h
  have hmeaning := ht.meaning_of_settle hA h
  by_cases htails : recursiveTails A alternatives = []
  · obtain ⟨kept, hkept, hsub, -, hdropped⟩ := exists_removeImmediate_of_no_tails g taken htails
    have hsame := (meaning_insert_of_dropped hsub hdropped).trans hmeaning
    have hn := nonterminals_insert_of_mem hmem kept
    rw [hkept]
    exact ⟨ht.insert hmem fun α hα => hknown α (hsub hα), fun B hB => ⟨hn ▸ hB, by rw [hsame]⟩,
      fun B hB hnew => absurd (hn ▸ hB) hnew⟩
  · rw [removeImmediate_of_tails g taken htails (hground htails)]
    have hp := prime_not_mem A taken
    have hpε := prime_ne_epsilon A taken
    obtain ⟨hsame, hnew⟩ := ht.meaning_splitOff hmem hknown hp hpε
    exact ⟨ht.splitOff hmem hknown hpε, fun B hB => ⟨(hsame B hB).1, by rw [(hsame B hB).2, hmeaning]⟩, hnew⟩

end Tidy

namespace Workable

/-- Some alternative does not begin with its nonterminal. -/
theorem otherAlternatives_ne_nil (hw : Workable g taken) (hA : g.nonterminals[i]? = some A)
    (h : g.settle (g.nonterminals.take i) rounds (g.alternatives A) = .ok alternatives) :
    otherAlternatives A alternatives ≠ [] := fun hnil =>
  hw.productive A (List.mem_of_getElem? hA) (hw.tidy.meaning_eq_zero_of_settle hA h hnil)

/-- Treating a nonterminal keeps the invariant and what the nonterminals yield. -/
theorem removeImmediate (hw : Workable g taken) (hA : g.nonterminals[i]? = some A)
    (h : g.settle (g.nonterminals.take i) rounds (g.alternatives A) = .ok alternatives) :
    Workable (g.removeImmediate taken A alternatives).1 (g.removeImmediate taken A alternatives).2 ∧
      Preserves g (g.removeImmediate taken A alternatives).1 := by
  obtain ⟨ht, hpres, hnew⟩ := hw.tidy.removeImmediate hA h fun _ => hw.otherAlternatives_ne_nil hA h
  refine ⟨⟨ht.epsilon_not_mem, ht.known, ht.named, fun B hB => ?_⟩, hpres⟩
  by_cases hold : B ∈ g.nonterminals
  · rw [(hpres B hold).2]
    exact hw.productive B hold
  · exact hnew B hB hold

end Workable

/-! ## The languages -/

theorem language_eq_meaning (hε : epsilon ∉ g.nonterminals) (hA : A ∈ g.nonterminals) :
    g.language A = g.meaning A :=
  Set.ext fun _ => mem_language_iff hε (ne_of_mem_of_not_mem hA hε)

theorem tidy_symbols (hg : g.Canonical) : Tidy g g.symbols :=
  have hl := listed_symbols fun _ _ hα => hg.cases hα
  ⟨hg.epsilon_not_mem, hl.known, hl.named⟩

theorem workable_symbols (hg : g.Canonical) (hp : ∀ A ∈ g.nonterminals, ∃ w, w ∈ g.language A) :
    Workable g g.symbols := by
  have ht := tidy_symbols hg
  refine ⟨ht.epsilon_not_mem, ht.known, ht.named, fun A hA hzero => ?_⟩
  obtain ⟨w, hw⟩ := hp A hA
  rw [language_eq_meaning hg.epsilon_not_mem hA, hzero] at hw
  exact hw

/-- Where every nonterminal derives some word, all of them derive the same words after the left
recursion is eliminated. -/
theorem eliminateLeftRecursion_language (hg : g.Canonical)
    (hp : ∀ A ∈ g.nonterminals, ∃ w, w ∈ g.language A) {rounds : Nat} {r : Grammar}
    (h : g.eliminateLeftRecursion rounds = .ok r) :
    ∀ A ∈ g.nonterminals, A ∈ r.nonterminals ∧ r.language A = g.language A := by
  obtain ⟨taken, hw, hpres⟩ := eliminateFrom_induction
    (P := fun g' taken => Workable g' taken ∧ Preserves g g')
    (fun i g' taken A alternatives ⟨hw, hpres⟩ hA hs _ =>
      ⟨(hw.removeImmediate hA hs).1, hpres.trans (hw.removeImmediate hA hs).2⟩)
    h ⟨workable_symbols hg hp, .refl g⟩
  intro A hA
  obtain ⟨hA', hsame⟩ := hpres A hA
  exact ⟨hA', by
    rw [language_eq_meaning hg.epsilon_not_mem hA, language_eq_meaning hw.epsilon_not_mem hA', hsame]⟩

/-- A grammar with a unit cycle, an alternative `ε`, an alternative written twice and a primed name. -/
def primed : Grammar := .ofList
  [("A", [["A", "a"], ["B"], ["A"]]), ("B", [["A", "b"], ["B"], ["A'"]]), ("A'", [["ε"], ["c"], ["c"]])]

/-- `primed` without left recursion. -/
def primedEliminated : Grammar := .ofList
  [("A", [["B", "A''"]]), ("B", [["A'", "B'"]]), ("A'", [["ε"], ["c"]]), ("A''", [["a", "A''"], ["ε"]]),
    ("B'", [["a", "A''", "b", "B'"], ["b", "B'"], ["ε"]])]

theorem primed_language :
    primed.Canonical ∧ (∀ A ∈ primed.nonterminals, ∃ w, w ∈ primed.language A) ∧
    primed.eliminateLeftRecursion 6 = .ok primedEliminated ∧
    ∀ A ∈ primed.nonterminals,
      A ∈ primedEliminated.nonterminals ∧ primedEliminated.language A = primed.language A := by
  have hg : primed.Canonical := by decide
  have hA' : primed.Yields ["A'"] [] := .of_alternative (α := ["ε"]) (by decide) (.vanish .nil)
  have hB : primed.Yields ["B"] [] := .of_alternative (α := ["A'"]) (by decide) hA'
  have hA : primed.Yields ["A"] [] := .of_alternative (α := ["B"]) (by decide) hB
  have hall : ∀ A ∈ primed.nonterminals, A ≠ epsilon ∧ primed.Yields [A] [] := by
    change ∀ A ∈ ["A", "B", "A'"], _
    simp [hA, hB, hA', epsilon]
  have hp : ∀ A ∈ primed.nonterminals, ∃ w, w ∈ primed.language A := fun A hmem =>
    ⟨[], (mem_language_iff hg.epsilon_not_mem (hall A hmem).1).mpr (hall A hmem).2⟩
  have h : primed.eliminateLeftRecursion 6 = .ok primedEliminated := by decide +kernel
  exact ⟨hg, hp, h, eliminateLeftRecursion_language hg hp h⟩

end Grammar

end FormalLanguages
