import FormalLanguages.Grammar.Elimination
import FormalLanguages.Proofs.Grammar.Reading
/-!
# The steps of the elimination of left recursion

Results:
* `mem_substitute_iff`, `mem_recursiveTails_iff`, `mem_otherAlternatives_iff`: what the rewrites of
  alternatives give.
* `removeImmediate_of_no_tails`, `removeImmediate_of_tails`: the two ways to treat a nonterminal that
  has an alternative to begin with.
* `exists_removeImmediate_of_no_tails`, `exists_removeImmediate_of_tails`: the two ways to treat any nonterminal.
* `Listed.insert`, `Listed.splitOff`: the rewrites use names that are taken.
* `settle_induction`, `eliminateFrom_induction`: what each rewrite keeps, the whole run keeps.
* `eliminateLeftRecursion_mono`: with a greater bound on the rounds the result is the same.
* `exists_eliminateLeftRecursion_of_measure`: a run comes to an end where a measure falls at every turn.
* `eliminateFrom_ne_ok`: it does not where every turn leads to another.
-/
namespace FormalLanguages

open FormalLanguages.Alternative (body)

namespace Alternative

/-- `ε` alone, or some symbols without `ε`. -/
def IsCanonical (α : Alternative) : Prop := α = [epsilon] ∨ α ≠ [] ∧ epsilon ∉ α

instance (α : Alternative) : Decidable α.IsCanonical := inferInstanceAs (Decidable (_ ∨ _))

theorem IsCanonical.ne_nil {α : Alternative} (h : α.IsCanonical) : α ≠ [] := by
  rcases h with rfl | ⟨hne, -⟩
  · simp
  · exact hne

theorem isCanonical_concat (α β : Alternative) : (α.concat β).IsCanonical := by
  rw [concat_eq]
  split
  · exact Or.inl rfl
  · next h => exact Or.inr ⟨h, fun he => (mem_body.mp he).2 rfl⟩

theorem concat_of_epsilon_not_mem {α β : Alternative} (hα : epsilon ∉ α) (hβ : epsilon ∉ β)
    (h : α ++ β ≠ []) : α.concat β = α ++ β := by
  rw [concat_eq, body_eq_self (by simp [hα, hβ]), if_neg h]

/-- What comes before is just put in front, if something comes after. -/
theorem concat_of_ne_nil {α β : Alternative} (hβ : epsilon ∉ β) (h : β ≠ []) : α.concat β = body α ++ β := by
  rw [concat_eq, body_append, body_eq_self hβ, if_neg (by simp [h])]

theorem concat_epsilon {β : Alternative} (hβ : epsilon ∉ β) (h : β ≠ []) :
    concat [epsilon] β = β := by
  rw [concat_of_ne_nil hβ h, body_epsilon_cons, body_nil, List.nil_append]

theorem mem_concat {α β : Alternative} {s : Symbol} (h : s ∈ α.concat β) :
    s = epsilon ∨ s ∈ α ∨ s ∈ β := by
  rw [concat_eq] at h
  split at h
  · exact Or.inl (List.mem_singleton.mp h)
  · exact Or.inr (List.mem_append.mp (mem_body.mp h).1)

/-- Symbols other than `ε` do not vanish. -/
theorem mem_concat_of_ne {α β : Alternative} {s : Symbol} (hs : s ≠ epsilon) (h : s ∈ α ∨ s ∈ β) :
    s ∈ α.concat β := by
  have hbody : s ∈ body (α ++ β) := mem_body.mpr ⟨List.mem_append.mpr h, hs⟩
  rwa [concat_eq, if_neg (List.ne_nil_of_mem hbody)]

end Alternative

namespace Grammar

theorem canonical_iff {g : Grammar} : g.Canonical ↔
    epsilon ∉ g.nonterminals ∧ ∀ A, ∀ α ∈ g.alternatives A, α.IsCanonical := by
  constructor
  · exact fun h => ⟨h.epsilon_not_mem, fun A α hα => h.cases hα⟩
  · intro h
    obtain ⟨hε, h⟩ := h
    refine ⟨fun h => hε (isNonterminal_iff.mp h), fun ⟨A, α⟩ hp => ?_⟩
    rcases h A α (mem_productions_iff.mp hp) with rfl | ⟨hne, he⟩
    · simp
    · exact ⟨hne, fun h => absurd h he⟩

/-! ## Rewriting alternatives -/

theorem checkNonempty_eq_ok {alternatives : List Alternative} (h : [] ∉ alternatives) :
    checkNonempty alternatives = .ok () :=
  if_neg h

theorem checkNonempty_eq_error {alternatives : List Alternative} (h : [] ∈ alternatives) :
    checkNonempty alternatives = .error .emptyAlternative :=
  if_pos h

theorem mem_substitute_iff {B : Symbol} {replacements alternatives : List Alternative}
    {β : Alternative} : β ∈ substitute B replacements alternatives ↔
      (β ∈ alternatives ∧ β.head? ≠ some B) ∨
        ∃ γ δ, B :: γ ∈ alternatives ∧ δ ∈ replacements ∧ β = δ.concat γ := by
  simp only [substitute, List.mem_eraseDups, List.mem_flatMap]
  constructor
  · intro h
    obtain ⟨α, hα, hβ⟩ := h
    cases α with
    | nil =>
      obtain rfl := List.mem_singleton.mp hβ
      exact Or.inl ⟨hα, by simp⟩
    | cons s γ =>
      by_cases hs : s = B
      · subst hs
        simp only [if_true, List.mem_map] at hβ
        obtain ⟨δ, hδ, rfl⟩ := hβ
        exact Or.inr ⟨γ, δ, hα, hδ, rfl⟩
      · simp only [if_neg hs, List.mem_singleton] at hβ
        subst hβ
        exact Or.inl ⟨hα, by simpa using hs⟩
  · intro h
    rcases h with ⟨hβ, hne⟩ | ⟨γ, δ, hγ, hδ, rfl⟩
    · refine ⟨β, hβ, ?_⟩
      cases β with
      | nil => simp
      | cons s γ => simp only [if_neg (show s ≠ B by simpa using hne), List.mem_singleton]
    · exact ⟨B :: γ, hγ, by simp only [if_true, List.mem_map]; exact ⟨δ, hδ, rfl⟩⟩

theorem mem_recursiveTails_iff {A : Symbol} {alternatives : List Alternative} {β : Alternative} :
    β ∈ recursiveTails A alternatives ↔ β ≠ [] ∧ A :: β ∈ alternatives := by
  simp only [recursiveTails, List.mem_filterMap]
  constructor
  · intro h
    obtain ⟨_ | ⟨s, _ | ⟨t, γ⟩⟩, hα, h⟩ := h
    · simp at h
    · simp at h
    · by_cases hs : s = A
      · subst hs
        simp only [if_true, Option.some.injEq] at h
        subst h
        exact ⟨by simp, hα⟩
      · simp [hs] at h
  · intro h
    obtain ⟨hne, hα⟩ := h
    cases β with
    | nil => exact absurd rfl hne
    | cons t γ => exact ⟨A :: t :: γ, hα, by simp⟩

theorem mem_otherAlternatives_iff {A : Symbol} {alternatives : List Alternative} {α : Alternative} :
    α ∈ otherAlternatives A alternatives ↔ α ∈ alternatives ∧ α.head? ≠ some A := by
  simp [otherAlternatives]

/-- Where no alternative goes on behind the nonterminal, those that begin with it are the nonterminal alone. -/
theorem mem_otherAlternatives_or_eq {A : Symbol} {alternatives : List Alternative} {α : Alternative}
    (h : recursiveTails A alternatives = []) (hα : α ∈ alternatives) :
    α ∈ otherAlternatives A alternatives ∨ α = [A] := by
  by_cases hhead : α.head? = some A
  · obtain ⟨γ, rfl⟩ := List.head?_eq_some_iff.mp hhead
    have hγ : γ = [] := by
      by_contra hne
      exact List.not_mem_nil (h ▸ mem_recursiveTails_iff.mpr ⟨hne, hα⟩)
    exact Or.inr (by rw [hγ])
  · exact Or.inl (mem_otherAlternatives_iff.mpr ⟨hα, hhead⟩)

/-! ## Treating a nonterminal -/

theorem removeImmediate_of_no_tails (g : Grammar) (taken : NameSet) {A : Symbol}
    {alternatives : List Alternative} (h : recursiveTails A alternatives = [])
    (ho : otherAlternatives A alternatives ≠ []) :
    g.removeImmediate taken A alternatives =
      (g.insert A (otherAlternatives A alternatives), taken) := by
  simp [removeImmediate, h, ho]

/-- Where no alternative begins with the nonterminal and goes on, at most some are dropped that are the
nonterminal alone. -/
theorem exists_removeImmediate_of_no_tails (g : Grammar) (taken : NameSet) {A : Symbol}
    {alternatives : List Alternative} (h : recursiveTails A alternatives = []) : ∃ kept,
      g.removeImmediate taken A alternatives = (g.insert A kept, taken) ∧ kept ⊆ alternatives ∧
        (alternatives ≠ [] → kept ≠ []) ∧ ∀ α ∈ alternatives, α ∈ kept ∨ α = [A] := by
  by_cases hothers : otherAlternatives A alternatives = []
  · exact ⟨alternatives, by simp [removeImmediate, h, hothers], fun _ => id, id, fun _ => Or.inl⟩
  · exact ⟨_, removeImmediate_of_no_tails g taken h hothers,
      fun _ hα => (mem_otherAlternatives_iff.mp hα).1, fun _ => hothers,
      fun _ => mem_otherAlternatives_or_eq h⟩

/-- The grammar in which `prime` derives what follows `A` in its own alternatives. -/
def splitOff (g : Grammar) (A prime : Symbol) (alternatives : List Alternative) : Grammar :=
  (g.insert A ((otherAlternatives A alternatives).map (Alternative.concat · [prime]))).insert prime
    ((recursiveTails A alternatives).map (Alternative.concat · [prime]) ++ [[epsilon]])

theorem removeImmediate_of_tails (g : Grammar) (taken : NameSet) {A : Symbol}
    {alternatives : List Alternative} (h : recursiveTails A alternatives ≠ [])
    (ho : otherAlternatives A alternatives ≠ []) :
    g.removeImmediate taken A alternatives =
      (g.splitOff A (freshName A "'" taken.toList "") alternatives,
        taken.insert (freshName A "'" taken.toList "")) := by
  simp [removeImmediate, splitOff, h, ho]

theorem mem_nonterminals_splitOff {g : Grammar} {A prime s : Symbol}
    {alternatives : List Alternative} : s ∈ (g.splitOff A prime alternatives).nonterminals ↔
      s = prime ∨ s = A ∨ s ∈ g.nonterminals := by
  rw [splitOff, mem_nonterminals_insert, mem_nonterminals_insert]

theorem nonterminals_splitOff {g : Grammar} {A prime : Symbol} (alternatives : List Alternative)
    (hA : A ∈ g.nonterminals) (hp : prime ∉ g.nonterminals) :
    (g.splitOff A prime alternatives).nonterminals = g.nonterminals ++ [prime] := by
  have hn := nonterminals_insert_of_mem hA
  rw [splitOff, nonterminals_insert_of_not_mem (by rwa [hn]), hn]

theorem alternatives_splitOff (g : Grammar) (A prime C : Symbol) (alternatives : List Alternative) :
    (g.splitOff A prime alternatives).alternatives C =
      if C = prime then
        (recursiveTails A alternatives).map (Alternative.concat · [prime]) ++ [[epsilon]]
      else if C = A then (otherAlternatives A alternatives).map (Alternative.concat · [prime])
      else g.alternatives C := by
  rw [splitOff, alternatives_insert, alternatives_insert]

theorem prime_not_mem (A : Symbol) (taken : NameSet) : freshName A "'" taken.toList "" ∉ taken :=
  freshName_not_mem (by decide) _

theorem prime_ne_epsilon (A : Symbol) (taken : NameSet) :
    freshName A "'" taken.toList "" ≠ epsilon := by
  intro h
  have hmem : '\'' ∈ (freshName A "'" taken.toList "").toList :=
    mem_toList_freshName A (by decide) taken.toList (by decide)
  rw [h] at hmem
  exact absurd hmem (by decide)

/-- Where all alternatives begin with the nonterminal, the new one takes the place of an alternative `ε`. -/
theorem removeImmediate_of_groundless (g : Grammar) (taken : NameSet) {A : Symbol}
    {alternatives : List Alternative} (hA : A ≠ epsilon) (htails : recursiveTails A alternatives ≠ [])
    (hothers : otherAlternatives A alternatives = []) :
    g.removeImmediate taken A alternatives =
      (g.splitOff A (freshName A "'" taken.toList "") (alternatives ++ [[epsilon]]),
        taken.insert (freshName A "'" taken.toList "")) := by
  have hpε := prime_ne_epsilon A taken
  have hadded : otherAlternatives A (alternatives ++ [[epsilon]]) = [[epsilon]] := by
    rw [otherAlternatives, List.filter_append, ← otherAlternatives, hothers]
    simp [hA.symm]
  have hsame : recursiveTails A (alternatives ++ [[epsilon]]) = recursiveTails A alternatives := by
    simp [recursiveTails]
  have hprime : Alternative.concat [epsilon] [freshName A "'" taken.toList ""] =
      [freshName A "'" taken.toList ""] :=
    Alternative.concat_epsilon (by simpa using hpε.symm) (by simp)
  simp [removeImmediate, splitOff, htails, hothers, hadded, hsame, hprime]

/-- Where some alternative begins with the nonterminal and goes on, what follows is split off, either as it is or
as if there were an alternative `ε` besides. -/
theorem exists_removeImmediate_of_tails (g : Grammar) (taken : NameSet) {A : Symbol}
    {alternatives : List Alternative} (hA : A ≠ epsilon) (h : recursiveTails A alternatives ≠ []) : ∃ all,
      g.removeImmediate taken A alternatives =
        (g.splitOff A (freshName A "'" taken.toList "") all,
          taken.insert (freshName A "'" taken.toList "")) ∧
      otherAlternatives A all ≠ [] ∧ alternatives ⊆ all ∧ ∀ α ∈ all, α ∈ alternatives ∨ α = [epsilon] := by
  by_cases hothers : otherAlternatives A alternatives = []
  · refine ⟨_, removeImmediate_of_groundless g taken hA h hothers, ?_, List.subset_append_left _ _, by simp⟩
    exact List.ne_nil_of_mem (mem_otherAlternatives_iff.mpr
      ⟨List.mem_append_right _ List.mem_cons_self, by simpa using hA.symm⟩)
  · exact ⟨_, removeImmediate_of_tails g taken h hothers, hothers, fun _ => id, fun _ => Or.inl⟩

/-! ## Names in use -/

theorem forall_alternatives_insert {g : Grammar} {A : Symbol} {P : Symbol → Alternative → Prop}
    {alternatives : List Alternative} :
    (∀ C, ∀ α ∈ Grammar.alternatives (g.insert A alternatives) C, P C α) ↔
      (∀ α ∈ alternatives, P A α) ∧ ∀ C ≠ A, ∀ α ∈ g.alternatives C, P C α := by
  constructor
  · intro h
    refine ⟨fun α hα => h A α ?_, fun C hC α hα => h C α ?_⟩
    · rwa [alternatives_insert, if_pos rfl]
    · rwa [alternatives_insert, if_neg hC]
  · rintro ⟨hA, hC⟩ C α hα
    rw [alternatives_insert] at hα
    split at hα
    · next h => exact h ▸ hA α hα
    · next h => exact hC C h α hα

/-- The alternative is canonical, and its symbols are among the names in use. -/
def Known (taken : NameSet) (α : Alternative) : Prop :=
  α.IsCanonical ∧ ∀ s ∈ α, s = epsilon ∨ s ∈ taken

/-- The names in use are taken, and the alternatives are canonical. -/
structure Listed (g : Grammar) (taken : NameSet) : Prop where
  known : ∀ A, ∀ α ∈ g.alternatives A, Known taken α
  named : ∀ A ∈ g.nonterminals, A ∈ taken

theorem Known.mono {s t : NameSet} (hst : ∀ x ∈ s, x ∈ t) {α : Alternative} (h : Known s α) :
    Known t α :=
  ⟨h.1, fun x hx => (h.2 x hx).imp_right (hst x)⟩

theorem known_epsilon (taken : NameSet) : Known taken [epsilon] :=
  ⟨Or.inl rfl, fun _ hs => Or.inl (List.mem_singleton.mp hs)⟩

theorem known_concat {taken : NameSet} {α β : Alternative}
    (hα : ∀ s ∈ α, s = epsilon ∨ s ∈ taken) (hβ : ∀ s ∈ β, s = epsilon ∨ s ∈ taken) :
    Known taken (α.concat β) := by
  refine ⟨Alternative.isCanonical_concat α β, fun s hs => ?_⟩
  rcases Alternative.mem_concat hs with h | h | h
  · exact Or.inl h
  · exact hα s h
  · exact hβ s h

theorem listed_symbols {g : Grammar} (hc : ∀ A, ∀ α ∈ g.alternatives A, α.IsCanonical) : Listed g g.symbols where
  known A α hα := ⟨hc A α hα, fun _ hs => Or.inr (mem_symbols_of_mem_alternatives hα hs)⟩
  named _ hA := mem_symbols_of_mem_nonterminals hA

namespace Listed

variable {g : Grammar} {taken : NameSet} {A prime : Symbol} {alternatives : List Alternative}

theorem not_mem_symbols (hl : Listed g taken) (hp : prime ∉ taken) (hpε : prime ≠ epsilon) :
    prime ∉ g.symbols := by
  intro h
  rcases mem_symbols_iff.mp h with h | h
  · exact hp (hl.named prime h)
  · obtain ⟨C, α, hα, h⟩ := mem_occurrences_iff.mp h
    exact ((hl.known C α hα).2 prime h).elim hpε hp

theorem insert (hl : Listed g taken) (hA : A ∈ g.nonterminals)
    (hknown : ∀ α ∈ alternatives, Known taken α) : Listed (g.insert A alternatives) taken :=
  ⟨forall_alternatives_insert.mpr ⟨hknown, fun C _ => hl.known C⟩,
    nonterminals_insert_of_mem hA alternatives ▸ hl.named⟩

theorem splitOff (hl : Listed g taken) (hA : A ∈ g.nonterminals)
    (hknown : ∀ α ∈ alternatives, Known taken α) :
    Listed (g.splitOff A prime alternatives) (taken.insert prime) := by
  have hgrow : ∀ x ∈ taken, x ∈ taken.insert prime := fun x hx => by simp [hx]
  have hconcat : ∀ {α : Alternative}, (∀ s ∈ α, s = epsilon ∨ s ∈ taken) →
      Known (taken.insert prime) (α.concat [prime]) := fun h =>
    known_concat (fun s hs => (h s hs).imp_right (hgrow s)) fun s hs => by
      simp [List.mem_singleton.mp hs]
  refine ⟨fun C α hα => ?_, fun B hB => ?_⟩
  · rw [alternatives_splitOff] at hα
    split at hα
    · rcases List.mem_append.mp hα with hα | hα
      · obtain ⟨β, hβ, rfl⟩ := List.mem_map.mp hα
        exact hconcat fun s hs =>
          (hknown _ (mem_recursiveTails_iff.mp hβ).2).2 s (List.mem_cons_of_mem _ hs)
      · exact List.mem_singleton.mp hα ▸ known_epsilon _
    · split at hα
      · obtain ⟨γ, hγ, rfl⟩ := List.mem_map.mp hα
        exact hconcat (hknown γ (mem_otherAlternatives_iff.mp hγ).1).2
      · exact (hl.known C α hα).mono hgrow
  · rcases mem_nonterminals_splitOff.mp hB with rfl | rfl | hB
    · simp
    · exact hgrow B (hl.named B hA)
    · exact hgrow B (hl.named B hB)

end Listed

/-! ## Runs -/

theorem substituteAll_cons_eq_ok_iff {g : Grammar} {B : Symbol} {earlier : List Symbol}
    {alternatives result : List Alternative} :
    g.substituteAll (B :: earlier) alternatives = .ok result ↔
      [] ∉ alternatives ∧
        g.substituteAll earlier (substitute B (g.alternatives B) alternatives) = .ok result := by
  rw [substituteAll]
  by_cases h : [] ∈ alternatives
  · rw [checkNonempty_eq_error h]
    exact ⟨fun he => (nomatch he), fun ⟨hne, _⟩ => absurd h hne⟩
  · rw [checkNonempty_eq_ok h]
    exact ⟨fun he => ⟨h, he⟩, And.right⟩

theorem settle_succ (g : Grammar) (earlier : List Symbol) (n : Nat)
    {alternatives next : List Alternative} (h : g.substituteAll earlier alternatives = .ok next) :
    g.settle earlier (n + 1) alternatives =
      if next = alternatives then .ok alternatives else g.settle earlier n next := by
  rw [settle, h]; rfl

theorem settle_succ_eq_ok_iff {g : Grammar} {earlier : List Symbol} {n : Nat}
    {alternatives result : List Alternative} :
    g.settle earlier (n + 1) alternatives = .ok result ↔
      ∃ next, g.substituteAll earlier alternatives = .ok next ∧
        (next = alternatives ∧ result = alternatives ∨
          next ≠ alternatives ∧ g.settle earlier n next = .ok result) := by
  cases hs : g.substituteAll earlier alternatives with
  | error e =>
    rw [settle, hs]
    exact ⟨fun h => (nomatch h), fun ⟨_, h, _⟩ => nomatch h⟩
  | ok next =>
    rw [settle_succ g earlier n hs]
    by_cases hn : next = alternatives
    · simp [hn, eq_comm]
    · simp [hn]

theorem eliminateFrom_done {g : Grammar} {i : Nat} (h : g.nonterminals[i]? = none) (rounds n : Nat)
    (taken : NameSet) : eliminateFrom rounds (n + 1) i g taken = .ok g := by
  rw [eliminateFrom, h]

theorem eliminateFrom_some {g : Grammar} {i rounds : Nat} {A : Symbol} {r : Grammar}
    (hA : g.nonterminals[i]? = some A) (n : Nat) (taken : NameSet) :
    eliminateFrom rounds (n + 1) i g taken = .ok r ↔
      ∃ alternatives, g.settle (g.nonterminals.take i) rounds (g.alternatives A) = .ok alternatives ∧
        [] ∉ alternatives ∧
        eliminateFrom rounds n (i + 1) (g.removeImmediate taken A alternatives).1
          (g.removeImmediate taken A alternatives).2 = .ok r := by
  rw [eliminateFrom, hA]
  change (g.settle (g.nonterminals.take i) rounds (g.alternatives A) >>= _) = _ ↔ _
  cases hs : g.settle (g.nonterminals.take i) rounds (g.alternatives A) with
  | error e => exact ⟨fun h => (nomatch h), fun ⟨_, h, _⟩ => nomatch h⟩
  | ok alternatives =>
    change (checkNonempty alternatives >>= _) = _ ↔ _
    by_cases hne : [] ∈ alternatives
    · rw [checkNonempty_eq_error hne]
      exact ⟨fun h => (nomatch h), fun ⟨_, h, hn, _⟩ => absurd (Except.ok.inj h ▸ hne) hn⟩
    · rw [checkNonempty_eq_ok hne]
      refine ⟨fun h => ⟨alternatives, rfl, hne, h⟩, fun ⟨as, has, _, h⟩ => ?_⟩
      cases has
      exact h

/-- What each substitution keeps, a sweep of substitutions keeps. -/
theorem substituteAll_induction {g : Grammar} {P : List Alternative → Prop} {earlier : List Symbol}
    (hstep : ∀ B ∈ earlier, ∀ alternatives, [] ∉ alternatives → P alternatives →
      P (substitute B (g.alternatives B) alternatives))
    {alternatives result : List Alternative}
    (h : g.substituteAll earlier alternatives = .ok result) (h0 : P alternatives) : P result := by
  induction earlier generalizing alternatives with
  | nil => cases h; exact h0
  | cons B earlier ih =>
    obtain ⟨hne, h⟩ := substituteAll_cons_eq_ok_iff.mp h
    exact ih (fun C hC => hstep C (by simp [hC])) h (hstep B (by simp) alternatives hne h0)

/-- What each substitution keeps, settling keeps. -/
theorem settle_induction {g : Grammar} {P : List Alternative → Prop} {earlier : List Symbol}
    (hstep : ∀ B ∈ earlier, ∀ alternatives, [] ∉ alternatives → P alternatives →
      P (substitute B (g.alternatives B) alternatives))
    {n : Nat} {alternatives result : List Alternative}
    (h : g.settle earlier n alternatives = .ok result) (h0 : P alternatives) : P result := by
  induction n generalizing alternatives with
  | zero => cases h
  | succ n ih =>
    obtain ⟨next, hs, ⟨-, rfl⟩ | ⟨-, h⟩⟩ := settle_succ_eq_ok_iff.mp h
    · exact h0
    · exact ih h (substituteAll_induction hstep hs h0)

/-- What the treatment of each nonterminal keeps, the whole run keeps. -/
theorem eliminateFrom_induction {rounds : Nat} {P : Grammar → NameSet → Prop}
    (hstep : ∀ (i : Nat) (g : Grammar) (taken : NameSet) (A : Symbol)
      (alternatives : List Alternative), P g taken → g.nonterminals[i]? = some A →
      g.settle (g.nonterminals.take i) rounds (g.alternatives A) = .ok alternatives →
      [] ∉ alternatives →
      P (g.removeImmediate taken A alternatives).1 (g.removeImmediate taken A alternatives).2)
    {n i : Nat} {g r : Grammar} {taken : NameSet}
    (h : eliminateFrom rounds n i g taken = .ok r) (h0 : P g taken) : ∃ taken', P r taken' := by
  induction n generalizing i g taken with
  | zero => cases h
  | succ n ih =>
    cases hA : g.nonterminals[i]? with
    | none =>
      rw [eliminateFrom_done hA] at h
      cases h; exact ⟨taken, h0⟩
    | some A =>
      obtain ⟨alternatives, hs, hne, h⟩ := (eliminateFrom_some hA n taken).mp h
      exact ih h (hstep i g taken A alternatives h0 hA hs hne)

/-- Settled alternatives are written with names in use. -/
theorem Listed.known_of_settle {g : Grammar} {taken : NameSet} {A : Symbol} {earlier : List Symbol} {n : Nat}
    {alternatives : List Alternative} (hl : Listed g taken)
    (h : g.settle earlier n (g.alternatives A) = .ok alternatives) : ∀ α ∈ alternatives, Known taken α := by
  refine settle_induction (P := fun as => ∀ α ∈ as, Known taken α) (fun B _ as _ has β hβ => ?_) h
    (hl.known A)
  rcases mem_substitute_iff.mp hβ with ⟨hβ, -⟩ | ⟨γ, δ, hγ, hδ, rfl⟩
  · exact has β hβ
  · exact known_concat (hl.known B δ hδ).2 fun s hs => (has _ hγ).2 s (List.mem_cons_of_mem _ hs)

/-! ## More rounds -/

theorem settle_mono {g : Grammar} {earlier : List Symbol} {n m : Nat}
    {alternatives result : List Alternative} (h : g.settle earlier n alternatives = .ok result)
    (hle : n ≤ m) : g.settle earlier m alternatives = .ok result := by
  induction n generalizing m alternatives with
  | zero => cases h
  | succ n ih =>
    obtain ⟨m, rfl⟩ : ∃ k, m = k + 1 := ⟨m - 1, by omega⟩
    obtain ⟨next, hs, hnext⟩ := settle_succ_eq_ok_iff.mp h
    exact settle_succ_eq_ok_iff.mpr
      ⟨next, hs, hnext.imp_right fun ⟨hne, h⟩ => ⟨hne, ih h (by omega)⟩⟩

/-- A result that is found with some bounds is found with greater ones. -/
theorem eliminateFrom_mono {rounds rounds' n m i : Nat} {g r : Grammar} {taken : NameSet}
    (h : eliminateFrom rounds n i g taken = .ok r) (hr : rounds ≤ rounds') (hle : n ≤ m) :
    eliminateFrom rounds' m i g taken = .ok r := by
  induction n generalizing m i g taken with
  | zero => cases h
  | succ n ih =>
    obtain ⟨m, rfl⟩ : ∃ k, m = k + 1 := ⟨m - 1, by omega⟩
    cases hA : g.nonterminals[i]? with
    | none =>
      rw [eliminateFrom_done hA] at h ⊢
      exact h
    | some A =>
      obtain ⟨alternatives, hs, hne, h⟩ := (eliminateFrom_some hA n taken).mp h
      exact (eliminateFrom_some hA m taken).mpr
        ⟨alternatives, settle_mono hs hr, hne, ih h (by omega)⟩

section
variable {S : Grammar → NameSet → Nat → Prop} (measure : Grammar → Nat → Nat)
  (hstep : ∀ {g : Grammar} {taken : NameSet} {i : Nat} {A : Symbol}, S g taken i →
    g.nonterminals[i]? = some A →
    ∃ n alternatives, g.settle (g.nonterminals.take i) n (g.alternatives A) = .ok alternatives ∧
      [] ∉ alternatives ∧
      S (g.removeImmediate taken A alternatives).1 (g.removeImmediate taken A alternatives).2 (i + 1) ∧
      measure (g.removeImmediate taken A alternatives).1 (i + 1) < measure g i)
include hstep

/-- Where every turn settles, keeps what holds of the run and brings a measure down, the run ends. -/
theorem exists_eliminateFrom_of_measure {g : Grammar} {taken : NameSet} {i : Nat} (h : S g taken i) :
    ∃ rounds n r taken', eliminateFrom rounds n i g taken = .ok r ∧
      ∃ j, r.nonterminals[j]? = none ∧ S r taken' j := by
  induction hm : measure g i using Nat.strong_induction_on generalizing g taken i with
  | _ m ih =>
    cases hA : g.nonterminals[i]? with
    | none => exact ⟨0, 1, g, taken, eliminateFrom_done hA 0 0 taken, i, hA, h⟩
    | some A =>
      obtain ⟨m, alternatives, hs, hne, hnext, hlt⟩ := hstep h hA
      obtain ⟨rounds, n, r, taken', hr, hdone⟩ := ih _ (hm ▸ hlt) hnext rfl
      -- each nonterminal settles within a number of rounds of its own; the greatest will do for all
      refine ⟨max m rounds, n + 1, r, taken', (eliminateFrom_some hA n taken).mpr
        ⟨alternatives, settle_mono hs (Nat.le_max_left _ _), hne, ?_⟩, hdone⟩
      exact eliminateFrom_mono hr (Nat.le_max_right _ _) (Nat.le_refl n)

/-- So does the whole elimination, with any bound that is great enough. -/
theorem exists_eliminateLeftRecursion_of_measure {g : Grammar} (h : S g g.symbols 0) :
    ∃ r, (∃ n, ∀ rounds ≥ n, g.eliminateLeftRecursion rounds = .ok r) ∧
      ∃ taken j, r.nonterminals[j]? = none ∧ S r taken j := by
  obtain ⟨rounds, n, r, taken, hr, j, hj, hdone⟩ := exists_eliminateFrom_of_measure measure hstep h
  refine ⟨r, ⟨max rounds n, fun bound hb => ?_⟩, taken, j, hj, hdone⟩
  exact eliminateFrom_mono hr ((Nat.le_max_left _ _).trans hb) ((Nat.le_max_right _ _).trans hb)

end

/-- Where there is always one more nonterminal to treat, a run has no result. -/
theorem eliminateFrom_ne_ok {S : Grammar → NameSet → Nat → Prop} {rounds : Nat}
    (hstep : ∀ {g : Grammar} {taken : NameSet} {i : Nat}, S g taken i → ∃ A, g.nonterminals[i]? = some A ∧
      ∀ alternatives, g.settle (g.nonterminals.take i) rounds (g.alternatives A) = .ok alternatives →
        S (g.removeImmediate taken A alternatives).1 (g.removeImmediate taken A alternatives).2 (i + 1))
    {g : Grammar} {taken : NameSet} {i : Nat} (h : S g taken i) (n : Nat) (r : Grammar) :
    eliminateFrom rounds n i g taken ≠ .ok r := by
  intro hr
  induction n generalizing i g taken with
  | zero => cases hr
  | succ n ih =>
    obtain ⟨A, hA, hnext⟩ := hstep h
    obtain ⟨alternatives, hs, -, hr⟩ := (eliminateFrom_some hA n taken).mp hr
    exact ih (hnext alternatives hs) hr

end Grammar

end FormalLanguages
