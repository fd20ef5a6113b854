import FormalLanguages.Proofs.Grammar.ForwardHeads
import FormalLanguages.Proofs.Grammar.Report
/-!
# Elimination of hidden left recursion

The elimination looks at the first symbols of alternatives only. It finds a recursion behind symbols that vanish
if these come before its nonterminal in the order, for then they are replaced in front of its alternatives until
none is left there. It also needs that no left-recursive nonterminal vanishes, as a new nonterminal would come to
the front of an old one.

A run keeps this up (`Apparent`): fronts of given nonterminals are given ones. A new one can come to the front of
an alternative of its own, where nothing is behind it, or of one that is newer still; when its turn comes all
nonterminals that can be in front of it have been treated, and it is left with terminals in front.

Results:
* `Apparent.unfold`, `Apparent.split`: what the two rewrites keep.
* `Unmasked.turn`: so does a turn, and it lowers what is left to do.
* `eliminateLeftRecursion_hidden_only`: the left recursion that is left is hidden; there is none if no
  left-recursive nonterminal vanishes and recursion is hidden only behind nonterminals that come before.
-/
namespace FormalLanguages

namespace Grammar

open Relation

variable {g h r : Grammar} {A B C D prime : Symbol} {taken : NameSet} {alternatives : List Alternative}
  {originals treated : List Symbol} {i n rounds : Nat}

/-! ## What is in front -/

/-- Where there is a hidden front, an alternative begins with a nonterminal that vanishes. -/
theorem HiddenFront.exists_head (hg : g.Canonical) (hf : g.HiddenFront A B) :
    ∃ C γ, C :: γ ∈ g.alternatives A ∧ C ∈ g.nonterminals ∧ g.Yields [C] [] := by
  obtain ⟨-, before, after, hne, hα, hv⟩ := hf
  obtain ⟨C, before, rfl⟩ := List.exists_cons_of_ne_nil hne
  have hv := hv.forall_mem C List.mem_cons_self
  have hε : C ≠ epsilon := by
    rintro rfl
    rcases hg.cases hα with he | ⟨-, he⟩
    · exact absurd (List.cons.inj he).2 (by simp)
    · exact he (by simp)
  exact ⟨C, _, hα, mem_nonterminals_of_yields_nil hε hv, hv⟩

/-- Where there is a front, an alternative begins with a nonterminal. -/
theorem Front.exists_head (hg : g.Canonical) (hf : g.Front A B) :
    ∃ C γ, C :: γ ∈ g.alternatives A ∧ C ∈ g.nonterminals := by
  rcases hf.hidden_or_head with hhidden | ⟨γ, hγ⟩
  · obtain ⟨C, γ, hγ, hC, -⟩ := hhidden.exists_head hg
    exact ⟨C, γ, hγ, hC⟩
  · exact ⟨B, γ, hγ, hf.1⟩

/-! ## The invariant -/

/-- The left recursion of the given nonterminals can be seen, or it will be when its turn comes. -/
structure Apparent (originals treated : List Symbol) (g : Grammar) : Prop where
  canonical : g.Canonical
  solid : ∀ A ∈ originals, TransGen g.Front A A → ¬ g.Yields [A] []
  hidden : ∀ A ∈ originals, ∀ B, g.HiddenFront A B → ReflTransGen g.Front B A →
    A ∉ treated ∧ ∀ C ∈ originals, g.Yields [C] [] → originals.idxOf C < originals.idxOf A
  closed : ∀ A ∈ originals, ∀ B, g.Front A B → B ∈ originals
  own : ∀ p ∉ originals, ∀ q ∉ originals, q ∈ g.nonterminals → ∀ before after,
    before ++ q :: after ∈ g.alternatives p → g.Yields before [] →
      q = p ∧ after = [] ∨ g.position q < g.position p
  done : ∀ p ∈ treated, p ∉ originals → ∀ B, ¬ g.Front p B

namespace Apparent

/-- A substitution of a nonterminal that has been treated into one that has not. -/
theorem unfold (ha : Apparent originals treated g) (hu : Unfolding g h A B) (hA : A ∉ treated)
    (hB : B ∈ treated) : Apparent originals treated h := by
  have hg := ha.canonical
  have hlead : ∀ {C D}, ReflTransGen h.Front C D → ReflTransGen g.Front C D := fun hlead => by
    induction hlead with
    | refl => exact .refl
    | tail _ hf ih => exact ih.trans (hu.transGen_front hg hf).to_reflTransGen
  refine ⟨hu.canonical hg, fun C hC hcycle hv => ?_, fun C hC D hhidden hback => ?_, fun C hC D hf => ?_,
    fun p hp q hq hqn before after hα hv => ?_, fun p hp hpo D hf => ?_⟩
  · exact ha.solid C hC (TransGen.closed (fun _ _ => hu.transGen_front hg) _ _ hcycle) (hu.yields_iff.mp hv)
  · rcases hu.hiddenFront_cases hg hhidden with hhidden | ⟨rfl, hCB, hBD⟩
    · obtain ⟨hCt, hfirst⟩ := ha.hidden C hC D hhidden (hlead hback)
      exact ⟨hCt, fun X hX hv => hfirst X hX (hu.yields_iff.mp hv)⟩
    · -- `B` would be left recursive behind a front of its own, and it has been treated
      exact absurd hB (ha.hidden B (ha.closed C hC B hCB) D hBD ((hlead hback).tail hCB)).1
  · rcases hu.front_cases hg hf with hf | ⟨rfl, hCB, hBD⟩
    · exact ha.closed C hC D hf
    · exact ha.closed B (ha.closed C hC B hCB) D hBD
  · rw [position_congr hu.nonterminals]
    have hqg : q ∈ g.nonterminals := hu.nonterminals ▸ hqn
    rcases hu.place_cases hg hqn hα with hα | ⟨rfl, γ, after', -, hδ, rfl⟩ | ⟨rfl, δ, before', hγ, hδ, rfl⟩
    · exact ha.own p hp q hq hqg before after hα (hu.yields_iff.mp hv)
    · have hfront : g.Front B q := ⟨hqg, before, after', hδ, hu.yields_iff.mp hv⟩
      by_cases hBo : B ∈ originals
      · exact absurd (ha.closed B hBo q hfront) hq
      · exact absurd hfront (ha.done B hB hBo q)
    · exact ha.own p hp q hq hqg (B :: before') after hγ (hu.yields_behind hδ hv)
  · rcases hu.front_cases hg hf with hf | ⟨rfl, -⟩
    · exact ha.done p hp hpo D hf
    · exact hA hp

/-- Alternatives that add nothing are left out. -/
theorem thin (ha : Apparent originals treated g) (ht : Thinning g h) : Apparent originals treated h := by
  refine ⟨ht.canonical ha.canonical, fun C hC hcycle hv => ?_, fun C hC D hf hback => ?_,
    fun C hC D hf => ha.closed C hC D (ht.front hf), fun p hp q hq hqn before after hα hv => ?_,
    fun p hp hpo D hf => ha.done p hp hpo D (ht.front hf)⟩
  · exact ha.solid C hC (TransGen.mono (fun _ _ => ht.front) _ _ hcycle) (ht.yields_iff.mp hv)
  · obtain ⟨hCt, hfirst⟩ := ha.hidden C hC D (ht.hiddenFront hf) (ReflTransGen.mono (fun _ _ => ht.front) _ _ hback)
    exact ⟨hCt, fun X hX hv => hfirst X hX (ht.yields_iff.mp hv)⟩
  · rw [position_congr ht.nonterminals]
    exact ha.own p hp q hq (ht.nonterminals ▸ hqn) before after (ht.subset p hα) (ht.yields_iff.mp hv)

/-- One more nonterminal has been treated. -/
theorem treat (ha : Apparent originals treated g)
    (horiginal : A ∈ originals → ∀ B, g.HiddenFront A B → ¬ ReflTransGen g.Front B A)
    (hnew : A ∉ originals → ∀ B, ¬ g.Front A B) : Apparent originals (treated ++ [A]) g where
  canonical := ha.canonical
  solid := ha.solid
  hidden C hC D hf hback := by
    obtain ⟨hCt, hfirst⟩ := ha.hidden C hC D hf hback
    have hCA : C ≠ A := by
      rintro rfl
      exact horiginal hC D hf hback
    exact ⟨by simp [hCt, hCA], hfirst⟩
  closed := ha.closed
  own := ha.own
  done p hp hpo D hf := by
    rcases List.mem_append.mp hp with hp | hp
    · exact ha.done p hp hpo D hf
    · obtain rfl := List.mem_singleton.mp hp
      exact hnew hpo D hf

/-- The new nonterminal stands at the end of its own alternatives, in front of nothing; the other places of new
nonterminals are older. -/
theorem own_split (ha : Apparent originals treated g) (hs : Split g h A prime)
    (hn : h.nonterminals = g.nonterminals ++ [prime]) (hA : A ∈ originals) {p q : Symbol}
    (hp : p ∉ originals) (hq : q ∉ originals) (hqn : q ∈ h.nonterminals) {before after : List Symbol}
    (hα : before ++ q :: after ∈ h.alternatives p) (hv : h.Yields before []) :
    q = p ∧ after = [] ∨ h.position q < h.position p := by
  by_cases hpp : p = prime
  · subst hpp
    rcases hs.place_cases ha.canonical hqn hα with ⟨hne, -⟩ | ⟨-, hqp, -⟩ | ⟨hqp, hnil, -⟩
    · exact absurd rfl hne
    · exact Or.inr (position_lt_new hn hs.prime_not_mem (((hs.nonterminals q).mp hqn).resolve_left hqp))
    · exact Or.inl ⟨hqp, hnil⟩
  · have hpA : p ≠ A := fun he => hp (he ▸ hA)
    rw [hs.elsewhere p hpA hpp] at hα
    have hqg : q ∈ g.nonterminals := ((hs.nonterminals q).mp hqn).resolve_left fun he =>
      hs.prime_unused p _ hα (he ▸ by simp)
    rw [position_append hn hqg, position_append hn (mem_nonterminals_of_mem_alternatives hα)]
    exact ha.own p hp q hq hqg before after hα ((hs.yields_iff (hs.prime_not_mem_before hα)).mp hv)

/-- A new nonterminal is split off from a given one. -/
theorem split (ha : Apparent originals treated g) (hs : Split g h A prime) (hh : h.Canonical)
    (hn : h.nonterminals = g.nonterminals ++ [prime]) (hA : A ∈ originals)
    (horiginals : ∀ C ∈ originals, C ∈ g.nonterminals) (htreated : ∀ C ∈ treated, C ∈ g.nonterminals)
    (htails : recursiveTails A (g.alternatives A) ≠ []) : Apparent originals treated h := by
  have hg := ha.canonical
  have hold : ∀ {C}, C ∈ originals → C ≠ prime := fun hC => hs.ne_prime (horiginals _ hC)
  have hy : ∀ {C}, C ∈ originals → (h.Yields [C] [] ↔ g.Yields [C] []) := fun hC =>
    hs.yields_iff (by simpa using (hold hC).symm)
  -- `A` is left recursive, so it does not vanish, and the new nonterminal comes to the front of no given one
  have hsolid : ¬ g.Yields [A] [] := by
    obtain ⟨β, hβ⟩ := List.exists_mem_of_ne_nil _ htails
    exact ha.solid A hA (.single (front_of_head hs.mem (mem_recursiveTails_iff.mp hβ).2))
  have hlead : ∀ {C D}, C ∈ originals → TransGen h.Front C D → TransGen g.Front C D :=
    fun hC hlead => hs.transGen_front_of_solid hg hsolid (hold hC) hlead
  refine ⟨hh, fun C hC hcycle hv => ?_, fun C hC D hf hback => ?_, fun C hC D hf => ?_,
    fun p hp q hq hqn before after hα hv => ha.own_split hs hn hA hp hq hqn hα hv, fun p hp hpo D hf => ?_⟩
  · exact ha.solid C hC (hlead hC hcycle) ((hy hC).mp hv)
  · have hhidden := hs.hiddenFront_of_solid hg hsolid (hold hC) hf
    have hback : ReflTransGen g.Front D C := by
      rcases reflTransGen_iff_eq_or_transGen.mp hback with rfl | hback
      · exact .refl
      · exact (hlead (ha.closed C hC D hhidden.front) hback).to_reflTransGen
    obtain ⟨hCt, hfirst⟩ := ha.hidden C hC D hhidden hback
    exact ⟨hCt, fun X hX hv => hfirst X hX ((hy hX).mp hv)⟩
  · exact ha.closed C hC D (hs.front_of_solid hg hsolid (hold hC) hf)
  · exact ha.done p hp hpo D (hs.front_of_solid hg hsolid (hs.ne_prime (htreated p hp)) hf)

/-- Only a given nonterminal has alternatives that begin with it and go on. -/
theorem mem_originals_of_tail (ha : Apparent originals treated (g.insert A alternatives))
    {β : Alternative} (hβ : β ∈ recursiveTails A alternatives) : A ∈ originals := by
  by_contra hA
  obtain ⟨hne, hβ⟩ := mem_recursiveTails_iff.mp hβ
  have hplace : [] ++ A :: β ∈ Grammar.alternatives (g.insert A alternatives) A := by
    rwa [alternatives_insert, if_pos rfl]
  rcases ha.own A hA A hA (mem_nonterminals_insert.mpr (Or.inl rfl)) [] β hplace .nil with ⟨-, hnil⟩ | hlt
  · exact hne hnil
  · exact Nat.lt_irrefl _ hlt

end Apparent

/-! ## The run -/

/-- Where the run stands. -/
structure Unmasked (originals : List Symbol) (g : Grammar) (taken : NameSet) (i : Nat) : Prop where
  workable : Workable g taken
  order : originals <+: g.nonterminals
  apparent : Apparent originals (g.nonterminals.take i) g
  forward : g.HeadsForward (g.nonterminals.take i)

namespace Unmasked

theorem exists_descendsIn (h : Unmasked originals g taken i) :
    ∃ rank, g.DescendsIn (g.nonterminals.take i) rank := by
  refine h.forward.exists_descendsIn fun C hC D hf hback => ?_
  by_cases hCo : C ∈ originals
  · exact (h.apparent.hidden C hCo D hf (leads_of_frontIn hback)).1 hC
  · exact h.apparent.done C hC hCo D hf.front

theorem settled (h : Unmasked originals g taken i) (hA : g.nonterminals[i]? = some A)
    (hs : g.settle (g.nonterminals.take i) n (g.alternatives A) = .ok alternatives) :
    Apparent originals (g.nonterminals.take i) (g.insert A alternatives) :=
  settle_induction_of_unfoldings h.workable.epsilon_not_mem (List.mem_of_getElem? hA)
    (mem_take_of_getElem? hA) (fun _ hB hu ha => ha.unfold hu (Ordered.not_mem_take hA) hB) hs h.apparent

section
variable (hm : Unmasked originals g taken i) (hA : g.nonterminals[i]? = some A)
  (hs : g.settle (g.nonterminals.take i) n (g.alternatives A) = .ok alternatives)
  (hheads : ∀ α ∈ alternatives, ∀ s ∈ α.head?, s ∉ g.nonterminals.take i)
include hm hA hs hheads

/-- A given nonterminal has no hidden left recursion once it has settled: what vanishes in front of it came
before it, and has been replaced. -/
theorem not_hidden_of_settle (hAo : A ∈ originals) :
    ∀ B, HiddenFront (g.insert A alternatives) A B →
      ¬ ReflTransGen (Front (g.insert A alternatives)) B A := by
  intro B hf hback
  have ha := hm.settled hA hs
  obtain ⟨C, γ, hγ, hC, hv⟩ := hf.exists_head ha.canonical
  have hCo := ha.closed A hAo C (front_of_head hC hγ)
  have hlt := (ha.hidden A hAo B hf hback).2 C hCo hv
  rw [alternatives_insert, if_pos rfl] at hγ
  refine hheads _ hγ C rfl ((mem_take_iff_position (hm.order.mem hCo)).mpr ?_)
  rwa [position_eq_idxOf hm.order hCo, ← position_of_getElem? hA, position_eq_idxOf hm.order hAo]

/-- A new nonterminal has no front once it has been treated. -/
theorem no_front_of_settle (hAo : A ∉ originals)
    (hdrop : Apparent originals (g.nonterminals.take i) (g.insert A (otherAlternatives A alternatives))) :
    ∀ B, ¬ Front (g.insert A (otherAlternatives A alternatives)) A B := by
  intro B hf
  obtain ⟨C, γ, hγ, hC⟩ := hf.exists_head hdrop.canonical
  have hmem := List.mem_of_getElem? hA
  have hplace : [] ++ C :: γ ∈ Grammar.alternatives (g.insert A (otherAlternatives A alternatives)) A := hγ
  rw [alternatives_insert, if_pos rfl] at hγ
  obtain ⟨hγ, hhead⟩ := mem_otherAlternatives_iff.mp hγ
  have hn := nonterminals_insert_of_mem hmem (otherAlternatives A alternatives)
  by_cases hCo : C ∈ originals
  · exact hheads _ hγ C rfl (mem_take_of_mem_originals hm.order hA hAo hCo)
  · rcases hdrop.own A hAo C hCo hC [] γ hplace .nil with ⟨rfl, -⟩ | hlt
    · exact hhead rfl
    · rw [position_congr hn, position_of_getElem? hA] at hlt
      exact hheads _ hγ C rfl ((mem_take_iff_position (hn ▸ hC)).mpr hlt)

theorem apparent_removeImmediate :
    Apparent originals (g.nonterminals.take i ++ [A]) (g.removeImmediate taken A alternatives).1 := by
  have hw := hm.workable
  have hmem := List.mem_of_getElem? hA
  have hothers := hw.otherAlternatives_ne_nil hA hs
  have ha := hm.settled hA hs
  by_cases htails : recursiveTails A alternatives = []
  · rw [removeImmediate_of_no_tails g taken htails hothers]
    by_cases hAo : A ∈ originals
    · exact (ha.treat (fun hAo => hm.not_hidden_of_settle hA hs hheads hAo)
        fun hn => absurd hAo hn).thin (thinning_otherAlternatives hmem htails)
    · have hdrop := ha.thin (thinning_otherAlternatives hmem htails)
      exact hdrop.treat (fun h => absurd h hAo) fun _ => hm.no_front_of_settle hA hs hheads hAo hdrop
  · obtain ⟨β, hβ⟩ := List.exists_mem_of_ne_nil _ htails
    have hAo := ha.mem_originals_of_tail hβ
    obtain ⟨prime, hsplit, hlast⟩ := hw.exists_split hA hs htails
    have hn := nonterminals_insert_of_mem hmem alternatives
    refine (ha.treat (fun hAo => hm.not_hidden_of_settle hA hs hheads hAo)
      fun hn => absurd hAo hn).split hsplit (hw.removeImmediate hA hs).1.tidy.canonical hlast hAo
        (fun C hC => ?_) (fun C hC => ?_) ?_
    · exact hn ▸ hm.order.mem hC
    · rw [hn]
      rcases List.mem_append.mp hC with hC | hC
      · exact List.mem_of_mem_take hC
      · exact List.mem_singleton.mp hC ▸ hmem
    · rwa [alternatives_insert, if_pos rfl]

/-- A turn brings the run one place further. -/
theorem removeImmediate :
    Unmasked originals (g.removeImmediate taken A alternatives).1
        (g.removeImmediate taken A alternatives).2 (i + 1) ∧
      work (.ofList originals) (g.removeImmediate taken A alternatives).1 (i + 1) <
        work (.ofList originals) g i := by
  have hw := hm.workable
  obtain ⟨hgrown, -⟩ := hw.removeImmediate_keeps hA hs
  refine ⟨⟨(hw.removeImmediate hA hs).1, hm.order.trans hgrown, ?_,
    hm.forward.removeImmediate hw hA hs hheads⟩, ?_⟩
  · rw [hw.take_removeImmediate hA hs]
    exact hm.apparent_removeImmediate hA hs hheads
  · refine hw.work_removeImmediate_lt hA hs (fun C hC => hm.order.mem hC) fun htails => ?_
    obtain ⟨β, hβ⟩ := List.exists_mem_of_ne_nil _ htails
    exact (hm.settled hA hs).mem_originals_of_tail hβ

end

/-- A turn settles, and brings the run one place further. -/
theorem turn (h : Unmasked originals g taken i) (hA : g.nonterminals[i]? = some A) :
    ∃ n alternatives, g.settle (g.nonterminals.take i) n (g.alternatives A) = .ok alternatives ∧
      [] ∉ alternatives ∧
      Unmasked originals (g.removeImmediate taken A alternatives).1
        (g.removeImmediate taken A alternatives).2 (i + 1) ∧
      work (.ofList originals) (g.removeImmediate taken A alternatives).1 (i + 1) <
        work (.ofList originals) g i := by
  obtain ⟨rank, hd⟩ := h.exists_descendsIn
  obtain ⟨n, alternatives, hs, hne, hheads⟩ := h.workable.exists_settle hd A
  exact ⟨n, alternatives, hs, hne, h.removeImmediate hA hs hheads⟩

/-- Nothing is left recursive when all have been treated. -/
theorem leftRecursive_eq_nil (h : Unmasked originals g taken i) (hi : g.nonterminals[i]? = none) :
    g.leftRecursive = [] := by
  obtain ⟨rank, hd⟩ := h.exists_descendsIn
  exact hd.leftRecursive_eq_nil h.workable.tidy.canonical hi

end Unmasked

/-! ## The result -/

theorem unmasked_symbols (hg : g.Canonical) (hp : ∀ A ∈ g.nonterminals, ∃ w, w ∈ g.language A)
    (hsolid : ∀ A ∈ g.leftRecursive, [] ∉ g.language A)
    (hhidden : ∀ A B, g.HiddenFront A B → ReflTransGen g.Front B A →
      ∀ C ∈ g.nonterminals, [] ∈ g.language C → g.position C < g.position A) :
    Unmasked g.nonterminals g g.symbols 0 where
  workable := workable_symbols hg hp
  order := List.prefix_refl _
  forward := fun A hA => by simp at hA
  apparent :=
    { canonical := hg
      solid := fun A hA hcycle hv => hsolid A ((mem_leftRecursive_iff_transGen hg).mpr hcycle)
        ((mem_language_nil_iff hg hA).mpr hv)
      hidden := fun A _ B hf hback => ⟨by simp, fun C hC hv =>
        hhidden A B hf hback C hC ((mem_language_nil_iff hg hC).mpr hv)⟩
      closed := fun A _ B hf => hf.1
      own := fun _ _ q hq hqn => absurd hqn hq
      done := fun p hp => by simp at hp }

/-- Where every nonterminal derives some word, the left recursion that the elimination leaves is hidden behind
symbols that vanish. If no left-recursive nonterminal vanishes, and recursion is hidden only in nonterminals that
come after all that vanish, the elimination comes to an end and leaves none. -/
theorem eliminateLeftRecursion_hidden_only (hg : g.Canonical)
    (hp : ∀ A ∈ g.nonterminals, ∃ w, w ∈ g.language A) :
    (∀ rounds r, g.eliminateLeftRecursion rounds = .ok r →
      (r.leftRecursive = [] ↔ ∀ A B, r.HiddenFront A B → ¬ ReflTransGen r.Front B A)) ∧
    ((∀ A ∈ g.leftRecursive, [] ∉ g.language A) →
      (∀ A B, g.HiddenFront A B → ReflTransGen g.Front B A →
        ∀ C ∈ g.nonterminals, [] ∈ g.language C → g.position C < g.position A) →
      ∃ r, (∃ n, ∀ rounds ≥ n, g.eliminateLeftRecursion rounds = .ok r) ∧ r.leftRecursive = []) := by
  refine ⟨fun rounds r hr => leftRecursive_eq_nil_iff_not_hidden hg hp hr, fun hsolid hhidden => ?_⟩
  obtain ⟨r, hr, taken, j, hj, hdone⟩ := exists_eliminateLeftRecursion_of_measure
    (S := Unmasked g.nonterminals) (work (.ofList g.nonterminals)) (fun h hA => h.turn hA)
    (unmasked_symbols hg hp hsolid hhidden)
  exact ⟨r, hr, hdone.leftRecursive_eq_nil hj⟩

/-- A grammar where a nonterminal is left recursive behind one that comes before it. -/
def veiled : Grammar := .ofList [("B", [["ε"], ["b"]]), ("A", [["B", "B", "A", "x"], ["y"]])]

theorem veiled_hidden_only :
    veiled.Canonical ∧ (∀ A ∈ veiled.nonterminals, ∃ w, w ∈ veiled.language A) ∧
    (∀ rounds r, veiled.eliminateLeftRecursion rounds = .ok r →
      (r.leftRecursive = [] ↔ ∀ A B, r.HiddenFront A B → ¬ ReflTransGen r.Front B A)) ∧
    (∀ A ∈ veiled.leftRecursive, [] ∉ veiled.language A) ∧
    (∀ A B, veiled.HiddenFront A B → ReflTransGen veiled.Front B A →
      ∀ C ∈ veiled.nonterminals, [] ∈ veiled.language C → veiled.position C < veiled.position A) ∧
    ∃ r, (∃ n, ∀ rounds ≥ n, veiled.eliminateLeftRecursion rounds = .ok r) ∧ r.leftRecursive = [] := by
  have hg : veiled.Canonical := by decide
  have hproductive : ∀ A ∈ veiled.nonterminals, A ∈ veiled.productive [] := by decide +kernel
  have hp : ∀ A ∈ veiled.nonterminals, ∃ w, w ∈ veiled.language A := fun A hA =>
    exists_mem_language hg (hproductive A hA)
  have hvanish : ∀ C ∈ veiled.nonterminals, [] ∈ veiled.language C → C ∈ veiled.erasable := fun C hC hv =>
    ((mem_language_nil_iff hg hC).mp hv).mem_erasable rfl C List.mem_cons_self (hg.ne_epsilon hC)
  have hsolid : ∀ A ∈ veiled.leftRecursive, [] ∉ veiled.language A := by
    have hnot : ∀ A ∈ veiled.leftRecursive, A ∈ veiled.nonterminals ∧ A ∉ veiled.erasable := by
      decide +kernel
    exact fun A hA hv => (hnot A hA).2 (hvanish A (hnot A hA).1 hv)
  have hhidden : ∀ A B, veiled.HiddenFront A B → ReflTransGen veiled.Front B A →
      ∀ C ∈ veiled.nonterminals, [] ∈ veiled.language C → veiled.position C < veiled.position A := by
    rintro A B ⟨-, before, after, hne, hα, -⟩ - C hC hv
    have hlong : (before ++ B :: after).length ≠ 1 := by
      have := List.length_pos_iff.mpr hne
      simp only [List.length_append, List.length_cons]
      omega
    have hone : ∀ α ∈ veiled.alternatives "B", α.length = 1 := by decide
    have hA : A ≠ "B" := fun he => hlong (hone _ (he ▸ hα))
    have hbefore : ∀ A ∈ veiled.nonterminals, A ≠ "B" → ∀ C ∈ veiled.erasable,
        veiled.position C < veiled.position A := by decide +kernel
    exact hbefore A (mem_nonterminals_of_mem_alternatives hα) hA C (hvanish C hC hv)
  obtain ⟨honly, hgone⟩ := eliminateLeftRecursion_hidden_only hg hp
  exact ⟨hg, hp, honly, hsolid, hhidden, hgone hsolid hhidden⟩

/-- A grammar where a nonterminal is left recursive behind one that comes after it. -/
def masked : Grammar := .ofList [("A", [["B", "A", "a"], ["c"]]), ("B", [["ε"], ["b"]])]

/-- Left recursion that is hidden behind a nonterminal that comes later is not eliminated. -/
theorem masked_left_recursive : ¬ ∀ (g r : Grammar) (rounds : Nat), g.Canonical →
    (∀ A ∈ g.nonterminals, ∃ w, w ∈ g.language A) → g.eliminateLeftRecursion rounds = .ok r →
    r.leftRecursive = [] := by
  intro h
  have hg : masked.Canonical := by decide
  have hproductive : ∀ A ∈ masked.nonterminals, A ∈ masked.productive [] := by decide +kernel
  have hr : masked.eliminateLeftRecursion 3 = .ok masked := by decide +kernel
  have hnil := h masked masked 3 hg (fun A hA => exists_mem_language hg (hproductive A hA)) hr
  exact absurd hnil (by decide +kernel)

end Grammar

end FormalLanguages
