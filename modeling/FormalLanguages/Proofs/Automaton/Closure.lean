import FormalLanguages.Proofs.Automaton.Path
import FormalLanguages.Proofs.Grouping
import Mathlib.Logic.Relation
/-!
# Closures as least sets

A closure is found by a search: some state that is pending is taken, and those of its targets that were not
found yet are found and pending from now on. Nothing is said here of which state is taken and in which order
the targets come; no search goes on for ever all the same, and all of them end with the same set, the least
one that holds the given states and out of which no `ε`-move leads. Targets need not be declared.

Results:
* `wellFounded_turn`: no search goes on for ever.
* `isClosure_of_search`: what a search has found at its end is the closure.
* `isClosure_closure`, `IsClosure.unique`: the closure that is computed is the least closed set.
* `closure_idem`, `closure_mono`, `closure_union`, `step_union`: the laws that follow.
* `closure_least`: all of it.
-/
namespace FormalLanguages.Automaton

/-- The least set that holds the members of `S` and out of which no `ε`-move leads. -/
structure IsClosure (m : Automaton) (S C : NameSet) : Prop where
  holds : ∀ s ∈ S, s ∈ C
  closed : m.Closed C
  least : ∀ T, (∀ s ∈ S, s ∈ T) → m.Closed T → ∀ s ∈ C, s ∈ T

/-- A search that is under way: what was found, and what is still to be looked at. -/
structure Search where
  found : NameSet
  pending : List State

/-- A turn of a search: some pending state is taken, and what is new among its targets is found and pending. -/
inductive Turn (m : Automaton) : Search → Search → Prop
  | take {found : NameSet} {pending rest new : List State} {s : State} :
    pending.Perm (s :: rest) → new.Nodup → (∀ t, t ∈ new ↔ t ∈ m.targets s epsilon ∧ t ∉ found) →
    Turn m ⟨found, pending⟩ ⟨found ∪ .ofList new, rest ++ new⟩

variable {m : Automaton} {S T C D : NameSet} {p q : Search} {s t : State} {a : Symbol}

/-! ## Searches come to an end -/

/-- The targets that were not found yet, each of them once. -/
def unfound (m : Automaton) (found : NameSet) : List State :=
  (m.allTargets.filter (· ∉ found)).eraseDups

theorem mem_unfound_iff : t ∈ m.unfound C ↔ t ∈ m.allTargets ∧ t ∉ C := by
  simp [unfound]

/-- What a turn finds was not found before, and is found after it. -/
theorem length_unfound_le {new : List State} (hnodup : new.Nodup)
    (hnew : ∀ t, t ∈ new ↔ t ∈ m.targets s epsilon ∧ t ∉ C) :
    (m.unfound (C ∪ .ofList new)).length + new.length ≤ (m.unfound C).length := by
  have hdisjoint : (m.unfound (C ∪ .ofList new) ++ new).Nodup := by
    refine List.nodup_append.mpr ⟨nodup_eraseDups _, hnodup, ?_⟩
    rintro t ht _ hnew rfl
    exact (mem_unfound_iff.mp ht).2 (NameSet.mem_union.mpr (Or.inr (NameSet.mem_ofList.mpr hnew)))
  have hsub : m.unfound (C ∪ .ofList new) ++ new ⊆ m.unfound C := by
    refine List.append_subset.mpr ⟨fun t ht => ?_, fun t ht => ?_⟩
    · obtain ⟨ht, hnot⟩ := mem_unfound_iff.mp ht
      exact mem_unfound_iff.mpr ⟨ht, fun h => hnot (NameSet.mem_union.mpr (Or.inl h))⟩
    · obtain ⟨ht, hnot⟩ := (hnew t).mp ht
      exact mem_unfound_iff.mpr ⟨mem_allTargets ht, hnot⟩
  simpa using hdisjoint.length_le_of_subset hsub

/-- What is left of a search: the states that are pending and the targets that are not found. -/
def remaining (m : Automaton) (p : Search) : Nat := p.pending.length + (m.unfound p.found).length

theorem Turn.remaining_lt (h : m.Turn p q) : m.remaining q < m.remaining p := by
  obtain ⟨hpending, hnodup, hnew⟩ := h
  have hlen := hpending.length_eq
  have := length_unfound_le hnodup hnew
  simp only [remaining, List.length_append, List.length_cons] at hlen ⊢
  omega

/-- No search goes on for ever, whichever states are taken. -/
theorem wellFounded_turn (m : Automaton) : WellFounded fun q p => m.Turn p q :=
  Subrelation.wf Turn.remaining_lt (measure m.remaining).wf

/-- A search with a pending state can go on. -/
theorem exists_turn (h : p.pending ≠ []) : ∃ q, m.Turn p q := by
  obtain ⟨found, pending⟩ := p
  obtain ⟨s, rest, rfl⟩ := List.exists_cons_of_ne_nil h
  have hnodup : (m.targets s epsilon).toList.Nodup :=
    (m.targets s epsilon).ascending.imp String.ne_of_lt
  exact ⟨_, .take (List.Perm.refl _) (hnodup.filter (· ∉ found)) fun t => by simp [NameSet.mem_def]⟩

/-! ## What searches find -/

/-- What holds all through a search for the closure of `S`. -/
structure SearchesFrom (m : Automaton) (S : NameSet) (p : Search) : Prop where
  holds : ∀ s ∈ S, s ∈ p.found
  pending_found : ∀ s ∈ p.pending, s ∈ p.found
  looked_at : ∀ s ∈ p.found, s ∉ p.pending → ∀ t ∈ m.targets s epsilon, t ∈ p.found
  least : ∀ T, (∀ s ∈ S, s ∈ T) → m.Closed T → ∀ s ∈ p.found, s ∈ T

theorem searchesFrom_start {pending : List State} (h : pending.Perm S.toList) :
    m.SearchesFrom S ⟨S, pending⟩ where
  holds _ hs := hs
  pending_found _ hs := h.mem_iff.mp hs
  looked_at _ hs hnot := absurd (h.mem_iff.mpr hs) hnot
  least _ hS _ := hS

theorem SearchesFrom.turn (hp : m.SearchesFrom S p) (h : m.Turn p q) : m.SearchesFrom S q := by
  obtain @⟨found, pending, rest, new, s, hpending, -, hnew⟩ := h
  have hs : s ∈ found := hp.pending_found s (hpending.mem_iff.mpr List.mem_cons_self)
  exact {
    holds := fun r hr => NameSet.mem_union.mpr (Or.inl (hp.holds r hr))
    pending_found := fun r hr => by
      rcases List.mem_append.mp hr with hr | hr
      · exact NameSet.mem_union.mpr
          (Or.inl (hp.pending_found r (hpending.mem_iff.mpr (List.mem_cons_of_mem s hr))))
      · exact NameSet.mem_union.mpr (Or.inr (NameSet.mem_ofList.mpr hr))
    looked_at := fun r hr hnot t ht => by
      obtain ⟨hrest, hnot⟩ := not_or.mp (List.mem_append.not.mp hnot)
      have hr : r ∈ found :=
        (NameSet.mem_union.mp hr).resolve_right fun h => hnot (NameSet.mem_ofList.mp h)
      refine NameSet.mem_union.mpr (or_iff_not_imp_left.mpr fun htf => NameSet.mem_ofList.mpr ?_)
      by_cases hrs : r = s
      · exact (hnew t).mpr ⟨hrs ▸ ht, htf⟩
      · -- `r` was looked at before, so that its targets were found before
        have hnot : r ∉ pending := fun h =>
          (List.mem_cons.mp (hpending.mem_iff.mp h)).elim hrs hrest
        exact absurd (hp.looked_at r hr hnot t ht) htf
    least := fun T hS hT r hr => by
      rcases NameSet.mem_union.mp hr with hr | hr
      · exact hp.least T hS hT r hr
      · exact hT s (hp.least T hS hT s hs) r ((hnew r).mp (NameSet.mem_ofList.mp hr)).1 }

theorem SearchesFrom.run (hp : m.SearchesFrom S p) (h : Relation.ReflTransGen m.Turn p q) :
    m.SearchesFrom S q := by
  induction h with
  | refl => exact hp
  | tail _ hturn ih => exact ih.turn hturn

/-- What a search has found at its end is the closure of what it started from. -/
theorem isClosure_of_search {pending : List State} (hpending : pending.Perm S.toList)
    (h : Relation.ReflTransGen m.Turn ⟨S, pending⟩ q) (hend : ∀ r, ¬ m.Turn q r) :
    m.IsClosure S q.found := by
  have hq : m.SearchesFrom S q := (searchesFrom_start hpending).run h
  have hnone : q.pending = [] := by
    by_contra hne
    obtain ⟨r, hr⟩ := exists_turn hne
    exact hend r hr
  exact ⟨hq.holds, fun s hs => hq.looked_at s hs (by simp [hnone]), hq.least⟩

/-! ## The closure that is computed -/

/-- There is but one closure. -/
theorem IsClosure.unique (hC : m.IsClosure S C) (hD : m.IsClosure S D) : C = D :=
  NameSet.ext fun s =>
    ⟨hC.least D hD.holds hD.closed s, hD.least C hC.holds hC.closed s⟩

theorem isClosure_closure (m : Automaton) (S : NameSet) : m.IsClosure S (m.closure S.toList) where
  holds _ hs := mem_closure_of_mem hs
  closed := closed_closure _
  least _ hS hT _ hs :=
    have ⟨r, hr, hrs⟩ := mem_closure_iff.mp hs
    hT.mem_of_reaches (hS r hr) hrs

theorem closure_eq_self (hS : m.Closed S) : m.closure S.toList = S :=
  (m.isClosure_closure S).unique ⟨fun _ hs => hs, hS, fun _ hT _ => hT⟩

theorem closure_idem (m : Automaton) (S : NameSet) :
    m.closure (m.closure S.toList).toList = m.closure S.toList :=
  closure_eq_self (closed_closure _)

theorem closure_mono (hST : ∀ s ∈ S, s ∈ T) : ∀ s ∈ m.closure S.toList, s ∈ m.closure T.toList :=
  (m.isClosure_closure S).least _ (fun s hs => mem_closure_of_mem (hST s hs)) (closed_closure _)

theorem Closed.union (hS : m.Closed S) (hT : m.Closed T) : m.Closed (S ∪ T) := fun s hs t ht =>
  NameSet.mem_union.mpr ((NameSet.mem_union.mp hs).imp (fun hs => hS s hs t ht) fun hs => hT s hs t ht)

/-- Closures of two sets make up a closure of their union, as an `ε`-move starts from one state only. -/
theorem IsClosure.union (hC : m.IsClosure S C) (hD : m.IsClosure T D) : m.IsClosure (S ∪ T) (C ∪ D) where
  holds s hs := NameSet.mem_union.mpr ((NameSet.mem_union.mp hs).imp (hC.holds s) (hD.holds s))
  closed := hC.closed.union hD.closed
  least U hU hclosed s hs := by
    rcases NameSet.mem_union.mp hs with hs | hs
    · exact hC.least U (fun r hr => hU r (NameSet.mem_union.mpr (Or.inl hr))) hclosed s hs
    · exact hD.least U (fun r hr => hU r (NameSet.mem_union.mpr (Or.inr hr))) hclosed s hs

theorem closure_union (m : Automaton) (S T : NameSet) :
    m.closure (S ∪ T).toList = m.closure S.toList ∪ m.closure T.toList :=
  (m.isClosure_closure _).unique ((m.isClosure_closure S).union (m.isClosure_closure T))

theorem move_union (m : Automaton) (S T : NameSet) (a : Symbol) :
    m.move (S ∪ T).toList a = m.move S.toList a ∪ m.move T.toList a :=
  NameSet.ext fun t => by
    simp only [mem_move_iff, NameSet.mem_union, ← NameSet.mem_def, or_and_right, exists_or]

theorem step_union (m : Automaton) (S T : NameSet) (a : Symbol) :
    m.step (S ∪ T) a = m.step S a ∪ m.step T a := by
  rw [step, move_union, closure_union]
  rfl

/-- No search for a closure goes on for ever, and each ends with the closure that is computed, the least closed
set. So closures are idempotent, monotone and those of the parts of a union, and a step from a union leads to
what the steps from its parts lead to. -/
theorem closure_least (m : Automaton) (S T : NameSet) (a : Symbol) :
    (WellFounded fun q p => m.Turn p q) ∧
    (∀ pending q, pending.Perm S.toList → Relation.ReflTransGen m.Turn ⟨S, pending⟩ q →
      (∀ r, ¬ m.Turn q r) → q.found = m.closure S.toList) ∧
    m.IsClosure S (m.closure S.toList) ∧
    m.closure (m.closure S.toList).toList = m.closure S.toList ∧
    ((∀ s ∈ S, s ∈ T) → ∀ s ∈ m.closure S.toList, s ∈ m.closure T.toList) ∧
    m.closure (S ∪ T).toList = m.closure S.toList ∪ m.closure T.toList ∧
    m.step (S ∪ T) a = m.step S a ∪ m.step T a :=
  ⟨m.wellFounded_turn,
    fun _ _ hpending h hend => (isClosure_of_search hpending h hend).unique (m.isClosure_closure S),
    m.isClosure_closure S, m.closure_idem S, closure_mono, m.closure_union S T, m.step_union S T a⟩

end FormalLanguages.Automaton
