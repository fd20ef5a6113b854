import FormalLanguages.Automaton.Minimal
import FormalLanguages.Automaton.Subset
/-!
# Paths and runs

A path of an automaton spells a word; `ε`-moves may stand anywhere on it and spell nothing. A run
follows the only target of each step. A search for the end of a path keeps the set of all states that
the part of the word so far leads to.

Results:
* `mem_closure_iff`, `mem_step_iff`: the members of the sets that the search goes through.
* `path_cons_iff`: a path is cut after its first symbol.
* `mem_stepAll_iff`: the search finds exactly the ends of the paths.
-/
namespace FormalLanguages.Automaton

/-- A path from a state to another, with the word that it spells. -/
inductive Path (m : Automaton) : State → List Symbol → State → Prop
  | refl {s : State} : Path m s [] s
  | silent {s t u : State} {w : List Symbol} :
    t ∈ m.targets s epsilon → Path m t w u → Path m s w u
  | read {s t u : State} {a : Symbol} {w : List Symbol} :
    a ≠ epsilon → t ∈ m.targets s a → Path m t w u → Path m s (a :: w) u

/-- Some path from the start spells the word and ends in an accepting state. -/
def Accepts (m : Automaton) (w : List Symbol) : Prop := ∃ t ∈ m.accept, m.Path m.start w t

/-- The state to which the targets lead, if there is one at each step. -/
def run? (m : Automaton) (s : State) : List Symbol → Option State
  | [] => some s
  | a :: w => (m.target? s a).bind fun t => m.run? t w

/-- The run from the start ends in an accepting state. -/
def RunAccepts (m : Automaton) (w : List Symbol) : Prop := ∃ t ∈ m.accept, m.run? m.start w = some t

/-- One `ε`-move. -/
def silentTargets (m : Automaton) (s : State) : List State := (m.targets s epsilon).toList

/-- `ε`-moves do not lead out of the set. -/
def Closed (m : Automaton) (T : NameSet) : Prop := ∀ s ∈ T, ∀ t ∈ m.targets s epsilon, t ∈ T

/-- The states that a word leads to from a set. -/
def stepAll (m : Automaton) (T : NameSet) (w : List Symbol) : NameSet := w.foldl m.step T

theorem stepAll_cons (m : Automaton) (T : NameSet) (a : Symbol) (w : List Symbol) :
    m.stepAll T (a :: w) = m.stepAll (m.step T a) w := rfl

variable {m : Automaton} {s t u : State} {a : Symbol} {v w : List Symbol} {T : NameSet}

/-! ## The sets of the search -/

theorem mem_targets_iff : t ∈ m.targets s a ↔ ∃ U, m.transitions.get? (s, a) = some U ∧ t ∈ U := by
  unfold targets OrderedMap.getD
  cases m.transitions.get? (s, a) <;> simp

theorem mem_allTargets (h : t ∈ m.targets s a) : t ∈ m.allTargets := by
  obtain ⟨U, hU, ht⟩ := mem_targets_iff.mp h
  exact List.mem_flatMap.mpr ⟨((s, a), U), OrderedMap.mem_entries_iff.mpr hU, ht⟩

/-- The search for a closure comes to an end. -/
theorem explores_closure (m : Automaton) (S : List State) : ∃ found, m.closure S = .ofList found ∧
    Explores id m.silentTargets (newcomers id [] S) (newcomers id [] S) found :=
  ⟨_, rfl, explores_reachable (S ++ m.allTargets)
    (fun _ _ _ h => List.mem_append_right _ (mem_allTargets (a := epsilon) h))
    (List.subset_append_left _ _) (by simp)⟩

theorem mem_closure_iff {S : List State} :
    t ∈ m.closure S ↔ ∃ s ∈ S, Reaches m.silentTargets s t := by
  obtain ⟨found, hfound, h⟩ := m.explores_closure S
  rw [hfound, NameSet.mem_ofList, h.mem_iff (S ++ m.allTargets) (fun _ _ _ _ e => e)
    (fun _ _ _ h => List.mem_append_right _ (mem_allTargets (a := epsilon) h))
    fun _ hs => List.mem_append_left _ (mem_newcomers.mp hs)]
  simp only [mem_newcomers]

theorem closed_closure (S : List State) : m.Closed (m.closure S) := fun _ hs _ ht =>
  have ⟨r, hr, hrs⟩ := mem_closure_iff.mp hs
  mem_closure_iff.mpr ⟨r, hr, hrs.step ht⟩

theorem mem_closure_of_mem {S : List State} (h : s ∈ S) : s ∈ m.closure S :=
  mem_closure_iff.mpr ⟨s, h, .refl⟩

/-- A closed set holds whatever is reached from it by `ε`-moves. -/
theorem Closed.mem_of_reaches (hT : m.Closed T) (hs : s ∈ T) (h : Reaches m.silentTargets s t) :
    t ∈ T := by
  induction h with
  | refl => exact hs
  | step _ ht ih => exact hT _ ih _ ht

theorem mem_move_iff {S : List State} : t ∈ m.move S a ↔ ∃ s ∈ S, t ∈ m.targets s a := by
  rw [move, NameSet.mem_unions]
  constructor
  · intro h
    obtain ⟨U, hU, ht⟩ := h
    obtain ⟨s, hs, rfl⟩ := List.mem_map.mp hU
    exact ⟨s, hs, ht⟩
  · intro h
    obtain ⟨s, hs, ht⟩ := h
    exact ⟨m.targets s a, List.mem_map_of_mem hs, ht⟩

theorem mem_step_iff :
    u ∈ m.step T a ↔ ∃ s ∈ T, ∃ t ∈ m.targets s a, Reaches m.silentTargets t u := by
  rw [step, mem_closure_iff]
  constructor
  · intro h
    obtain ⟨t, ht, hr⟩ := h
    obtain ⟨s, hs, ht⟩ := mem_move_iff.mp ht
    exact ⟨s, hs, t, ht, hr⟩
  · intro h
    obtain ⟨s, hs, t, ht, hr⟩ := h
    exact ⟨t, mem_move_iff.mpr ⟨s, hs, ht⟩, hr⟩

/-- Whatever the search goes through is the start state or a target. -/
theorem mem_allTargets_of_mem_step (h : u ∈ m.step T a) : u ∈ m.allTargets := by
  obtain ⟨s, -, t, ht, hr⟩ := mem_step_iff.mp h
  cases hr with
  | refl => exact mem_allTargets ht
  | step _ hu => exact mem_allTargets (a := epsilon) hu

/-! ## Paths -/

theorem Path.append (h : m.Path s v t) (h' : m.Path t w u) : m.Path s (v ++ w) u := by
  induction h with
  | refl => exact h'
  | silent ht _ ih => exact .silent ht (ih h')
  | read ha ht _ ih => exact .read ha ht (ih h')

theorem path_nil_iff : m.Path s [] t ↔ Reaches m.silentTargets s t := by
  constructor
  · intro h
    generalize hw : [] = w at h
    induction h with
    | refl => exact .refl
    | silent ht _ ih => exact (Reaches.refl.step ht).trans (ih hw)
    | read => cases hw
  · intro h
    induction h with
    | refl => exact .refl
    | step _ ht ih => exact ih.append (.silent ht .refl)

/-- A path is cut after its first symbol. -/
theorem path_cons_iff (ha : a ≠ epsilon) : m.Path s (a :: w) u ↔
    ∃ r, Reaches m.silentTargets s r ∧ ∃ t ∈ m.targets r a, m.Path t w u := by
  constructor
  · intro h
    generalize hv : a :: w = v at h
    induction h with
    | refl => cases hv
    | silent ht _ ih =>
      obtain ⟨r, hr, h⟩ := ih hv
      exact ⟨r, (Reaches.refl.step ht).trans hr, h⟩
    | read _ ht h =>
      cases hv
      exact ⟨_, .refl, _, ht, h⟩
  · intro h
    obtain ⟨r, hr, t, ht, h⟩ := h
    exact (path_nil_iff.mpr hr).append (.read ha ht h)

/-- The search finds exactly the ends of the paths. -/
theorem mem_stepAll_iff (hT : m.Closed T) (hw : epsilon ∉ w) :
    t ∈ m.stepAll T w ↔ ∃ s ∈ T, m.Path s w t := by
  induction w generalizing T with
  | nil =>
    refine ⟨fun h => ⟨t, h, .refl⟩, ?_⟩
    intro h
    obtain ⟨s, hs, h⟩ := h
    exact hT.mem_of_reaches hs (path_nil_iff.mp h)
  | cons a w ih =>
    have ha : a ≠ epsilon := fun h => hw (by simp [h])
    rw [stepAll_cons, ih (T := m.step T a) (closed_closure _) fun h => hw (List.mem_cons_of_mem _ h)]
    constructor
    · intro h
      obtain ⟨r, hr, h⟩ := h
      obtain ⟨s, hs, q, hq, hqr⟩ := mem_step_iff.mp hr
      exact ⟨s, hs, (path_cons_iff ha).mpr ⟨s, .refl, q, hq, (path_nil_iff.mpr hqr).append h⟩⟩
    · intro h
      obtain ⟨s, hs, h⟩ := h
      obtain ⟨r, hr, q, hq, h⟩ := (path_cons_iff ha).mp h
      exact ⟨q, mem_step_iff.mpr ⟨r, hT.mem_of_reaches hs hr, q, hq, .refl⟩, h⟩

theorem Path.of_mem_closure (hr : r ∈ m.closure [s]) (h : m.Path r w t) : m.Path s w t := by
  obtain ⟨q, hq, hqr⟩ := mem_closure_iff.mp hr
  obtain rfl := List.mem_singleton.mp hq
  exact (path_nil_iff.mpr hqr).append h

end FormalLanguages.Automaton
