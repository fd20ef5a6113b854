/-!
# Consequences of rules

A rule says that something holds if some other things hold. The consequences of finitely many rules
are found in rounds; a round adds what the rules give from the rounds before it.

Results:
* `mem_consequences_iff`: the consequences are what has a derivation from the rules.
-/
namespace FormalLanguages

variable {α : Type} [DecidableEq α]

/-- A conclusion and the premises that it needs. -/
abbrev Rule (α : Type) := α × List α

/-- What the rules give at once from what is known, and is not known yet. -/
def newConclusions (rules : List (Rule α)) (known : List α) : List α :=
  ((rules.filter fun r => r.1 ∉ known ∧ ∀ a ∈ r.2, a ∈ known).map Prod.fst).eraseDups

/-- What follows from what is known, in at most a number of rounds. -/
def consequencesAfter (rules : List (Rule α)) : Nat → List α → List α
  | 0, known => known
  | n + 1, known =>
    match newConclusions rules known with
    | [] => known
    | new => consequencesAfter rules n (known ++ new)

/-- All consequences of some rules; every round but the last adds the conclusion of a rule. -/
def consequences (rules : List (Rule α)) : List α := consequencesAfter rules rules.length []

/-- There is a derivation from the rules. -/
inductive Follows (rules : List (Rule α)) : α → Prop
  | rule {r : Rule α} : r ∈ rules → (∀ a ∈ r.2, Follows rules a) → Follows rules r.1

omit [DecidableEq α] in
/-- More rules have more consequences. -/
theorem Follows.mono {rules rules' : List (Rule α)} (hrules : rules ⊆ rules') {x : α}
    (h : Follows rules x) : Follows rules' x := by
  induction h with
  | rule hr _ ih => exact .rule (hrules hr) ih

theorem mem_newConclusions {rules : List (Rule α)} {known : List α} {x : α} :
    x ∈ newConclusions rules known ↔
      x ∉ known ∧ ∃ ps, (x, ps) ∈ rules ∧ ∀ a ∈ ps, a ∈ known := by
  simp only [newConclusions, List.mem_eraseDups, List.mem_map, List.mem_filter, decide_eq_true_eq]
  constructor
  · intro h
    obtain ⟨⟨y, ps⟩, ⟨hr, hx, hp⟩, rfl⟩ := h
    exact ⟨hx, ps, hr, hp⟩
  · intro h
    obtain ⟨hx, ps, hr, hp⟩ := h
    exact ⟨(x, ps), ⟨hr, hx, hp⟩, rfl⟩

/-- A count falls when fewer elements qualify and one that did no longer does. -/
theorem countP_lt_of_imp {β : Type} {p q : β → Bool} {xs : List β} (hpq : ∀ x, p x = true → q x = true)
    {x : β} (hx : x ∈ xs) (hq : q x = true) (hp : p x = false) : xs.countP p < xs.countP q := by
  induction xs with
  | nil => simp at hx
  | cons y xs ih =>
    have hle : xs.countP p ≤ xs.countP q := List.countP_mono_left fun z _ => hpq z
    rcases List.mem_cons.mp hx with rfl | hx
    · simp only [List.countP_cons, hq, hp]; simp; omega
    · have := ih hx
      have hy := hpq y
      simp only [List.countP_cons]
      cases h1 : p y with
      | true => rw [hy h1]; simp; omega
      | false => cases h2 : q y <;> simp <;> omega

theorem mem_consequencesAfter {rules : List (Rule α)} : ∀ (n : Nat) (known : List α),
    (∀ a ∈ known, Follows rules a) → (rules.countP fun r => r.1 ∉ known) ≤ n → ∀ x,
    x ∈ consequencesAfter rules n known ↔ Follows rules x := by
  have closed : ∀ known : List α, (∀ a ∈ known, Follows rules a) → newConclusions rules known = [] →
      ∀ x, x ∈ known ↔ Follows rules x := by
    intro known hk hn x
    refine ⟨hk x, fun h => ?_⟩
    induction h with
    | @rule r hr _ ih =>
      refine Decidable.byContradiction fun hx => ?_
      have : r.1 ∈ newConclusions rules known := mem_newConclusions.mpr ⟨hx, r.2, hr, ih⟩
      simp [hn] at this
  intro n
  induction n with
  | zero =>
    intro known hk hc x
    refine closed known hk (List.eq_nil_iff_forall_not_mem.mpr fun y hy => ?_) x
    obtain ⟨hy, ps, hr, -⟩ := mem_newConclusions.mp hy
    have := List.countP_eq_zero.mp (Nat.le_zero.mp hc) (y, ps) hr
    simp [hy] at this
  | succ n ih =>
    intro known hk hc x
    unfold consequencesAfter
    split
    · next hn => exact closed known hk hn x
    · next hne =>
      refine ih _ (fun a ha => ?_) ?_ x
      · rcases List.mem_append.mp ha with ha | ha
        · exact hk a ha
        · obtain ⟨-, ps, hr, hp⟩ := mem_newConclusions.mp ha
          exact Follows.rule hr fun b hb => hk b (hp b hb)
      · obtain ⟨y, hy⟩ := List.exists_mem_of_ne_nil _ hne
        obtain ⟨hyk, ps, hr, -⟩ := mem_newConclusions.mp hy
        have := countP_lt_of_imp (p := fun r : Rule α => r.1 ∉ known ++ newConclusions rules known)
          (q := fun r : Rule α => r.1 ∉ known) (fun r h => by simp at h ⊢; exact h.1) hr (by simpa using hyk)
          (by simp [hy])
        omega

theorem mem_consequences_iff {rules : List (Rule α)} {x : α} :
    x ∈ consequences rules ↔ Follows rules x :=
  mem_consequencesAfter rules.length [] (by simp) List.countP_le_length x

end FormalLanguages
