/-!
# Exploring a graph

`explore` visits a graph breadth first and lists its nodes in the order of their discovery. Two nodes
with the same key count as one. `reachable` is the plain case, in which a node is its own key.

Results:
* `explores_explore`: the exploration comes to an end with no node pending, when the nodes that can be
  met are at most as many as the bound says.
* `Explores.mem_iff`: where different nodes have different keys, a node is listed exactly if a path
  leads to it from one that was found before.
* `mem_reachable_iff`: the plain case.
* `Explores.unique`, `Explores.map`: an exploration has one result, and so has that of another graph in which
  the nodes go by the same keys.
-/
namespace FormalLanguages

variable {α κ : Type} [DecidableEq κ]

/-- The nodes whose key is not known yet, each key once. -/
def newcomers (key : α → κ) (known : List κ) : List α → List α
  | [] => []
  | a :: as =>
    if key a ∈ known then newcomers key known as
    else a :: newcomers key (known ++ [key a]) as

/-- Goes on exploring: the pending nodes wait for their neighbours to be listed, and `found` are all
nodes listed so far. The number bounds the nodes still to be visited. -/
def explore (key : α → κ) (next : α → List α) : Nat → (pending found : List α) → List α
  | 0, _, found => found
  | _ + 1, [], found => found
  | n + 1, a :: pending, found =>
    let new := newcomers key (found.map key) (next a)
    explore key next n (pending ++ new) (found ++ new)

/-- The nodes that can be reached from the roots, the roots among them, in the order of discovery;
`bound` is at least the number of nodes. -/
def reachable [DecidableEq α] (next : α → List α) (bound : Nat) (roots : List α) : List α :=
  let found := newcomers id [] roots
  explore id next bound found found

/-- An exploration goes on until no node is pending. -/
inductive Explores (key : α → κ) (next : α → List α) : (pending found result : List α) → Prop
  | done {found : List α} : Explores key next [] found found
  | visit {a : α} {pending found result : List α} :
    Explores key next (pending ++ newcomers key (found.map key) (next a))
      (found ++ newcomers key (found.map key) (next a)) result →
    Explores key next (a :: pending) found result

/-- A path leads from a node to another. -/
inductive Reaches (next : α → List α) (a : α) : α → Prop
  | refl : Reaches next a a
  | step {b c : α} : Reaches next a b → c ∈ next b → Reaches next a c

theorem Reaches.trans {next : α → List α} {a b c : α} (h : Reaches next a b)
    (h' : Reaches next b c) : Reaches next a c := by
  induction h' with
  | refl => exact h
  | step _ hc ih => exact ih.step hc

/-- More neighbours give more paths. -/
theorem Reaches.mono {next next' : α → List α} (hnext : ∀ a, ∀ b ∈ next a, b ∈ next' a) {a b : α}
    (h : Reaches next a b) : Reaches next' a b := by
  induction h with
  | refl => exact .refl
  | step _ hc ih => exact ih.step (hnext _ _ hc)

/-! ## Newcomers -/

variable {key : α → κ} {next : α → List α}

theorem of_mem_newcomers {known : List κ} {as : List α} {x : α} (h : x ∈ newcomers key known as) :
    x ∈ as ∧ key x ∉ known := by
  induction as generalizing known with
  | nil => cases h
  | cons a as ih =>
    unfold newcomers at h
    split at h
    · exact ⟨List.mem_cons_of_mem _ (ih h).1, (ih h).2⟩
    · next hk =>
      rcases List.mem_cons.mp h with rfl | h
      · exact ⟨List.mem_cons_self, hk⟩
      · exact ⟨List.mem_cons_of_mem _ (ih h).1, fun hx => (ih h).2 (List.mem_append_left _ hx)⟩

/-- A key that is not known yet comes with a newcomer. -/
theorem key_mem_newcomers {known : List κ} {as : List α} {a : α} (h : a ∈ as) :
    key a ∈ known ∨ key a ∈ (newcomers key known as).map key := by
  induction as generalizing known with
  | nil => cases h
  | cons b as ih =>
    unfold newcomers
    split
    · next hk =>
      rcases List.mem_cons.mp h with rfl | h
      · exact Or.inl hk
      · exact ih h
    · rw [List.map_cons, List.mem_cons]
      rcases List.mem_cons.mp h with rfl | h
      · exact Or.inr (Or.inl rfl)
      · rcases (ih h : key a ∈ known ++ [key b] ∨ _) with hk | hk
        · exact (List.mem_append.mp hk).imp_right fun hk => Or.inl (List.mem_singleton.mp hk)
        · exact Or.inr (Or.inr hk)

theorem nodup_map_newcomers {known : List κ} {as : List α} :
    ((newcomers key known as).map key).Nodup := by
  induction as generalizing known with
  | nil => simp [newcomers]
  | cons a as ih =>
    unfold newcomers
    split
    · exact ih
    · refine List.nodup_cons.mpr ⟨fun h => ?_, ih⟩
      obtain ⟨x, hx, hxa⟩ := List.mem_map.mp h
      exact (of_mem_newcomers hx).2 (by simp [hxa])

theorem nodup_map_append_newcomers {found as : List α} (h : (found.map key).Nodup) :
    ((found ++ newcomers key (found.map key) as).map key).Nodup := by
  rw [List.map_append]
  refine List.nodup_append.mpr ⟨h, nodup_map_newcomers, ?_⟩
  rintro _ ha b hb rfl
  obtain ⟨x, hx, rfl⟩ := List.mem_map.mp hb
  exact (of_mem_newcomers hx).2 ha

/-! ## Explorations -/

/-- An exploration comes to an end when no more nodes can be met than the bound says. -/
theorem explores_explore (nodes : List α) (hnext : ∀ a ∈ nodes, ∀ b ∈ next a, b ∈ nodes) {n : Nat}
    {pending found : List α} (hnd : (found.map key).Nodup) (hsub : found ⊆ nodes)
    (hpf : pending ⊆ found) (hlen : pending.length + nodes.length ≤ n + found.length) :
    Explores key next pending found (explore key next n pending found) := by
  induction n generalizing pending found with
  | zero =>
    have hle := hnd.length_le_of_subset (List.map_subset key hsub)
    simp only [List.length_map] at hle
    obtain rfl : pending = [] := List.eq_nil_of_length_eq_zero (by omega)
    exact .done
  | succ n ih =>
    cases pending with
    | nil => exact .done
    | cons a pending =>
      refine .visit (ih (nodup_map_append_newcomers hnd) ?_ ?_ ?_)
      · refine List.append_subset.mpr ⟨hsub, fun b hb => ?_⟩
        exact hnext a (hsub (hpf List.mem_cons_self)) b (of_mem_newcomers hb).1
      · refine List.append_subset.mpr ⟨fun b hb => ?_, List.subset_append_right _ _⟩
        exact List.mem_append_left _ (hpf (List.mem_cons_of_mem _ hb))
      · simp only [List.length_append, List.length_cons] at hlen ⊢
        omega

namespace Explores

variable {pending found result : List α}

theorem nodup (h : Explores key next pending found result) (hnd : (found.map key).Nodup) :
    (result.map key).Nodup := by
  induction h with
  | done => exact hnd
  | visit _ ih => exact ih (nodup_map_append_newcomers hnd)

theorem found_subset (h : Explores key next pending found result) : found ⊆ result := by
  induction h with
  | done => exact fun _ hx => hx
  | visit _ ih => exact fun x hx => ih (List.mem_append_left _ hx)

/-- Whatever is listed can be reached. -/
theorem reaches (h : Explores key next pending found result) (hpf : pending ⊆ found) {x : α}
    (hx : x ∈ result) : ∃ a ∈ found, Reaches next a x := by
  induction h with
  | done => exact ⟨x, hx, .refl⟩
  | @visit b pending found result _ ih =>
    have hb : b ∈ found := hpf List.mem_cons_self
    obtain ⟨a, ha, hr⟩ := ih (List.append_subset.mpr
      ⟨fun c hc => List.mem_append_left _ (hpf (List.mem_cons_of_mem _ hc)),
        List.subset_append_right _ _⟩) hx
    rcases List.mem_append.mp ha with ha | ha
    · exact ⟨a, ha, hr⟩
    · exact ⟨b, hb, (Reaches.refl.step (of_mem_newcomers ha).1).trans hr⟩

/-- The neighbours of what is listed are listed, when those of the nodes that are not pending are. -/
theorem closed (h : Explores key next pending found result)
    (hinv : ∀ a ∈ found, a ∉ pending → ∀ b ∈ next a, key b ∈ found.map key) :
    ∀ a ∈ result, ∀ b ∈ next a, key b ∈ result.map key := by
  induction h with
  | done => exact fun a ha => hinv a ha List.not_mem_nil
  | @visit c pending found result _ ih =>
    refine ih fun a ha hap b hb => ?_
    rw [List.map_append, List.mem_append]
    rcases List.mem_append.mp ha with ha | ha
    · by_cases hac : a = c
      · exact key_mem_newcomers (hac ▸ hb)
      · refine Or.inl (hinv a ha (fun h => ?_) b hb)
        exact hap (List.mem_append_left _ ((List.mem_cons.mp h).resolve_left hac))
    · exact absurd (List.mem_append_right _ ha) hap

/-- What an exploration lists where different nodes have different keys. -/
theorem mem_iff (h : Explores key next found found result) (nodes : List α)
    (hkey : ∀ a ∈ nodes, ∀ b ∈ nodes, key a = key b → a = b)
    (hnext : ∀ a ∈ nodes, ∀ b ∈ next a, b ∈ nodes) (hsub : found ⊆ nodes) {x : α} :
    x ∈ result ↔ ∃ a ∈ found, Reaches next a x := by
  have hnodes : ∀ {a y : α}, a ∈ nodes → Reaches next a y → y ∈ nodes := by
    intro a y ha hr
    induction hr with
    | refl => exact ha
    | step _ hc ih => exact hnext _ ih _ hc
  have hresult : ∀ y ∈ result, y ∈ nodes := fun y hy =>
    have ⟨_, ha, hr⟩ := h.reaches (fun _ hx => hx) hy
    hnodes (hsub ha) hr
  refine ⟨h.reaches fun _ hx => hx, ?_⟩
  intro h
  obtain ⟨a, ha, hr⟩ := h
  induction hr with
  | refl => exact h.found_subset ha
  | @step b c hr hc ih =>
    obtain ⟨d, hd, hdc⟩ := List.mem_map.mp (h.closed (fun _ hb hn => absurd hb hn) b ih c hc)
    exact hkey d (hresult d hd) c (hnext b (hresult b ih) c hc) hdc ▸ hd

/-- An exploration has one result. -/
theorem unique {result' : List α} (h : Explores key next pending found result)
    (h' : Explores key next pending found result') : result = result' := by
  induction h with
  | done => cases h'; rfl
  | visit _ ih =>
    cases h' with
    | visit h' => exact ih h'

end Explores

/-! ## Other graphs with the same keys -/

section
variable {β : Type} {f : α → β} {key' : β → κ} {next' : β → List β}

theorem newcomers_map (hkey : ∀ a, key' (f a) = key a) (known : List κ) (as : List α) :
    newcomers key' known (as.map f) = (newcomers key known as).map f := by
  induction as generalizing known with
  | nil => rfl
  | cons a as ih =>
    rw [List.map_cons, newcomers, newcomers, hkey]
    split
    · exact ih known
    · rw [ih, List.map_cons]

/-- If nodes keep their keys and their neighbours in another graph, they are found there in the same order. -/
theorem Explores.map {pending found result : List α} (hkey : ∀ a, key' (f a) = key a)
    (h : Explores key next pending found result) (hpf : pending ⊆ found)
    (hnext : ∀ a ∈ result, next' (f a) = (next a).map f) :
    Explores key' next' (pending.map f) (found.map f) (result.map f) := by
  induction h with
  | done => exact .done
  | @visit a pending found result h ih =>
    have hfound : (found.map f).map key' = found.map key := by
      rw [List.map_map]
      exact List.map_congr_left fun a _ => hkey a
    have ha : a ∈ result := h.found_subset (List.mem_append_left _ (hpf List.mem_cons_self))
    have ih := ih (List.append_subset.mpr
      ⟨fun b hb => List.mem_append_left _ (hpf (List.mem_cons_of_mem _ hb)),
        List.subset_append_right _ _⟩) hnext
    refine .visit ?_
    rwa [hfound, hnext a ha, newcomers_map hkey, ← List.map_append, ← List.map_append]

/-- If the neighbours of the nodes are the same in another graph, so is what they reach. -/
theorem reaches_map_iff (hnext : ∀ a x, x ∈ next' (f a) ↔ ∃ b ∈ next a, f b = x) {a : α} {x : β} :
    Reaches next' (f a) x ↔ ∃ b, Reaches next a b ∧ f b = x := by
  constructor
  · intro h
    induction h with
    | refl => exact ⟨a, .refl, rfl⟩
    | step _ hx ih =>
      obtain ⟨b, hb, rfl⟩ := ih
      obtain ⟨c, hc, rfl⟩ := (hnext b _).mp hx
      exact ⟨c, hb.step hc, rfl⟩
  · rintro ⟨b, h, rfl⟩
    induction h with
    | refl => exact .refl
    | step _ hc ih => exact ih.step ((hnext _ _).mpr ⟨_, hc, rfl⟩)

end

/-! ## Reachable nodes -/

section
variable [DecidableEq α]

theorem mem_newcomers {as : List α} {x : α} : x ∈ newcomers id [] as ↔ x ∈ as := by
  refine ⟨fun h => (of_mem_newcomers h).1, fun h => ?_⟩
  simpa using (key_mem_newcomers h : id x ∈ [] ∨ _)

theorem explores_reachable (nodes : List α) {roots : List α} {bound : Nat}
    (hnext : ∀ a ∈ nodes, ∀ b ∈ next a, b ∈ nodes) (hroots : roots ⊆ nodes)
    (hbound : nodes.length ≤ bound) :
    Explores id next (newcomers id [] roots) (newcomers id [] roots) (reachable next bound roots) :=
  explores_explore nodes hnext nodup_map_newcomers (fun _ hy => hroots (mem_newcomers.mp hy))
    (fun _ h => h) (by omega)

theorem mem_reachable_iff (nodes : List α) {roots : List α} {bound : Nat}
    (hnext : ∀ a ∈ nodes, ∀ b ∈ next a, b ∈ nodes) (hroots : roots ⊆ nodes)
    (hbound : nodes.length ≤ bound) {x : α} :
    x ∈ reachable next bound roots ↔ ∃ a ∈ roots, Reaches next a x := by
  rw [(explores_reachable nodes hnext hroots hbound).mem_iff nodes (fun _ _ _ _ e => e) hnext
    fun _ hy => hroots (mem_newcomers.mp hy)]
  simp only [mem_newcomers]

end

end FormalLanguages
