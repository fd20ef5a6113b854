import Mathlib.Data.List.Nodup
/-!
# Dividing lists

A list is divided by the values of a function on its members, in the order in which the values first
occur.

Results:
* `nodup_eraseDups`, `eraseDups_eq_self`: lists without repetition.
* `nodup_flatten_groups`, `mem_flatten_groups`: each member of the list is in one group.
* `eq_of_length_groups_le_one`: where there is but one group, the function has but one value.
* `exists_place_cons_iff`, `place_of_append`, `place_of_append_singleton`: the places in a list that is put
  together.
* `length_le_one_of_length_flatMap_le`: lists that are put in the place of members, and do not lengthen
  the whole.
-/
namespace FormalLanguages

/-! ## Lists without repetition -/

theorem nodup_eraseDups {α : Type} [BEq α] [LawfulBEq α] : ∀ xs : List α, xs.eraseDups.Nodup
  | [] => by simp
  | x :: xs => by
    rw [List.eraseDups_cons]
    exact List.nodup_cons.mpr ⟨by simp, nodup_eraseDups (xs.filter fun y => !y == x)⟩
  termination_by xs => xs.length
  decreasing_by exact Nat.lt_succ_of_le (List.length_filter_le _ _)

theorem eraseDups_eq_self {α : Type} [BEq α] [LawfulBEq α] {xs : List α} (h : xs.Nodup) :
    xs.eraseDups = xs := by
  induction xs with
  | nil => rfl
  | cons x xs ih =>
    obtain ⟨hx, hxs⟩ := List.nodup_cons.mp h
    have hfilter : (xs.filter fun y => !y == x) = xs :=
      List.filter_eq_self.mpr fun y hy => by simpa using ne_of_mem_of_not_mem hy hx
    rw [List.eraseDups_cons, hfilter, ih hxs]

/-- A member that comes last counts only if it has not come before. -/
theorem eraseDups_append_singleton {α : Type} [BEq α] [LawfulBEq α] [DecidableEq α] (xs : List α) (x : α) :
    (xs ++ [x]).eraseDups = if x ∈ xs then xs.eraseDups else xs.eraseDups ++ [x] := by
  rw [List.eraseDups_append]
  by_cases h : x ∈ xs <;> simp [h, List.removeAll, List.eraseDups_cons]

/-! ## Places in a list -/

/-- A place in a list is its first one or stands in the rest. -/
theorem exists_place_cons_iff {α : Type} {P : List α → α → Prop} {x : α} {xs : List α} :
    (∃ before y after, x :: xs = before ++ y :: after ∧ P before y) ↔
      P [] x ∨ ∃ before y after, xs = before ++ y :: after ∧ P (x :: before) y := by
  constructor
  · rintro ⟨_ | ⟨z, before⟩, y, after, he, h⟩
    · cases he
      exact Or.inl h
    · cases he
      exact Or.inr ⟨before, y, after, rfl, h⟩
  · rintro (h | ⟨before, y, after, rfl, h⟩)
    · exact ⟨[], x, xs, rfl, h⟩
    · exact ⟨x :: before, y, after, rfl, h⟩

/-- A place in two lists one after the other is a place in the first or in the second. -/
theorem place_of_append {α : Type} {xs ys before after : List α} {x : α}
    (h : xs ++ ys = before ++ x :: after) : (∃ rest, xs = before ++ x :: rest ∧ after = rest ++ ys) ∨
      ∃ front, ys = front ++ x :: after ∧ before = xs ++ front := by
  rcases List.append_eq_append_iff.mp h with ⟨front, hbefore, hys⟩ | ⟨rest, hxs, hrest⟩
  · exact Or.inr ⟨front, hys, hbefore⟩
  · cases rest with
    | nil => exact Or.inr ⟨[], hrest.symm, by rw [hxs, List.append_nil, List.append_nil]⟩
    | cons y rest =>
      obtain ⟨rfl, rfl⟩ := List.cons.inj hrest
      exact Or.inl ⟨rest, hxs, rfl⟩

/-- A place in a list with one more member at its end is that of this member, or stands in front of it. -/
theorem place_of_append_singleton {α : Type} {xs before after : List α} {x y : α}
    (h : xs ++ [y] = before ++ x :: after) :
    x = y ∧ before = xs ∧ after = [] ∨ ∃ rest, xs = before ++ x :: rest ∧ after = rest ++ [y] := by
  rcases place_of_append h with hplace | ⟨front, hy, rfl⟩
  · exact Or.inr hplace
  · rcases List.append_eq_singleton_iff.mp hy.symm with ⟨rfl, hx⟩ | ⟨-, hx⟩
    · obtain ⟨rfl, rfl⟩ := List.cons.inj hx
      exact Or.inl ⟨rfl, List.append_nil xs, rfl⟩
    · cases hx

/-! ## Groups -/

/-- The members of a list by the values of a function. -/
def groups {α β : Type} [BEq β] [DecidableEq β] (f : α → β) (xs : List α) : List (List α) :=
  (xs.map f).eraseDups.map fun v => xs.filter fun x => f x = v

variable {α β : Type} [BEq β] [LawfulBEq β] [DecidableEq β] {f : α → β} {xs : List α} {x y : α}

theorem mem_groups_iff {b : List α} :
    b ∈ groups f xs ↔ ∃ x ∈ xs, (xs.filter fun y => f y = f x) = b := by
  simp [groups]

theorem ne_nil_of_mem_groups {b : List α} (h : b ∈ groups f xs) : b ≠ [] := by
  obtain ⟨x, hx, rfl⟩ := mem_groups_iff.mp h
  exact List.ne_nil_of_mem (List.mem_filter.mpr ⟨hx, by simp⟩)

theorem mem_flatten_groups : x ∈ (groups f xs).flatten ↔ x ∈ xs := by
  simp only [List.mem_flatten, mem_groups_iff]
  constructor
  · rintro ⟨_, ⟨y, -, rfl⟩, hx⟩
    exact (List.mem_filter.mp hx).1
  · intro hx
    exact ⟨_, ⟨x, hx, rfl⟩, List.mem_filter.mpr ⟨hx, by simp⟩⟩

/-- Two groups have no member in common, as they differ in the value. -/
theorem nodup_flatten_groups (h : xs.Nodup) : (groups f xs).flatten.Nodup := by
  refine List.nodup_flatten.mpr ⟨fun b hb => ?_, ?_⟩
  · obtain ⟨x, -, rfl⟩ := mem_groups_iff.mp hb
    exact h.filter _
  · refine List.pairwise_map.mpr ((nodup_eraseDups _).imp fun hne x hx hy => hne ?_)
    have hx := (List.mem_filter.mp hx).2
    have hy := (List.mem_filter.mp hy).2
    exact (of_decide_eq_true hx).symm.trans (of_decide_eq_true hy)

theorem length_groups_pos (h : xs ≠ []) : 0 < (groups f xs).length := by
  obtain ⟨x, hx⟩ := List.exists_mem_of_ne_nil xs h
  exact List.length_pos_of_mem (mem_groups_iff.mpr ⟨x, hx, rfl⟩)

/-- Where there is but one group, the function has but one value. -/
theorem eq_of_length_groups_le_one (h : (groups f xs).length ≤ 1) (hx : x ∈ xs) (hy : y ∈ xs) :
    f x = f y := by
  rw [groups, List.length_map] at h
  have hv : ∀ {z}, z ∈ xs → f z ∈ (xs.map f).eraseDups := fun hz =>
    List.mem_eraseDups.mpr (List.mem_map_of_mem hz)
  obtain ⟨v, hone⟩ := List.length_eq_one_iff.mp (Nat.le_antisymm h (List.length_pos_of_mem (hv hx)))
  rw [hone] at hv
  exact (List.mem_singleton.mp (hv hx)).trans (List.mem_singleton.mp (hv hy)).symm

/-! ## Lists put in the place of members -/

section
variable {α β : Type} {f : α → List β} {xs : List α}

theorem length_le_length_flatMap (h : ∀ x ∈ xs, 0 < (f x).length) :
    xs.length ≤ (xs.flatMap f).length := by
  induction xs with
  | nil => simp
  | cons x xs ih =>
    obtain ⟨hx, hxs⟩ := List.forall_mem_cons.mp h
    have := ih hxs
    rw [List.flatMap_cons, List.length_append, List.length_cons]
    omega

/-- Where the lists are not empty and yet the whole is not longer, each list has one member. -/
theorem length_le_one_of_length_flatMap_le (hpos : ∀ x ∈ xs, 0 < (f x).length)
    (h : (xs.flatMap f).length ≤ xs.length) {x : α} (hx : x ∈ xs) : (f x).length ≤ 1 := by
  obtain ⟨before, after, rfl⟩ := List.append_of_mem hx
  have hbefore : before.length ≤ (before.flatMap f).length :=
    length_le_length_flatMap fun y hy => hpos y (by simp [hy])
  have hafter : after.length ≤ (after.flatMap f).length :=
    length_le_length_flatMap fun y hy => hpos y (by simp [hy])
  simp only [List.flatMap_append, List.flatMap_cons, List.length_append, List.length_cons] at h
  omega

end

end FormalLanguages
