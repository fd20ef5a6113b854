/-!
# Finite sets of names

A set of names is kept as the ascending list of its members, so that equal sets are equal values and
the order in which a set is shown is part of the set.

Results:
* `ext`: sets with the same members are equal.
* `mem_insert`, `mem_ofList`, `mem_union`, `mem_filter`, `mem_erase`, `mem_diff`: the members of each
  set that is built.
-/
namespace FormalLanguages

/-- A finite set of names, as an ascending list. -/
structure NameSet where
  toList : List String
  ascending : toList.Pairwise (· < ·)
  deriving DecidableEq

namespace NameSet

instance : Membership String NameSet where
  mem s a := a ∈ s.toList

theorem mem_def {a : String} {s : NameSet} : a ∈ s ↔ a ∈ s.toList := Iff.rfl

instance (a : String) (s : NameSet) : Decidable (a ∈ s) := inferInstanceAs (Decidable (a ∈ s.toList))

/-- The set without members. -/
def empty : NameSet := ⟨[], .nil⟩

instance : EmptyCollection NameSet := ⟨empty⟩

instance : Inhabited NameSet := ⟨∅⟩

/-- The set has no member. -/
def isEmpty (s : NameSet) : Bool := s.toList.isEmpty

/-- How many members there are. -/
def size (s : NameSet) : Nat := s.toList.length

/-- The least member. -/
def least? (s : NameSet) : Option String := s.toList.head?

/-- Puts a name into its place in an ascending list. -/
def insertInto (a : String) : List String → List String
  | [] => [a]
  | b :: bs => if a < b then a :: b :: bs else if a = b then b :: bs else b :: insertInto a bs

theorem mem_insertInto {a x : String} {bs : List String} :
    x ∈ insertInto a bs ↔ x = a ∨ x ∈ bs := by
  induction bs with
  | nil => simp [insertInto]
  | cons b bs ih =>
    unfold insertInto
    split
    · simp
    · split
      · next h => subst h; simp
      · simp only [List.mem_cons, ih]; exact or_left_comm

theorem ascending_insertInto {a : String} {bs : List String} (h : bs.Pairwise (· < ·)) :
    (insertInto a bs).Pairwise (· < ·) := by
  induction bs with
  | nil => simp [insertInto]
  | cons b bs ih =>
    have ⟨hb, hbs⟩ := List.pairwise_cons.mp h
    unfold insertInto
    split
    · next hab =>
      refine List.pairwise_cons.mpr ⟨fun x hx => ?_, h⟩
      rcases List.mem_cons.mp hx with rfl | hx
      · exact hab
      · exact String.lt_trans hab (hb x hx)
    · next hab =>
      split
      · exact h
      · next hne =>
        refine List.pairwise_cons.mpr ⟨fun x hx => ?_, ih hbs⟩
        rcases mem_insertInto.mp hx with rfl | hx
        · have hle : b ≤ x := String.not_lt.mp hab
          rcases String.le_total x b with h' | _
          · exact absurd (String.le_antisymm h' hle) hne
          · exact String.not_le.mp fun h' => hne (String.le_antisymm h' hle)
        · exact hb x hx

/-- The set with one more name. -/
def insert (a : String) (s : NameSet) : NameSet :=
  ⟨insertInto a s.toList, ascending_insertInto s.ascending⟩

/-- The set of the names in a list. -/
def ofList (xs : List String) : NameSet := xs.foldr insert ∅

/-- The set of one name. -/
def singleton (a : String) : NameSet := insert a ∅

/-- The names of either set. -/
def union (s t : NameSet) : NameSet := s.toList.foldr insert t

instance : Union NameSet := ⟨union⟩

/-- The members for which `p` holds. -/
def filter (p : String → Bool) (s : NameSet) : NameSet :=
  ⟨s.toList.filter p, s.ascending.filter _⟩

/-- The set without a name. -/
def erase (s : NameSet) (a : String) : NameSet := s.filter (· != a)

/-- The members that are not in the other set. -/
def diff (s t : NameSet) : NameSet := s.filter (· ∉ t)

/-- The union of some sets. -/
def unions (sets : List NameSet) : NameSet := sets.foldr union ∅

/-- Some member is in the other set. -/
def meets (s t : NameSet) : Bool := s.toList.any (· ∈ t)

@[simp] theorem not_mem_empty {a : String} : a ∉ (∅ : NameSet) := List.not_mem_nil

@[simp] theorem mem_insert {a x : String} {s : NameSet} : x ∈ s.insert a ↔ x = a ∨ x ∈ s :=
  mem_insertInto

theorem mem_foldr_insert {x : String} {xs : List String} {s : NameSet} :
    x ∈ xs.foldr insert s ↔ x ∈ xs ∨ x ∈ s := by
  induction xs with
  | nil => simp
  | cons a xs ih => simp [ih, or_assoc]

@[simp] theorem mem_ofList {x : String} {xs : List String} : x ∈ ofList xs ↔ x ∈ xs := by
  simp [ofList, mem_foldr_insert]

@[simp] theorem mem_singleton {a x : String} : x ∈ singleton a ↔ x = a := by
  simp [singleton]

@[simp] theorem mem_union {x : String} {s t : NameSet} : x ∈ s ∪ t ↔ x ∈ s ∨ x ∈ t :=
  mem_foldr_insert

@[simp] theorem mem_filter {x : String} {p : String → Bool} {s : NameSet} :
    x ∈ s.filter p ↔ x ∈ s ∧ p x = true :=
  List.mem_filter

@[simp] theorem mem_erase {a x : String} {s : NameSet} : x ∈ s.erase a ↔ x ∈ s ∧ x ≠ a := by
  simp [erase]

@[simp] theorem mem_diff {x : String} {s t : NameSet} : x ∈ s.diff t ↔ x ∈ s ∧ x ∉ t := by
  simp [diff]

@[simp] theorem mem_unions {x : String} {sets : List NameSet} :
    x ∈ unions sets ↔ ∃ s ∈ sets, x ∈ s := by
  induction sets with
  | nil => simp [unions]
  | cons s sets ih =>
    have : unions (s :: sets) = s ∪ unions sets := rfl
    simp [this, ih]

theorem toList_singleton (a : String) : (singleton a).toList = [a] := rfl

theorem isEmpty_iff {s : NameSet} : s.isEmpty = true ↔ ∀ x, x ∉ s := by
  simp [isEmpty, mem_def, List.eq_nil_iff_forall_not_mem]

theorem not_isEmpty_iff {s : NameSet} : ¬ s.isEmpty = true ↔ ∃ x, x ∈ s := by
  rw [isEmpty_iff, Classical.not_forall_not]

theorem meets_iff {s t : NameSet} : s.meets t = true ↔ ∃ x, x ∈ s ∧ x ∈ t := by
  simp [meets, mem_def]

/-- Ascending lists with the same members are equal. -/
theorem eq_of_ascending {xs ys : List String} (hx : xs.Pairwise (· < ·)) (hy : ys.Pairwise (· < ·))
    (h : ∀ a, a ∈ xs ↔ a ∈ ys) : xs = ys := by
  induction xs generalizing ys with
  | nil => exact (List.eq_nil_iff_forall_not_mem.mpr fun a ha => by simpa using (h a).mpr ha).symm
  | cons x xs ih =>
    cases ys with
    | nil => exact absurd ((h x).mp (by simp)) (by simp)
    | cons y ys =>
      have ⟨hx1, hx2⟩ := List.pairwise_cons.mp hx
      have ⟨hy1, hy2⟩ := List.pairwise_cons.mp hy
      have hxy : x = y := by
        rcases List.mem_cons.mp ((h x).mp (by simp)) with e | hmem
        · exact e
        · rcases List.mem_cons.mp ((h y).mpr (by simp)) with e | hmem'
          · exact e.symm
          · exact absurd (hx1 y hmem') (String.lt_asymm (hy1 x hmem))
      subst hxy
      have hne : ∀ {zs : List String}, (∀ z ∈ zs, x < z) → x ∉ zs :=
        fun hz hmem => String.lt_irrefl x (hz x hmem)
      congr 1
      refine ih hx2 hy2 fun a => ⟨fun ha => ?_, fun ha => ?_⟩
      · rcases List.mem_cons.mp ((h a).mp (List.mem_cons_of_mem _ ha)) with rfl | h'
        · exact absurd ha (hne hx1)
        · exact h'
      · rcases List.mem_cons.mp ((h a).mpr (List.mem_cons_of_mem _ ha)) with rfl | h'
        · exact absurd ha (hne hy1)
        · exact h'

theorem ext {s t : NameSet} (h : ∀ a, a ∈ s ↔ a ∈ t) : s = t := by
  cases s; cases t
  congr
  exact eq_of_ascending ‹_› ‹_› h

end NameSet

end FormalLanguages
