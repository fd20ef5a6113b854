import FormalLanguages.Automaton.Minimal
import FormalLanguages.Automaton.Subset
import FormalLanguages.Proofs.Text.Cutting
import Mathlib.Data.List.Flatten
/-!
# What names are made of

Sets and blocks of states are named by the names of their members with commas between them. What can be
told of the members from the name is what can be told from its parts between the commas.

Results:
* `mem_nameParts_setName_iff`: the members of a set are read off its name.
* `Block.of_name_eq`: blocks with the same name have the same parts of names.
-/
namespace FormalLanguages

/-- The parts of a name between its commas. -/
def nameParts (s : State) : List State := (s.toList.splitOn ',').map String.ofList

theorem nameParts_of_no_comma {s : State} (h : ',' ∉ s.toList) : nameParts s = [s] := by
  rw [nameParts, List.splitOn_eq_singleton h]
  simp

theorem flatMap_nameParts_of_no_comma {names : List State} (h : ∀ s ∈ names, ',' ∉ s.toList) :
    names.flatMap nameParts = names := by
  induction names with
  | nil => rfl
  | cons s names ih =>
    obtain ⟨hs, hnames⟩ := List.forall_mem_cons.mp h
    rw [List.flatMap_cons, nameParts_of_no_comma hs, ih hnames]
    rfl

theorem nameParts_ne_nil (s : State) : nameParts s ≠ [] := by
  simp [nameParts]

/-- The parts of joined names are those of the names. -/
theorem nameParts_intercalate {names : List State} (h : names ≠ []) :
    nameParts (",".intercalate names) = names.flatMap nameParts := by
  induction names with
  | nil => exact absurd rfl h
  | cons s names ih =>
    cases names with
    | nil => simp
    | cons t names =>
      have ih := ih (by simp)
      rw [nameParts, String.toList_intercalate] at ih ⊢
      rw [List.flatMap_cons, ← ih, nameParts, ← List.map_append]
      simp only [List.map_cons, List.intercalate_cons_cons]
      simp [List.splitOn_append_cons_self]

namespace Automaton

variable {s : State} {T : NameSet}

/-- The name of a set of states. -/
def setName (T : NameSet) : State := subsetName T.toList

theorem setName_eq_intercalate (hT : ∃ s, s ∈ T) :
    setName T = ",".intercalate (T.toList.mergeSort (· ≤ ·)) := by
  obtain ⟨s, hs⟩ := hT
  have : T.toList ≠ [] := List.ne_nil_of_mem (NameSet.mem_def.mp hs)
  rw [setName, subsetName, if_neg (by simpa using this)]

/-- The parts of the name of a set are its members. -/
theorem mem_nameParts_setName_iff (hT : ∃ s, s ∈ T) (hcomma : ∀ s ∈ T, ',' ∉ s.toList) :
    s ∈ nameParts (setName T) ↔ s ∈ T := by
  have hne : T.toList.mergeSort (· ≤ ·) ≠ [] := by
    obtain ⟨t, ht⟩ := hT
    exact List.ne_nil_of_mem (List.mem_mergeSort.mpr (NameSet.mem_def.mp ht))
  rw [setName_eq_intercalate hT, nameParts_intercalate hne,
    flatMap_nameParts_of_no_comma fun s hs => hcomma s (List.mem_mergeSort.mp hs),
    List.mem_mergeSort, NameSet.mem_def]

theorem brace_not_mem_setName (hT : ∃ s, s ∈ T) (hbrace : ∀ s ∈ T, '\x7b' ∉ s.toList) :
    '\x7b' ∉ (setName T).toList := by
  rw [setName_eq_intercalate hT, String.toList_intercalate]
  intro h
  rcases Text.mem_of_mem_intercalate h with h | ⟨l, hl, h⟩
  · exact absurd h (by decide)
  · obtain ⟨s, hs, rfl⟩ := List.mem_map.mp hl
    exact hbrace s (List.mem_mergeSort.mp hs) h

end Automaton

namespace Block

theorem eq_singleton_or_two_le {b : Block} (h : b ≠ []) : (∃ s, b = [s]) ∨ 2 ≤ b.length := by
  match b, h with
  | [s], _ => exact Or.inl ⟨s, rfl⟩
  | _ :: _ :: _, _ => exact Or.inr (by simp)

theorem toList_name_of_two_le {b : Block} (h : 2 ≤ b.length) : b.name.toList =
    '\x7b' :: ((",".intercalate (b.mergeSort (· ≤ ·))).toList ++ ['\x7d']) := by
  match b, h with
  | _ :: _ :: _, _ => simp [name]

/-- Blocks with the same name have the same single state, or at least two states each with the same
parts of names. -/
theorem of_name_eq {b c : Block} (hb : b ≠ []) (hc : c ≠ []) (hbs : ∀ s ∈ b, '\x7b' ∉ s.toList)
    (hcs : ∀ s ∈ c, '\x7b' ∉ s.toList) (h : b.name = c.name) : (∃ s, b = [s] ∧ c = [s]) ∨
      2 ≤ b.length ∧ 2 ≤ c.length ∧ (b.flatMap nameParts).Perm (c.flatMap nameParts) := by
  have hbrace : ∀ {b : Block}, 2 ≤ b.length → '\x7b' ∈ b.name.toList := fun hb => by
    rw [toList_name_of_two_le hb]
    exact List.mem_cons_self
  rcases eq_singleton_or_two_le hb with ⟨s, rfl⟩ | hb2 <;>
    rcases eq_singleton_or_two_le hc with ⟨t, rfl⟩ | hc2
  · obtain rfl : s = t := h
    exact Or.inl ⟨s, rfl, rfl⟩
  · exact absurd (show '\x7b' ∈ (name [s]).toList from h ▸ hbrace hc2) (hbs s (by simp))
  · exact absurd (show '\x7b' ∈ (name [t]).toList from h ▸ hbrace hb2) (hcs t (by simp))
  · have hinner : ",".intercalate (b.mergeSort (· ≤ ·)) = ",".intercalate (c.mergeSort (· ≤ ·)) := by
      have hlist := congrArg String.toList h
      rw [toList_name_of_two_le hb2, toList_name_of_two_le hc2] at hlist
      exact String.toList_inj.mp (List.append_cancel_right (List.cons.inj hlist).2)
    have hsort : ∀ {b : Block}, b ≠ [] → b.mergeSort (· ≤ ·) ≠ [] := fun hb h =>
      hb (List.length_eq_zero_iff.mp (by simpa using congrArg List.length h))
    have hparts : ∀ {b : Block}, b ≠ [] → (nameParts (",".intercalate (b.mergeSort (· ≤ ·)))).Perm
        (b.flatMap nameParts) := fun hb => by
      rw [nameParts_intercalate (hsort hb)]
      exact (List.mergeSort_perm _ _).flatMap_right nameParts
    exact Or.inr ⟨hb2, hc2, (hparts hb).symm.trans (hinner ▸ hparts hc)⟩

end Block

end FormalLanguages
