import FormalLanguages.Proofs.Grammar.FirstSets
import FormalLanguages.Proofs.Grammar.FollowSets
import FormalLanguages.Proofs.Grammar.TableCells
/-!
# Grammars in another order

The nonterminals of a grammar and the alternatives of each can be written in another order. The passes that
gather FIRST and FOLLOW sets then meet the contributions in another order and go through other sets on the
way; but they come to rest at sets that only tell what leads to what, and this does not depend on the order.
No form is asked of the alternatives.

Results:
* `Alike.first_get?_eq`, `Alike.follow_get?_eq`: grammars with the same alternatives have the same sets.
* `Alike.cell_perm`: their tables have the same alternatives in each cell.
* `analyses_of_reordered`: in another order the passes come to rest at the same sets, the cells hold the same
  alternatives, and the conflicts are in the same cells.
-/
namespace FormalLanguages

namespace PredictionTable

/-- A cell is in conflict exactly if it has two alternatives or more. -/
theorem exists_conflict_iff {t : PredictionTable} {A a : Symbol} :
    (∃ c ∈ t.conflicts, c.nonterminal = A ∧ c.terminal = a) ↔ 2 ≤ (t.cell A a).length := by
  simp only [conflicts_eq, List.mem_map, List.mem_filter, decide_eq_true_eq]
  constructor
  · rintro ⟨_, ⟨⟨B, b⟩, ⟨-, hlen⟩, rfl⟩, rfl, rfl⟩
    exact hlen
  · intro hlen
    obtain ⟨α, hα⟩ := List.exists_mem_of_length_pos (Nat.lt_of_lt_of_le Nat.zero_lt_two hlen)
    exact ⟨_, ⟨(A, a), ⟨mem_keys_of_mem_cell hα, hlen⟩, rfl⟩, rfl, rfl⟩

end PredictionTable

namespace Grammar

open SymbolSets

/-- The same nonterminals with the same alternatives, both perhaps in another order. -/
structure Reordered (g h : Grammar) : Prop where
  nonterminals : g.nonterminals.Perm h.nonterminals
  alternatives : ∀ A ∈ g.nonterminals, (g.alternatives A).Perm (h.alternatives A)

instance (g h : Grammar) : Decidable (g.Reordered h) :=
  decidable_of_iff (g.nonterminals.Perm h.nonterminals ∧
    ∀ A ∈ g.nonterminals, (g.alternatives A).Perm (h.alternatives A))
    ⟨fun ⟨hn, ha⟩ => ⟨hn, ha⟩, fun ⟨hn, ha⟩ => ⟨hn, ha⟩⟩

/-- The same nonterminals with the same alternatives, in whatever order and however often. -/
structure Alike (g h : Grammar) : Prop where
  nonterminals : ∀ A, A ∈ g.nonterminals ↔ A ∈ h.nonterminals
  alternatives : ∀ A α, α ∈ g.alternatives A ↔ α ∈ h.alternatives A

variable {g h : Grammar} {first first' follow follow' : SymbolSets} {start A B a x : Symbol}

theorem Reordered.alike (hgh : g.Reordered h) : g.Alike h where
  nonterminals A := hgh.nonterminals.mem_iff
  alternatives A α := by
    by_cases hA : A ∈ g.nonterminals
    · exact (hgh.alternatives A hA).mem_iff
    · have hA' : A ∉ h.nonterminals := hgh.nonterminals.mem_iff.not.mp hA
      exact iff_of_false (fun hα => hA (mem_nonterminals_of_mem_alternatives hα))
        fun hα => hA' (mem_nonterminals_of_mem_alternatives hα)

namespace Alike

theorem symm (hgh : g.Alike h) : h.Alike g :=
  ⟨fun A => (hgh.nonterminals A).symm, fun A α => (hgh.alternatives A α).symm⟩

theorem isNonterminal_eq (hgh : g.Alike h) : g.isNonterminal = h.isNonterminal := by
  funext s
  rw [Bool.eq_iff_iff, isNonterminal_iff, isNonterminal_iff, hgh.nonterminals]

theorem productions_subset (hgh : g.Alike h) : g.productions ⊆ h.productions := by
  rintro ⟨A, α⟩ hp
  exact mem_productions_iff.mpr ((hgh.alternatives A α).mp (mem_productions_iff.mp hp))

/-! ## FIRST sets -/

theorem mem_vanishing (hgh : g.Alike h) (hA : A ∈ g.vanishing) : A ∈ h.vanishing := by
  rw [vanishing, mem_consequences_iff] at hA ⊢
  exact hA.mono (List.map_subset _ hgh.productions_subset)

theorem mem_leadingOf (hgh : g.Alike h) {s : Symbol} (hs : s ∈ g.leadingOf g.vanishing A) :
    s ∈ h.leadingOf h.vanishing A := by
  obtain ⟨α, hα, hs⟩ := mem_leadingOf_iff.mp hs
  obtain ⟨before, after, he, hv⟩ := mem_leadingSymbols_iff.mp hs
  exact mem_leadingOf_iff.mpr ⟨α, (hgh.alternatives A α).mp hα,
    mem_leadingSymbols_iff.mpr ⟨before, after, he, fun t ht => hgh.mem_vanishing (hv t ht)⟩⟩

theorem mem_first (hgh : g.Alike h) (hx : x ∈ g.first.getD A ∅) : x ∈ h.first.getD A ∅ := by
  have hA : A ∈ g.nonterminals := keys_first ▸ mem_keys_of_mem_getD hx
  rw [mem_first_iff_reaches ((hgh.nonterminals A).mp hA)]
  refine ((mem_first_iff_reaches hA).mp hx).imp ?_ (And.imp_right hgh.mem_vanishing)
  exact And.imp (.mono fun _ _ => hgh.mem_leadingOf) (hgh.nonterminals x).not.mp

theorem first_getD_eq (hgh : g.Alike h) (A : Symbol) : g.first.getD A ∅ = h.first.getD A ∅ :=
  NameSet.ext fun _ => ⟨hgh.mem_first, hgh.symm.mem_first⟩

theorem first_get?_eq (hgh : g.Alike h) (A : Symbol) : g.first.get? A = h.first.get? A := by
  refine OrderedMap.get?_eq_of_getD_eq ?_ (hgh.first_getD_eq A)
  rw [keys_first, keys_first]
  exact hgh.nonterminals A

/-- What sets give for a sequence depends only on the members of each set. -/
theorem firstOf_eq (hgh : g.Alike h) (hfirst : ∀ A, first.getD A ∅ = first'.getD A ∅)
    (α : List Symbol) : firstOf first g.isNonterminal α = firstOf first' h.isNonterminal α := by
  rw [hgh.isNonterminal_eq]
  induction α with
  | nil => rfl
  | cons s α ih => simp only [firstOf, hfirst s, ih]

/-! ## FOLLOW sets -/

theorem mem_places (hgh : g.Alike h) {p : Place} (hp : p ∈ g.places) : p ∈ h.places := by
  obtain ⟨hn, before, hα⟩ := mem_places_iff.mp hp
  exact mem_places_iff.mpr ⟨(hgh.nonterminals _).mp hn, before, (hgh.alternatives _ _).mp hα⟩

theorem mem_follow (hgh : g.Alike h) (hfirst : ∀ A, first.getD A ∅ = first'.getD A ∅)
    (hx : x ∈ (g.follow first start).getD B ∅) : x ∈ (h.follow first' start).getD B ∅ := by
  have hB : B ∈ g.nonterminals := keys_follow first ▸ mem_keys_of_mem_getD hx
  obtain ⟨A, hr, hbase⟩ := (mem_follow_iff_reaches hB).mp hx
  refine (mem_follow_iff_reaches ((hgh.nonterminals B).mp hB)).mpr ⟨A, hr.mono fun C D hD => ?_, ?_⟩
  · obtain ⟨p, hp, hC, hv, hD⟩ := mem_endsWith_iff_exists_place.mp hD
    exact mem_endsWith_iff_exists_place.mpr
      ⟨p, hgh.mem_places hp, hC, hgh.firstOf_eq hfirst p.rest ▸ hv, hD⟩
  · refine mem_followBase_iff_exists_place.mpr ((mem_followBase_iff_exists_place.mp hbase).imp_right ?_)
    rintro ⟨p, hp, hA, hx⟩
    exact ⟨p, hgh.mem_places hp, hA, hgh.firstOf_eq hfirst p.rest ▸ hx⟩

theorem follow_getD_eq (hgh : g.Alike h) (start B : Symbol) :
    (g.follow g.first start).getD B ∅ = (h.follow h.first start).getD B ∅ :=
  NameSet.ext fun _ => ⟨hgh.mem_follow hgh.first_getD_eq, hgh.symm.mem_follow hgh.symm.first_getD_eq⟩

theorem follow_get?_eq (hgh : g.Alike h) (start B : Symbol) :
    (g.follow g.first start).get? B = (h.follow h.first start).get? B := by
  refine OrderedMap.get?_eq_of_getD_eq ?_ (hgh.follow_getD_eq start B)
  rw [keys_follow, keys_follow]
  exact hgh.nonterminals B

/-! ## The table -/

theorem predicts_iff (hgh : g.Alike h) (hfirst : ∀ A, first.getD A ∅ = first'.getD A ∅)
    (hfollow : ∀ A, follow.getD A ∅ = follow'.getD A ∅) {α : Alternative} :
    g.Predicts first follow A α a ↔ h.Predicts first' follow' A α a := by
  rw [Predicts, Predicts, hgh.firstOf_eq hfirst α, hfollow A]

theorem ownTable_predicts_iff (hgh : g.Alike h) {α : Alternative} :
    g.Predicts g.first (g.follow g.first start) A α a ↔
      h.Predicts h.first (h.follow h.first start) A α a :=
  hgh.predicts_iff hgh.first_getD_eq (hgh.follow_getD_eq start)

theorem mem_keys_ownTable_iff (hgh : g.Alike h) :
    (A, a) ∈ (g.ownTable start).keys ↔ (A, a) ∈ (h.ownTable start).keys := by
  simp only [ownTable, mem_keys_predictionTable_iff, hgh.alternatives, hgh.ownTable_predicts_iff]

theorem cell_perm (hgh : g.Alike h) (start A a : Symbol) :
    ((g.ownTable start).cell A a).Perm ((h.ownTable start).cell A a) := by
  refine (List.perm_ext_iff_of_nodup (nodup_cell_predictionTable ..)
    (nodup_cell_predictionTable ..)).mpr fun α => ?_
  simp only [mem_cell_predictionTable_iff, hgh.alternatives, hgh.ownTable_predicts_iff]

theorem isLL1_ownTable_eq (hgh : g.Alike h) (start : Symbol) :
    (g.ownTable start).isLL1 = (h.ownTable start).isLL1 := by
  rw [Bool.eq_iff_iff]
  simp only [ownTable, isLL1_predictionTable_iff, hgh.alternatives, hgh.ownTable_predicts_iff]

end Alike

/-- The analyses of a grammar do not depend on the order of its nonterminals, nor on that of the alternatives
of each, whatever the alternatives are. In another order the passes that gather FIRST and FOLLOW sets come to
rest as well, and every nonterminal has the same sets; the tables have the same cells with the same
alternatives, the same cells are in conflict, and both grammars are LL(1) or none. -/
theorem analyses_of_reordered (hgh : g.Reordered h) (start : Symbol) :
    Gathers h.firstContributions h.noSymbols h.first ∧
    Gathers (h.followContributions h.first) (h.onlyEnd start) (h.follow h.first start) ∧
    (∀ A, h.first.get? A = g.first.get? A) ∧
    (∀ A, (h.follow h.first start).get? A = (g.follow g.first start).get? A) ∧
    (∀ A a, (A, a) ∈ (h.ownTable start).keys ↔ (A, a) ∈ (g.ownTable start).keys) ∧
    (∀ A a, ((h.ownTable start).cell A a).Perm ((g.ownTable start).cell A a)) ∧
    (∀ A a, (∃ c ∈ (h.ownTable start).conflicts, c.nonterminal = A ∧ c.terminal = a) ↔
      ∃ c ∈ (g.ownTable start).conflicts, c.nonterminal = A ∧ c.terminal = a) ∧
    (h.ownTable start).isLL1 = (g.ownTable start).isLL1 := by
  have hgh := hgh.alike.symm
  refine ⟨gathers_first h, gathers_follow h h.first start, hgh.first_get?_eq, hgh.follow_get?_eq start,
    fun A a => hgh.mem_keys_ownTable_iff, hgh.cell_perm start, fun A a => ?_, hgh.isLL1_ownTable_eq start⟩
  rw [PredictionTable.exists_conflict_iff, PredictionTable.exists_conflict_iff,
    (hgh.cell_perm start A a).length_eq]

/-- Left recursion, an empty alternative, one with `ε` inside, and a repeated one. -/
def untidy : Grammar := .ofList
  [("S", [["L", "S", "x"], [], ["y", "ε", "L"], ["y"]]), ("L", [["S", "z"], ["L", "ε", "x"], ["ε"], ["S", "z"]])]

/-- The same with everything in another order. -/
def untidyTurned : Grammar := .ofList
  [("L", [["ε"], ["S", "z"], ["S", "z"], ["L", "ε", "x"]]), ("S", [["y"], ["y", "ε", "L"], ["L", "S", "x"], []])]

theorem untidy_analyses :
    untidy.Reordered untidyTurned ∧
    Gathers untidyTurned.firstContributions untidyTurned.noSymbols untidyTurned.first ∧
    untidyTurned.first.get? "S" = untidy.first.get? "S" ∧
    (untidyTurned.follow untidyTurned.first "S").get? "L" = (untidy.follow untidy.first "S").get? "L" ∧
    (∃ c ∈ (untidyTurned.ownTable "S").conflicts, c.nonterminal = "S" ∧ c.terminal = "z") ∧
    (untidyTurned.ownTable "S").isLL1 = false := by
  have hturned : untidy.Reordered untidyTurned := by decide
  obtain ⟨hpasses, -, hfirst, hfollow, -, -, hconflicts, hverdict⟩ := analyses_of_reordered hturned "S"
  have hconflict : ∃ c ∈ (untidy.ownTable "S").conflicts, c.nonterminal = "S" ∧ c.terminal = "z" := by
    decide
  exact ⟨hturned, hpasses, hfirst "S", hfollow "L", (hconflicts "S" "z").mpr hconflict,
    hverdict.trans (by decide)⟩

end Grammar

end FormalLanguages
