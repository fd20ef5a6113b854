import FormalLanguages.Proofs.Grammar.Adjacency
import FormalLanguages.Proofs.Grammar.Passes
/-!
# The FOLLOW sets and derivations

The FOLLOW sets can be gathered in passes as well: every place of a nonterminal contributes to its set
what comes next inside the alternative and, where what comes after the place can vanish, the set of
the nonterminal of the alternative as it is at that moment. The end marker is there from the start.

Results:
* `gathers_follow`: the passes come to rest at the FOLLOW sets, in every grammar.
* `follow_iff_derives`: in a canonical one these hold the terminals that are neighbours of their
  nonterminals in sequences that some nonterminal derives, the end marker for what ends a sequence
  derived from the start symbol, and nothing else.
-/
namespace FormalLanguages.Grammar

open SymbolSets

variable {g : Grammar} {start : Symbol} {first sets : SymbolSets}

/-- What each place contributes to the FOLLOW set of its nonterminal. -/
def followContributions (g : Grammar) (first : SymbolSets) : List Contribution :=
  g.places.map fun p =>
    let F := firstOf first g.isNonterminal p.rest
    ⟨p.symbol, fun sets => F.erase epsilon ∪ if epsilon ∈ F then sets.getD p.owner ∅ else ∅⟩

/-- The end marker for the start symbol, and an empty set for each other nonterminal. -/
def onlyEnd (g : Grammar) (start : Symbol) : SymbolSets :=
  g.mapValues fun B _ => if B = start then .singleton endMarker else ∅

theorem keys_follow (first : SymbolSets) : (g.follow first start).keys = g.nonterminals :=
  OrderedMap.keys_mapValues ..

theorem keys_onlyEnd : (g.onlyEnd start).keys = g.nonterminals := OrderedMap.keys_mapValues ..

theorem mem_onlyEnd_iff {B x : Symbol} :
    x ∈ (g.onlyEnd start).getD B ∅ ↔ B = start ∧ start ∈ g.nonterminals ∧ x = endMarker := by
  rw [onlyEnd, OrderedMap.getD, OrderedMap.get?_mapValues, nonterminals, ← OrderedMap.get?_isSome]
  by_cases hB : B = start
  · subst hB
    cases hget : g.get? B <;> simp
  · cases hget : g.get? B <;> simp [hB]

/-- A place contributes what comes next after it, and the set of the nonterminal of the alternative where
all after the place can vanish. -/
theorem mem_members_iff {F : NameSet} {A x : Symbol} :
    (x ∈ F.erase epsilon ∪ if epsilon ∈ F then sets.getD A ∅ else ∅) ↔
      x ∈ F.erase epsilon ∨ epsilon ∈ F ∧ x ∈ sets.getD A ∅ := by
  rw [NameSet.mem_union]
  split
  · next hv => simp [hv]
  · next hv => simp [hv]

/-- What follows the nonterminal of an alternative follows the one at whose place it ends. -/
theorem mem_follow_of_endsWith {A B x : Symbol} (hA : A ∈ g.nonterminals) (hB : B ∈ g.nonterminals)
    (hAB : A ∈ endsWith (g.placesWith first) B) (hx : x ∈ (g.follow first start).getD A ∅) :
    x ∈ (g.follow first start).getD B ∅ := by
  obtain ⟨C, hr, hbase⟩ := (mem_follow_iff_reaches hA).mp hx
  exact (mem_follow_iff_reaches hB).mpr ⟨C, (Reaches.refl.step hAB).trans hr, hbase⟩

theorem respects_follow {c : Contribution} (hc : c ∈ g.followContributions first) :
    Respects (g.follow first start) c := by
  obtain ⟨p, hp, rfl⟩ := List.mem_map.mp hc
  have hB := (mem_places_iff.mp hp).1
  refine ⟨keys_follow first ▸ hB, fun sets hsets x hx => ?_⟩
  rcases mem_members_iff.mp hx with h | ⟨hv, h⟩
  · exact (mem_follow_iff_reaches hB).mpr
      ⟨p.symbol, .refl, mem_followBase_iff_exists_place.mpr (Or.inr ⟨p, hp, rfl, h⟩)⟩
  · exact mem_follow_of_endsWith (mem_nonterminals_of_mem_places hp) hB
      (mem_endsWith_iff_exists_place.mpr ⟨p, hp, rfl, hv, rfl⟩) (hsets.subset p.owner x h)

/-- Closed sets that have the end marker for the start symbol hold all that places give and lead to. -/
theorem mem_of_closed (hend : (g.onlyEnd start).Within sets)
    (hsets : Closed (g.followContributions first) sets) {A B x : Symbol} (hB : B ∈ g.nonterminals)
    (hr : Reaches (endsWith (g.placesWith first)) B A)
    (hx : x ∈ followBase (g.placesWith first) start A) : x ∈ sets.getD B ∅ := by
  have place : ∀ p ∈ g.places, x ∈ (firstOf first g.isNonterminal p.rest).erase epsilon ∨
      epsilon ∈ firstOf first g.isNonterminal p.rest ∧ x ∈ sets.getD p.owner ∅ →
      x ∈ sets.getD p.symbol ∅ := fun p hp h =>
    hsets _ (List.mem_map.mpr ⟨p, hp, rfl⟩) x (mem_members_iff.mpr h)
  suffices h : A ∈ g.nonterminals ∧ (x ∈ sets.getD A ∅ → x ∈ sets.getD B ∅) by
    refine h.2 ?_
    rcases mem_followBase_iff_exists_place.mp hx with ⟨rfl, rfl⟩ | ⟨p, hp, rfl, hp'⟩
    · exact hend.subset _ _ (mem_onlyEnd_iff.mpr ⟨rfl, h.1, rfl⟩)
    · exact place p hp (Or.inl hp')
  clear hx
  induction hr with
  | refl => exact ⟨hB, id⟩
  | step _ hC ih =>
    obtain ⟨p, hp, rfl, hv, rfl⟩ := mem_endsWith_iff_exists_place.mp hC
    exact ⟨mem_nonterminals_of_mem_places hp, fun h => ih.2 (place p hp (Or.inr ⟨hv, h⟩))⟩

/-- In every grammar and for all FIRST sets the passes over the places come to rest, and at the FOLLOW
sets. -/
theorem gathers_follow (g : Grammar) (first : SymbolSets) (start : Symbol) :
    Gathers (g.followContributions first) (g.onlyEnd start) (g.follow first start) := by
  have hkeys : (g.onlyEnd start).keys = (g.follow first start).keys :=
    keys_onlyEnd.trans (keys_follow first).symm
  refine gathers_limit ⟨hkeys, fun B x hx => ?_⟩ (fun c => respects_follow)
    fun sets hend hsets => ⟨hkeys.symm.trans hend.keys, fun B x hx => ?_⟩
  · obtain ⟨rfl, hB, rfl⟩ := mem_onlyEnd_iff.mp hx
    exact (mem_follow_iff_reaches hB).mpr
      ⟨B, .refl, mem_followBase_iff_exists_place.mpr (Or.inl ⟨rfl, rfl⟩)⟩
  · have hB : B ∈ g.nonterminals := keys_follow first ▸ mem_keys_of_mem_getD hx
    obtain ⟨A, hr, hbase⟩ := (mem_follow_iff_reaches hB).mp hx
    exact mem_of_closed hend hsets hB hr hbase

/-- The passes over the places come to rest, and at the FOLLOW sets. A terminal is in the set of a
nonterminal exactly if some nonterminal derives a sequence in which it comes right after the other,
the end marker exactly if the start symbol derives a sequence that the nonterminal ends; the sets hold
nothing else. -/
theorem follow_iff_derives (hg : g.Canonical) (hend : endMarker ∉ g.symbols) (start : Symbol) :
    Gathers (g.followContributions g.first) (g.onlyEnd start) (g.follow g.first start) ∧
    ∀ B ∈ g.nonterminals,
      (∀ b, b ∉ g.nonterminals → b ≠ epsilon → b ≠ endMarker →
        (b ∈ (g.follow g.first start).getD B ∅ ↔
          ∃ C ∈ g.nonterminals, ∃ before after, g.Derives [C] (before ++ B :: b :: after))) ∧
      (endMarker ∈ (g.follow g.first start).getD B ∅ ↔
        start ∈ g.nonterminals ∧ ∃ before, g.Derives [start] (before ++ [B])) ∧
      ∀ x ∈ (g.follow g.first start).getD B ∅, x = endMarker ∨ x ∈ g.terminals := by
  refine ⟨gathers_follow g g.first start, fun B hB => ⟨fun b hn he hb => ?_, ?_, fun x hx => ?_⟩⟩
  · rw [mem_follow_iff hg hB]
    exact followedBy_iff_derives hg hB hn he hb
  · rw [mem_follow_iff hg hB]
    exact followedBy_end_iff_derives hg hend hB
  · exact ((mem_follow_iff hg hB).mp hx).eq_end_or_terminal

/-- Rows of ticks, and a row with its end, to which nothing leads. -/
def ticks : Grammar := .ofList
  [("R", [["R", "T"], ["ε"]]), ("T", [["t"], ["ε"]]), ("E", [["R", ";"]])]

theorem ticks_follow_derives :
    ticks.Canonical ∧ endMarker ∉ ticks.symbols ∧
    Gathers (ticks.followContributions ticks.first) (ticks.onlyEnd "R") (ticks.follow ticks.first "R") ∧
    (∃ C ∈ ticks.nonterminals, ∃ before after, ticks.Derives [C] (before ++ "T" :: ";" :: after)) ∧
    (∃ before, ticks.Derives ["R"] (before ++ ["T"])) ∧
    ¬ ∃ before, ticks.Derives ["R"] (before ++ ["E"]) := by
  have hg : ticks.Canonical := by decide
  have hend : endMarker ∉ ticks.symbols := by decide
  obtain ⟨hpasses, hsets⟩ := follow_iff_derives hg hend "R"
  obtain ⟨hnext, hlast, -⟩ := hsets "T" (by decide)
  obtain ⟨-, hE, -⟩ := hsets "E" (by decide)
  have hR : "R" ∈ ticks.nonterminals := by decide
  refine ⟨hg, hend, hpasses, ?_, ?_, fun h => ?_⟩
  · exact (hnext ";" (by decide) (by decide) (by decide)).mp (by decide)
  · exact (hlast.mp (by decide)).2
  · exact absurd (hE.mpr ⟨hR, h⟩) (by decide)

end FormalLanguages.Grammar
