import FormalLanguages.Grammar.Follow
import FormalLanguages.Proofs.Grammar.First
/-!
# What the FOLLOW sets hold

A terminal follows a nonterminal if what comes after a place of it can begin with the terminal; where
what comes after can vanish, all that follows the nonterminal of the alternative follows as well.

Results:
* `mem_follow_iff_reaches`: what FOLLOW sets gather, in every grammar and for all given FIRST sets.
* `mem_follow_iff`: with the FIRST sets of a canonical grammar, FOLLOW sets hold exactly what follows in
  this sense.
* `FollowedBy.transfer_places`: what follows in one grammar follows in another if this holds place by place.
-/
namespace FormalLanguages.Grammar

/-- A terminal, or the end marker, follows a nonterminal. -/
inductive FollowedBy (g : Grammar) (start : Symbol) : Symbol → Symbol → Prop
  | atEnd : FollowedBy g start start endMarker
  | inside {A B a : Symbol} {before after : List Symbol} :
    before ++ B :: after ∈ g.alternatives A → g.Begins after a → FollowedBy g start B a
  | last {A B a : Symbol} {before after : List Symbol} :
    before ++ B :: after ∈ g.alternatives A → g.Yields after [] → FollowedBy g start A a →
    FollowedBy g start B a

variable {g : Grammar}

/-- A symbol of a sequence is its first one or stands in the rest. -/
theorem exists_cons_eq_append_iff {s B : Symbol} {α after : List Symbol} :
    (∃ before, s :: α = before ++ B :: after) ↔
      (s = B ∧ α = after) ∨ ∃ before, α = before ++ B :: after := by
  constructor
  · intro h
    obtain ⟨_ | ⟨t, before⟩, h⟩ := h
    · exact Or.inl (List.cons.inj h)
    · exact Or.inr ⟨before, (List.cons.inj h).2⟩
  · intro h
    rcases h with ⟨rfl, rfl⟩ | ⟨before, rfl⟩
    · exact ⟨[], rfl⟩
    · exact ⟨s :: before, rfl⟩

theorem mem_placesIn_iff {A : Symbol} {α : List Symbol} {p : Place} :
    p ∈ g.placesIn A α ↔
      p.owner = A ∧ p.symbol ∈ g.nonterminals ∧ ∃ before, α = before ++ p.symbol :: p.rest := by
  induction α with
  | nil => simp [placesIn]
  | cons s α ih =>
    rw [placesIn, exists_cons_eq_append_iff]
    split
    · next hs =>
      have hs := isNonterminal_iff.mp hs
      rw [List.mem_cons, ih]
      constructor
      · intro h
        rcases h with rfl | ⟨h1, h2, h3⟩
        · exact ⟨rfl, hs, Or.inl ⟨rfl, rfl⟩⟩
        · exact ⟨h1, h2, Or.inr h3⟩
      · intro h
        obtain ⟨h1, h2, ⟨h3, h4⟩ | h3⟩ := h
        · left; cases p; simp_all
        · exact Or.inr ⟨h1, h2, h3⟩
    · next hs =>
      rw [ih]
      constructor
      · intro h
        obtain ⟨h1, h2, h3⟩ := h
        exact ⟨h1, h2, Or.inr h3⟩
      · intro h
        obtain ⟨h1, h2, ⟨rfl, -⟩ | h3⟩ := h
        · exact absurd (isNonterminal_iff.mpr h2) hs
        · exact ⟨h1, h2, h3⟩

theorem mem_places_iff {p : Place} :
    p ∈ g.places ↔ p.symbol ∈ g.nonterminals ∧
      ∃ before, before ++ p.symbol :: p.rest ∈ g.alternatives p.owner := by
  simp only [places, List.mem_flatMap, Prod.exists, mem_productions_iff, mem_placesIn_iff]
  constructor
  · intro h
    obtain ⟨A, α, hα, rfl, hn, before, rfl⟩ := h
    exact ⟨hn, before, hα⟩
  · intro h
    obtain ⟨hn, before, hα⟩ := h
    exact ⟨_, _, hα, rfl, hn, before, rfl⟩

theorem mem_erase_firstOf_after_iff (hg : g.Canonical) {A B a : Symbol} {before after : List Symbol}
    (h : before ++ B :: after ∈ g.alternatives A) :
    a ∈ (firstOf g.first g.isNonterminal after).erase epsilon ↔ g.Begins after a :=
  mem_erase_firstOf_iff hg (Or.inr (hg.epsilon_not_mem_after h))

theorem epsilon_mem_firstOf_after_iff (hg : g.Canonical) {A B : Symbol} {before after : List Symbol}
    (h : before ++ B :: after ∈ g.alternatives A) :
    epsilon ∈ firstOf g.first g.isNonterminal after ↔ g.Yields after [] :=
  epsilon_mem_firstOf_iff hg (Or.inr (hg.epsilon_not_mem_after h))

/-! ## The sets of a grammar for given FIRST sets -/

/-- The places, each with the FIRST set that given sets make of what comes after it. -/
def placesWith (g : Grammar) (first : SymbolSets) : List (Place × NameSet) :=
  g.places.map fun p => (p, firstOf first g.isNonterminal p.rest)

section
variable {first : SymbolSets} {start A B a : Symbol}

theorem mem_placesWith_iff {p : Place} {F : NameSet} :
    (p, F) ∈ g.placesWith first ↔ p ∈ g.places ∧ firstOf first g.isNonterminal p.rest = F := by
  simp only [placesWith, List.mem_map, Prod.mk.injEq]
  exact ⟨fun ⟨q, hq, h, hF⟩ => by subst h; exact ⟨hq, hF⟩, fun ⟨hp, hF⟩ => ⟨p, hp, rfl, hF⟩⟩

theorem mem_followBase_iff_exists_place : a ∈ followBase (g.placesWith first) start B ↔
    B = start ∧ a = endMarker ∨ ∃ p ∈ g.places, p.symbol = B ∧
      a ∈ (firstOf first g.isNonterminal p.rest).erase epsilon := by
  have hafter : a ∈ NameSet.unions (((g.placesWith first).filter (·.1.symbol = B)).map fun p =>
      p.2.erase epsilon) ↔ ∃ p ∈ g.places, p.symbol = B ∧
        a ∈ (firstOf first g.isNonterminal p.rest).erase epsilon := by
    simp only [NameSet.mem_unions, List.mem_map, List.mem_filter, decide_eq_true_eq, Prod.exists,
      mem_placesWith_iff]
    constructor
    · rintro ⟨-, ⟨p, -, ⟨⟨hp, rfl⟩, rfl⟩, rfl⟩, ha⟩
      exact ⟨p, hp, rfl, ha⟩
    · rintro ⟨p, hp, rfl, ha⟩
      exact ⟨_, ⟨p, _, ⟨⟨hp, rfl⟩, rfl⟩, rfl⟩, ha⟩
  unfold followBase
  split
  · next hB => rw [NameSet.mem_insert, hafter]; simp [hB]
  · next hB => rw [hafter]; simp [hB]

theorem mem_endsWith_iff_exists_place : A ∈ endsWith (g.placesWith first) B ↔
    ∃ p ∈ g.places, p.symbol = B ∧ epsilon ∈ firstOf first g.isNonterminal p.rest ∧ p.owner = A := by
  simp only [endsWith, List.mem_map, List.mem_filter, decide_eq_true_eq, Prod.exists, mem_placesWith_iff]
  constructor
  · rintro ⟨p, -, ⟨⟨hp, rfl⟩, rfl, hF⟩, rfl⟩
    exact ⟨p, hp, rfl, hF, rfl⟩
  · rintro ⟨p, hp, rfl, hF, rfl⟩
    exact ⟨p, _, ⟨⟨hp, rfl⟩, rfl, hF⟩, rfl⟩

theorem mem_nonterminals_of_mem_places {p : Place} (hp : p ∈ g.places) : p.owner ∈ g.nonterminals := by
  obtain ⟨-, _, hα⟩ := mem_places_iff.mp hp
  exact mem_nonterminals_of_mem_alternatives hα

/-- A FOLLOW set gathers what the places give directly of all nonterminals to which places lead back; this is
so in every grammar and for all FIRST sets. -/
theorem mem_follow_iff_reaches (hB : B ∈ g.nonterminals) :
    a ∈ (g.follow first start).getD B ∅ ↔ ∃ A, Reaches (endsWith (g.placesWith first)) B A ∧
      a ∈ followBase (g.placesWith first) start A := by
  obtain ⟨alternatives, hget⟩ := OrderedMap.mem_keys_iff.mp hB
  have hnext : ∀ A ∈ g.nonterminals, ∀ C ∈ endsWith (g.placesWith first) A, C ∈ g.nonterminals := by
    intro A _ C hC
    obtain ⟨p, hp, -, -, rfl⟩ := mem_endsWith_iff_exists_place.mp hC
    exact mem_nonterminals_of_mem_places hp
  have hreach : ∀ C, C ∈ reachable (endsWith (g.placesWith first)) g.symbolBound [B] ↔
      Reaches (endsWith (g.placesWith first)) B C := fun C => by
    rw [mem_reachable_iff g.nonterminals hnext (by simpa using hB) (by unfold symbolBound; omega)]
    simp
  have hfollow : (g.follow first start).getD B ∅ =
      .unions ((reachable (endsWith (g.placesWith first)) g.symbolBound [B]).map
        (followBase (g.placesWith first) start)) := by
    simp only [follow, OrderedMap.getD, OrderedMap.get?_mapValues, hget, Option.map_some,
      Option.getD_some, placesWith]
  rw [hfollow]
  simp [hreach]

end

/-! ## The sets of a canonical grammar -/

/-- The places, each with the FIRST set of what comes after it. -/
def placesWithFirst (g : Grammar) : List (Place × NameSet) :=
  g.places.map fun p => (p, firstOf g.first g.isNonterminal p.rest)

theorem mem_followBase_iff (hg : g.Canonical) {start B a : Symbol} :
    a ∈ followBase g.placesWithFirst start B ↔ B = start ∧ a = endMarker ∨
      B ∈ g.nonterminals ∧ ∃ A before after, before ++ B :: after ∈ g.alternatives A ∧
        g.Begins after a := by
  refine mem_followBase_iff_exists_place.trans (or_congr_right ⟨?_, ?_⟩)
  · rintro ⟨p, hp, rfl, ha⟩
    obtain ⟨hn, before, hα⟩ := mem_places_iff.mp hp
    exact ⟨hn, p.owner, before, p.rest, hα, (mem_erase_firstOf_after_iff hg hα).mp ha⟩
  · rintro ⟨hn, A, before, after, hα, ha⟩
    exact ⟨⟨A, B, after⟩, mem_places_iff.mpr ⟨hn, before, hα⟩, rfl,
      (mem_erase_firstOf_after_iff hg hα).mpr ha⟩

theorem mem_endsWith_iff (hg : g.Canonical) {A B : Symbol} :
    A ∈ endsWith g.placesWithFirst B ↔ B ∈ g.nonterminals ∧ ∃ before after,
      before ++ B :: after ∈ g.alternatives A ∧ g.Yields after [] := by
  refine mem_endsWith_iff_exists_place.trans ⟨?_, ?_⟩
  · rintro ⟨p, hp, rfl, hF, rfl⟩
    obtain ⟨hn, before, hα⟩ := mem_places_iff.mp hp
    exact ⟨hn, before, p.rest, hα, (epsilon_mem_firstOf_after_iff hg hα).mp hF⟩
  · rintro ⟨hn, before, after, hα, hv⟩
    exact ⟨⟨A, B, after⟩, mem_places_iff.mpr ⟨hn, before, hα⟩, rfl,
      (epsilon_mem_firstOf_after_iff hg hα).mpr hv, rfl⟩

theorem FollowedBy.of_reaches (hg : g.Canonical) {start A B a : Symbol}
    (hr : Reaches (endsWith g.placesWithFirst) B A) (h : g.FollowedBy start A a) :
    g.FollowedBy start B a := by
  induction hr with
  | refl => exact h
  | step _ hC ih =>
    obtain ⟨-, before, after, hα, hv⟩ := (mem_endsWith_iff hg).mp hC
    exact ih (.last hα hv h)

theorem FollowedBy.reaches (hg : g.Canonical) {start B a : Symbol} (h : g.FollowedBy start B a)
    (hB : B ∈ g.nonterminals) : ∃ A, Reaches (endsWith g.placesWithFirst) B A ∧
      a ∈ followBase g.placesWithFirst start A := by
  induction h with
  | atEnd => exact ⟨start, .refl, (mem_followBase_iff hg).mpr (Or.inl ⟨rfl, rfl⟩)⟩
  | inside hα ha =>
    exact ⟨_, .refl, (mem_followBase_iff hg).mpr (Or.inr ⟨hB, _, _, _, hα, ha⟩)⟩
  | last hα hv _ ih =>
    obtain ⟨C, hr, ha⟩ := ih (mem_nonterminals_of_mem_alternatives hα)
    exact ⟨C, (Reaches.refl.step ((mem_endsWith_iff hg).mpr ⟨hB, _, _, hα, hv⟩)).trans hr, ha⟩

/-- FOLLOW sets hold what follows. -/
theorem mem_follow_iff (hg : g.Canonical) {start B a : Symbol} (hB : B ∈ g.nonterminals) :
    a ∈ (g.follow g.first start).getD B ∅ ↔ g.FollowedBy start B a := by
  rw [mem_follow_iff_reaches hB]
  constructor
  · intro h
    obtain ⟨A, hr, ha⟩ := h
    refine .of_reaches hg hr ?_
    rcases (mem_followBase_iff hg).mp ha with ⟨rfl, rfl⟩ | ⟨-, C, before, after, hα, ha⟩
    · exact .atEnd
    · exact .inside hα ha
  · exact fun h => h.reaches hg hB

/-! ## Place by place -/

variable {h : Grammar} {start A B a : Symbol} {σ τ before after : List Symbol} {X Y : Symbol → Prop}

/-- A terminal can come first in the sequence, or the sequence vanishes and the terminal comes after it. -/
def Comes (g : Grammar) (σ : List Symbol) (X : Symbol → Prop) (a : Symbol) : Prop :=
  g.Begins σ a ∨ g.Yields σ [] ∧ X a

theorem Comes.mono (hXY : ∀ a, X a → Y a) (hc : g.Comes σ X a) : g.Comes σ Y a :=
  hc.imp_right (And.imp_right (hXY a))

theorem comes_nil_iff : g.Comes [] X a ↔ X a := by
  simp [Comes, not_begins_nil, yields_nil_iff]

theorem comes_append_iff (hσ : epsilon ∉ σ) : g.Comes (σ ++ τ) X a ↔ g.Comes σ (g.Comes τ X) a := by
  constructor
  · rintro (hb | ⟨hv, ha⟩)
    · exact hb.of_append.imp_right fun ⟨hv, hb⟩ => ⟨hv, Or.inl hb⟩
    · obtain ⟨hu, hv⟩ := yields_append_nil_iff.mp hv
      exact Or.inr ⟨hu, Or.inr ⟨hv, ha⟩⟩
  · rintro (hb | ⟨hv, hb | ⟨hv', ha⟩⟩)
    · exact Or.inl (hb.append τ)
    · exact Or.inl (.append_of_vanish hv hσ hb)
    · exact Or.inr ⟨hv.append hv', ha⟩

/-- What comes after a place follows the nonterminal at the place. -/
theorem Comes.followedBy (hα : before ++ B :: after ∈ g.alternatives A)
    (hc : g.Comes after (g.FollowedBy start A) a) : g.FollowedBy start B a :=
  hc.elim (.inside hα) fun ⟨hv, ha⟩ => .last hα hv ha

/-- What follows a nonterminal in one grammar follows its counterpart in another, if at every place what
comes after it goes over when what follows the owner of the place does. -/
theorem FollowedBy.transfer_places {ρ : Symbol → Symbol} (hstart : ρ start = start)
    (hplace : ∀ A B before after, B ∈ h.nonterminals → before ++ B :: after ∈ h.alternatives A →
      ∀ a, h.Comes after (g.FollowedBy start (ρ A)) a → g.FollowedBy start (ρ B) a)
    (hf : h.FollowedBy start B a) (hB : B ∈ h.nonterminals) : g.FollowedBy start (ρ B) a := by
  induction hf with
  | atEnd => exact hstart.symm ▸ .atEnd
  | inside hα ha => exact hplace _ _ _ _ hB hα _ (Or.inl ha)
  | last hα hv _ ih =>
    exact hplace _ _ _ _ hB hα _ (Or.inr ⟨hv, ih (mem_nonterminals_of_mem_alternatives hα)⟩)

end FormalLanguages.Grammar
