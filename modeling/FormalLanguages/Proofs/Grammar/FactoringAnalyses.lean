import FormalLanguages.Proofs.Grammar.FirstSets
import FormalLanguages.Proofs.Grammar.FollowSets
import FormalLanguages.Proofs.Grammar.Inlining
import FormalLanguages.Proofs.Grammar.LeftDerivation
/-!
# Factoring and the analyses

What an extraction does to derivations is undone by putting a tail in the place of each new nonterminal. A step
that the merged alternative makes is then one that an alternative of the given grammar makes, and a step that
replaces the new nonterminal is none; the other way round, an alternative that was merged is written down in two
steps. So sequences without the new nonterminal are derived from each other as before, and a terminal or a
nonterminal comes to the front of them as before.

The new nonterminal stands at the end of an alternative of `A`, so what follows `A` follows it, and nothing else.

Results:
* `Extractable.transGen_of_refills`: a derivation after an extraction was one before it, with tails put in.
* `Extractable.transGen_extracted`: a derivation before an extraction is one after it.
* `Extractable.followedBy_iff`: what follows a nonterminal after an extraction followed it before.
* `leftFactor_keeps_analyses`: factoring keeps the FIRST sets, the FOLLOW sets and the left recursion of the
  nonterminals that were there.
-/
namespace FormalLanguages.Grammar

open Relation
open FormalLanguages.Alternative (body)

variable {g h r : Grammar} {start A B C s t new a : Symbol} {α β γ : Alternative} {σ σ' τ τ' ρ : List Symbol}
  {added : List Symbol} {tails : List Alternative}
  {X : Symbol → Prop}

/-! ## Putting tails in -/

/-- In the place of each occurrence of the new nonterminal stands what a tail writes down. -/
inductive Refills (tails : List Alternative) (new : Symbol) : List Symbol → List Symbol → Prop
  | nil : Refills tails new [] []
  | keep {s : Symbol} {σ τ : List Symbol} :
    s ≠ new → Refills tails new σ τ → Refills tails new (s :: σ) (s :: τ)
  | fill {γ : Alternative} {σ τ : List Symbol} :
    γ ∈ tails → Refills tails new σ τ → Refills tails new (new :: σ) (body γ ++ τ)

namespace Refills

theorem append (h : Refills tails new σ σ') (h' : Refills tails new τ τ') :
    Refills tails new (σ ++ τ) (σ' ++ τ') := by
  induction h with
  | nil => exact h'
  | keep hs _ ih => exact .keep hs ih
  | fill hγ _ ih => rw [List.append_assoc]; exact .fill hγ ih

theorem exists_append (h : Refills tails new (σ ++ τ) ρ) :
    ∃ σ' τ', ρ = σ' ++ τ' ∧ Refills tails new σ σ' ∧ Refills tails new τ τ' := by
  induction σ generalizing ρ with
  | nil => exact ⟨[], ρ, rfl, .nil, h⟩
  | cons s σ ih =>
    cases h with
    | keep hs h =>
      obtain ⟨σ', τ', rfl, hσ, hτ⟩ := ih h
      exact ⟨_ :: σ', τ', rfl, .keep hs hσ, hτ⟩
    | fill hγ h =>
      obtain ⟨σ', τ', rfl, hσ, hτ⟩ := ih h
      exact ⟨_ ++ σ', τ', (List.append_assoc ..).symm, .fill hγ hσ, hτ⟩

/-- Where the new nonterminal does not occur, nothing is put in. -/
theorem eq_of_not_mem (h : Refills tails new σ τ) (hσ : new ∉ σ) : τ = σ := by
  induction h with
  | nil => rfl
  | keep _ _ ih => rw [ih fun h => hσ (List.mem_cons_of_mem _ h)]
  | fill => exact absurd List.mem_cons_self hσ

theorem exists_of_singleton (h : Refills tails new [new] τ) : ∃ γ ∈ tails, τ = body γ := by
  cases h with
  | keep hs => exact absurd rfl hs
  | fill hγ h =>
    cases h with
    | nil => exact ⟨_, hγ, by simp⟩

end Refills

theorem exists_refills (h : tails ≠ []) (new : Symbol) (σ : List Symbol) :
    ∃ τ, Refills tails new σ τ := by
  obtain ⟨γ, hγ⟩ := List.exists_mem_of_ne_nil tails h
  induction σ with
  | nil => exact ⟨[], .nil⟩
  | cons s σ ih =>
    obtain ⟨τ, hτ⟩ := ih
    by_cases hs : s = new
    · subst hs
      exact ⟨_, .fill hγ hτ⟩
    · exact ⟨_, .keep hs hτ⟩

/-- The nonterminal whose alternatives are merged in the place of the new one; others are their own. -/
def mergedOwner (A new C : Symbol) : Symbol := if C = new then A else C

theorem mergedOwner_of_ne (A : Symbol) (hC : C ≠ new) : mergedOwner A new C = C := if_neg hC

@[simp] theorem mergedOwner_self (A new : Symbol) : mergedOwner A new new = A := if_pos rfl

theorem ne_and_not_mem_of_place {before after : List Symbol} (h : new ∉ before ++ C :: after) :
    C ≠ new ∧ new ∉ after := by
  simp only [List.mem_append, List.mem_cons, not_or] at h
  exact ⟨Ne.symm h.2.1, h.2.2⟩

namespace Extractable

/-! ## Derivations -/

theorem body_concat_sharedStart (he : g.Extractable A s new) (γ : Alternative) :
    body ((g.sharedStart A s).concat γ) = g.sharedStart A s ++ body γ := by
  rw [Alternative.body_concat, Alternative.body_append,
    Alternative.body_eq_self he.epsilon_not_mem_sharedStart]

theorem mem_of_mem_tails (he : g.Extractable A s new) (hγ : γ ∈ g.tails A s) :
    g.sharedStart A s ++ body γ ∈ g.alternatives A := by
  obtain ⟨hα, hs⟩ := he.mem_merged_iff.mpr ⟨γ, hγ, rfl⟩
  rwa [← he.body_concat_sharedStart, Alternative.body_eq_self (he.epsilon_not_mem_of_head? hα hs)]

theorem body_merged (he : g.Extractable A s new) :
    body (g.sharedStart A s ++ [new]) = g.sharedStart A s ++ [new] := by
  refine Alternative.body_eq_self fun hε => ?_
  rcases List.mem_append.mp hε with hε | hε
  · exact he.epsilon_not_mem_sharedStart hε
  · exact he.new_ne_epsilon (List.mem_singleton.mp hε).symm

/-- A step after an extraction was one before it, with tails put in, unless it replaces the new nonterminal. -/
theorem step_of_refills (he : g.Extractable A s new) (hs : (g.extracted A s new).Step σ τ)
    (hτ : Refills (g.tails A s) new τ τ') :
    ∃ σ', Refills (g.tails A s) new σ σ' ∧ (g.Step σ' τ' ∨ σ' = τ' ∧ new ∈ σ) := by
  cases hs with
  | @replace C α before after hα =>
    obtain ⟨before', _, rfl, hbefore, hrest⟩ := hτ.exists_append
    obtain ⟨middle, after', rfl, hmiddle, hafter⟩ := hrest.exists_append
    have hbody : ∀ {α : Alternative}, new ∉ α → new ∉ body α := fun hnew h =>
      hnew (Alternative.mem_body.mp h).1
    rcases he.mem_alternatives_cases hα with ⟨rfl, hγ⟩ | ⟨rfl, rfl⟩ | ⟨hC, hα⟩
    · obtain rfl := hmiddle.eq_of_not_mem (hbody (he.new_not_mem_tail hγ))
      exact ⟨_, hbefore.append (.fill hγ hafter), Or.inr ⟨rfl, by simp⟩⟩
    · rw [he.body_merged] at hmiddle
      obtain ⟨front, last, rfl, hfront, hlast⟩ := hmiddle.exists_append
      obtain rfl := hfront.eq_of_not_mem he.new_not_mem_sharedStart
      obtain ⟨γ, hγ, rfl⟩ := hlast.exists_of_singleton
      refine ⟨_, hbefore.append (.keep he.ne hafter), Or.inl ?_⟩
      have hstep := Step.replace before' after' (he.mem_of_mem_tails hγ)
      rwa [Alternative.body_append, Alternative.body_eq_self he.epsilon_not_mem_sharedStart,
        Alternative.body_eq_self (α := body γ) fun hε => (Alternative.mem_body.mp hε).2 rfl] at hstep
    · obtain rfl := hmiddle.eq_of_not_mem (hbody (he.not_mem_alternative hα))
      exact ⟨_, hbefore.append (.keep hC hafter), Or.inl (.replace before' after' hα)⟩

theorem derives_of_refills (he : g.Extractable A s new) (hd : (g.extracted A s new).Derives σ τ)
    (hτ : Refills (g.tails A s) new τ τ') :
    ∃ σ', Refills (g.tails A s) new σ σ' ∧ g.Derives σ' τ' := by
  induction hd using ReflTransGen.head_induction_on with
  | refl => exact ⟨τ', hτ, .refl _⟩
  | head hs _ ih =>
    obtain ⟨ρ', hρ, hd⟩ := ih
    obtain ⟨σ', hσ, hstep | ⟨rfl, -⟩⟩ := he.step_of_refills hs hρ
    · exact ⟨σ', hσ, .head hstep hd⟩
    · exact ⟨σ', hσ, hd⟩

/-- A derivation after an extraction was one before it, with tails put in where it ends. -/
theorem transGen_of_refills (he : g.Extractable A s new) (hσ : new ∉ σ)
    (hd : TransGen (g.extracted A s new).Step σ τ) (hτ : Refills (g.tails A s) new τ τ') :
    TransGen g.Step σ τ' := by
  obtain ⟨ρ, hs, hd⟩ := TransGen.head'_iff.mp hd
  obtain ⟨ρ', hρ, hd'⟩ := he.derives_of_refills hd hτ
  obtain ⟨σ', hσ', hstep⟩ := he.step_of_refills hs hρ
  obtain rfl := hσ'.eq_of_not_mem hσ
  exact .head' (hstep.resolve_right fun h => hσ h.2) hd'

/-- A step before an extraction is one after it, or two by way of the new nonterminal. -/
theorem transGen_of_step (he : g.Extractable A s new) (hs : g.Step σ τ) :
    TransGen (g.extracted A s new).Step σ τ := by
  cases hs with
  | @replace C α before after hα =>
    by_cases hhead : C = A ∧ α.head? = some s
    · obtain ⟨rfl, hhead⟩ := hhead
      obtain ⟨γ, hγ, rfl⟩ := he.mem_merged_iff.mp ⟨hα, hhead⟩
      have hmerged := Step.replace before after (he.mem_alternatives_self_iff.mpr (Or.inl rfl))
      have htail := Step.replace (g := g.extracted C s new) (before ++ g.sharedStart C s) after
        (by rwa [alternatives_extracted_new] : γ ∈ _)
      rw [he.body_merged] at hmerged
      rw [he.body_concat_sharedStart]
      simp only [List.append_assoc, List.cons_append, List.nil_append] at hmerged htail ⊢
      exact .tail (.single hmerged) htail
    · exact .single (.replace before after
        (he.mem_alternatives_extracted hα fun hA hs => hhead ⟨hA, hs⟩))

/-- A derivation before an extraction is one after it. -/
theorem transGen_extracted (he : g.Extractable A s new) (hd : TransGen g.Step σ τ) :
    TransGen (g.extracted A s new).Step σ τ := by
  induction hd with
  | single hs => exact he.transGen_of_step hs
  | tail _ hs ih => exact ih.trans (he.transGen_of_step hs)

theorem derives_extracted (he : g.Extractable A s new) (hd : g.Derives σ τ) :
    (g.extracted A s new).Derives σ τ := by
  rcases reflTransGen_iff_eq_or_transGen.mp hd with rfl | hd
  · exact .refl _
  · exact (he.transGen_extracted hd).to_reflTransGen

/-! ## What a sequence begins with -/

theorem yields_iff (he : g.Extractable A s new) {w : List Symbol} (hσ : new ∉ σ) :
    (g.extracted A s new).Yields σ w ↔ g.Yields σ w := by
  rw [← mem_ofSeq_meaning, ← mem_ofSeq_meaning,
    Reading.ofSeq_congr fun t ht => he.meaning_extracted (ne_of_mem_of_not_mem ht hσ)]

/-- The new nonterminal yields what the tails yield. -/
theorem yields_new_iff (he : g.Extractable A s new) {w : List Symbol} :
    (g.extracted A s new).Yields [new] w ↔ ∃ γ ∈ g.tails A s, g.Yields γ w := by
  have hnew : new ∈ (g.extracted A s new).nonterminals := by simp [he.nonterminals_extracted]
  rw [yields_nonterminal_iff hnew he.new_ne_epsilon, alternatives_extracted_new]
  exact exists_congr fun γ => and_congr_right fun hγ => he.yields_iff (he.new_not_mem_tail hγ)

theorem mem_nonterminals_iff (he : g.Extractable A s new) :
    C ∈ (g.extracted A s new).nonterminals ↔ C ∈ g.nonterminals ∨ C = new := by
  rw [he.nonterminals_extracted, List.mem_append, List.mem_singleton]

theorem ne_new_of_begins (he : g.Extractable A s new) (hσ : new ∉ σ) (h : g.Begins σ a) : a ≠ new := by
  induction h with
  | here => exact (List.ne_and_not_mem_of_not_mem_cons hσ).1.symm
  | inside hα _ ih => exact ih (he.not_mem_alternative hα)
  | after _ _ _ ih => exact ih (List.ne_and_not_mem_of_not_mem_cons hσ).2

/-- A sequence without the new nonterminal begins as before. -/
theorem begins_iff (he : g.Extractable A s new) (hσ : new ∉ σ) (hε : epsilon ∉ σ) :
    (g.extracted A s new).Begins σ a ↔ g.Begins σ a := by
  constructor
  · intro h
    obtain ⟨hn, ha⟩ := h.terminal
    obtain ⟨hn, hnew⟩ := not_or.mp (he.mem_nonterminals_iff.not.mp hn)
    obtain ⟨β, hd⟩ := h.exists_derives he.canonical_extracted hε
    obtain ⟨β', hβ⟩ := exists_refills he.tails_ne_nil new β
    obtain ⟨σ', hσ', hd'⟩ := he.derives_of_refills hd (.keep hnew hβ)
    obtain rfl := hσ'.eq_of_not_mem hσ
    exact .of_derives he.canonical hd' hε (.here hn ha)
  · intro h
    obtain ⟨hn, ha⟩ := h.terminal
    obtain ⟨β, hd⟩ := h.exists_derives he.canonical hε
    have hn' : a ∉ (g.extracted A s new).nonterminals :=
      he.mem_nonterminals_iff.not.mpr (not_or.mpr ⟨hn, he.ne_new_of_begins hσ h⟩)
    exact .of_derives he.canonical_extracted (he.derives_extracted hd) hε (.here hn' ha)

/-! ## What comes after a place -/

theorem comes_iff (he : g.Extractable A s new) (hσ : new ∉ σ) (hε : epsilon ∉ σ) :
    (g.extracted A s new).Comes σ X a ↔ g.Comes σ X a :=
  or_congr (he.begins_iff hσ hε) (and_congr_left' (he.yields_iff hσ))

theorem body_of_mem_tails (he : g.Extractable A s new) (hγ : γ ∈ g.tails A s) :
    γ = [epsilon] ∧ body γ = [] ∨ epsilon ∉ γ ∧ body γ = γ :=
  (he.isCanonical_of_mem_tails hγ).imp (fun h => ⟨h, h ▸ rfl⟩)
    fun h => ⟨h.2, Alternative.body_eq_self h.2⟩

/-- What comes first in the new nonterminal comes first in a tail. -/
theorem comes_new_iff (he : g.Extractable A s new) :
    (g.extracted A s new).Comes [new] X a ↔ ∃ γ ∈ g.tails A s, g.Comes (body γ) X a := by
  have hε := he.canonical.epsilon_not_mem
  constructor
  · rintro (hb | ⟨hv, ha⟩)
    · cases hb with
      | here hn => exact absurd (he.mem_nonterminals_iff.mpr (Or.inr rfl)) hn
      | @inside _ _ γ _ hγ hb =>
        have hγε := he.canonical_extracted.epsilon_not_mem_of_begins hγ hb
        rw [alternatives_extracted_new] at hγ
        refine ⟨γ, hγ, Or.inl ?_⟩
        rw [Alternative.body_eq_self hγε]
        exact (he.begins_iff (he.new_not_mem_tail hγ) hγε).mp hb
      | after _ _ hb => exact absurd hb not_begins_nil
    · obtain ⟨γ, hγ, hv⟩ := he.yields_new_iff.mp hv
      exact ⟨γ, hγ, Or.inr ⟨hv.to_body hε, ha⟩⟩
  · rintro ⟨γ, hγ, hb | ⟨hv, ha⟩⟩
    · rcases he.body_of_mem_tails hγ with ⟨-, hbody⟩ | ⟨hγε, hbody⟩
      · exact absurd (hbody ▸ hb) not_begins_nil
      · rw [hbody, ← he.begins_iff (he.new_not_mem_tail hγ) hγε] at hb
        exact Or.inl (.inside (by rwa [alternatives_extracted_new]) hb)
    · exact Or.inr ⟨he.yields_new_iff.mpr ⟨γ, hγ, hv.of_body⟩, ha⟩

/-- What comes first in a sequence with the new nonterminal at its end comes first in the sequence with a tail
there. -/
theorem comes_append_new_iff (he : g.Extractable A s new) (hσ : new ∉ σ) (hε : epsilon ∉ σ) :
    (g.extracted A s new).Comes (σ ++ [new]) X a ↔ ∃ γ ∈ g.tails A s, g.Comes (σ ++ body γ) X a := by
  simp only [comes_append_iff hε, he.comes_iff hσ hε]
  constructor
  · rintro (hb | ⟨hv, ha⟩)
    · obtain ⟨γ, hγ⟩ := List.exists_mem_of_ne_nil _ he.tails_ne_nil
      exact ⟨γ, hγ, Or.inl hb⟩
    · obtain ⟨γ, hγ, ha⟩ := he.comes_new_iff.mp ha
      exact ⟨γ, hγ, Or.inr ⟨hv, ha⟩⟩
  · rintro ⟨γ, hγ, ha⟩
    exact ha.mono fun b hb => he.comes_new_iff.mpr ⟨γ, hγ, hb⟩

/-- What follows a nonterminal after an extraction followed it before; what follows the new one followed
the one from which it was extracted. -/
theorem followedBy_of_extracted (he : g.Extractable A s new) (hstart : start ≠ new)
    (hf : (g.extracted A s new).FollowedBy start C a) (hC : C ∈ (g.extracted A s new).nonterminals) :
    g.FollowedBy start (mergedOwner A new C) a := by
  refine FollowedBy.transfer_places (mergedOwner_of_ne A hstart)
    (fun D C before after hC hα a ha => ?_) hf hC
  have hafter := he.canonical_extracted.epsilon_not_mem_after hα
  rcases he.mem_alternatives_cases hα with ⟨rfl, hγ⟩ | ⟨rfl, hmerged⟩ | ⟨hD, hα⟩
  · obtain ⟨hne, hnew⟩ := ne_and_not_mem_of_place (he.new_not_mem_tail hγ)
    rw [mergedOwner_self, he.comes_iff hnew hafter] at ha
    rw [mergedOwner_of_ne A hne]
    have hmem := he.mem_of_mem_tails hγ
    rw [Alternative.body_eq_self (he.canonical_extracted.epsilon_not_mem_of_place hα hC),
      ← List.append_assoc] at hmem
    exact ha.followedBy hmem
  · rw [mergedOwner_of_ne D he.ne] at ha
    rcases place_of_append_singleton hmerged.symm with ⟨rfl, -, rfl⟩ | ⟨rest, hrest, rfl⟩
    · rw [mergedOwner_self]
      exact comes_nil_iff.mp ha
    · obtain ⟨hne, hnew⟩ := ne_and_not_mem_of_place (hrest ▸ he.new_not_mem_sharedStart)
      obtain ⟨γ, hγ, ha⟩ := (he.comes_append_new_iff hnew
        fun hε => hafter (List.mem_append_left _ hε)).mp ha
      have hmem := he.mem_of_mem_tails hγ
      rw [hrest, List.append_assoc, List.cons_append] at hmem
      rw [mergedOwner_of_ne D hne]
      exact ha.followedBy hmem
  · obtain ⟨hne, hnew⟩ := ne_and_not_mem_of_place (he.not_mem_alternative hα)
    rw [mergedOwner_of_ne A hD, he.comes_iff hnew hafter] at ha
    rw [mergedOwner_of_ne A hne]
    exact ha.followedBy hα

/-- What follows `A` follows the new nonterminal. -/
theorem followedBy_new (he : g.Extractable A s new)
    (hf : (g.extracted A s new).FollowedBy start A a) : (g.extracted A s new).FollowedBy start new a :=
  .last (he.mem_alternatives_self_iff.mpr (Or.inl rfl)) .nil hf

/-- A place in an alternative that was merged is one in the common start or in a tail. -/
theorem followedBy_of_merged (he : g.Extractable A s new) {before after : List Symbol}
    (hα : before ++ C :: after ∈ g.alternatives A) (hhead : (before ++ C :: after).head? = some s)
    (ha : g.Comes after ((g.extracted A s new).FollowedBy start A) a) :
    (g.extracted A s new).FollowedBy start C a := by
  obtain ⟨γ, hγ, hmerged⟩ := he.mem_merged_iff.mp ⟨hα, hhead⟩
  have hbody := congrArg body hmerged
  rw [he.body_concat_sharedStart, Alternative.body_eq_self (he.epsilon_not_mem_of_head? hα hhead)] at hbody
  have hafter := he.canonical.epsilon_not_mem_after hα
  have hnew := (ne_and_not_mem_of_place (he.not_mem_alternative hα)).2
  rcases place_of_append hbody.symm with ⟨rest, hstart, rfl⟩ | ⟨front, hfront, -⟩
  · have hrest : (g.extracted A s new).Comes (rest ++ [new]) _ a := (he.comes_append_new_iff
      (fun h => hnew (List.mem_append_left _ h)) fun h => hafter (List.mem_append_left _ h)).mpr
        ⟨γ, hγ, ha⟩
    have hplace : before ++ C :: (rest ++ [new]) = g.sharedStart A s ++ [new] := by
      rw [hstart, List.append_assoc, List.cons_append]
    exact hrest.followedBy (he.mem_alternatives_self_iff.mpr (Or.inl hplace))
  · rcases he.body_of_mem_tails hγ with ⟨-, hnil⟩ | ⟨-, hself⟩
    · simp [hnil] at hfront
    · rw [← he.comes_iff hnew hafter] at ha
      have hplace : front ++ C :: after ∈ (g.extracted A s new).alternatives new := by
        rwa [alternatives_extracted_new, ← hfront, hself]
      exact (ha.mono fun _ => he.followedBy_new).followedBy hplace

/-- What followed a nonterminal before an extraction follows it after. -/
theorem followedBy_extracted (he : g.Extractable A s new) (hf : g.FollowedBy start C a)
    (hC : C ∈ g.nonterminals) : (g.extracted A s new).FollowedBy start C a := by
  refine FollowedBy.transfer_places (ρ := id) rfl (fun D C before after hC hα a ha => ?_) hf hC
  rw [id_eq] at ha ⊢
  by_cases hhead : D = A ∧ (before ++ C :: after).head? = some s
  · obtain ⟨rfl, hhead⟩ := hhead
    exact he.followedBy_of_merged hα hhead ha
  · have hnew := (ne_and_not_mem_of_place (he.not_mem_alternative hα)).2
    rw [← he.comes_iff hnew (he.canonical.epsilon_not_mem_after hα)] at ha
    exact ha.followedBy (he.mem_alternatives_extracted hα fun hA hs => hhead ⟨hA, hs⟩)

/-- What follows a nonterminal that was there is what followed it. -/
theorem followedBy_iff (he : g.Extractable A s new) (hstart : start ≠ new) (hC : C ∈ g.nonterminals) :
    (g.extracted A s new).FollowedBy start C a ↔ g.FollowedBy start C a := by
  refine ⟨fun hf => ?_, fun hf => he.followedBy_extracted hf hC⟩
  have := he.followedBy_of_extracted hstart hf (he.mem_nonterminals_iff.mpr (Or.inl hC))
  rwa [mergedOwner_of_ne A (ne_of_mem_of_not_mem hC he.not_mem_nonterminals)] at this

/-! ## The analyses -/

/-- An extraction keeps the analyses of a nonterminal that was there. -/
theorem keeps_analyses (he : g.Extractable A s new) (hstart : start ≠ new) (hC : C ∈ g.nonterminals) :
    (g.extracted A s new).first.getD C ∅ = g.first.getD C ∅ ∧
      ((g.extracted A s new).follow (g.extracted A s new).first start).getD C ∅ =
        (g.follow g.first start).getD C ∅ ∧
      (C ∈ (g.extracted A s new).leftRecursive ↔ C ∈ g.leftRecursive) := by
  have hC' := he.mem_nonterminals_iff.mpr (Or.inl hC)
  have hnew : new ∉ [C] := by simpa using (ne_of_mem_of_not_mem hC he.not_mem_nonterminals).symm
  have hε : epsilon ∉ [C] := by simpa using (he.canonical.ne_epsilon hC).symm
  refine ⟨NameSet.ext fun a => ?_, NameSet.ext fun a => ?_, ?_⟩
  · rw [mem_first_iff he.canonical_extracted hC', mem_first_iff he.canonical hC, he.begins_iff hnew hε,
      he.yields_iff hnew]
  · rw [mem_follow_iff he.canonical_extracted hC', mem_follow_iff he.canonical hC,
      he.followedBy_iff hstart hC]
  · rw [mem_leftRecursive_iff_transGen he.canonical_extracted, mem_leftRecursive_iff_transGen he.canonical,
      transGen_front_iff_derives he.canonical_extracted hC', transGen_front_iff_derives he.canonical hC]
    constructor
    · rintro ⟨β, hd⟩
      obtain ⟨β', hβ⟩ := exists_refills he.tails_ne_nil new β
      exact ⟨β', he.transGen_of_refills hnew hd (.keep (List.ne_of_not_mem_cons hnew).symm hβ)⟩
    · rintro ⟨β, hd⟩
      exact ⟨β, he.transGen_extracted hd⟩

end Extractable

/-- Extractions keep the analyses of the nonterminals that were there. -/
theorem Extractions.keeps_analyses (hg : g.Canonical) (hx : Extractions g r added)
    (hstart : start ∉ added) (hC : C ∈ g.nonterminals) :
    r.first.getD C ∅ = g.first.getD C ∅ ∧
      (r.follow r.first start).getD C ∅ = (g.follow g.first start).getD C ∅ ∧
      (C ∈ r.leftRecursive ↔ C ∈ g.leftRecursive) := by
  induction hx with
  | refl => exact ⟨rfl, rfl, Iff.rfl⟩
  | @tail h added A s new hx he ih =>
    simp only [List.mem_append, List.mem_singleton, not_or] at hstart
    have hC' : C ∈ h.nonterminals := by
      rw [hx.nonterminals_eq]
      exact List.mem_append_left _ hC
    obtain ⟨hfirst, hfollow, hleft⟩ := ih hstart.1
    obtain ⟨hfirst', hfollow', hleft'⟩ :=
      Extractable.keeps_analyses ⟨he, hx.canonical hg⟩ hstart.2 hC'
    exact ⟨hfirst'.trans hfirst, hfollow'.trans hfollow, hleft'.trans hleft⟩

/-- Factoring keeps the analyses of the nonterminals that were there: with every start symbol that is not one of
the new names, their FIRST and FOLLOW sets and their left recursion stay as they were. -/
theorem leftFactor_keeps_analyses (hg : g.Canonical) : ∃ r added, g.leftFactor = .ok r ∧
    r.nonterminals = g.nonterminals ++ added ∧ ∀ start ∉ added, ∀ A ∈ g.nonterminals,
      r.first.get? A = g.first.get? A ∧
      (r.follow r.first start).get? A = (g.follow g.first start).get? A ∧
      (A ∈ r.leftRecursive ↔ A ∈ g.leftRecursive) := by
  obtain ⟨r, added, hr, hx, -⟩ := exists_leftFactor hg
  refine ⟨r, added, hr, hx.nonterminals_eq, fun start hstart A hA => ?_⟩
  obtain ⟨hfirst, hfollow, hleft⟩ := hx.keeps_analyses hg hstart hA
  have hA' : A ∈ r.nonterminals := hx.nonterminals_eq ▸ List.mem_append_left _ hA
  refine ⟨?_, ?_, hleft⟩
  · rw [OrderedMap.get?_eq_some_getD (keys_first.symm ▸ hA') ∅,
      OrderedMap.get?_eq_some_getD (keys_first.symm ▸ hA) ∅, hfirst]
  · rw [OrderedMap.get?_eq_some_getD ((keys_follow _).symm ▸ hA') ∅,
      OrderedMap.get?_eq_some_getD ((keys_follow _).symm ▸ hA) ∅, hfollow]

/-- Common starts inside common starts, one of which vanishes and leads back to `S`, and a nonterminal that derives no
word. -/
def coiled : Grammar := .ofList [
  ("S", [["a", "b", "S"], ["a", "b", "T"], ["a"], ["N", "x"], ["N", "N", "S", "y"]]),
  ("N", [["a", "N"], ["ε"]]), ("T", [["T", "a"], ["T", "b"]])]

theorem coiled_keeps_analyses : coiled.Canonical ∧ ∃ r added, coiled.leftFactor = .ok r ∧
    r.nonterminals = coiled.nonterminals ++ added ∧ ∀ start ∉ added, ∀ A ∈ coiled.nonterminals,
      r.first.get? A = coiled.first.get? A ∧
      (r.follow r.first start).get? A = (coiled.follow coiled.first start).get? A ∧
      (A ∈ r.leftRecursive ↔ A ∈ coiled.leftRecursive) := by
  have hg : coiled.Canonical := by decide +kernel
  exact ⟨hg, leftFactor_keeps_analyses hg⟩

end FormalLanguages.Grammar
