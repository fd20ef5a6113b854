import FormalLanguages.Proofs.Grammar.EliminationLanguage
import FormalLanguages.Proofs.Grammar.FactoringRun
import Mathlib.Data.Finset.Max
/-!
# Factoring is undone by inlining

To inline some nonterminals is to replace their occurrences by their alternatives, until none is left.
This is a derivation of the grammar that has alternatives for these nonterminals only, all other symbols
being its words; so it is enough to know what that grammar yields. An extraction does not change what it
yields from the nonterminals that were there, and to begin with it has no nonterminals.

Results:
* `Outweighs.wellFounded`, `Extractions.exists_outweighs`: the replacements come to an end.
* `inlines_iff_yields`: what an alternative is inlined to is what it yields.
* `Extractable.meaning_part`: an extraction does not change what the other symbols yield.
* `leftFactor_inlines`: the inlined alternatives of a factored grammar are those of the given one.
-/
namespace FormalLanguages

open FormalLanguages.Alternative (body)

theorem Alternative.IsCanonical.eq_of_body {α β : Alternative} (hα : α.IsCanonical)
    (hβ : β.IsCanonical) (h : body α = body β) : α = β := by
  rcases hα with rfl | ⟨hα, hεα⟩ <;> rcases hβ with rfl | ⟨hβ, hεβ⟩
  · rfl
  · rw [body_eq_self hεβ] at h
    exact absurd h.symm hβ
  · rw [body_eq_self hεα] at h
    exact absurd h hα
  · rwa [body_eq_self hεα, body_eq_self hεβ] at h

theorem Alternative.body_concat (α β : Alternative) : body (α.concat β) = body (α ++ β) := by
  rw [concat_eq]
  split
  · next h => rw [h]; rfl
  · exact body_eq_self fun h => (mem_body.mp h).2 rfl

namespace Grammar

/-- An occurrence of one of the nonterminals is replaced by one of its alternatives. -/
inductive InlineStep (g : Grammar) (F : List Symbol) : Alternative → Alternative → Prop
  | replace {B : Symbol} {δ : Alternative} (before after : List Symbol) : B ∈ F →
    δ ∈ g.alternatives B →
    InlineStep g F (before ++ B :: after) (Alternative.concat (before ++ δ) after)

/-- Replacements lead to an alternative in which none of the nonterminals is left. -/
def Inlines (g : Grammar) (F : List Symbol) (β α : Alternative) : Prop :=
  Relation.ReflTransGen (g.InlineStep F) β α ∧ ∀ B ∈ F, B ∉ α

/-- The productions of some nonterminals. -/
def part (g : Grammar) (F : List Symbol) : Grammar := g.filter fun B _ => B ∈ F

variable {g h r : Grammar} {F added : List Symbol} {A B s t new : Symbol} {α β γ δ : Alternative}

/-! ## Part of a grammar -/

theorem alternatives_part (g : Grammar) (F : List Symbol) (B : Symbol) :
    (g.part F).alternatives B = if B ∈ F then g.alternatives B else [] := by
  unfold part alternatives OrderedMap.getD
  rw [OrderedMap.get?_filter]
  by_cases hB : B ∈ F <;> cases g.get? B <;> simp [hB, Option.filter_some]

theorem mem_alternatives_part : α ∈ (g.part F).alternatives B ↔ B ∈ F ∧ α ∈ g.alternatives B := by
  rw [alternatives_part]
  split <;> simp [*]

theorem mem_nonterminals_part : B ∈ (g.part F).nonterminals ↔ B ∈ F ∧ B ∈ g.nonterminals := by
  unfold part nonterminals
  rw [OrderedMap.mem_keys_iff, OrderedMap.mem_keys_iff]
  simp only [OrderedMap.get?_filter, Option.filter_eq_some_iff, decide_eq_true_eq, exists_and_right]
  exact and_comm

theorem part_nonterminals (g : Grammar) : g.part g.nonterminals = g := by
  have hall : g.entries.filter (fun e => decide (e.1 ∈ g.nonterminals)) = g.entries :=
    List.filter_eq_self.mpr fun e he => decide_eq_true (List.mem_map_of_mem he)
  unfold part OrderedMap.filter
  congr

theorem epsilon_not_mem_part (hε : epsilon ∉ g.nonterminals) : epsilon ∉ (g.part F).nonterminals :=
  fun h => hε (mem_nonterminals_part.mp h).2

/-! ## Inlining as a derivation -/

theorem InlineStep.step (hε : epsilon ∉ g.nonterminals) (h : g.InlineStep F β α) :
    (g.part F).Step (body β) (body α) := by
  cases h with
  | replace before after hB hδ =>
    have hne := ne_of_mem_of_not_mem (mem_nonterminals_of_mem_alternatives hδ) hε
    rw [Alternative.body_append, Alternative.body_cons_of_ne hne, Alternative.body_concat,
      Alternative.body_append, Alternative.body_append, List.append_assoc]
    exact .replace (body before) (body after) (mem_alternatives_part.mpr ⟨hB, hδ⟩)

theorem InlineStep.isCanonical (h : g.InlineStep F β α) : α.IsCanonical := by
  cases h with
  | replace => exact Alternative.isCanonical_concat _ _

theorem exists_inlineStep (hβ : β.IsCanonical) {w : List Symbol} (h : (g.part F).Step (body β) w) :
    ∃ α, g.InlineStep F β α ∧ body α = w := by
  rcases hβ with rfl | ⟨-, hεβ⟩
  · rw [Alternative.body_epsilon_cons, Alternative.body_nil] at h
    generalize hnil : ([] : List Symbol) = v at h
    cases h with
    | replace before after => simp at hnil
  · rw [Alternative.body_eq_self hεβ] at h
    cases h with
    | @replace B δ before after hδ =>
      obtain ⟨hB, hδ⟩ := mem_alternatives_part.mp hδ
      refine ⟨_, .replace before after hB hδ, ?_⟩
      have hbefore : body before = before :=
        Alternative.body_eq_self fun h => hεβ (List.mem_append_left _ h)
      have hafter : body after = after :=
        Alternative.body_eq_self fun h => hεβ (List.mem_append_right _ (List.mem_cons_of_mem _ h))
      rw [Alternative.body_concat, Alternative.body_append, Alternative.body_append, hbefore, hafter,
        List.append_assoc]

theorem exists_inlines {w : List Symbol} (hβ : β.IsCanonical) (h : (g.part F).Derives (body β) w) :
    ∃ α, Relation.ReflTransGen (g.InlineStep F) β α ∧ body α = w ∧ α.IsCanonical := by
  generalize hv : body β = v at h
  induction h using Relation.ReflTransGen.head_induction_on generalizing β with
  | refl => exact ⟨β, .refl, hv, hβ⟩
  | head hstep _ ih =>
    obtain ⟨β', hβ', hbody⟩ := exists_inlineStep hβ (hv ▸ hstep)
    obtain ⟨α, hα, hw, hcan⟩ := ih hβ'.isCanonical hbody
    exact ⟨α, .head hβ' hα, hw, hcan⟩

/-- What an alternative is inlined to is what it yields, where only the inlined nonterminals have
alternatives. -/
theorem inlines_iff_yields (hε : epsilon ∉ g.nonterminals) (hF : ∀ B ∈ F, B ∈ g.nonterminals)
    (hβ : β.IsCanonical) :
    g.Inlines F β α ↔ (g.part F).Yields β (body α) ∧ α.IsCanonical := by
  have hεpart := epsilon_not_mem_part (F := F) hε
  have hyields : (g.part F).Yields β (body α) ↔
      (g.part F).IsWord (body α) ∧ (g.part F).Derives (body β) (body α) := by
    rw [derives_iff_yields hεpart fun h => (Alternative.mem_body.mp h).2 rfl]
    exact ⟨.to_body hεpart, .of_body⟩
  have hword : (g.part F).IsWord (body α) ↔ ∀ B ∈ F, B ∉ α := by
    simp only [IsWord, mem_nonterminals_part, Alternative.mem_body]
    constructor
    · exact fun h B hB hmem =>
        (h B ⟨hmem, ne_of_mem_of_not_mem (hF B hB) hε⟩).1 ⟨hB, hF B hB⟩
    · exact fun h B ⟨hmem, hne⟩ => ⟨fun hB => h B hB.1 hmem, hne⟩
  rw [hyields, hword]
  constructor
  · rintro ⟨hsteps, hnone⟩
    suffices (g.part F).Derives (body β) (body α) ∧ α.IsCanonical from ⟨⟨hnone, this.1⟩, this.2⟩
    clear hnone hyields hword
    induction hsteps with
    | refl => exact ⟨.refl _, hβ⟩
    | tail _ hstep ih => exact ⟨Relation.ReflTransGen.tail ih.1 (hstep.step hε), hstep.isCanonical⟩
  · rintro ⟨⟨hnone, hderives⟩, hα⟩
    obtain ⟨α', hsteps, hbody, hα'⟩ := exists_inlines hβ hderives
    obtain rfl := hα'.eq_of_body hα hbody
    exact ⟨hsteps, hnone⟩

/-! ## The end of inlining -/

/-- The sum of the weights of the symbols. -/
def load (W : Symbol → Nat) : List Symbol → Nat
  | [] => 0
  | t :: α => W t + load W α

/-- The inlined nonterminals outweigh their alternatives. -/
structure Outweighs (g : Grammar) (F : List Symbol) (W : Symbol → Nat) : Prop where
  epsilon : W epsilon = 0
  alternative : ∀ B ∈ F, ∀ δ ∈ g.alternatives B, load W δ < W B

@[simp] theorem load_nil (W : Symbol → Nat) : load W [] = 0 := rfl

@[simp] theorem load_cons (W : Symbol → Nat) (t : Symbol) (α : List Symbol) :
    load W (t :: α) = W t + load W α := rfl

@[simp] theorem load_append (W : Symbol → Nat) (α β : List Symbol) :
    load W (α ++ β) = load W α + load W β := by
  induction α with
  | nil => simp
  | cons t α ih => simp only [List.cons_append, load_cons, ih, Nat.add_assoc]

theorem load_body {W : Symbol → Nat} (hW : W epsilon = 0) (α : List Symbol) :
    load W (body α) = load W α := by
  induction α with
  | nil => rfl
  | cons t α ih =>
    by_cases ht : t = epsilon
    · subst ht; simp [hW, ih]
    · rw [Alternative.body_cons_of_ne ht, load_cons, load_cons, ih]

theorem load_concat {W : Symbol → Nat} (hW : W epsilon = 0) (α β : Alternative) :
    load W (α.concat β) = load W α + load W β := by
  rw [← load_body hW, Alternative.body_concat, load_body hW, load_append]

theorem load_congr {W V : Symbol → Nat} (k : Nat) (h : ∀ t ∈ α, W t = k * V t) :
    load W α = k * load V α := by
  induction α with
  | nil => simp
  | cons t α ih =>
    obtain ⟨ht, hα⟩ := List.forall_mem_cons.mp h
    rw [load_cons, load_cons, ih hα, ht, Nat.mul_add]

theorem Outweighs.wellFounded {W : Symbol → Nat} (hW : Outweighs g F W) :
    WellFounded fun α β => g.InlineStep F β α := by
  refine Subrelation.wf (fun {α β} h => ?_) (measure (load W)).wf
  change load W α < load W β
  cases h with
  | replace before after hB hδ =>
    have hlt := hW.alternative _ hB _ hδ
    rw [load_concat hW.epsilon]
    simp only [load_append, load_cons]
    omega

/-- After an extraction the new nonterminal weighs more than what follows it, and still less than what
it makes room for if all weights are doubled. -/
theorem Mergeable.exists_outweighs (he : g.Mergeable A s new) {W : Symbol → Nat}
    (hW : Outweighs g F W) : ∃ V, Outweighs (g.extracted A s new) (F ++ [new]) V := by
  obtain ⟨γ, hγ, hmax⟩ := Finset.exists_max_image (g.tails A s).toFinset (load W)
    (List.toFinset_nonempty_iff _ |>.mpr he.tails_ne_nil)
  simp only [List.mem_toFinset] at hγ hmax
  let V : Symbol → Nat := fun t => if t = new then 2 * load W γ + 1 else 2 * W t
  have hold : ∀ {α}, new ∉ α → load V α = 2 * load W α := fun hα =>
    load_congr 2 fun t ht => if_neg (ne_of_mem_of_not_mem ht hα)
  have hnew : V new = 2 * load W γ + 1 := if_pos rfl
  refine ⟨V, by simp [V, he.new_ne_epsilon.symm, hW.epsilon], fun B hB δ hδ => ?_⟩
  have hBF : B ≠ new → B ∈ F ∧ V B = 2 * W B := fun hne =>
    ⟨(List.mem_append.mp hB).resolve_right (by simpa using hne), if_neg hne⟩
  rcases he.mem_alternatives_cases hδ with ⟨rfl, htail⟩ | ⟨rfl, rfl⟩ | ⟨hne, hδ⟩
  · rw [hold (he.new_not_mem_tail htail), hnew]
    have := hmax δ htail
    omega
  · obtain ⟨hBF, hVB⟩ := hBF he.ne
    obtain ⟨δ, hmem, hδ⟩ := exists_append_of_mem_tails hγ
    have hload : load W γ = load W δ := by
      rw [hδ]
      split
      · next hnil => simp [hnil, hW.epsilon]
      · rfl
    have hlt := hW.alternative B hBF _ hmem
    rw [load_append] at hlt
    rw [load_append, load_cons, load_nil, hold he.new_not_mem_sharedStart, hnew, hVB]
    omega
  · obtain ⟨hBF, hVB⟩ := hBF hne
    have := hW.alternative B hBF δ hδ
    rw [hold (he.not_mem_alternative hδ), hVB]
    omega

theorem Extractions.mem_nonterminals_of_mem (hx : Extractions g r added) :
    ∀ B ∈ added, B ∈ r.nonterminals := fun B hB => by
  rw [hx.nonterminals_eq]
  exact List.mem_append_right _ hB

theorem Extractions.exists_outweighs (hx : Extractions g r added) : ∃ W, Outweighs r added W := by
  induction hx with
  | refl => exact ⟨fun _ => 0, rfl, fun _ h => nomatch h⟩
  | tail _ he ih =>
    obtain ⟨W, hW⟩ := ih
    exact he.exists_outweighs hW

/-! ## What is yielded -/

theorem any_congr {L M : Reading} {αs : List Alternative} (h : ∀ α ∈ αs, L.ofSeq α = M.ofSeq α) :
    L.any αs = M.any αs :=
  Set.ext fun _ => exists_congr fun α => and_congr_right fun hα => by rw [h α hα]

namespace Extractable

/-- Where the new nonterminal is read as its alternatives, `A` has the same words before and after. -/
theorem any_alternatives (he : g.Extractable A s new) {L : Reading} (hε : L epsilon = 1)
    (hnew : L new = L.any (g.tails A s)) :
    L.any ((g.extracted A s new).alternatives A) = L.any (g.alternatives A) := by
  have hmerged : L.ofSeq (g.sharedStart A s ++ [new]) =
      L.ofSeq (g.sharedStart A s) * L.any (g.tails A s) := by
    rw [Reading.ofSeq_append, Reading.ofSeq_singleton, hnew]
  refine Set.ext fun w => ⟨?_, ?_⟩
  · rintro ⟨α, hα, hw⟩
    rcases he.mem_alternatives_self_iff.mp hα with rfl | ⟨hα, -⟩
    · rw [hmerged] at hw
      obtain ⟨u, hu, v, ⟨γ, hγ, hv⟩, rfl⟩ := hw
      refine ⟨_, (he.mem_merged_iff.mpr ⟨γ, hγ, rfl⟩).1, ?_⟩
      rw [Reading.ofSeq_concat hε]
      exact ⟨u, hu, v, hv, rfl⟩
    · exact ⟨α, hα, hw⟩
  · rintro ⟨α, hα, hw⟩
    by_cases hs : α.head? = some s
    · obtain ⟨γ, hγ, rfl⟩ := he.mem_merged_iff.mp ⟨hα, hs⟩
      rw [Reading.ofSeq_concat hε] at hw
      refine ⟨_, he.mem_alternatives_self_iff.mpr (Or.inl rfl), ?_⟩
      rw [hmerged]
      exact mul_le_mul' le_rfl (Reading.le_any hγ) hw
    · exact ⟨α, he.mem_alternatives_self_iff.mpr (Or.inr ⟨hα, hs⟩), hw⟩

theorem mem_nonterminals_part_extracted (he : g.Extractable A s new) :
    B ∈ ((g.extracted A s new).part (F ++ [new])).nonterminals ↔
      B = new ∨ B ∈ (g.part F).nonterminals := by
  have hnew := he.not_mem_nonterminals
  simp only [mem_nonterminals_part, he.nonterminals_extracted, List.mem_append, List.mem_singleton]
  by_cases hB : B = new <;> simp [hB]

theorem meaning_part_new (he : g.Extractable A s new) :
    ((g.extracted A s new).part (F ++ [new])).meaning new =
      ((g.extracted A s new).part (F ++ [new])).meaning.any (g.tails A s) := by
  rw [meaning_eq_any (he.mem_nonterminals_part_extracted.mpr (Or.inl rfl)) he.new_ne_epsilon,
    alternatives_part, if_pos (by simp), alternatives_extracted_new]

theorem meaning_part_epsilon (he : g.Extractable A s new) :
    ((g.extracted A s new).part (F ++ [new])).meaning epsilon = 1 :=
  meaning_epsilon (epsilon_not_mem_part he.canonical_extracted.epsilon_not_mem)

theorem meaning_part_le (he : g.Extractable A s new) (hne : t ≠ new) :
    ((g.extracted A s new).part (F ++ [new])).meaning t ≤ (g.part F).meaning t := by
  set L := Split.withPrime (g.part F).meaning new ((g.part F).meaning.any (g.tails A s)) with hL
  have hLnew : L new = (g.part F).meaning.any (g.tails A s) := Split.withPrime_self _ _
  have hLne : ∀ {t}, t ≠ new → L t = (g.part F).meaning t := Split.withPrime_of_ne _ _
  have hLseq : ∀ {α}, new ∉ α → L.ofSeq α = (g.part F).meaning.ofSeq α := Split.ofSeq_withPrime _ _
  have hLε : L epsilon = 1 := by
    rw [hLne he.new_ne_epsilon.symm]
    exact meaning_epsilon (epsilon_not_mem_part he.canonical.epsilon_not_mem)
  have hLA : L.any ((g.extracted A s new).alternatives A) = (g.part F).meaning.any (g.alternatives A) := by
    rw [he.any_alternatives hLε (hLnew.trans (any_congr fun γ hγ => (hLseq (he.new_not_mem_tail hγ)).symm))]
    exact any_congr fun α hα => hLseq (he.not_mem_alternative hα)
  have hrespects : L.Respects ((g.extracted A s new).part (F ++ [new])) := by
    refine ⟨?_, fun a ha hε => ?_, fun C α hα => ?_⟩
    · rw [hLε]; rfl
    · have ha := not_or.mp (he.mem_nonterminals_part_extracted.not.mp ha)
      rw [hLne ha.1]
      exact meaning_respects.terminal a ha.2 hε
    · obtain ⟨hC, hα⟩ := mem_alternatives_part.mp hα
      have hCF : C ≠ new → C ∈ F := fun hne =>
        (List.mem_append.mp hC).resolve_right (by simpa using hne)
      rcases he.mem_alternatives_cases hα with ⟨rfl, htail⟩ | ⟨rfl, rfl⟩ | ⟨hne, hα⟩
      · rw [hLnew, hLseq (he.new_not_mem_tail htail)]
        exact Reading.le_any htail
      · have hCF := hCF he.ne
        have hle := Reading.le_any (L := L) (he.mem_alternatives_self_iff.mpr (Or.inl rfl))
        rw [hLA] at hle
        rw [hLne he.ne, meaning_eq_any (mem_nonterminals_part.mpr ⟨hCF, he.mem⟩)
          (he.canonical.ne_epsilon he.mem), alternatives_part, if_pos hCF]
        exact hle
      · rw [hLseq (he.not_mem_alternative hα), hLne hne]
        exact ofSeq_meaning_le (mem_alternatives_part.mpr ⟨hCF hne, hα⟩)
  exact (meaning_le hrespects t).trans_eq (hLne hne)

theorem le_meaning_part (he : g.Extractable A s new) (hF : ∀ B ∈ F, B ∈ g.nonterminals)
    (hne : t ≠ new) :
    (g.part F).meaning t ≤ ((g.extracted A s new).part (F ++ [new])).meaning t := by
  -- for the given grammar the new nonterminal is a terminal that yields itself
  set M := ((g.extracted A s new).part (F ++ [new])).meaning with hM
  set L := Split.withPrime M new {[new]} with hL
  have hLne : ∀ {t}, t ≠ new → L t = M t := Split.withPrime_of_ne _ _
  have hrespects : L.Respects (g.part F) := by
    refine ⟨?_, fun a ha hε => ?_, fun C α hα => ?_⟩
    · rw [hLne he.new_ne_epsilon.symm]
      exact meaning_respects.epsilon
    · by_cases hnew : a = new
      · subst hnew
        rw [hL, Split.withPrime_self]; rfl
      · rw [hLne hnew]
        exact meaning_respects.terminal a
          (fun h => (he.mem_nonterminals_part_extracted.mp h).elim hnew ha) hε
    · obtain ⟨hC, hα⟩ := mem_alternatives_part.mp hα
      have hCnew : C ≠ new := ne_of_mem_of_not_mem (hF C hC) he.not_mem_nonterminals
      rw [hLne hCnew, hL, Split.ofSeq_withPrime _ _ (he.not_mem_alternative hα)]
      by_cases hCA : C = A
      · subst hCA
        refine (Reading.le_any hα).trans_eq ?_
        rw [← he.any_alternatives he.meaning_part_epsilon he.meaning_part_new, hM, meaning_eq_any
          (he.mem_nonterminals_part_extracted.mpr (Or.inr (mem_nonterminals_part.mpr ⟨hC, he.mem⟩)))
          (he.canonical.ne_epsilon he.mem), alternatives_part, if_pos (List.mem_append_left _ hC)]
      · refine ofSeq_meaning_le (mem_alternatives_part.mpr ⟨List.mem_append_left _ hC, ?_⟩)
        rwa [alternatives_extracted_of_ne hCA hCnew]
  exact (meaning_le hrespects t).trans_eq (hLne hne)

/-- An extraction does not change what the other symbols yield. -/
theorem meaning_part (he : g.Extractable A s new) (hF : ∀ B ∈ F, B ∈ g.nonterminals)
    (hne : t ≠ new) :
    ((g.extracted A s new).part (F ++ [new])).meaning t = (g.part F).meaning t :=
  le_antisymm (he.meaning_part_le hne) (he.le_meaning_part hF hne)

theorem any_part (he : g.Extractable A s new) (hF : ∀ B ∈ F, B ∈ g.nonterminals)
    (hB : B ∈ g.nonterminals) :
    ((g.extracted A s new).part (F ++ [new])).meaning.any ((g.extracted A s new).alternatives B) =
      (g.part F).meaning.any (g.alternatives B) := by
  have hsame : ((g.extracted A s new).part (F ++ [new])).meaning.any (g.alternatives B) =
      (g.part F).meaning.any (g.alternatives B) := any_congr fun α hα => Reading.ofSeq_congr fun t ht =>
    he.meaning_part hF (ne_of_mem_of_not_mem ht (he.not_mem_alternative hα))
  by_cases hA : B = A
  · subst hA
    rw [he.any_alternatives he.meaning_part_epsilon he.meaning_part_new, hsame]
  · rw [alternatives_extracted_of_ne hA (ne_of_mem_of_not_mem hB he.not_mem_nonterminals), hsame]

/-- An extraction does not change the languages. -/
theorem meaning_extracted (he : g.Extractable A s new) (hne : t ≠ new) :
    (g.extracted A s new).meaning t = g.meaning t := by
  have h := he.meaning_part (F := g.nonterminals) (fun _ h => h) hne
  rwa [← he.nonterminals_extracted, part_nonterminals, part_nonterminals] at h

end Extractable

namespace Extractions

theorem meaning_eq (hg : g.Canonical) (hx : Extractions g r added) (hA : A ∈ g.nonterminals) :
    r.meaning A = g.meaning A := by
  induction hx with
  | refl => rfl
  | tail hx he ih =>
    have he : Extractable _ _ _ _ := ⟨he, hx.canonical hg⟩
    refine (he.meaning_extracted (ne_of_mem_of_not_mem ?_ he.not_mem_nonterminals)).trans ih
    rw [hx.nonterminals_eq]
    exact List.mem_append_left _ hA

theorem any_part (hg : g.Canonical) (hx : Extractions g r added) (hA : A ∈ g.nonterminals) :
    (r.part added).meaning.any (r.alternatives A) = (g.part []).meaning.any (g.alternatives A) := by
  induction hx with
  | refl => rfl
  | tail hx he ih =>
    have he : Extractable _ _ _ _ := ⟨he, hx.canonical hg⟩
    refine (he.any_part hx.mem_nonterminals_of_mem ?_).trans ih
    rw [hx.nonterminals_eq]
    exact List.mem_append_left _ hA

/-- Inlining the new nonterminals gives the alternatives that were there. -/
theorem mem_alternatives_iff_inlines (hg : g.Canonical) (hx : Extractions g r added)
    (hA : A ∈ g.nonterminals) :
    α ∈ g.alternatives A ↔ ∃ β ∈ r.alternatives A, r.Inlines added β α := by
  have hr := hx.canonical hg
  have hyields : (∃ β ∈ r.alternatives A, (r.part added).Yields β (body α)) ↔
      ∃ β ∈ g.alternatives A, (g.part []).Yields β (body α) := by
    simp only [← mem_ofSeq_meaning]
    exact Set.ext_iff.mp (hx.any_part hg hA) (body α)
  have hnone : ∀ {β}, (g.part []).Yields β (body α) ↔ body α = body β := fun {β} => by
    have hword : (g.part []).IsWord (body β) := fun a ha =>
      ⟨fun h => List.not_mem_nil (mem_nonterminals_part.mp h).1, (Alternative.mem_body.mp ha).2⟩
    rw [← yields_word_iff hword]
    exact ⟨.to_body (epsilon_not_mem_part hg.epsilon_not_mem), .of_body⟩
  have hinlines : ∀ β ∈ r.alternatives A, (r.Inlines added β α ↔
      (r.part added).Yields β (body α) ∧ α.IsCanonical) := fun β hβ =>
    inlines_iff_yields hr.epsilon_not_mem hx.mem_nonterminals_of_mem (hr.cases hβ)
  constructor
  · intro hα
    obtain ⟨β, hβ, h⟩ := hyields.mpr ⟨α, hα, hnone.mpr rfl⟩
    exact ⟨β, hβ, (hinlines β hβ).mpr ⟨h, hg.cases hα⟩⟩
  · rintro ⟨β, hβ, h⟩
    obtain ⟨hβα, hα⟩ := (hinlines β hβ).mp h
    obtain ⟨α', hα', h⟩ := hyields.mp ⟨β, hβ, hβα⟩
    rwa [hα.eq_of_body (hg.cases hα') (hnone.mp h)]

theorem language_eq (hg : g.Canonical) (hx : Extractions g r added) (hA : A ∈ g.nonterminals) :
    r.language A = g.language A := by
  have hε := hg.ne_epsilon hA
  refine Language.ext fun w => ?_
  rw [mem_language_iff (hx.canonical hg).epsilon_not_mem hε, mem_language_iff hg.epsilon_not_mem hε]
  exact Set.ext_iff.mp (hx.meaning_eq hg hA) w

end Extractions

/-- Factoring is undone by inlining the new nonterminals, each of which is written once; so the
languages stay the same. -/
theorem leftFactor_inlines (hg : g.Canonical) : ∃ r added, g.leftFactor = .ok r ∧
    r.nonterminals = g.nonterminals ++ added ∧ (∀ B ∈ added, B ∉ g.symbols) ∧
    (WellFounded fun α β => r.InlineStep added β α) ∧ (∀ B ∈ added, r.alternatives B ≠ []) ∧
    (∀ A ∈ g.nonterminals, ∀ α, α ∈ g.alternatives A ↔
      ∃ β ∈ r.alternatives A, r.Inlines added β α) ∧
    (∀ A ∈ g.nonterminals, r.language A = g.language A) ∧
    ∀ B ∈ added, r.occurrences.count B = 1 := by
  obtain ⟨r, added, hr, hx, -⟩ := exists_leftFactor hg
  obtain ⟨W, hW⟩ := hx.exists_outweighs
  exact ⟨r, added, hr, hx.nonterminals_eq, fun _ => hx.not_mem_symbols, hW.wellFounded,
    fun _ => hx.alternatives_ne_nil, fun _ hA _ => hx.mem_alternatives_iff_inlines hg hA,
    fun _ => hx.language_eq hg, fun _ => hx.count_eq_one⟩

/-- Alternatives that begin alike in two ways, one of them twice and one just the common start; a new
name is taken. -/
def nested : Grammar := .ofList [
  ("S", [["a", "b", "S_fact"], ["a", "b", "d"], ["c"], ["a"], ["a", "b", "d"], ["c", "T"]]),
  ("T", [["d", "T"], ["ε"]])]

theorem nested_inlines : nested.Canonical ∧ ∃ r added, nested.leftFactor = .ok r ∧
    r.nonterminals = nested.nonterminals ++ added ∧ (∀ B ∈ added, B ∉ nested.symbols) ∧
    (WellFounded fun α β => r.InlineStep added β α) ∧ (∀ B ∈ added, r.alternatives B ≠ []) ∧
    (∀ A ∈ nested.nonterminals, ∀ α, α ∈ nested.alternatives A ↔
      ∃ β ∈ r.alternatives A, r.Inlines added β α) ∧
    (∀ A ∈ nested.nonterminals, r.language A = nested.language A) ∧
    ∀ B ∈ added, r.occurrences.count B = 1 := by
  have hg : nested.Canonical := by decide +kernel
  exact ⟨hg, leftFactor_inlines hg⟩

end Grammar

end FormalLanguages
