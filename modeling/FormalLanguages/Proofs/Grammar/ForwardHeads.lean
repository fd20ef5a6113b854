import FormalLanguages.Proofs.Grammar.EliminationTermination
import FormalLanguages.Proofs.Grammar.Splitting
/-!
# Heads that come later in the order

When a nonterminal has been treated, its alternatives begin with nonterminals that come later, if settling leaves
no front to replace. It leaves none where the fronts among the nonterminals before have no cycle; and a cycle
needs a front that is hidden, since those that are not come later. So in the result of the elimination left
recursion can only be hidden.

Results:
* `HeadsForward.exists_descendsIn`: where no hidden front leads back, fronts fall in rank.
* `HeadsForward.removeImmediate`: treating a nonterminal keeps heads coming later.
* `headsForward_of_eliminateFrom`: so does a run whose result has no hidden left recursion.
* `leftRecursive_eq_nil_iff_not_hidden`: left recursion that is left is hidden.
-/
namespace FormalLanguages

open Relation

/-- There is no cycle where each step that leads back goes up in rank. -/
theorem not_transGen_of_rises {α : Type} {R : α → α → Prop} (rank : α → Nat)
    (h : ∀ a b, R a b → ReflTransGen R b a → rank a < rank b) (a : α) : ¬ TransGen R a a := by
  have hrises : ∀ {b}, TransGen R a b → ReflTransGen R b a → rank a < rank b := by
    intro b hab
    induction hab with
    | single hab => exact h _ _ hab
    | tail hab hbc ih =>
      exact fun hca => (ih (ReflTransGen.head hbc hca)).trans
        (h _ _ hbc (hca.trans hab.to_reflTransGen))
  exact fun ha => Nat.lt_irrefl _ (hrises ha .refl)

namespace Grammar

variable {g h r : Grammar} {A B C D prime : Symbol} {taken : NameSet} {alternatives : List Alternative}
  {earlier : List Symbol} {rank : Symbol → Nat} {i n rounds : Nat}

/-! ## The order -/

/-- The place of a nonterminal in the order. -/
def position (g : Grammar) (A : Symbol) : Nat := g.nonterminals.idxOf A

theorem position_of_getElem? (hA : g.nonterminals[i]? = some A) : g.position A = i := by
  obtain ⟨hi, rfl⟩ := List.getElem?_eq_some_iff.mp hA
  exact List.Nodup.idxOf_getElem g.distinct i hi

theorem mem_take_iff_position (hA : A ∈ g.nonterminals) :
    A ∈ g.nonterminals.take i ↔ g.position A < i :=
  List.mem_take_iff_idxOf_lt hA

/-- What is not among the first nonterminals, nor the next one, comes after that. -/
theorem position_lt_of_not_mem (hA : g.nonterminals[i]? = some A) (hB : B ∈ g.nonterminals)
    (hi : B ∉ g.nonterminals.take i) (hne : B ≠ A) : g.position A < g.position B := by
  have hlt : B ∉ g.nonterminals.take (i + 1) := by
    rw [take_succ_of_getElem? hA]
    simp [hi, hne]
  rw [position_of_getElem? hA]
  rw [mem_take_iff_position hB] at hlt
  omega

theorem position_congr (hn : h.nonterminals = g.nonterminals) : h.position = g.position := by
  funext C
  rw [position, position, hn]

theorem position_append (hn : h.nonterminals = g.nonterminals ++ [B]) (hA : A ∈ g.nonterminals) :
    h.position A = g.position A := by
  rw [position, position, hn, List.idxOf_append_of_mem hA]

/-- A new nonterminal comes last. -/
theorem position_lt_new (hn : h.nonterminals = g.nonterminals ++ [B]) (hB : B ∉ g.nonterminals)
    (hA : A ∈ g.nonterminals) : h.position A < h.position B := by
  rw [position_append hn hA, position, position, hn, List.idxOf_append_of_notMem hB]
  exact (List.idxOf_lt_length_iff.mpr hA).trans_le (Nat.le_add_right _ _)

section
variable {originals : List Symbol} (horder : originals <+: g.nonterminals)
include horder

theorem position_eq_idxOf (hC : C ∈ originals) : g.position C = originals.idxOf C := by
  obtain ⟨new, hn⟩ := horder
  rw [position, ← hn, List.idxOf_append_of_mem hC]

/-- The given nonterminals come before the new ones. -/
theorem mem_take_of_mem_originals (hA : g.nonterminals[i]? = some A) (hAo : A ∉ originals) (hC : C ∈ originals) :
    C ∈ g.nonterminals.take i := by
  rw [mem_take_iff_position (horder.mem hC), position_eq_idxOf horder hC, ← position_of_getElem? hA]
  obtain ⟨new, hn⟩ := horder
  rw [position, ← hn, List.idxOf_append_of_notMem hAo]
  exact (List.idxOf_lt_length_iff.mpr hC).trans_le (Nat.le_add_right _ _)

end

/-! ## Heads -/

/-- Some nonterminals begin their alternatives with nonterminals that come after them. -/
def HeadsForward (g : Grammar) (treated : List Symbol) : Prop :=
  ∀ A ∈ treated, ∀ B γ, B :: γ ∈ g.alternatives A → B ∈ g.nonterminals → g.position A < g.position B

/-- `B` is a front of `A`, and both are among some nonterminals. -/
def FrontIn (g : Grammar) (earlier : List Symbol) (A B : Symbol) : Prop :=
  A ∈ earlier ∧ B ∈ earlier ∧ g.Front A B

theorem leads_of_frontIn (h : ReflTransGen (g.FrontIn earlier) A B) : ReflTransGen g.Front A B := by
  induction h with
  | refl => exact .refl
  | tail _ h ih => exact ih.tail h.2.2

namespace HeadsForward

/-- Where heads come later and no hidden front leads back, fronts fall in rank. -/
theorem exists_descendsIn (hf : g.HeadsForward earlier)
    (hh : ∀ A ∈ earlier, ∀ B, g.HiddenFront A B → ¬ ReflTransGen (g.FrontIn earlier) B A) :
    ∃ rank, g.DescendsIn earlier rank := by
  have hcycle : ∀ A, ¬ TransGen (g.FrontIn earlier) A A := by
    refine not_transGen_of_rises g.position fun A B hfront hback => ?_
    obtain ⟨hA, -, hfront⟩ := hfront
    rcases hfront.hidden_or_head with hhidden | ⟨γ, hγ⟩
    · exact absurd hback (hh A hA B hhidden)
    · exact hf A hA B γ hγ hfront.1
  obtain ⟨rank, hrank⟩ := exists_rank earlier (fun _ _ h => h.2.1) hcycle
  exact ⟨rank, fun A hA B hB hfront => hrank A B ⟨hA, hB, hfront⟩⟩

theorem leftRecursive_eq_nil (hf : g.HeadsForward g.nonterminals) (hg : g.Canonical)
    (hh : ∀ A B, g.HiddenFront A B → ¬ ReflTransGen g.Front B A) : g.leftRecursive = [] := by
  obtain ⟨rank, hd⟩ := hf.exists_descendsIn fun A _ B hhidden hback =>
    hh A B hhidden (leads_of_frontIn hback)
  have hd : g.Descends rank := fun A B hfront => hd A hfront.mem_nonterminals B hfront.1 hfront
  exact (leftRecursive_eq_nil_iff hg).mpr hd.not_transGen

theorem insert (hf : g.HeadsForward (g.nonterminals.take i)) (hA : g.nonterminals[i]? = some A)
    (hrises : ∀ B γ, B :: γ ∈ alternatives → B ∈ g.nonterminals → g.position A < g.position B) :
    HeadsForward (g.insert A alternatives) (nonterminals (g.insert A alternatives) |>.take (i + 1)) := by
  have hmem := List.mem_of_getElem? hA
  intro C hC B γ hγ hB
  rw [nonterminals_insert_of_mem hmem] at hC hB
  rw [take_succ_of_getElem? hA, List.mem_append, List.mem_singleton] at hC
  rw [position_congr (nonterminals_insert_of_mem hmem alternatives)]
  rw [alternatives_insert] at hγ
  split at hγ
  · next h => exact h ▸ hrises B γ hγ hB
  · next h => exact hf C (hC.resolve_right h) B γ hγ hB

/-- Alternatives to which a new nonterminal is added still begin as they did, or with the new one, which comes
last. -/
theorem splitOff (hf : g.HeadsForward (g.nonterminals.take i)) (hA : g.nonterminals[i]? = some A)
    (hs : Split (g.insert A alternatives) (g.splitOff A prime alternatives) A prime)
    (hg : Canonical (g.insert A alternatives))
    (hrises : ∀ B γ, B :: γ ∈ otherAlternatives A alternatives → B ∈ g.nonterminals →
      g.position A < g.position B) :
    (g.splitOff A prime alternatives).HeadsForward
      ((g.splitOff A prime alternatives).nonterminals.take (i + 1)) := by
  have hmem := List.mem_of_getElem? hA
  have hp : prime ∉ g.nonterminals := nonterminals_insert_of_mem hmem alternatives ▸ hs.prime_not_mem
  intro C hC B γ hγ hB
  have hn := nonterminals_splitOff alternatives hmem hp
  rw [hn, List.take_append_of_le_length (List.getElem?_eq_some_iff.mp hA).1] at hC
  have hCn := List.mem_of_mem_take hC
  rw [hn, List.mem_append, List.mem_singleton] at hB
  rcases hB with hB | rfl
  · rw [position_append hn hCn, position_append hn hB]
    have hBp : B ≠ prime := ne_of_mem_of_not_mem hB hp
    rw [take_succ_of_getElem? hA, List.mem_append, List.mem_singleton] at hC
    have hBh : B ∈ (g.splitOff A prime alternatives).nonterminals := by simp [hn, hB]
    rcases hs.place_cases hg hBh (show [] ++ B :: γ ∈ _ from hγ) with
      ⟨-, -, after, hγ, hhead, -⟩ | ⟨rfl, -⟩ | ⟨hB, -⟩
    · rw [alternatives_insert] at hγ
      split at hγ
      · next h => exact h ▸ hrises B after (mem_otherAlternatives_iff.mpr ⟨hγ, (hhead h).1⟩) hB
      · next h => exact hf C (hC.resolve_right h) B after hγ hB
    · exact absurd hCn hp
    · exact absurd hB hBp
  · exact position_lt_new hn hp hCn

/-- Treating a nonterminal whose settled alternatives have no earlier front keeps heads coming later. -/
theorem removeImmediate (hf : g.HeadsForward (g.nonterminals.take i)) (hw : Workable g taken)
    (hA : g.nonterminals[i]? = some A)
    (hs : g.settle (g.nonterminals.take i) n (g.alternatives A) = .ok alternatives)
    (hheads : ∀ α ∈ alternatives, ∀ s ∈ α.head?, s ∉ g.nonterminals.take i) :
    (g.removeImmediate taken A alternatives).1.HeadsForward
      ((g.removeImmediate taken A alternatives).1.nonterminals.take (i + 1)) := by
  have hothers := hw.otherAlternatives_ne_nil hA hs
  have hrises : ∀ B γ, B :: γ ∈ otherAlternatives A alternatives → B ∈ g.nonterminals →
      g.position A < g.position B := fun B γ hγ hB => by
    obtain ⟨hγ, hhead⟩ := mem_otherAlternatives_iff.mp hγ
    exact position_lt_of_not_mem hA hB (hheads _ hγ B rfl) (by simpa using hhead)
  by_cases htails : recursiveTails A alternatives = []
  · rw [removeImmediate_of_no_tails g taken htails hothers]
    exact hf.insert hA hrises
  · rw [removeImmediate_of_tails g taken htails hothers]
    have hmem := List.mem_of_getElem? hA
    have hknown := hw.tidy.known_of_settle hs
    have hsplit := hw.tidy.split hmem hknown (prime_not_mem A taken) (prime_ne_epsilon A taken)
    exact hf.splitOff hA hsplit (hw.tidy.insert hmem hknown).canonical hrises

end HeadsForward

/-! ## Runs -/

/-- Where fronts fall in rank among the nonterminals before, the next one settles with none of them in front. -/
theorem Workable.exists_settle (hw : Workable g taken) (hd : g.DescendsIn (g.nonterminals.take i) rank) (A : Symbol) :
    ∃ n alternatives, g.settle (g.nonterminals.take i) n (g.alternatives A) = .ok alternatives ∧
      [] ∉ alternatives ∧ ∀ α ∈ alternatives, ∀ s ∈ α.head?, s ∉ g.nonterminals.take i := by
  obtain ⟨n, alternatives, hs, hheads⟩ := hd.exists_settle hw.tidy.canonical (fun B hB => List.mem_of_mem_take hB) A
  exact ⟨n, alternatives, hs, hw.tidy.nil_not_mem_of_settle hs, hheads⟩

/-- Where fronts fall in rank among all nonterminals, nothing is left recursive. -/
theorem DescendsIn.leftRecursive_eq_nil (hd : g.DescendsIn (g.nonterminals.take i) rank) (hg : g.Canonical)
    (hi : g.nonterminals[i]? = none) : g.leftRecursive = [] := by
  rw [List.take_of_length_le (List.getElem?_eq_none_iff.mp hi)] at hd
  have hd : g.Descends rank := fun A B hf => hd A hf.mem_nonterminals B hf.1 hf
  exact (leftRecursive_eq_nil_iff hg).mpr hd.not_transGen

/-- Where some alternative begins with its nonterminal and goes on, a new nonterminal is split off, and comes last. -/
theorem Workable.exists_split (hw : Workable g taken) (hA : g.nonterminals[i]? = some A)
    (hs : g.settle (g.nonterminals.take i) n (g.alternatives A) = .ok alternatives)
    (htails : recursiveTails A alternatives ≠ []) :
    ∃ prime, Split (g.insert A alternatives) (g.removeImmediate taken A alternatives).1 A prime ∧
      (g.removeImmediate taken A alternatives).1.nonterminals = nonterminals (g.insert A alternatives) ++ [prime] := by
  have hmem := List.mem_of_getElem? hA
  have hp := prime_not_mem A taken
  rw [removeImmediate_of_tails g taken htails (hw.otherAlternatives_ne_nil hA hs),
    nonterminals_splitOff alternatives hmem fun h => hp (hw.named _ h), nonterminals_insert_of_mem hmem]
  exact ⟨_, hw.tidy.split hmem (hw.tidy.known_of_settle hs) hp (prime_ne_epsilon A taken), rfl⟩

/-- Treating a nonterminal leaves the others as they are, in their places. -/
theorem Workable.removeImmediate_keeps (hw : Workable g taken) (hA : g.nonterminals[i]? = some A)
    (hs : g.settle (g.nonterminals.take i) n (g.alternatives A) = .ok alternatives) :
    g.nonterminals <+: (g.removeImmediate taken A alternatives).1.nonterminals ∧
      ∀ C ∈ g.nonterminals, C ≠ A →
        (g.removeImmediate taken A alternatives).1.alternatives C = g.alternatives C := by
  have hmem := List.mem_of_getElem? hA
  have hothers := hw.otherAlternatives_ne_nil hA hs
  by_cases htails : recursiveTails A alternatives = []
  · rw [removeImmediate_of_no_tails g taken htails hothers]
    exact ⟨(nonterminals_insert_of_mem hmem _).symm ▸ List.prefix_refl _,
      fun C _ hC => by rw [alternatives_insert, if_neg hC]⟩
  · rw [removeImmediate_of_tails g taken htails hothers]
    have hp : freshName A "'" taken.toList "" ∉ g.nonterminals := fun h =>
      prime_not_mem A taken (hw.named _ h)
    exact ⟨(nonterminals_splitOff alternatives hmem hp).symm ▸ List.prefix_append _ _,
      fun C hCn hC => by
        rw [alternatives_splitOff, if_neg (ne_of_mem_of_not_mem hCn hp), if_neg hC]⟩

theorem Workable.take_removeImmediate (hw : Workable g taken) (hA : g.nonterminals[i]? = some A)
    (hs : g.settle (g.nonterminals.take i) n (g.alternatives A) = .ok alternatives) :
    (g.removeImmediate taken A alternatives).1.nonterminals.take (i + 1) = g.nonterminals.take i ++ [A] := by
  obtain ⟨⟨new, hnew⟩, -⟩ := hw.removeImmediate_keeps hA hs
  rw [← hnew, List.take_append_of_le_length (List.getElem?_eq_some_iff.mp hA).1, take_succ_of_getElem? hA]

/-- Where only given nonterminals breed new ones, a turn lowers what is left to do. -/
theorem Workable.work_removeImmediate_lt {originals : List Symbol} (hw : Workable g taken)
    (hA : g.nonterminals[i]? = some A)
    (hs : g.settle (g.nonterminals.take i) n (g.alternatives A) = .ok alternatives)
    (horiginals : ∀ C ∈ originals, C ∈ g.nonterminals)
    (htails : recursiveTails A alternatives ≠ [] → A ∈ originals) :
    work (.ofList originals) (g.removeImmediate taken A alternatives).1 (i + 1) <
      work (.ofList originals) g i := by
  have hothers := hw.otherAlternatives_ne_nil hA hs
  by_cases hnil : recursiveTails A alternatives = []
  · rw [removeImmediate_of_no_tails g taken hnil hothers]
    exact work_insert_lt hA _
  · rw [removeImmediate_of_tails g taken hnil hothers]
    have hp := prime_not_mem A taken
    refine work_splitOff_lt hA (NameSet.mem_ofList.mpr (htails hnil)) (fun h => hp (hw.named _ h)) ?_ alternatives
    exact fun hmem => hp (hw.named _ (horiginals _ (NameSet.mem_ofList.mp hmem)))

/-- The rest of a run leaves the nonterminals before the `i`th as they are, and keeps what all yield. -/
theorem keeps_of_eliminateFrom (hw : Workable g taken) (hr : eliminateFrom rounds n i g taken = .ok r) :
    Preserves g r ∧ ∀ C ∈ g.nonterminals.take i, r.alternatives C = g.alternatives C := by
  induction n generalizing i g taken with
  | zero => cases hr
  | succ n ih =>
    cases hA : g.nonterminals[i]? with
    | none =>
      rw [eliminateFrom_done hA] at hr
      cases hr
      exact ⟨.refl r, fun _ _ => rfl⟩
    | some A =>
      obtain ⟨settled, hs, -, hr⟩ := (eliminateFrom_some hA n taken).mp hr
      obtain ⟨hnext, hpres⟩ := hw.removeImmediate hA hs
      obtain ⟨-, hkeep⟩ := hw.removeImmediate_keeps hA hs
      obtain ⟨hpres', hkeep'⟩ := ih hnext hr
      refine ⟨hpres.trans hpres', fun C hC => ?_⟩
      obtain ⟨hCn, hCA⟩ := mem_take_of_getElem? hA C hC
      rw [hkeep' C, hkeep C hCn hCA]
      rw [hw.take_removeImmediate hA hs]
      exact List.mem_append_left _ hC

theorem Preserves.yields_nil (hp : Preserves g r) {α : List Symbol} (h : g.Yields α []) :
    r.Yields α [] := by
  refine .of_forall_mem fun s hs => ?_
  by_cases hε : s = epsilon
  · exact hε ▸ .vanish .nil
  · have hv := h.forall_mem s hs
    have hmem : [] ∈ r.meaning s := (hp s (mem_nonterminals_of_yields_nil hε hv)).2 ▸ hv
    exact hmem

theorem Preserves.front (hp : Preserves g r) (hC : r.alternatives C = g.alternatives C)
    (hf : g.Front C D) : r.Front C D := by
  obtain ⟨hD, before, after, hα, hv⟩ := hf
  exact ⟨(hp D hD).1, before, after, hC ▸ hα, hp.yields_nil hv⟩

theorem Preserves.hiddenFront (hp : Preserves g r) (hC : r.alternatives C = g.alternatives C)
    (hf : g.HiddenFront C D) : r.HiddenFront C D := by
  obtain ⟨hD, before, after, hne, hα, hv⟩ := hf
  exact ⟨(hp D hD).1, before, after, hne, hC ▸ hα, hp.yields_nil hv⟩

/-- In a result without hidden left recursion all heads come later. -/
theorem headsForward_of_eliminateFrom (hw : Workable g taken)
    (hf : g.HeadsForward (g.nonterminals.take i)) (hr : eliminateFrom rounds n i g taken = .ok r)
    (hh : ∀ A B, r.HiddenFront A B → ¬ ReflTransGen r.Front B A) : r.HeadsForward r.nonterminals := by
  induction n generalizing i g taken with
  | zero => cases hr
  | succ n ih =>
    cases hA : g.nonterminals[i]? with
    | none =>
      rw [eliminateFrom_done hA] at hr
      cases hr
      rwa [List.take_of_length_le (List.getElem?_eq_none_iff.mp hA)] at hf
    | some A =>
      -- what has been treated is in the result as it is, so that a hidden front that leads back would too
      obtain ⟨hpres, hkeep⟩ := keeps_of_eliminateFrom hw hr
      have hleads : ∀ {C D}, ReflTransGen (g.FrontIn (g.nonterminals.take i)) C D →
          ReflTransGen r.Front C D := fun h => by
        induction h with
        | refl => exact .refl
        | tail _ h ih => exact ih.tail (hpres.front (hkeep _ h.1) h.2.2)
      obtain ⟨rank, hd⟩ := hf.exists_descendsIn fun C hC D hhidden hback =>
        hh C D (hpres.hiddenFront (hkeep C hC) hhidden) (hleads hback)
      obtain ⟨settled, hs, -, hr⟩ := (eliminateFrom_some hA n taken).mp hr
      have hheads := hd.not_mem_of_settle hw.tidy.canonical (fun B hB => List.mem_of_mem_take hB) hs
      exact ih (hw.removeImmediate hA hs).1 (hf.removeImmediate hw hA hs hheads) hr

/-- Where every nonterminal derives some word, left recursion that the elimination leaves is hidden. -/
theorem leftRecursive_eq_nil_iff_not_hidden (hg : g.Canonical)
    (hp : ∀ A ∈ g.nonterminals, ∃ w, w ∈ g.language A) (hr : g.eliminateLeftRecursion rounds = .ok r) :
    r.leftRecursive = [] ↔ ∀ A B, r.HiddenFront A B → ¬ ReflTransGen r.Front B A := by
  have hw := workable_symbols hg hp
  obtain ⟨_, hwr⟩ := eliminateFrom_induction (P := Workable)
    (fun i k taken A as hk hA hs _ => (hk.removeImmediate hA hs).1) hr hw
  refine ⟨fun hnil A B hhidden hback => ?_, fun hh => ?_⟩
  · exact (leftRecursive_eq_nil_iff hwr.tidy.canonical).mp hnil A (TransGen.head' hhidden.front hback)
  · have hstart : g.HeadsForward (g.nonterminals.take 0) := fun A hA => by simp at hA
    exact (headsForward_of_eliminateFrom hw hstart hr hh).leftRecursive_eq_nil hwr.tidy.canonical hh

end Grammar

end FormalLanguages
