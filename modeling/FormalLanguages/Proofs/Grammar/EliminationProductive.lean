import FormalLanguages.Proofs.Grammar.Report
import FormalLanguages.Proofs.Grammar.Splitting
/-!
# What the elimination of left recursion makes productive

Where `A` has an alternative to begin with when its turn comes, treating it changes no language. If all its
alternatives begin with `A` it derives nothing; but if one goes on, `A` gives way to `A → A'`, and then it
derives what the tails do. That is as if it had an alternative `ε` besides (`removeImmediate_of_groundless`). So
no step takes words away, and a nonterminal gains its first words in a run exactly if it comes to such a turn.

Results:
* `Turn`: the turns of a run.
* `Tidy.removeImmediate_of_groundless`: what a nonterminal without an alternative to begin with gains.
* `Turn.gains`, `preserves_of_turns`: what a run with such a turn does, and one without.
* `Turn.grounded`: where left-recursive nonterminals are productive there is no such turn.
* `eliminateLeftRecursion_productive`: which nonterminals are productive in the result.
-/
namespace FormalLanguages

namespace Grammar

open Relation

variable {g h k r : Grammar} {A B prime : Symbol} {taken : NameSet} {alternatives : List Alternative}
  {i n rounds : Nat}

/-! ## One turn -/

/-- The nonterminals of the first grammar yield no less in the second, and new ones yield something. -/
structure Raises (g h : Grammar) : Prop where
  le : ∀ B ∈ g.nonterminals, B ∈ h.nonterminals ∧ g.meaning B ≤ h.meaning B
  new : ∀ B ∈ h.nonterminals, B ∉ g.nonterminals → h.meaning B ≠ 0

theorem meaning_ne_zero_of_le (hle : g.meaning A ≤ h.meaning A) (hA : g.meaning A ≠ 0) :
    h.meaning A ≠ 0 := fun hzero =>
  hA (le_antisymm (hzero ▸ hle) bot_le)

namespace Raises

theorem refl (g : Grammar) : Raises g g := ⟨fun _ hB => ⟨hB, le_rfl⟩, fun _ hB hn => absurd hB hn⟩

theorem trans (h1 : Raises g h) (h2 : Raises h k) : Raises g k := by
  refine ⟨fun B hB => ?_, fun B hB hn => ?_⟩
  · obtain ⟨hB, hle⟩ := h1.le B hB
    exact ⟨(h2.le B hB).1, hle.trans (h2.le B hB).2⟩
  · by_cases hmem : B ∈ h.nonterminals
    · exact meaning_ne_zero_of_le (h2.le B hmem).2 (h1.new B hmem hn)
    · exact h2.new B hB hmem

/-- What yields nothing in the second is not new, and yields nothing in the first. -/
theorem mem_of_meaning_eq_zero (hr : Raises g h) (hA : A ∈ h.nonterminals) (hzero : h.meaning A = 0) :
    A ∈ g.nonterminals ∧ g.meaning A = 0 := by
  have hold : A ∈ g.nonterminals := by
    by_contra hn
    exact hr.new A hA hn hzero
  exact ⟨hold, le_antisymm (hzero ▸ (hr.le A hold).2) bot_le⟩

end Raises

namespace Tidy

/-- A nonterminal all of whose alternatives begin with it, one of them going on, yields nothing before its
turn and something after it. -/
theorem removeImmediate_of_groundless (ht : Tidy g taken) (hA : g.nonterminals[i]? = some A)
    (h : g.settle (g.nonterminals.take i) rounds (g.alternatives A) = .ok alternatives)
    (hground : ¬ Grounded A alternatives) :
    Tidy (g.removeImmediate taken A alternatives).1 (g.removeImmediate taken A alternatives).2 ∧
      Raises g (g.removeImmediate taken A alternatives).1 ∧ g.meaning A = 0 ∧
      (g.removeImmediate taken A alternatives).1.meaning A ≠ 0 := by
  obtain ⟨htails, hothers⟩ : recursiveTails A alternatives ≠ [] ∧ otherAlternatives A alternatives = [] := by
    simpa [Grounded] using hground
  have hmem := List.mem_of_getElem? hA
  have hAε := ht.canonical.ne_epsilon hmem
  have hp := prime_not_mem A taken
  have hpε := prime_ne_epsilon A taken
  have hknown : ∀ α ∈ alternatives ++ [[epsilon]], Known taken α := by
    simpa [or_imp, forall_and, known_epsilon] using ht.known_of_settle h
  rw [Grammar.removeImmediate_of_groundless g taken hAε htails hothers]
  obtain ⟨hsame, hnew⟩ := ht.meaning_splitOff hmem hknown hp hpε
  have hle : ∀ B, g.meaning B ≤ meaning (g.insert A (alternatives ++ [[epsilon]])) B := fun B => by
    rw [← ht.meaning_of_settle hA h]
    exact meaning_insert_le (fun α hα => ofSeq_meaning_insert_le (List.mem_append_left _ hα)) B
  refine ⟨ht.splitOff hmem hknown hpε,
    ⟨fun B hB => ⟨(hsame B hB).1, (hsame B hB).2 ▸ hle B⟩, hnew⟩,
    ht.meaning_eq_zero_of_settle hA h hothers, fun hzero => ?_⟩
  rw [(hsame A hmem).2] at hzero
  have hε : (meaning (g.insert A (alternatives ++ [[epsilon]]))).ofSeq [epsilon] ≤ 0 :=
    hzero ▸ ofSeq_meaning_insert_le (by simp)
  rw [Reading.ofSeq_singleton, Grammar.meaning_epsilon (nonterminals_insert_of_mem hmem _ ▸
    ht.epsilon_not_mem)] at hε
  exact Language.notMem_zero [] (hε rfl)

/-- No turn takes words away. -/
theorem raises_removeImmediate (ht : Tidy g taken) (hA : g.nonterminals[i]? = some A)
    (h : g.settle (g.nonterminals.take i) rounds (g.alternatives A) = .ok alternatives) :
    Tidy (g.removeImmediate taken A alternatives).1 (g.removeImmediate taken A alternatives).2 ∧
      Raises g (g.removeImmediate taken A alternatives).1 := by
  by_cases hground : Grounded A alternatives
  · obtain ⟨ht, hpres, hnew⟩ := ht.removeImmediate hA h hground
    exact ⟨ht, fun B hB => ⟨(hpres B hB).1, (hpres B hB).2.ge⟩, hnew⟩
  · obtain ⟨ht, hr, -⟩ := ht.removeImmediate_of_groundless hA h hground
    exact ⟨ht, hr⟩

end Tidy

/-! ## The turns of a run -/

/-- In the run from the `i`th nonterminal on, the turn comes to `A`, with these settled alternatives. -/
inductive Turn (rounds : Nat) (A : Symbol) (alternatives : List Alternative) :
    (i : Nat) → Grammar → (taken : NameSet) → Prop
  | here {i : Nat} {g : Grammar} {taken : NameSet} : g.nonterminals[i]? = some A →
    g.settle (g.nonterminals.take i) rounds (g.alternatives A) = .ok alternatives →
    Turn rounds A alternatives i g taken
  | later {i : Nat} {g : Grammar} {taken : NameSet} {B : Symbol} {settled : List Alternative} :
    g.nonterminals[i]? = some B →
    g.settle (g.nonterminals.take i) rounds (g.alternatives B) = .ok settled →
    Turn rounds A alternatives (i + 1) (g.removeImmediate taken B settled).1
      (g.removeImmediate taken B settled).2 →
    Turn rounds A alternatives i g taken

theorem raises_of_eliminateFrom (ht : Tidy g taken) (hr : eliminateFrom rounds n i g taken = .ok r) :
    Raises g r := by
  obtain ⟨_, -, hr⟩ := eliminateFrom_induction (P := fun k taken => Tidy k taken ∧ Raises g k)
    (fun i k taken A as ⟨hk, hr⟩ hA hs _ =>
      ⟨(hk.raises_removeImmediate hA hs).1, hr.trans (hk.raises_removeImmediate hA hs).2⟩) hr ⟨ht, .refl g⟩
  exact hr

/-- Where every turn finds an alternative to begin with, the nonterminals yield the same in the end. -/
theorem preserves_of_turns (ht : Tidy g taken)
    (hturns : ∀ A alternatives, Turn rounds A alternatives i g taken → Grounded A alternatives)
    (hr : eliminateFrom rounds n i g taken = .ok r) : Preserves g r := by
  induction n generalizing i g taken with
  | zero => cases hr
  | succ n ih =>
    cases hA : g.nonterminals[i]? with
    | none =>
      rw [eliminateFrom_done hA] at hr
      cases hr; exact .refl r
    | some A =>
      obtain ⟨settled, hs, -, hr⟩ := (eliminateFrom_some hA n taken).mp hr
      obtain ⟨hnext, hpres, -⟩ := ht.removeImmediate hA hs (hturns A settled (.here hA hs))
      exact hpres.trans (ih hnext (fun B as hB => hturns B as (.later hA hs hB)) hr)

/-- Where fronts lead back only to nonterminals that yield something, a turn finds an alternative to begin with. -/
theorem grounded_of_settle (ht : Tidy g taken)
    (hcycle : ∀ B ∈ g.nonterminals, TransGen g.Front B B → g.meaning B ≠ 0)
    (hA : g.nonterminals[i]? = some A)
    (h : g.settle (g.nonterminals.take i) rounds (g.alternatives A) = .ok alternatives) :
    Grounded A alternatives := by
  intro htails hothers
  obtain ⟨β, hβ⟩ := List.exists_mem_of_ne_nil _ htails
  -- an alternative that begins with `A` makes it a front of its own
  have hfront : Front (g.insert A alternatives) A A :=
    front_of_head (mem_nonterminals_insert.mpr (Or.inl rfl))
      (by rw [alternatives_insert, if_pos rfl]; exact (mem_recursiveTails_iff.mp hβ).2)
  exact hcycle A (List.mem_of_getElem? hA) ((transGen_front_of_settle ht.canonical hA h).2 A A hfront)
    (ht.meaning_eq_zero_of_settle hA h hothers)

namespace Turn

/-- A nonterminal whose turn finds no alternative to begin with yields nothing at first, and something in the
end. -/
theorem gains (hturn : Turn rounds A alternatives i g taken) (hground : ¬ Grounded A alternatives)
    (ht : Tidy g taken) (hr : eliminateFrom rounds n i g taken = .ok r) :
    A ∈ g.nonterminals ∧ g.meaning A = 0 ∧ r.meaning A ≠ 0 := by
  induction hturn generalizing n with
  | here hA hs =>
    cases n with
    | zero => cases hr
    | succ n =>
      obtain ⟨settled, hs', -, hr⟩ := (eliminateFrom_some hA n _).mp hr
      cases hs.symm.trans hs'
      obtain ⟨hnext, hraises, hzero, hne⟩ := ht.removeImmediate_of_groundless hA hs hground
      have hmem := List.mem_of_getElem? hA
      exact ⟨hmem, hzero, meaning_ne_zero_of_le
        ((raises_of_eliminateFrom hnext hr).le A (hraises.le A hmem).1).2 hne⟩
  | later hB hs _ ih =>
    cases n with
    | zero => cases hr
    | succ n =>
      obtain ⟨settled, hs', -, hr⟩ := (eliminateFrom_some hB n _).mp hr
      cases hs.symm.trans hs'
      obtain ⟨hnext, hraises⟩ := ht.raises_removeImmediate hB hs
      obtain ⟨hmem, hzero, hne⟩ := ih hnext hr
      obtain ⟨hmem, hzero⟩ := hraises.mem_of_meaning_eq_zero hmem hzero
      exact ⟨hmem, hzero, hne⟩

/-- Where fronts lead back only to nonterminals that yield something, so does every turn. -/
theorem grounded (hturn : Turn rounds A alternatives i g taken) (ht : Tidy g taken)
    (hcycle : ∀ B ∈ g.nonterminals, TransGen g.Front B B → g.meaning B ≠ 0) : Grounded A alternatives := by
  induction hturn with
  | here hA hs => exact grounded_of_settle ht hcycle hA hs
  | @later i g taken B settled hB hs _ ih =>
    have hground := grounded_of_settle ht hcycle hB hs
    obtain ⟨hnext, hpres, hnew⟩ := ht.removeImmediate hB hs hground
    refine ih hnext fun C hC hlead => ?_
    by_cases hold : C ∈ g.nonterminals
    · rw [(hpres C hold).2]
      exact hcycle C hold (transGen_front_of_removeImmediate ht hB hs hground hold hold hlead)
    · exact hnew C hC hold

end Turn

/-! ## Productive nonterminals -/

theorem mem_productive_iff_meaning (hε : epsilon ∉ g.nonterminals) :
    A ∈ g.productive [] ↔ A ∈ g.nonterminals ∧ g.meaning A ≠ 0 := by
  rw [mem_productive_iff hε]
  refine and_congr_right fun _ => ⟨fun ⟨w, hw⟩ hzero => ?_, fun hne => ?_⟩
  · have hmem : w ∈ g.meaning A := hw
    rw [hzero] at hmem
    exact Language.notMem_zero w hmem
  · by_contra hno
    exact hne (Set.eq_empty_of_forall_notMem fun w hw => hno ⟨w, hw⟩)

/-- The elimination takes no words away. It gives words to a nonterminal that had none exactly if it comes to
one whose settled alternatives all begin with itself, one of them going on; this one gains words then. There is
none where every left-recursive nonterminal is productive. -/
theorem eliminateLeftRecursion_productive (hg : g.Canonical) (hr : g.eliminateLeftRecursion rounds = .ok r) :
    (∀ A ∈ g.productive [], A ∈ r.productive []) ∧
    ((∀ A alternatives, Turn rounds A alternatives 0 g g.symbols → Grounded A alternatives) →
      ∀ A ∈ g.nonterminals, A ∈ r.productive [] ↔ A ∈ g.productive []) ∧
    (∀ A alternatives, Turn rounds A alternatives 0 g g.symbols → ¬ Grounded A alternatives →
      A ∈ g.nonterminals ∧ A ∉ g.productive [] ∧ A ∈ r.productive []) ∧
    ((∀ A ∈ g.leftRecursive, A ∈ g.productive []) →
      ∀ A ∈ g.nonterminals, A ∈ r.productive [] ↔ A ∈ g.productive []) := by
  have ht := tidy_symbols hg
  obtain ⟨_, htr⟩ := eliminateFrom_induction (P := Tidy)
    (fun i k taken A as hk hA hs _ => (hk.raises_removeImmediate hA hs).1) hr ht
  have hraises := raises_of_eliminateFrom ht hr
  have hiff : ∀ {A}, A ∈ g.productive [] ↔ A ∈ g.nonterminals ∧ g.meaning A ≠ 0 :=
    mem_productive_iff_meaning hg.epsilon_not_mem
  have hiffr : ∀ {A}, A ∈ r.productive [] ↔ A ∈ r.nonterminals ∧ r.meaning A ≠ 0 :=
    mem_productive_iff_meaning htr.epsilon_not_mem
  have hsame : (∀ A alternatives, Turn rounds A alternatives 0 g g.symbols → Grounded A alternatives) →
      ∀ A ∈ g.nonterminals, A ∈ r.productive [] ↔ A ∈ g.productive [] := fun hturns A hA => by
    obtain ⟨hA', heq⟩ := preserves_of_turns ht hturns hr A hA
    rw [hiff, hiffr, heq]
    exact and_congr_left fun _ => iff_of_true hA' hA
  refine ⟨fun A hA => ?_, hsame, fun A as hturn hground => ?_, fun hl => hsame fun A as hturn => ?_⟩
  · obtain ⟨hA, hne⟩ := hiff.mp hA
    obtain ⟨hA', hle⟩ := hraises.le A hA
    exact hiffr.mpr ⟨hA', meaning_ne_zero_of_le hle hne⟩
  · obtain ⟨hA, hzero, hne⟩ := hturn.gains hground ht hr
    exact ⟨hA, fun h => (hiff.mp h).2 hzero, hiffr.mpr ⟨(hraises.le A hA).1, hne⟩⟩
  · exact hturn.grounded ht fun B hB hcycle =>
      (hiff.mp (hl B ((mem_leftRecursive_iff_transGen hg).mpr hcycle))).2

/-- A grammar where only `S` is productive: `A` begins with itself only as it is alone, and `B` begins with a
terminal besides. -/
def barren : Grammar := .ofList
  [("S", [["S", "s"], ["s"]]), ("A", [["A"], ["A"]]), ("B", [["B", "b"], ["b", "B"]])]

/-- `barren` without left recursion. -/
def barrenEliminated : Grammar := .ofList
  [("S", [["s", "S'"]]), ("A", [["A"]]), ("B", [["b", "B", "B'"]]), ("S'", [["s", "S'"], ["ε"]]),
    ("B'", [["b", "B'"], ["ε"]])]

theorem barren_productive :
    barren.Canonical ∧ barren.eliminateLeftRecursion 6 = .ok barrenEliminated ∧
    (∀ A ∈ barren.productive [], A ∈ barrenEliminated.productive []) ∧
    ((∀ A alternatives, Turn 6 A alternatives 0 barren barren.symbols → Grounded A alternatives) →
      ∀ A ∈ barren.nonterminals, A ∈ barrenEliminated.productive [] ↔ A ∈ barren.productive []) ∧
    (∀ A alternatives, Turn 6 A alternatives 0 barren barren.symbols → ¬ Grounded A alternatives →
      A ∈ barren.nonterminals ∧ A ∉ barren.productive [] ∧ A ∈ barrenEliminated.productive []) ∧
    ((∀ A ∈ barren.leftRecursive, A ∈ barren.productive []) →
      ∀ A ∈ barren.nonterminals, A ∈ barrenEliminated.productive [] ↔ A ∈ barren.productive []) := by
  have hg : barren.Canonical := by decide
  have hr : barren.eliminateLeftRecursion 6 = .ok barrenEliminated := by decide +kernel
  exact ⟨hg, hr, eliminateLeftRecursion_productive hg hr⟩

/-- A grammar with one alternative, which begins with its nonterminal and goes on. -/
def selfish : Grammar := .ofList [("A", [["A", "a"]])]

/-- `selfish` without left recursion. -/
def selfishEliminated : Grammar := .ofList [("A", [["A'"]]), ("A'", [["a", "A'"], ["ε"]])]

/-- A nonterminal all of whose alternatives begin with it gains words. -/
theorem selfish_gains_words : ¬ ∀ (g r : Grammar) (rounds : Nat), g.Canonical →
    g.eliminateLeftRecursion rounds = .ok r →
    ∀ A ∈ g.nonterminals, A ∈ r.productive [] ↔ A ∈ g.productive [] := by
  intro h
  have hr : selfish.eliminateLeftRecursion 3 = .ok selfishEliminated := by decide +kernel
  have hiff := h selfish selfishEliminated 3 (by decide) hr "A" (by decide)
  exact absurd (hiff.mp (by decide +kernel)) (by decide +kernel)

end Grammar

end FormalLanguages
