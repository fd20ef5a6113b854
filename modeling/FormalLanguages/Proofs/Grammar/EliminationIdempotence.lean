import FormalLanguages.Proofs.Grammar.ForwardHeads
import FormalLanguages.Proofs.Grammar.Unfolding
/-!
# Elimination of left recursion a second time

For a grammar without `ε`. The result has `ε`, which the new nonterminals derive, and they come last in the
order, so a second elimination does not meet the nonterminals as the first one did. It meets alternatives
that begin with later nonterminals only, and replaces nothing. That it drops no repetition either needs
another invariant: a sweep drops them, and every nonterminal but the first, which has none before it, is
swept at its turn.

Results:
* `Eliminated.eliminateLeftRecursion`: a grammar in its final form is its own result.
* `Unrepeated.removeImmediate`: a turn leaves no repetition in what has been treated, the first apart.
* `Unrepeated.eliminated`: at its end a run leaves a grammar in its final form.
* `eliminateLeftRecursion_idempotent`: the result of an elimination is its own result.
-/
namespace FormalLanguages.Grammar

variable {g : Grammar} {original taken : NameSet} {earlier : List Symbol} {A B C prime : Symbol}
  {alternatives result : List Alternative} {i n : Nat}

/-! ## The final form -/

/-- Nothing is left to eliminate: no alternative begins with its own nonterminal or one before it, and only
the first nonterminal may have an alternative twice. -/
structure Eliminated (g : Grammar) : Prop where
  nonempty : ∀ A, [] ∉ g.alternatives A
  ahead : ∀ i A, g.nonterminals[i]? = some A → ∀ α ∈ g.alternatives A, ∀ s ∈ α.head?,
    s ∉ g.nonterminals.take (i + 1)
  nodup : ∀ i > 0, ∀ A, g.nonterminals[i]? = some A → (g.alternatives A).Nodup

namespace Eliminated

theorem head_not_mem (h : g.Eliminated) (hA : g.nonterminals[i]? = some A) {α : Alternative}
    (hα : α ∈ g.alternatives A) {s : Symbol} (hs : s ∈ α.head?) : s ∉ g.nonterminals.take i ∧ s ≠ A := by
  have hahead := h.ahead i A hA α hα s hs
  rwa [take_succ_of_getElem? hA, List.mem_append, List.mem_singleton, not_or] at hahead

/-- A sweep finds nothing to replace, and no repetition to drop. -/
theorem settle (h : g.Eliminated) (hA : g.nonterminals[i]? = some A) :
    g.settle (g.nonterminals.take i) 1 (g.alternatives A) = .ok (g.alternatives A) := by
  refine settle_succ_eq_ok_iff.mpr ⟨g.alternatives A, ?_, Or.inl ⟨rfl, rfl⟩⟩
  rcases i.eq_zero_or_pos with rfl | hi
  · rfl
  · exact substituteAll_eq_self (h.nodup i hi A hA) (h.nonempty A) fun α hα s hs =>
      (h.head_not_mem hA hα hs).1

/-- No alternative is split off. -/
theorem removeImmediate (h : g.Eliminated) (hA : g.nonterminals[i]? = some A) (taken : NameSet) :
    g.removeImmediate taken A (g.alternatives A) = (g, taken) := by
  have hhead : ∀ α ∈ g.alternatives A, α.head? ≠ some A := fun α hα hs =>
    (h.head_not_mem hA hα hs).2 rfl
  rw [removeImmediate_of_no_fronts g taken hhead, insert_alternatives_self (List.mem_of_getElem? hA)]

/-- Each turn leaves the grammar as it is. -/
theorem eliminateFrom (h : g.Eliminated) (taken : NameSet) (i : Nat) :
    Grammar.eliminateFrom 1 (g.nonterminals.length - i + 1) i g taken = .ok g := by
  induction hk : g.nonterminals.length - i generalizing i with
  | zero => exact eliminateFrom_done (List.getElem?_eq_none_iff.mpr (by omega)) 1 0 taken
  | succ k ih =>
    have hA := List.getElem?_eq_getElem (show i < g.nonterminals.length by omega)
    refine (eliminateFrom_some hA (k + 1) taken).mpr ⟨_, h.settle hA, h.nonempty _, ?_⟩
    rw [h.removeImmediate hA taken]
    exact ih (i + 1) (by omega)

/-- A grammar in its final form is its own result, found with one round for each nonterminal and one more. -/
theorem eliminateLeftRecursion (h : g.Eliminated) {rounds : Nat} (hr : rounds > g.nonterminals.length) :
    g.eliminateLeftRecursion rounds = .ok g :=
  eliminateFrom_mono (h.eliminateFrom g.symbols 0) (by omega) (by omega)

end Eliminated

/-! ## Repetitions -/

theorem nodup_of_settle (hne : earlier ≠ []) (hs : g.settle earlier n alternatives = .ok result) :
    result.Nodup := by
  induction n generalizing alternatives with
  | zero => cases hs
  | succ n ih =>
    obtain ⟨next, hnext, ⟨rfl, rfl⟩ | ⟨-, hs⟩⟩ := settle_succ_eq_ok_iff.mp hs
    · obtain ⟨B, earlier, rfl⟩ := List.exists_cons_of_ne_nil hne
      exact substituteAll_induction (fun C _ as _ _ => nodup_substitute C (g.alternatives C) as)
        (substituteAll_cons_eq_ok_iff.mp hnext).2 (nodup_substitute ..)
    · exact ih hs

theorem Treated.epsilon_not_mem {upTo : List Symbol} {α : Alternative} (h : Treated original upTo A α)
    (hA : A ∈ original) : epsilon ∉ α := by
  cases h with
  | empty ho => exact absurd hA ho
  | led hne => exact hne

/-- Alternatives without `ε` remain different when a symbol is put after them. -/
theorem nodup_map_concat_prime (hd : alternatives.Nodup) (hε : ∀ α ∈ alternatives, epsilon ∉ α)
    (hp : prime ≠ epsilon) : (alternatives.map (Alternative.concat · [prime])).Nodup := by
  have happend : ∀ α ∈ alternatives, α.concat [prime] = α ++ [prime] := fun α hα =>
    Alternative.concat_of_epsilon_not_mem (hε α hα) (by simpa using hp.symm) (by simp)
  refine hd.map_on fun α hα β hβ he => ?_
  rw [happend α hα, happend β hβ] at he
  exact List.append_cancel_right he

namespace Ordered

/-- A turn leaves no repetition among alternatives that it found without one. -/
theorem nodup_removeImmediate (h : Ordered original g taken i) (hA : g.nonterminals[i]? = some A)
    (hs : g.settle (g.nonterminals.take i) n (g.alternatives A) = .ok alternatives)
    (hfront : ∀ α ∈ alternatives, ∀ s ∈ α.head?, s ∉ g.nonterminals.take i) (hd : alternatives.Nodup) :
    ((g.removeImmediate taken A alternatives).1.alternatives A).Nodup := by
  have hothers := h.workable.otherAlternatives_ne_nil hA hs
  have hnd : (otherAlternatives A alternatives).Nodup := hd.filter _
  by_cases htails : recursiveTails A alternatives = []
  · rwa [removeImmediate_of_no_tails g taken htails hothers, alternatives_insert, if_pos rfl]
  · obtain ⟨β, hβ⟩ := List.exists_mem_of_ne_nil _ htails
    obtain ⟨hAo, -⟩ := h.tails_of_settle hA hs β hβ
    have hprime : A ≠ freshName A "'" taken.toList "" := fun he =>
      prime_not_mem A taken (he ▸ (h.mem_taken A).mpr (Or.inl hAo))
    rw [removeImmediate_of_tails g taken htails hothers, alternatives_splitOff, if_neg hprime, if_pos rfl]
    exact nodup_map_concat_prime hnd
      (fun α hα => (h.treated_of_settle hA hs hfront α hα).epsilon_not_mem hAo) (prime_ne_epsilon A taken)

end Ordered

/-- Where the run stands, with regard to repetitions too. -/
structure Unrepeated (original : NameSet) (g : Grammar) (taken : NameSet) (i : Nat) : Prop where
  ordered : Ordered original g taken i
  nodup : ∀ k > 0, k < i → ∀ C, g.nonterminals[k]? = some C → (g.alternatives C).Nodup

namespace Unrepeated

/-- A turn leaves those before as they are, and the sweeps of its own have dropped all repetitions. -/
theorem removeImmediate (h : Unrepeated original g taken i) (hA : g.nonterminals[i]? = some A)
    (hs : g.settle (g.nonterminals.take i) n (g.alternatives A) = .ok alternatives)
    (hfront : ∀ α ∈ alternatives, ∀ s ∈ α.head?, s ∉ g.nonterminals.take i) :
    Unrepeated original (g.removeImmediate taken A alternatives).1
      (g.removeImmediate taken A alternatives).2 (i + 1) := by
  refine ⟨(h.ordered.removeImmediate hA hs hfront).1, fun k hk hki C hC => ?_⟩
  have hi : i < g.nonterminals.length := (List.getElem?_eq_some_iff.mp hA).1
  obtain ⟨⟨new, hnew⟩, hkeep⟩ := h.ordered.workable.removeImmediate_keeps hA hs
  rw [← hnew, List.getElem?_append_left (by omega)] at hC
  obtain ⟨rfl, rfl⟩ | ⟨hne, hCA⟩ := same_place_or_not hA hC
  · have hearlier : g.nonterminals.take k ≠ [] := List.ne_nil_of_length_pos (by
      rw [List.length_take]
      omega)
    exact h.ordered.nodup_removeImmediate hA hs hfront (nodup_of_settle hearlier hs)
  · rw [hkeep C (List.mem_of_getElem? hC) hCA]
    exact h.nodup k hk (by omega) C hC

/-- At the end of the run the grammar is in its final form. -/
theorem eliminated (h : Unrepeated original g taken i) (hi : g.nonterminals[i]? = none) : g.Eliminated := by
  have hplace : ∀ {k A}, g.nonterminals[k]? = some A → k < i := fun hA =>
    (List.getElem?_eq_some_iff.mp hA).1.trans_le (List.getElem?_eq_none_iff.mp hi)
  refine ⟨fun A hnil => ?_, fun k A hA α hα s hs hmem => ?_, fun k hk A hA => h.nodup k hk (hplace hA) A hA⟩
  · exact Alternative.IsCanonical.ne_nil (h.ordered.workable.known A [] hnil).1 rfl
  · cases h.ordered.treated k (hplace hA) A hA α hα with
    | empty =>
      obtain rfl := Option.mem_some_iff.mp hs
      exact h.ordered.epsilon_not_mem_take (k + 1) hmem
    | led _ _ hnot =>
      obtain rfl := Option.mem_some_iff.mp hs
      exact hnot hmem

/-- A run from here comes to an end. -/
theorem finishes {g : Grammar} (h : Unrepeated g.symbols g g.symbols 0) :
    ∃ r, (∃ n, ∀ rounds ≥ n, g.eliminateLeftRecursion rounds = .ok r) ∧ r.Eliminated := by
  obtain ⟨r, hr, taken, j, hj, hdone⟩ := exists_eliminateLeftRecursion_of_measure
    (S := Unrepeated g.symbols) (work g.symbols) (fun {k taken i A} h hA => by
      obtain ⟨m, alternatives, hs, hne, hfront⟩ := h.ordered.exists_settle
      exact ⟨m, alternatives, hs, hne, h.removeImmediate hA hs hfront,
        (h.ordered.removeImmediate hA hs hfront).2⟩) h
  exact ⟨r, hr, hdone.eliminated hj⟩

end Unrepeated

/-! ## The result -/

/-- For a grammar without `ε` where every nonterminal derives some word, the elimination comes to an end, and
applied to its own result it returns exactly this result. -/
theorem eliminateLeftRecursion_idempotent (hε : epsilon ∉ g.symbols) (hne : ∀ A, [] ∉ g.alternatives A)
    (hp : ∀ A ∈ g.nonterminals, ∃ w, w ∈ g.language A) :
    ∃ r, (∃ n, ∀ rounds ≥ n, g.eliminateLeftRecursion rounds = .ok r) ∧
      ∀ rounds > r.nonterminals.length, r.eliminateLeftRecursion rounds = .ok r := by
  have hstart : Unrepeated g.symbols g g.symbols 0 :=
    ⟨ordered_symbols hε hne hp, fun k _ hk => absurd hk (Nat.not_lt_zero k)⟩
  obtain ⟨r, hr, hdone⟩ := hstart.finishes
  exact ⟨r, hr, fun _ => hdone.eliminateLeftRecursion⟩

/-- Alternatives given twice, for the first nonterminal and for a later one that leads back to it. -/
def repetitive : Grammar := .ofList
  [("A", [["A", "a"], ["B", "a"], ["A", "a"], ["b"], ["b"]]),
    ("B", [["A", "B"], ["B", "c"], ["A", "B"], ["d"]])]

theorem repetitive_idempotent :
    epsilon ∉ repetitive.symbols ∧ (∀ A, [] ∉ repetitive.alternatives A) ∧
    (∀ A ∈ repetitive.nonterminals, ∃ w, w ∈ repetitive.language A) ∧
    ∃ r, (∃ n, ∀ rounds ≥ n, repetitive.eliminateLeftRecursion rounds = .ok r) ∧
      ∀ rounds > r.nonterminals.length, r.eliminateLeftRecursion rounds = .ok r := by
  have hε : epsilon ∉ repetitive.symbols := by decide
  have hne : ∀ A, [] ∉ repetitive.alternatives A := fun A h => by
    have hall : ∀ p ∈ repetitive.productions, p.2 ≠ [] := by decide
    exact hall _ (mem_productions_iff.mpr h) rfl
  have hword : ∀ a ∈ ["b", "d"], repetitive.Yields [a] [a] := fun a ha =>
    .terminal (by revert a; decide) (by revert a; decide) .nil
  have hown : ∀ A ∈ repetitive.nonterminals,
      A ≠ epsilon ∧ ∃ a ∈ ["b", "d"], [a] ∈ repetitive.alternatives A := by decide
  have hp : ∀ A ∈ repetitive.nonterminals, ∃ w, w ∈ repetitive.language A := fun A hA => by
    obtain ⟨hAε, a, ha, hα⟩ := hown A hA
    exact ⟨[a], (mem_language_iff (by decide) hAε).mpr (.of_alternative hα (hword a ha))⟩
  exact ⟨hε, hne, hp, eliminateLeftRecursion_idempotent hε hne hp⟩

end FormalLanguages.Grammar
