import FormalLanguages.Proofs.Grammar.Derivation
import Mathlib.Algebra.Order.Kleene
import Mathlib.Order.CompletePartialOrder
/-!
# Readings of a grammar

A reading gives every symbol a language, and a sequence of symbols the product of theirs. A reading
respects a grammar if each alternative is read inside its nonterminal. What the symbols of a grammar
yield is the least reading that respects it, so to show that a grammar yields no more than another, it
is enough to check its productions against the languages of the other.

Results:
* `meaning_respects`, `meaning_le`: what symbols yield is the least reading that respects the grammar.
* `meaning_eq_any`: a nonterminal is read as its alternatives.
* `meaning_eq_zero`: a nonterminal all of whose alternatives begin with it yields nothing.
-/
namespace FormalLanguages

open FormalLanguages.Alternative (body)
open scoped Computability

/-- A language for every symbol. -/
abbrev Reading := Symbol → Language Symbol

namespace Reading

/-- The language of a sequence. -/
def ofSeq (L : Reading) (α : List Symbol) : Language Symbol := (α.map L).prod

/-- The words of some alternative. -/
def any (L : Reading) (alternatives : List Alternative) : Language Symbol :=
  {w | ∃ α ∈ alternatives, w ∈ L.ofSeq α}

/-- The alternatives of every nonterminal are read inside it. -/
structure Respects (L : Reading) (g : Grammar) : Prop where
  epsilon : [] ∈ L epsilon
  terminal : ∀ a ∉ g.nonterminals, a ≠ FormalLanguages.epsilon → [a] ∈ L a
  production : ∀ A, ∀ α ∈ g.alternatives A, L.ofSeq α ≤ L A

variable {L M : Reading}

@[simp] theorem ofSeq_nil : L.ofSeq [] = 1 := rfl

@[simp] theorem ofSeq_cons (s : Symbol) (α : List Symbol) : L.ofSeq (s :: α) = L s * L.ofSeq α :=
  List.prod_cons

theorem ofSeq_singleton (s : Symbol) : L.ofSeq [s] = L s := by simp

@[simp] theorem ofSeq_append (α β : List Symbol) : L.ofSeq (α ++ β) = L.ofSeq α * L.ofSeq β := by
  simp [ofSeq]

theorem ofSeq_congr {α : List Symbol} (h : ∀ s ∈ α, L s = M s) : L.ofSeq α = M.ofSeq α := by
  rw [ofSeq, ofSeq, List.map_congr_left h]

theorem ofSeq_mono {α : List Symbol} (h : ∀ s ∈ α, L s ≤ M s) : L.ofSeq α ≤ M.ofSeq α := by
  induction α with
  | nil => exact le_rfl
  | cons s α ih =>
    rw [ofSeq_cons, ofSeq_cons]
    exact mul_le_mul' (h s (by simp)) (ih fun t ht => h t (by simp [ht]))

theorem ofSeq_body (hε : L epsilon = 1) (α : List Symbol) : L.ofSeq (body α) = L.ofSeq α := by
  induction α with
  | nil => rfl
  | cons s α ih =>
    by_cases hs : s = FormalLanguages.epsilon
    · subst hs; simp [hε, ih]
    · simp [Alternative.body_cons_of_ne hs, ih]

theorem ofSeq_concat (hε : L epsilon = 1) (α β : Alternative) :
    L.ofSeq (α.concat β) = L.ofSeq α * L.ofSeq β := by
  have hbody : body (α.concat β) = body (α ++ β) := by
    rw [Alternative.concat_eq]
    split
    · next h => simp [h]
    · exact Alternative.body_eq_self fun h => (Alternative.mem_body.mp h).2 rfl
  rw [← ofSeq_body hε, hbody, ofSeq_body hε, ofSeq_append]

theorem le_any {α : Alternative} {alternatives : List Alternative} (h : α ∈ alternatives) :
    L.ofSeq α ≤ L.any alternatives :=
  fun _ hw => ⟨α, h, hw⟩

theorem any_mul_le {alternatives : List Alternative} {X Y : Language Symbol}
    (h : ∀ α ∈ alternatives, L.ofSeq α * X ≤ Y) : L.any alternatives * X ≤ Y := by
  rintro w ⟨u, ⟨α, hα, hu⟩, v, hv, rfl⟩
  exact h α hα ⟨u, hu, v, hv, rfl⟩

theorem mul_any_le {alternatives : List Alternative} {X Y : Language Symbol}
    (h : ∀ α ∈ alternatives, X * L.ofSeq α ≤ Y) : X * L.any alternatives ≤ Y := by
  rintro w ⟨u, hu, v, ⟨α, hα, hv⟩, rfl⟩
  exact h α hα ⟨u, hu, v, hv, rfl⟩

end Reading

namespace Grammar

/-- What the symbols of a grammar yield. -/
def meaning (g : Grammar) : Reading := fun s => {w | g.Yields [s] w}

variable {g : Grammar}

theorem mem_ofSeq_meaning {α w : List Symbol} : w ∈ g.meaning.ofSeq α ↔ g.Yields α w := by
  induction α generalizing w with
  | nil => exact yields_nil_iff.symm
  | cons s α ih =>
    rw [Reading.ofSeq_cons, Language.mem_mul, yields_cons_iff]
    constructor
    · intro h
      obtain ⟨u, hu, v, hv, rfl⟩ := h
      exact ⟨u, v, rfl, hu, ih.mp hv⟩
    · intro h
      obtain ⟨u, v, rfl, hu, hv⟩ := h
      exact ⟨u, hu, v, ih.mpr hv, rfl⟩

/-- What a sequence yields is in every reading that respects the grammar. -/
theorem Yields.mem_ofSeq {L : Reading} (hL : L.Respects g) {α w : List Symbol} (h : g.Yields α w) :
    w ∈ L.ofSeq α := by
  induction h with
  | nil => exact rfl
  | vanish _ ih => exact ⟨[], hL.epsilon, _, ih, rfl⟩
  | terminal hn he _ ih => exact ⟨_, hL.terminal _ hn he, _, ih, rfl⟩
  | nonterminal hα _ _ ihα ihβ => exact ⟨_, hL.production _ _ hα ihα, _, ihβ, rfl⟩

theorem meaning_le {L : Reading} (hL : L.Respects g) (s : Symbol) : g.meaning s ≤ L s := by
  intro w hw
  have hmem : w ∈ L.ofSeq [s] := Yields.mem_ofSeq hL hw
  rwa [Reading.ofSeq_singleton] at hmem

theorem ofSeq_meaning_le {A : Symbol} {α : Alternative} (h : α ∈ g.alternatives A) :
    g.meaning.ofSeq α ≤ g.meaning A :=
  fun _ hw => Yields.of_alternative h (mem_ofSeq_meaning.mp hw)

theorem meaning_respects : g.meaning.Respects g where
  epsilon := .vanish .nil
  terminal _ hn he := .terminal hn he .nil
  production _ _ h := ofSeq_meaning_le h

theorem meaning_epsilon (hε : epsilon ∉ g.nonterminals) : g.meaning epsilon = 1 :=
  Set.ext fun _ => yields_epsilon_iff hε

/-- A concatenation yields what the two sequences yield one after the other. -/
theorem yields_concat_iff (hε : epsilon ∉ g.nonterminals) {α β : Alternative} {w : List Symbol} :
    g.Yields (α.concat β) w ↔ g.Yields (α ++ β) w := by
  rw [← mem_ofSeq_meaning, ← mem_ofSeq_meaning, Reading.ofSeq_concat (meaning_epsilon hε),
    Reading.ofSeq_append]

theorem meaning_eq_any {A : Symbol} (hA : A ∈ g.nonterminals) (he : A ≠ epsilon) :
    g.meaning A = g.meaning.any (g.alternatives A) := by
  refine Set.ext fun w => (yields_nonterminal_iff hA he).trans ?_
  simp only [Reading.any, Set.mem_ofPred_eq, mem_ofSeq_meaning]

/-- A nonterminal all of whose alternatives begin with it yields nothing. -/
theorem meaning_eq_zero {A : Symbol} (hA : A ∈ g.nonterminals) (he : A ≠ epsilon)
    (h : ∀ α ∈ g.alternatives A, α.head? = some A) : g.meaning A = 0 := by
  -- every alternative of `A` has `A` in front, so to read `A` as nothing is respected, too
  let L : Reading := fun s => if s = A then 0 else g.meaning s
  have hle : ∀ s, L s ≤ g.meaning s := fun s => by
    by_cases hs : s = A
    · simp [L, hs]
    · simp [L, hs]
  have hL : L.Respects g := by
    refine ⟨?_, fun a hn ha => ?_, fun B α hα => ?_⟩
    · simpa [L, he.symm] using meaning_respects.epsilon
    · have hne : a ≠ A := fun h => hn (h ▸ hA)
      simpa [L, hne] using meaning_respects.terminal a hn ha
    · by_cases hB : B = A
      · subst hB
        cases α with
        | nil => simpa using h [] hα
        | cons s γ =>
          obtain rfl : s = B := by simpa using h _ hα
          simp [L]
      · simpa [L, hB] using (Reading.ofSeq_mono fun s _ => hle s).trans (ofSeq_meaning_le hα)
  exact le_antisymm (by simpa [L] using meaning_le hL A) bot_le

end Grammar

end FormalLanguages
