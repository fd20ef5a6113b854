import FormalLanguages.Grammar.Basic
import Mathlib.Computability.Language
import Mathlib.Logic.Relation
/-!
# Derivations

A derivation replaces nonterminals by their alternatives, one at a time; `ε` is never written down.
`Derives` is this relation on sequences of symbols, and `language A` holds the words of terminals that
are derived from `A`. `Yields` says the same of words without the order of the steps: each symbol of a
sequence yields a part of the word.

Results:
* `yields_append_iff`: a sequence that is made of two yields words that are made of two.
* `yields_nonterminal_iff`: a nonterminal yields what its alternatives yield.
* `derives_iff_yields`, `mem_language_iff`: for words the two notions agree.
-/
namespace FormalLanguages

/-- The symbols of an alternative other than `ε`. -/
def Alternative.body (α : Alternative) : List Symbol := α.filter (· ≠ epsilon)

namespace Alternative

@[simp] theorem body_append (α β : List Symbol) : body (α ++ β) = body α ++ body β :=
  List.filter_append ..

@[simp] theorem body_nil : body [] = [] := rfl

@[simp] theorem body_epsilon_cons (α : List Symbol) : body (epsilon :: α) = body α := by
  simp [body]

theorem body_cons_of_ne {s : Symbol} (h : s ≠ epsilon) (α : List Symbol) :
    body (s :: α) = s :: body α := by
  simp [body, h]

theorem body_eq_self {α : List Symbol} (h : epsilon ∉ α) : body α = α :=
  List.filter_eq_self.mpr fun s hs => by simpa using ne_of_mem_of_not_mem hs h

theorem concat_eq (α β : Alternative) :
    α.concat β = if body (α ++ β) = [] then [epsilon] else body (α ++ β) := by
  unfold concat body
  split
  · next h => rw [if_pos h]
  · next h => rw [if_neg h]

theorem mem_body {s : Symbol} {α : List Symbol} : s ∈ body α ↔ s ∈ α ∧ s ≠ epsilon := by
  simp [body]

end Alternative

open FormalLanguages.Alternative (body)

namespace Grammar

/-- One step of a derivation. -/
inductive Step (g : Grammar) : List Symbol → List Symbol → Prop
  | replace {A : Symbol} {α : Alternative} (before after : List Symbol) :
    α ∈ g.alternatives A → Step g (before ++ A :: after) (before ++ (body α ++ after))

/-- Some steps lead from a sequence to another. -/
def Derives (g : Grammar) : List Symbol → List Symbol → Prop := Relation.ReflTransGen g.Step

/-- A sequence of terminals. -/
def IsWord (g : Grammar) (w : List Symbol) : Prop := ∀ a ∈ w, a ∉ g.nonterminals ∧ a ≠ epsilon

/-- The words that are derived from a nonterminal. -/
def language (g : Grammar) (A : Symbol) : Language Symbol := {w | g.IsWord w ∧ g.Derives [A] w}

/-- The symbols of a sequence yield one after the other the parts of a word. -/
inductive Yields (g : Grammar) : List Symbol → List Symbol → Prop
  | nil : Yields g [] []
  | vanish {α w : List Symbol} : Yields g α w → Yields g (epsilon :: α) w
  | terminal {a : Symbol} {α w : List Symbol} :
    a ∉ g.nonterminals → a ≠ epsilon → Yields g α w → Yields g (a :: α) (a :: w)
  | nonterminal {A : Symbol} {α β u v : List Symbol} :
    α ∈ g.alternatives A → Yields g α u → Yields g β v → Yields g (A :: β) (u ++ v)

variable {g : Grammar}

/-! ## Derivations -/

theorem Derives.refl (α : List Symbol) : g.Derives α α := Relation.ReflTransGen.refl

theorem Derives.trans {α β γ : List Symbol} (h : g.Derives α β) (h' : g.Derives β γ) :
    g.Derives α γ :=
  Relation.ReflTransGen.trans h h'

theorem Step.context {α β : List Symbol} (h : g.Step α β) (before after : List Symbol) :
    g.Step (before ++ α ++ after) (before ++ β ++ after) := by
  cases h with
  | replace pre post h => simpa using Step.replace (before ++ pre) (post ++ after) h

theorem Step.epsilon_not_mem {α β : List Symbol} (h : g.Step α β) (hα : epsilon ∉ α) :
    epsilon ∉ β := by
  cases h with
  | replace before after h => simp_all [Alternative.mem_body]

theorem Derives.epsilon_not_mem {α β : List Symbol} (h : g.Derives α β) (hα : epsilon ∉ α) :
    epsilon ∉ β := by
  induction h with
  | refl => exact hα
  | tail _ hs ih => exact hs.epsilon_not_mem ih

theorem Derives.context {α β : List Symbol} (h : g.Derives α β) (before after : List Symbol) :
    g.Derives (before ++ α ++ after) (before ++ β ++ after) := by
  induction h with
  | refl => exact .refl _
  | tail _ hs ih => exact Relation.ReflTransGen.tail ih (hs.context before after)

theorem Derives.append {α α' β β' : List Symbol} (h : g.Derives α α') (h' : g.Derives β β') :
    g.Derives (α ++ β) (α' ++ β') := by
  have h1 := h.context [] β
  have h2 := h'.context α' []
  simp only [List.nil_append, List.append_nil] at h1 h2
  exact h1.trans h2

theorem Derives.of_alternative {A : Symbol} {α : Alternative} (h : α ∈ g.alternatives A) :
    g.Derives [A] (body α) :=
  Relation.ReflTransGen.single (by simpa using Step.replace [] [] h)

/-! ## Words -/

theorem isWord_nil : g.IsWord [] := fun _ h => nomatch h

theorem isWord_cons_iff {a : Symbol} {w : List Symbol} :
    g.IsWord (a :: w) ↔ (a ∉ g.nonterminals ∧ a ≠ epsilon) ∧ g.IsWord w :=
  List.forall_mem_cons

theorem isWord_append_iff {u v : List Symbol} :
    g.IsWord (u ++ v) ↔ g.IsWord u ∧ g.IsWord v :=
  List.forall_mem_append

/-! ## What sequences yield -/

theorem Yields.isWord {α w : List Symbol} (h : g.Yields α w) : g.IsWord w := by
  induction h with
  | nil => exact isWord_nil
  | vanish _ ih => exact ih
  | terminal hn he _ ih => exact isWord_cons_iff.mpr ⟨⟨hn, he⟩, ih⟩
  | nonterminal _ _ _ ihα ihβ => exact isWord_append_iff.mpr ⟨ihα, ihβ⟩

theorem Yields.of_isWord {w : List Symbol} (h : g.IsWord w) : g.Yields w w := by
  induction w with
  | nil => exact .nil
  | cons a w ih =>
    obtain ⟨⟨hn, he⟩, hw⟩ := isWord_cons_iff.mp h
    exact .terminal hn he (ih hw)

theorem Yields.append {α β u v : List Symbol} (h : g.Yields α u) (h' : g.Yields β v) :
    g.Yields (α ++ β) (u ++ v) := by
  induction h with
  | nil => exact h'
  | vanish _ ih => exact .vanish ih
  | terminal hn he _ ih => exact .terminal hn he ih
  | nonterminal hα h1 _ _ ih => rw [List.append_assoc]; exact .nonterminal hα h1 ih

theorem yields_append_iff {α β w : List Symbol} :
    g.Yields (α ++ β) w ↔ ∃ u v, w = u ++ v ∧ g.Yields α u ∧ g.Yields β v := by
  constructor
  · intro h
    induction α generalizing w with
    | nil => exact ⟨[], w, rfl, .nil, h⟩
    | cons s α ih =>
      cases h with
      | vanish h =>
        obtain ⟨u, v, rfl, h1, h2⟩ := ih h
        exact ⟨u, v, rfl, .vanish h1, h2⟩
      | terminal hn he h =>
        obtain ⟨u, v, rfl, h1, h2⟩ := ih h
        exact ⟨_ :: u, v, rfl, .terminal hn he h1, h2⟩
      | nonterminal hα h0 h =>
        obtain ⟨u, v, rfl, h1, h2⟩ := ih h
        exact ⟨_ ++ u, v, (List.append_assoc ..).symm, .nonterminal hα h0 h1, h2⟩
  · intro h
    obtain ⟨u, v, rfl, h1, h2⟩ := h
    exact h1.append h2

theorem yields_cons_iff {s : Symbol} {β w : List Symbol} :
    g.Yields (s :: β) w ↔ ∃ u v, w = u ++ v ∧ g.Yields [s] u ∧ g.Yields β v :=
  yields_append_iff (α := [s])

theorem yields_append_nil_iff {α β : List Symbol} : g.Yields (α ++ β) [] ↔ g.Yields α [] ∧ g.Yields β [] := by
  rw [yields_append_iff]
  constructor
  · intro h
    obtain ⟨u, v, huv, hu, hv⟩ := h
    obtain ⟨rfl, rfl⟩ := List.nil_eq_append_iff.mp huv
    exact ⟨hu, hv⟩
  · intro h
    exact ⟨[], [], rfl, h⟩

theorem yields_cons_nil_iff {s : Symbol} {β : List Symbol} :
    g.Yields (s :: β) [] ↔ g.Yields [s] [] ∧ g.Yields β [] :=
  yields_append_nil_iff (α := [s])

theorem yields_nil_iff {w : List Symbol} : g.Yields [] w ↔ w = [] :=
  ⟨fun h => by cases h; rfl, fun h => by subst h; exact .nil⟩

theorem Yields.of_alternative {A : Symbol} {α : Alternative} {w : List Symbol}
    (h : α ∈ g.alternatives A) (hw : g.Yields α w) : g.Yields [A] w := by
  simpa using Yields.nonterminal h hw .nil

/-- A nonterminal yields what its alternatives yield. -/
theorem yields_nonterminal_iff {A : Symbol} {w : List Symbol} (hA : A ∈ g.nonterminals)
    (he : A ≠ epsilon) : g.Yields [A] w ↔ ∃ α ∈ g.alternatives A, g.Yields α w := by
  constructor
  · intro h
    cases h with
    | vanish => exact absurd rfl he
    | terminal hn => exact absurd hA hn
    | nonterminal hα h h' =>
      obtain rfl := yields_nil_iff.mp h'
      exact ⟨_, hα, by simpa using h⟩
  · intro h
    obtain ⟨α, hα, h⟩ := h
    exact .of_alternative hα h

theorem yields_terminal_iff {a : Symbol} {w : List Symbol} (hn : a ∉ g.nonterminals)
    (he : a ≠ epsilon) : g.Yields [a] w ↔ w = [a] := by
  constructor
  · intro h
    cases h with
    | vanish => exact absurd rfl he
    | terminal _ _ h => rw [yields_nil_iff.mp h]
    | nonterminal hα => exact absurd (mem_nonterminals_of_mem_alternatives hα) hn
  · intro h
    obtain rfl := h
    exact .terminal hn he .nil

/-- A word yields itself and nothing else. -/
theorem yields_word_iff {u w : List Symbol} (hu : g.IsWord u) : g.Yields u w ↔ w = u := by
  induction u generalizing w with
  | nil => exact yields_nil_iff
  | cons a u ih =>
    obtain ⟨⟨hn, he⟩, hu⟩ := isWord_cons_iff.mp hu
    rw [yields_cons_iff]
    simp [yields_terminal_iff hn he, ih hu]

theorem yields_epsilon_iff {w : List Symbol} (hε : epsilon ∉ g.nonterminals) :
    g.Yields [epsilon] w ↔ w = [] := by
  constructor
  · intro h
    cases h with
    | vanish h => exact yields_nil_iff.mp h
    | terminal _ he => exact absurd rfl he
    | nonterminal hα => exact absurd (mem_nonterminals_of_mem_alternatives hα) hε
  · intro h
    obtain rfl := h
    exact .vanish .nil

theorem Yields.of_body {α w : List Symbol} (h : g.Yields (body α) w) : g.Yields α w := by
  induction α generalizing w with
  | nil => exact h
  | cons s α ih =>
    by_cases hs : s = epsilon
    · subst hs
      rw [Alternative.body_epsilon_cons] at h
      exact .vanish (ih h)
    · rw [Alternative.body_cons_of_ne hs, yields_cons_iff] at h
      obtain ⟨u, v, rfl, hu, hv⟩ := h
      exact yields_cons_iff.mpr ⟨u, v, rfl, hu, ih hv⟩

theorem Yields.to_body (hε : epsilon ∉ g.nonterminals) {α w : List Symbol} (h : g.Yields α w) :
    g.Yields (body α) w := by
  induction α generalizing w with
  | nil => exact h
  | cons s α ih =>
    obtain ⟨u, v, rfl, hu, hv⟩ := yields_cons_iff.mp h
    by_cases hs : s = epsilon
    · subst hs
      rw [(yields_epsilon_iff hε).mp hu, Alternative.body_epsilon_cons]
      exact ih hv
    · rw [Alternative.body_cons_of_ne hs]
      exact yields_cons_iff.mpr ⟨u, v, rfl, hu, ih hv⟩

/-! ## The two notions agree -/

theorem Yields.derives (hε : epsilon ∉ g.nonterminals) {α w : List Symbol} (h : g.Yields α w) :
    g.Derives (body α) w := by
  induction h with
  | nil => exact .refl []
  | vanish _ ih => rwa [Alternative.body_epsilon_cons]
  | @terminal a _ _ _ he _ ih =>
    rw [Alternative.body_cons_of_ne he]
    exact (Derives.refl [a]).append ih
  | @nonterminal A _ _ _ _ hα _ _ ihα ihβ =>
    have hA : A ≠ epsilon :=
      ne_of_mem_of_not_mem (mem_nonterminals_of_mem_alternatives hα) hε
    rw [Alternative.body_cons_of_ne hA]
    exact ((Derives.of_alternative hα).trans ihα).append ihβ

/-- A step is undone by putting the nonterminal above the part that its alternative yields. -/
theorem Yields.of_step {α β w : List Symbol} (hs : g.Step α β) (h : g.Yields β w) :
    g.Yields α w := by
  cases hs with
  | replace before after hα =>
    obtain ⟨u, v, rfl, hu, hv⟩ := yields_append_iff.mp h
    obtain ⟨v₁, v₂, rfl, h1, h2⟩ := yields_append_iff.mp hv
    exact hu.append (.nonterminal hα h1.of_body h2)

theorem Yields.of_derives {α w : List Symbol} (h : g.Derives α w) (hw : g.IsWord w) :
    g.Yields α w := by
  induction h using Relation.ReflTransGen.head_induction_on with
  | refl => exact .of_isWord hw
  | head hs _ ih => exact ih.of_step hs

theorem derives_iff_yields (hε : epsilon ∉ g.nonterminals) {α w : List Symbol} (hα : epsilon ∉ α) :
    g.IsWord w ∧ g.Derives α w ↔ g.Yields α w :=
  ⟨fun ⟨hw, h⟩ => .of_derives h hw,
    fun h => ⟨h.isWord, Alternative.body_eq_self hα ▸ h.derives hε⟩⟩

theorem mem_language_iff (hε : epsilon ∉ g.nonterminals) {A : Symbol} (hA : A ≠ epsilon)
    {w : List Symbol} : w ∈ g.language A ↔ g.Yields [A] w :=
  derives_iff_yields hε (by simpa using hA.symm)

theorem mem_language_nil_iff (hg : g.Canonical) {A : Symbol} (hA : A ∈ g.nonterminals) :
    [] ∈ g.language A ↔ g.Yields [A] [] :=
  mem_language_iff hg.epsilon_not_mem (hg.ne_epsilon hA)

end Grammar

end FormalLanguages
