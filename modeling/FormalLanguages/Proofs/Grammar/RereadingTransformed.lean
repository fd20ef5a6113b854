import FormalLanguages.Proofs.Grammar.Tokens
import FormalLanguages.Proofs.Grammar.Vocabulary
import FormalLanguages.Proofs.Grammar.WellFormed
/-!
# Reading again what was transformed

A grammar that was transformed is shown as text, and the text can be read again line by line: with the nonterminals in
their order, the start symbol and no line skipped. The grammar need not be the same. Factoring may name a new
nonterminal after one with blanks or bars in its name, and such a name is not found again inside an alternative. And a
symbol that was always written beside others may be left alone, where no blank keeps it together: the end of an
alternative when the rest has been factored out or has vanished, or a primed nonterminal that is not spelled like a
name. New nonterminals of factoring are never alone.

Results:
* `Lengthened.plainName`, `Lengthened.legible`, `Lengthened.apart`: how new nonterminals are spelled.
* `Extractions.inherited`, `Extractions.of_singleton_mem`: what factoring leaves alone.
* `read_render_eq_iff`: which grammars are the same when they are read again.
* `read_render_of_transformed`: what was transformed is read again, and when it is the same.
* `transformed_not_reread`: it need not be the same.
-/
namespace FormalLanguages

open Token (IsName IsToken)

/-- `ε`, or a symbol that stands on its line and does not spell `ε`. -/
def Symbol.Legible (s : Symbol) : Prop := s = epsilon ∨ Symbol.InLine s ∧ isEpsilon s.toList = false

/-- The second name is the first one with marks behind it: the primes of the elimination, or the low lines and letters
of factoring. -/
def Lengthened (A B : Symbol) : Prop :=
  ∃ marks, B.toList = A.toList ++ marks ∧ (∀ c ∈ marks, c ∈ "'_fact".toList) ∧ ('\'' ∈ marks ∨ '_' ∈ marks)

/-! ## New names -/

/-- A mark is neither a blank nor a bar, and no arrow ends in it. -/
theorem of_mem_marks {c : Char} (hc : c ∈ "'_fact".toList) : Text.isBlank c = false ∧ c ≠ '|' ∧ c ≠ '>' ∧ c ≠ '→' := by
  have hmarks : c = '\'' ∨ c = '_' ∨ c = 'f' ∨ c = 'a' ∨ c = 'c' ∨ c = 't' := by simpa using hc
  rcases hmarks with rfl | rfl | rfl | rfl | rfl | rfl <;> decide

/-- A text with a prime or a low line does not spell `ε`. -/
theorem not_isEpsilon_of_mem {cs : List Char} (h : '\'' ∈ cs ∨ '_' ∈ cs) : isEpsilon cs = false := by
  rw [Bool.eq_false_iff]
  intro hε
  simp only [isEpsilon, Text.isCaseOf, Bool.or_eq_true, beq_iff_eq] at hε
  rcases hε with rfl | hε
  · exact absurd h (by decide)
  · have hlower := h.imp (List.mem_map_of_mem (f := Char.toLower)) (List.mem_map_of_mem (f := Char.toLower))
    rw [hε] at hlower
    exact absurd hlower (by decide)

theorem exists_toList_prime (A : Symbol) (taken : List Symbol) :
    ∃ marks, (freshName A "'" taken "").toList = A.toList ++ marks ∧ (∀ c ∈ marks, c = '\'') ∧ '\'' ∈ marks := by
  obtain ⟨more, hmore, hname⟩ := exists_toList_freshName A (show addedPiece "'" "" ≠ "" by decide) taken
  refine ⟨_, hname, fun c hc => ?_, by simp⟩
  rcases List.mem_append.mp hc with hc | hc
  · simpa using hc
  · simpa [addedPiece] using hmore c hc

theorem lengthened_prime (A : Symbol) (taken : List Symbol) : Lengthened A (freshName A "'" taken "") :=
  have ⟨marks, hname, hprimes, hmem⟩ := exists_toList_prime A taken
  ⟨marks, hname, fun c hc => hprimes c hc ▸ (by decide), Or.inl hmem⟩

theorem lengthened_fact (A : Symbol) (taken : List Symbol) : Lengthened A (freshName A "_fact" taken "_") := by
  obtain ⟨more, hmore, hname⟩ := exists_toList_freshName A (show addedPiece "_fact" "_" ≠ "" by decide) taken
  refine ⟨_, hname, fun c hc => ?_, Or.inr (by simp)⟩
  rcases List.mem_append.mp hc with hc | hc
  · exact List.mem_cons_of_mem '\'' hc
  · obtain rfl : c = '_' := by simpa [addedPiece] using hmore c hc
    decide

theorem isName_prime {A : Symbol} (hA : IsName A.toList) (taken : List Symbol) :
    IsName (freshName A "'" taken "").toList := by
  obtain ⟨marks, hname, hmarks, -⟩ := exists_toList_prime A taken
  obtain ⟨c, body, primes, hspell, hc, hbody, hprimes⟩ := hA
  refine ⟨c, body, primes ++ marks, by rw [hname, hspell]; simp, hc, hbody, ?_⟩
  exact List.forall_mem_append.mpr ⟨hprimes, hmarks⟩

namespace Lengthened

variable {A B : Symbol}

theorem apart (h : Lengthened A B) (hA : A.Apart) : B.Apart := by
  obtain ⟨marks, hname, hmarks, -⟩ := h
  rw [Symbol.Apart, hname]
  refine List.forall_mem_append.mpr ⟨hA, fun c hc => ?_⟩
  obtain ⟨hblank, hbar, -⟩ := of_mem_marks (hmarks c hc)
  exact ⟨hblank, hbar⟩

theorem plainName (h : Lengthened A B) (hA : Symbol.PlainName A) : Symbol.PlainName B := by
  obtain ⟨marks, hname, hmarks, hmem⟩ := h
  have hblank : ∀ c ∈ marks, Text.isBlank c = false := fun c hc => (of_mem_marks (hmarks c hc)).1
  have hbreak : marks.any Text.isLineBreak = false := by
    simpa using fun c hc => Text.not_isLineBreak_of_not_isBlank (hblank c hc)
  have hsolid : Text.Solid marks := .of_no_blank (by rintro rfl; simp at hmem) hblank
  constructor
  · simpa [hname] using hA.solid.append hsolid []
  · rw [hname, List.any_append, hA.no_break, hbreak, Bool.or_self]
  · rw [hname]
    exact fun harrows => hA.no_arrow (harrows.of_append fun c hc => (of_mem_marks (hmarks c hc)).2.2)

theorem legible (h : Lengthened A B) (hA : Symbol.PlainName A) : B.Legible := by
  refine Or.inr ⟨(h.plainName hA).inLine, not_isEpsilon_of_mem ?_⟩
  obtain ⟨marks, hname, -, hmem⟩ := h
  rw [hname]
  exact hmem.imp (List.mem_append_right _) (List.mem_append_right _)

end Lengthened

theorem Symbol.Plain.legible {s : Symbol} (hs : Symbol.Plain s) : s.Legible := Or.inr ⟨hs.inLine, hs.not_epsilon⟩

theorem Symbol.Legible.inLine {s : Symbol} (hs : s.Legible) : Symbol.InLine s := by
  rcases hs with rfl | ⟨hs, -⟩
  · exact Symbol.inLine_epsilon
  · exact hs

theorem Symbol.Legible.plain {s : Symbol} (hs : s.Legible) (hne : s ≠ epsilon) (happart : s.Apart) : Symbol.Plain s := by
  obtain ⟨hline, hε⟩ := hs.resolve_left hne
  refine ⟨hline.solid.ne_nil, ?_, fun hc => (happart _ hc).2 rfl, hε⟩
  simpa using fun c hc => (happart c hc).1

namespace Grammar

variable {g h r : Grammar} {A B C s t new start : Symbol} {α : Alternative} {added : List Symbol} {text : String}

/-! ## What factoring leaves alone -/

/-- What can be found among the alternatives of `C` after some extractions: `ε`, the end of an alternative of the given
grammar, or two symbols or more of which the first begins no other alternative. -/
inductive Inherited (g h : Grammar) (C : Symbol) : Alternative → Prop
  | empty : Inherited g h C [epsilon]
  | ending {α β : Alternative} {B : Symbol} (hβ : β ∈ g.alternatives B) (hend : α <:+ β) : Inherited g h C α
  | merged {α : Alternative} {s : Symbol} (hlen : 2 ≤ α.length) (hs : α.head? = some s)
    (hone : (h.sharers C s).length ≤ 1) : Inherited g h C α

namespace Mergeable

/-- Only the merged alternative begins with what was shared, and as many as before begin with any other symbol. -/
theorem length_sharers_self (he : g.Mergeable A s new) (t : Symbol) :
    ((g.extracted A s new).sharers A t).length = if t = s then 1 else (g.sharers A t).length := by
  have hhead := he.head?_sharedStart_append [new]
  have hperm := he.perm_alternatives_self.countP_eq fun α : Alternative => decide (α.head? = some t)
  simp only [sharers, ← List.countP_eq_length_filter]
  rw [hperm]
  by_cases hts : t = s
  · subst hts
    rw [List.countP_cons_of_pos (by simpa using hhead), List.countP_filter, if_pos rfl]
    simp
  · rw [List.countP_cons_of_neg (by simpa [hhead] using Ne.symm hts), List.countP_filter, if_neg hts]
    refine List.countP_congr fun α _ => ?_
    simp only [Bool.and_eq_true, decide_eq_true_eq, and_iff_left_iff_imp]
    exact fun ht hs => hts (Option.some.inj (ht.symm.trans hs))

/-- If no two alternatives began with a symbol, no two do after an extraction. -/
theorem length_sharers_le (he : g.Mergeable A s new) (hC : C ≠ new) (ht : (g.sharers C t).length ≤ 1) :
    ((g.extracted A s new).sharers C t).length ≤ 1 := by
  by_cases hA : C = A
  · subst hA
    rw [he.length_sharers_self]
    split
    · exact le_rfl
    · exact ht
  · rwa [sharers, alternatives_extracted_of_ne hA hC, ← sharers]

/-- An alternative that shares its first symbol with another has not been merged before. -/
theorem exists_isSuffix (he : h.Mergeable A s new) (hα : Inherited g h A α) (hs : α.head? = some s) :
    ∃ B, ∃ β ∈ g.alternatives B, α <:+ β := by
  cases hα with
  | empty => exact absurd (by simpa using hs) he.ne_epsilon.symm
  | ending hβ hα => exact ⟨_, _, hβ, hα⟩
  | merged _ ht hone =>
    obtain rfl := Option.some.inj (hs.symm.trans ht)
    have := he.two_le
    omega

theorem inherited (he : h.Mergeable A s new) (hh : ∀ C, ∀ α ∈ h.alternatives C, Inherited g h C α) :
    ∀ C, ∀ α ∈ (h.extracted A s new).alternatives C, Inherited g (h.extracted A s new) C α := by
  intro C α hα
  rcases he.mem_alternatives_cases hα with ⟨-, hα⟩ | ⟨rfl, rfl⟩ | ⟨hnew, hα⟩
  · obtain ⟨δ, hδ, rfl⟩ := exists_append_of_mem_tails hα
    split
    · exact .empty
    · obtain ⟨B, β, hβ, hend⟩ := he.exists_isSuffix (hh A _ hδ) (he.head?_sharedStart_append δ)
      exact .ending hβ ((List.suffix_append _ δ).trans hend)
  · have hpos := List.length_pos_iff.mpr he.sharedStart_ne_nil
    have hlen : 2 ≤ (h.sharedStart C s ++ [new]).length := by
      rw [List.length_append, List.length_singleton]
      omega
    exact .merged hlen (he.head?_sharedStart_append [new]) (by rw [he.length_sharers_self, if_pos rfl])
  · cases hh C α hα with
    | empty => exact .empty
    | ending hβ hend => exact .ending hβ hend
    | merged hlen hs hone => exact .merged hlen hs (he.length_sharers_le hnew hone)

end Mergeable

theorem Extractions.inherited (hx : Extractions g h added) : ∀ C, ∀ α ∈ h.alternatives C, Inherited g h C α := by
  induction hx with
  | refl => exact fun C α hα => .ending hα List.suffix_rfl
  | tail _ he ih => exact he.inherited ih

/-- What stands alone is `ε`, or the last symbol of an alternative of the given grammar. -/
theorem Extractions.of_singleton_mem (hx : Extractions g h added) (hs : [s] ∈ h.alternatives C) :
    s = epsilon ∨ ∃ B, ∃ β ∈ g.alternatives B, β.getLast? = some s := by
  cases hx.inherited C [s] hs with
  | empty => exact Or.inl rfl
  | ending hβ hend =>
    obtain ⟨δ, rfl⟩ := hend
    exact Or.inr ⟨_, _, hβ, by simp⟩
  | merged hlen => simp at hlen

/-! ## What is read again -/

theorem WellFormed.inLine (hr : r.WellFormed) (hm : MadeOf Symbol.PlainName Symbol.Legible r) : r.InLine := by
  intro e he
  have hA : e.1 ∈ r.nonterminals := List.mem_map_of_mem he
  rw [← alternatives_eq_of_mem_entries he]
  exact ⟨hm.names _ hA, hr.ne_nil _ hA, fun α hα =>
    ⟨(hr.isCanonical _ α hα).ne_nil, fun s hs => (hm.symbols _ α hα s hs).inLine⟩⟩

theorem WellFormed.spelled (hr : r.WellFormed) (hm : MadeOf Symbol.PlainName Symbol.Legible r)
    (happart : ∀ s ∈ r.occurrences, s.Apart) : r.Spelled := by
  intro e he
  have hA : e.1 ∈ r.nonterminals := List.mem_map_of_mem he
  rw [← alternatives_eq_of_mem_entries he]
  refine ⟨hm.names _ hA, hr.ne_nil _ hA, fun α hα => (hr.isCanonical _ α hα).imp_right fun ⟨hne, hε⟩ => ⟨hne, ?_⟩⟩
  intro s hs
  exact (hm.symbols _ α hα s hs).plain (ne_of_mem_of_not_mem hs hε)
    (happart s (mem_occurrences_iff.mpr ⟨_, α, hα, hs⟩))

theorem Spelled.madeOf (hg : g.Spelled) : MadeOf Symbol.PlainName Symbol.Legible g where
  names A hA := by
    obtain ⟨e, he, rfl⟩ := List.mem_map.mp hA
    exact (hg e he).1
  symbols A α hα s hs := by
    rcases hg.of_mem_alternatives hα with rfl | ⟨-, hplain⟩
    · exact Or.inl (List.mem_singleton.mp hs)
    · exact (hplain s hs).legible

/-- A symbol that is the whole of an alternative is read back if it is one token. -/
theorem Spelled.read_eq_singleton_iff (hg : g.Spelled) (hs : [s] ∈ g.alternatives A) :
    Alternative.read s.toList = [s] ↔ IsToken s.toList := by
  rcases hg.of_mem_alternatives hs with he | ⟨-, hplain⟩
  · rw [List.singleton_inj.mp he]
    exact ⟨fun _ => .single 'ε', fun _ => by decide +kernel⟩
  · exact (hplain s List.mem_cons_self).read_eq_singleton_iff

/-- A well-formed grammar is the same when it is read again, if no symbol of an alternative has blanks or bars, and each
that is the whole of an alternative is one token. -/
theorem read_render_eq_iff (hr : r.WellFormed) (hm : MadeOf Symbol.PlainName Symbol.Legible r)
    (hstart : r.nonterminals.head? = some start) :
    read r.render = { grammar := r, start := some start, skipped := [] } ↔
      (∀ s ∈ r.occurrences, s.Apart) ∧ ∀ A s, [s] ∈ r.alternatives A → IsToken s.toList := by
  have hsame (hspelled : r.Spelled) : read r.render = { grammar := r, start := some start, skipped := [] } ↔
      ∀ A s, [s] ∈ r.alternatives A → IsToken s.toList := by
    rw [hspelled.read_render hstart, GrammarReading.mk.injEq, hspelled.reread_eq_iff]
    simp only [and_true]
    exact forall₃_congr fun A s hs => hspelled.read_eq_singleton_iff hs
  constructor
  · intro h
    have hparse : parse r.render = .ok (r, start) := by rw [parse, h]
    have hspelled := (spelled_of_parse hparse).1
    exact ⟨fun s => hspelled.apart, (hsame hspelled).mp h⟩
  · rintro ⟨happart, htokens⟩
    exact (hsame (hr.spelled hm happart)).mpr htokens

/-- A transformation keeps the form in which a grammar was read, up to blanks and bars. -/
theorem Spelled.transformed (hg : g.Spelled) (hstart : g.nonterminals.head? = some start)
    (rounds : Nat) (h : g.leftFactor = .ok r ∨ g.eliminateLeftRecursion rounds = .ok r) :
    r.WellFormed ∧ MadeOf Symbol.PlainName Symbol.Legible r ∧ r.nonterminals.head? = some start := by
  obtain ⟨hr, hm, added, hx⟩ : r.WellFormed ∧ MadeOf Symbol.PlainName Symbol.Legible r ∧ ∃ added, Extends g r added := by
    rcases h with h | h
    · obtain ⟨hr, hx⟩ := hg.wellFormed.leftFactor h
      refine ⟨hr, hg.madeOf.leftFactor hg.wellFormed.filled (Or.inl rfl) (fun A taken hA => ?_) h, hx⟩
      exact ⟨(lengthened_fact A taken).plainName hA, (lengthened_fact A taken).legible hA⟩
    · obtain ⟨hr, hx⟩ := hg.wellFormed.eliminateLeftRecursion h
      refine ⟨hr, hg.madeOf.eliminateLeftRecursion (Or.inl rfl) (fun A taken hA _ => ?_) h, hx⟩
      exact ⟨(lengthened_prime A taken).plainName hA, (lengthened_prime A taken).legible hA⟩
  exact ⟨hr, hm, by rw [hx.nonterminals_eq, List.head?_append, hstart, Option.some_or]⟩

/-- Where a grammar is the same when it is read again, each symbol that is the whole of an alternative is one token. -/
theorem Spelled.isToken_of_singleton_mem (hg : g.Spelled) (hstart : g.nonterminals.head? = some start)
    (hagain : (read g.render).grammar = g) (hs : [s] ∈ g.alternatives A) : IsToken s.toList := by
  rw [hg.read_render hstart] at hagain
  exact (hg.read_eq_singleton_iff hs).mp (hg.reread_eq_iff.mp hagain A s hs)

theorem Spelled.apart_leftFactor (hg : g.Spelled) (hnames : ∀ A ∈ g.nonterminals, A.Apart)
    (h : g.leftFactor = .ok r) (hs : s ∈ r.occurrences) : s.Apart := by
  have hm : MadeOf Symbol.Apart Symbol.Apart g :=
    ⟨hnames, fun A α hα s hs => hg.apart (mem_occurrences_iff.mpr ⟨A, α, hα, hs⟩)⟩
  exact (hm.leftFactor hg.wellFormed.filled Symbol.apart_epsilon (fun A taken hA =>
    ⟨(lengthened_fact A taken).apart hA, (lengthened_fact A taken).apart hA⟩) h).of_mem_occurrences hs

/-- A nonterminal that is primed occurs in an alternative, so it has neither blanks nor bars. -/
theorem Spelled.apart_eliminateLeftRecursion (hg : g.Spelled) {rounds : Nat}
    (h : g.eliminateLeftRecursion rounds = .ok r) (hs : s ∈ r.occurrences) : s.Apart := by
  have hm : MadeOf (fun _ => True) Symbol.Apart g :=
    ⟨fun _ _ => trivial, fun A α hα s hs => hg.apart (mem_occurrences_iff.mpr ⟨A, α, hα, hs⟩)⟩
  exact (hm.eliminateLeftRecursion Symbol.apart_epsilon (fun A taken _ hA =>
    ⟨trivial, (lengthened_prime A taken).apart hA⟩) h).of_mem_occurrences hs

theorem isToken_eliminateLeftRecursion (hnames : ∀ A ∈ g.nonterminals, IsName A.toList)
    (htokens : ∀ s ∈ g.occurrences, IsToken s.toList) {rounds : Nat}
    (h : g.eliminateLeftRecursion rounds = .ok r) (hs : s ∈ r.occurrences) : IsToken s.toList := by
  have hm : MadeOf (fun A => IsName A.toList) (fun s => IsToken s.toList) g :=
    ⟨hnames, fun A α hα s hs => htokens s (mem_occurrences_iff.mpr ⟨A, α, hα, hs⟩)⟩
  exact (hm.eliminateLeftRecursion (.single 'ε') (fun A taken hA _ =>
    ⟨isName_prime hA taken, .name (isName_prime hA taken)⟩) h).of_mem_occurrences hs

/-- Let a grammar that was read be the same when it is read again. What factoring or the elimination of left recursion
makes of it is read again with the same start symbol, no line skipped and no error, and with its nonterminals in their
order. It is the same exactly if no symbol of an alternative has blanks or bars, and each symbol that is the whole of an
alternative, but was not before, is one token. After factoring that is so if no nonterminal has blanks or bars, and the
last symbols of the given alternatives are tokens. After the elimination no symbol has blanks or bars, and the grammar is
the same if its nonterminals are spelled like names and its symbols are tokens. -/
theorem read_render_of_transformed (hparse : parse text = .ok (g, start)) (hagain : (read g.render).grammar = g) :
    (∃ r, g.leftFactor = .ok r) ∧
    (∀ r rounds, (g.leftFactor = .ok r ∨ g.eliminateLeftRecursion rounds = .ok r) →
      ((read r.render).start = some start ∧ (read r.render).skipped = [] ∧ (read r.render).error? = none ∧
        (read r.render).grammar.nonterminals = r.nonterminals) ∧
      (read r.render = { grammar := r, start := some start, skipped := [] } ↔ (∀ s ∈ r.occurrences, s.Apart) ∧
        ∀ A s, [s] ∈ r.alternatives A → (∀ B, [s] ∉ g.alternatives B) → IsToken s.toList)) ∧
    (∀ r, g.leftFactor = .ok r → (∀ A ∈ g.nonterminals, A.Apart) →
      (∀ A, ∀ α ∈ g.alternatives A, ∀ s ∈ α.getLast?, IsToken s.toList) →
      read r.render = { grammar := r, start := some start, skipped := [] }) ∧
    ∀ r rounds, g.eliminateLeftRecursion rounds = .ok r → (∀ s ∈ r.occurrences, s.Apart) ∧
      ((∀ A ∈ g.nonterminals, IsName A.toList) → (∀ s ∈ g.occurrences, IsToken s.toList) →
        read r.render = { grammar := r, start := some start, skipped := [] }) := by
  obtain ⟨hg, hstart⟩ := spelled_of_parse hparse
  obtain ⟨factored, added, hfactor, hx, -⟩ := hg.wellFormed.filled.exists_leftFactor
  refine ⟨⟨factored, hfactor⟩, fun r rounds h => ?_, fun r h hnames hlast => ?_, fun r rounds h => ?_⟩
  · obtain ⟨hr, hm, hfirst⟩ := hg.transformed hstart rounds h
    refine ⟨?_, (read_render_eq_iff hr hm hfirst).trans (and_congr_right fun _ => ?_)⟩
    · rw [(hr.inLine hm).read_render hfirst]
      exact ⟨rfl, rfl, rfl, OrderedMap.keys_mapValues ..⟩
    · refine ⟨fun h A s hs _ => h A s hs, fun h A s hs => ?_⟩
      by_cases hold : ∃ B, [s] ∈ g.alternatives B
      · obtain ⟨B, hB⟩ := hold
        exact hg.isToken_of_singleton_mem hstart hagain hB
      · exact h A s hs fun B hB => hold ⟨B, hB⟩
  · obtain ⟨hr, hm, hfirst⟩ := hg.transformed hstart 0 (Or.inl h)
    refine (read_render_eq_iff hr hm hfirst).mpr ⟨fun s => hg.apart_leftFactor hnames h, fun A s hs => ?_⟩
    obtain rfl := Except.ok.inj (hfactor.symm.trans h)
    rcases hx.of_singleton_mem hs with rfl | ⟨B, β, hβ, hend⟩
    · exact .single 'ε'
    · exact hlast B β hβ s hend
  · have happart : ∀ s ∈ r.occurrences, s.Apart := fun s => hg.apart_eliminateLeftRecursion h
    obtain ⟨hr, hm, hfirst⟩ := hg.transformed hstart rounds (Or.inr h)
    refine ⟨happart, fun hnames htokens => (read_render_eq_iff hr hm hfirst).mpr ⟨happart, fun A s hs => ?_⟩⟩
    exact isToken_eliminateLeftRecursion hnames htokens h (mem_occurrences_iff.mpr ⟨A, [s], hs, List.mem_cons_self⟩)

/-- Names with subscripts and primes, an operator of one character, and an empty alternative. -/
def terms : Grammar :=
  .ofList [("Expr", [["Expr", "+", "T₀'"], ["Expr", "<=", "T₀'"], ["T₀'"]]), ("T₀'", [["x1", "y"], ["x1", "T₀'"], ["ε"]])]

def termsFactored : Grammar :=
  .ofList [("Expr", [["Expr", "Expr_fact"], ["T₀'"]]), ("T₀'", [["x1", "T₀'_fact"], ["ε"]]),
    ("Expr_fact", [["+", "T₀'"], ["<=", "T₀'"]]), ("T₀'_fact", [["y"], ["T₀'"]])]

def termsEliminated : Grammar :=
  .ofList [("Expr", [["T₀'", "Expr'"]]), ("T₀'", [["x1", "y"], ["x1", "T₀'"], ["ε"]]),
    ("Expr'", [["+", "T₀'", "Expr'"], ["<=", "T₀'", "Expr'"], ["ε"]])]

theorem terms_read_render : parse "Expr -> Expr + T₀' | Expr<=T₀' | T₀'\nT₀' -> x1 y | x1T₀' |" = .ok (terms, "Expr") ∧
    (read terms.render).grammar = terms ∧ terms.leftFactor = .ok termsFactored ∧
    terms.eliminateLeftRecursion 9 = .ok termsEliminated ∧
    read termsFactored.render = { grammar := termsFactored, start := some "Expr", skipped := [] } ∧
    read termsEliminated.render = { grammar := termsEliminated, start := some "Expr", skipped := [] } := by
  have hparse : parse "Expr -> Expr + T₀' | Expr<=T₀' | T₀'\nT₀' -> x1 y | x1T₀' |" = .ok (terms, "Expr") := by
    decide +kernel
  have hagain : (read terms.render).grammar = terms := by decide +kernel
  have hfactor : terms.leftFactor = .ok termsFactored := by decide +kernel
  have heliminate : terms.eliminateLeftRecursion 9 = .ok termsEliminated := by decide +kernel
  have hnames : ∀ A ∈ terms.nonterminals, IsName A.toList := by decide +kernel
  have htokens : ∀ s ∈ terms.occurrences, IsToken s.toList := by decide +kernel
  obtain ⟨-, -, hfactored, heliminated⟩ := read_render_of_transformed hparse hagain
  refine ⟨hparse, hagain, hfactor, heliminate, hfactored _ hfactor (fun A hA => (hnames A hA).apart) ?_,
    (heliminated _ 9 heliminate).2 hnames htokens⟩
  exact fun A α hα s hs => htokens s (mem_occurrences_iff.mpr ⟨A, α, hα, List.mem_of_getLast? hs⟩)

/-- Neither what was factored nor what is without left recursion need be the same when it is read again. Factoring
leaves `foo_bar` alone, which is three symbols then; and a primed nonterminal stands in the place of `ε`, and is two
symbols if it begins with a small letter. -/
theorem transformed_not_reread :
    (¬ ∀ (text : String) (g r : Grammar) (start : Symbol), parse text = .ok (g, start) →
      (read g.render).grammar = g → g.leftFactor = .ok r →
      read r.render = { grammar := r, start := some start, skipped := [] }) ∧
    ¬ ∀ (text : String) (g r : Grammar) (start : Symbol) (rounds : Nat), parse text = .ok (g, start) →
      (read g.render).grammar = g → g.eliminateLeftRecursion rounds = .ok r →
      read r.render = { grammar := r, start := some start, skipped := [] } := by
  constructor
  · intro h
    have hread := congrArg GrammarReading.grammar <| h "S -> a foo_bar | a c"
      (.ofList [("S", [["a", "foo_bar"], ["a", "c"]])])
      (.ofList [("S", [["a", "S_fact"]]), ("S_fact", [["foo_bar"], ["c"]])]) "S"
      (by decide +kernel) (by decide +kernel) (by decide +kernel)
    exact absurd hread (by decide +kernel)
  · intro h
    have hread := congrArg GrammarReading.grammar <| h "expr -> expr x | ε"
      (.ofList [("expr", [["expr", "x"], ["ε"]])])
      (.ofList [("expr", [["expr'"]]), ("expr'", [["x", "expr'"], ["ε"]])]) "expr" 9
      (by decide +kernel) (by decide +kernel) (by decide +kernel)
    exact absurd hread (by decide +kernel)

end Grammar

end FormalLanguages
