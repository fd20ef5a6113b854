import FormalLanguages.Proofs.Grammar.Rereading
/-!
# Texts one after the other

A grammar is read line by line, and a line says the same wherever it stands. What the lines before it are needed for
is the place of its nonterminal and whether it declares the start symbol. So a text that is written below another one
adds its alternatives to those that are there, its new nonterminals behind the others, and its lines that are no
productions to those skipped.

Results:
* `GrammarReading.Joins.addLine`, `GrammarReading.Joins.foldl_addLine`: one line, and all lines, of the second text.
* `Grammar.read_newline`: what two texts with a line feed between them are read as.
-/
namespace FormalLanguages

theorem Grammar.alternatives_add (g : Grammar) (A B : Symbol) (alternatives : List Alternative) :
    (g.add A alternatives).alternatives B =
      g.alternatives B ++ if B = A then alternatives else [] := by
  rw [Grammar.alternatives, Grammar.add, OrderedMap.getD_alter]
  split
  · next h => rw [h]; rfl
  · rw [List.append_nil]; rfl

namespace GrammarReading

/-- The third reading says what the first one says and then what the second one says. -/
structure Joins (r s t : GrammarReading) : Prop where
  nonterminals_eq : t.grammar.nonterminals =
    r.grammar.nonterminals ++ s.grammar.nonterminals.filter (· ∉ r.grammar.nonterminals)
  alternatives_eq : ∀ A, t.grammar.alternatives A = r.grammar.alternatives A ++ s.grammar.alternatives A
  start_eq : t.start = r.start.or s.start
  skipped_eq : t.skipped = r.skipped ++ s.skipped

variable {r s t : GrammarReading}

theorem joins_empty (r : GrammarReading) : Joins r {} r where
  nonterminals_eq := by simp [Grammar.nonterminals, OrderedMap.keys, EmptyCollection.emptyCollection, OrderedMap.empty]
  alternatives_eq A := (List.append_nil _).symm
  start_eq := by simp
  skipped_eq := by simp

/-- A line that is added to what comes last is added to the whole. -/
theorem Joins.addLine (h : Joins r s t) (line : GrammarLine) : Joins r (s.addLine line) (t.addLine line) := by
  cases line with
  | skipped text =>
    refine ⟨h.nonterminals_eq, h.alternatives_eq, h.start_eq, ?_⟩
    simp only [GrammarReading.addLine, h.skipped_eq, List.append_assoc]
  | declaration A alternatives =>
    refine ⟨?_, fun B => ?_, ?_, h.skipped_eq⟩
    · have hmem : A ∈ t.grammar.nonterminals ↔ A ∈ r.grammar.nonterminals ∨ A ∈ s.grammar.nonterminals := by
        simp only [h.nonterminals_eq, List.mem_append, List.mem_filter, decide_eq_true_eq]
        tauto
      simp only [GrammarReading.addLine, Grammar.nonterminals_add]
      by_cases hr : A ∈ r.grammar.nonterminals
      · -- the nonterminal is one of the first text, so it has its place there
        rw [if_pos (hmem.mpr (Or.inl hr)), h.nonterminals_eq]
        split <;> simp [hr]
      · by_cases hs : A ∈ s.grammar.nonterminals
        · rw [if_pos (hmem.mpr (Or.inr hs)), if_pos hs, h.nonterminals_eq]
        · rw [if_neg (by rw [hmem, not_or]; exact ⟨hr, hs⟩), if_neg hs, h.nonterminals_eq]
          simp [hr]
    · simp only [GrammarReading.addLine, Grammar.alternatives_add, h.alternatives_eq, List.append_assoc]
    · simp only [GrammarReading.addLine, h.start_eq, Option.or_assoc]

theorem Joins.foldl_addLine (h : Joins r s t) (ls : List GrammarLine) :
    Joins r (ls.foldl GrammarReading.addLine s) (ls.foldl GrammarReading.addLine t) := by
  induction ls generalizing s t with
  | nil => exact h
  | cons line ls ih => exact ih (h.addLine line)

/-- A reading has an error if it has no start symbol. -/
theorem isSome_error?_iff : r.error?.isSome = true ↔ r.start = none := by
  rw [error?]
  cases r.start <;> simp

end GrammarReading

namespace Grammar

theorem readLines_newline (t₁ t₂ : String) : readLines (t₁ ++ "\n" ++ t₂) = readLines t₁ ++ readLines t₂ := by
  have hlines : Text.lines (t₁ ++ "\n" ++ t₂).toList = Text.lines t₁.toList ++ Text.lines t₂.toList := by
    rw [← Text.lines_append_cons (show Text.isLineBreak '\n' = true by decide)]
    simp
  rw [readLines, hlines, List.map_append]
  rfl

theorem joins_read_newline (t₁ t₂ : String) : (read t₁).Joins (read t₂) (read (t₁ ++ "\n" ++ t₂)) := by
  rw [read, read, read, readLines_newline, List.foldl_append]
  exact (GrammarReading.joins_empty _).foldl_addLine _

/-- What a text is read as that goes on on a new line. The lines of the first part that are skipped come before those
of the second. The nonterminals of the first part come first; those of the second that are not among them follow, in
their order. Each has its alternatives in the first part and then those in the second. The start symbol is that of the
first part, or of the second if the first has none. There is an error if there is one in both parts. -/
theorem read_newline (t₁ t₂ : String) :
    (read (t₁ ++ "\n" ++ t₂)).skipped = (read t₁).skipped ++ (read t₂).skipped ∧
      (read (t₁ ++ "\n" ++ t₂)).grammar.nonterminals = (read t₁).grammar.nonterminals ++
        (read t₂).grammar.nonterminals.filter (· ∉ (read t₁).grammar.nonterminals) ∧
      (∀ A, (read (t₁ ++ "\n" ++ t₂)).grammar.alternatives A =
        (read t₁).grammar.alternatives A ++ (read t₂).grammar.alternatives A) ∧
      (read (t₁ ++ "\n" ++ t₂)).start = (read t₁).start.or (read t₂).start ∧
      ((read (t₁ ++ "\n" ++ t₂)).error?.isSome = true ↔
        (read t₁).error?.isSome = true ∧ (read t₂).error?.isSome = true) := by
  have h := joins_read_newline t₁ t₂
  refine ⟨h.skipped_eq, h.nonterminals_eq, h.alternatives_eq, h.start_eq, ?_⟩
  simp only [GrammarReading.isSome_error?_iff, h.start_eq, Option.or_eq_none_iff]

-- a carriage return at the end of the first part makes one line break with the line feed
example : (read ("S -> a |\r" ++ "\n" ++ "T -> b\nS → c")).grammar =
    .ofList [("S", [["a"], ["ε"], ["c"]]), ("T", [["b"]])] := by
  decide +kernel

end Grammar

end FormalLanguages
