import FormalLanguages.Proofs.Automaton.Headings
/-!
# The order of the sections

A description is made of blocks: a line with the label of a section, and the lines below it up to the next label.
The contents of a section are gathered from its blocks before anything is made of them. So blocks of different
sections can change places, in whatever number and however they are mixed; only blocks of the same section have
to keep their order, as states and symbols are numbered and the start is chosen by what is mentioned first.

Results:
* `underHeadings_flatMap_lines`: what stands in each block is read under its label.
* `contentsOf_flatMap_lines`: the contents of a section are those of its blocks, in order.
* `ofContents_congr`: what is read depends only on the contents of each section and on what stands in none.
* `read_of_shuffled`: blocks in another order are read as the same automaton, with the same entries skipped.
-/
namespace FormalLanguages

namespace Description

/-- A block of a description: a line with the label of a section, and lines without a label below it. -/
structure SectionBlock where
  sec : Section
  opening : List Char
  below : List (List Char)
  opens : Opens opening sec
  unlabelled : ∀ line ∈ below, heading? line = none

namespace SectionBlock

/-- The lines of a block. -/
def lines (b : SectionBlock) : List (List Char) := b.opening :: b.below

/-- What stands behind the label, if anything does, and on the lines below it. -/
def contents (b : SectionBlock) : List (List Char) :=
  match heading? b.opening with
  | some (_, content) => if content.isEmpty then b.below else content :: b.below
  | none => b.below

end SectionBlock

/-- The blocks are put into another order, in which those of the same section keep theirs. -/
structure Shuffled (bs bs' : List SectionBlock) : Prop where
  perm : bs.Perm bs'
  order : ∀ s, (bs.filter fun b => b.sec = s) = bs'.filter fun b => b.sec = s

/-- The lines of the text that are not blank are those of the blocks. -/
def MadeOf (text : String) (bs : List SectionBlock) : Prop :=
  Text.lines text.toList = bs.flatMap SectionBlock.lines

instance (text : String) (bs : List SectionBlock) : Decidable (MadeOf text bs) :=
  inferInstanceAs (Decidable (_ = _))

variable {current : Option Heading} {contents contents' : List (Option Heading × List Char)}
  {bs bs' : List SectionBlock} {text text' : String}

/-! ## Reading blocks -/

/-- Lines without a label stand under the last one. -/
theorem underHeadings_append_of_unlabelled {below : List (List Char)} (h : ∀ line ∈ below, heading? line = none)
    (rest : List (List Char)) :
    underHeadings current (below ++ rest) = below.map (current, ·) ++ underHeadings current rest := by
  induction below with
  | nil => rfl
  | cons line below ih =>
    obtain ⟨hline, hbelow⟩ := List.forall_mem_cons.mp h
    rw [List.cons_append, underHeadings, hline, List.map_cons, List.cons_append, ih hbelow]

/-- What stands in a block is read under its label. -/
theorem underHeadings_lines_append (b : SectionBlock) (rest : List (List Char)) :
    underHeadings current (b.lines ++ rest) =
      b.contents.map (some (.section b.sec), ·) ++ underHeadings (some (.section b.sec)) rest := by
  obtain ⟨content, hopening⟩ := heading?_of_opens b.opens
  rw [SectionBlock.lines, List.cons_append, underHeadings, SectionBlock.contents, hopening]
  dsimp only
  rw [underHeadings_append_of_unlabelled b.unlabelled]
  split <;> rfl

theorem underHeadings_flatMap_lines (bs : List SectionBlock) :
    underHeadings current (bs.flatMap SectionBlock.lines) =
      bs.flatMap fun b => b.contents.map (some (.section b.sec), ·) := by
  induction bs generalizing current with
  | nil => rfl
  | cons b bs ih => rw [List.flatMap_cons, underHeadings_lines_append, ih, List.flatMap_cons]

/-- The contents of a section are those of its blocks, in order. -/
theorem contentsOf_flatMap_lines (bs : List SectionBlock) (s : Section) :
    contentsOf (underHeadings none (bs.flatMap SectionBlock.lines)) s =
      (bs.filter fun b => b.sec = s).flatMap SectionBlock.contents := by
  rw [underHeadings_flatMap_lines]
  induction bs with
  | nil => rfl
  | cons b bs ih =>
    rw [contentsOf] at ih ⊢
    rw [List.flatMap_cons, List.filter_append, List.map_append, ih, List.filter_map, List.map_map]
    by_cases hs : b.sec = s <;> simp [hs, Function.comp_def]

/-- In blocks everything stands under the label of a section. -/
theorem exists_section_of_mem {c : Option Heading × List Char}
    (hc : c ∈ underHeadings none (bs.flatMap SectionBlock.lines)) : ∃ s, c.1 = some (.section s) := by
  rw [underHeadings_flatMap_lines] at hc
  obtain ⟨b, -, hc⟩ := List.mem_flatMap.mp hc
  obtain ⟨content, -, rfl⟩ := List.mem_map.mp hc
  exact ⟨b.sec, rfl⟩

theorem unknownLabel?_flatMap_lines (bs : List SectionBlock) :
    unknownLabel? (underHeadings none (bs.flatMap SectionBlock.lines)) = none := by
  refine List.findSome?_eq_none_iff.mpr fun c hc => ?_
  obtain ⟨s, hs⟩ := exists_section_of_mem hc
  rw [hs]

theorem filter_isNone_flatMap_lines (bs : List SectionBlock) :
    (underHeadings none (bs.flatMap SectionBlock.lines)).filter (·.1.isNone) = [] := by
  refine List.filter_eq_nil_iff.mpr fun c hc => ?_
  obtain ⟨s, hs⟩ := exists_section_of_mem hc
  simp [hs]

end Description

namespace Automaton

open Description

variable {contents contents' : List (Option Heading × List Char)} {bs bs' : List SectionBlock}
  {text text' : String}

/-- What is read depends only on the contents of each section and on what stands in none. -/
theorem ofContents_congr (h : ∀ s, contentsOf contents s = contentsOf contents' s)
    (houtside : contents.filter (·.1.isNone) = contents'.filter (·.1.isNone)) :
    ofContents contents = ofContents contents' := by
  simp only [ofContents, names, transitionTexts, h, houtside]

theorem read_of_madeOf (h : MadeOf text bs) :
    read text = .ok (ofContents (underHeadings none (bs.flatMap SectionBlock.lines))) := by
  unfold read
  dsimp only
  rw [h, unknownLabel?_flatMap_lines]

/-- Texts whose blocks are the same but for their order, where blocks of the same section keep theirs, are read
as the same automaton or as none, with the same entries skipped. -/
theorem read_of_shuffled (h : MadeOf text bs) (h' : MadeOf text' bs') (hshuffled : Shuffled bs bs') :
    (∃ r, read text = .ok r ∧ read text' = .ok r) ∧ parse text = parse text' := by
  have hsame : ofContents (underHeadings none (bs.flatMap SectionBlock.lines)) =
      ofContents (underHeadings none (bs'.flatMap SectionBlock.lines)) := by
    refine ofContents_congr (fun s => ?_) ?_
    · rw [contentsOf_flatMap_lines, contentsOf_flatMap_lines, hshuffled.order]
    · rw [filter_isNone_flatMap_lines, filter_isNone_flatMap_lines]
  have hread := read_of_madeOf h
  have hread' := read_of_madeOf h'
  rw [← hsame] at hread'
  exact ⟨⟨_, hread, hread'⟩, by rw [parse, parse, hread, hread']⟩

/-- A block with a state behind the label and another one below it. -/
def firstStates : SectionBlock where
  sec := .states
  opening := "States: r".toList
  below := ["q".toList]
  opens := ⟨"States".toList, [], " r".toList, by decide, by decide, List.forall_mem_nil _⟩
  unlabelled := by decide

/-- Transitions in between, one of which cannot be read; a colon makes no label. -/
def someTransitions : SectionBlock where
  sec := .transitions
  opening := "TRANSITIONS : p, b -> q; q, a".toList
  below := ["q, c:d -> r".toList]
  opens := ⟨"TRANSITIONS".toList, [' '], " p, b -> q; q, a".toList, by decide, by decide,
    Text.isBlank_of_mem_space⟩
  unlabelled := by decide

/-- More states. -/
def moreStates : SectionBlock where
  sec := .states
  opening := "states:".toList
  below := ["p, r".toList]
  opens := ⟨"states".toList, [], [], by decide, by decide, List.forall_mem_nil _⟩
  unlabelled := by decide

/-- The transitions stand between the states. -/
def interleaved : String := "States: r\nq\nTRANSITIONS : p, b -> q; q, a\nq, c:d -> r\nstates:\n\np, r"

/-- The transitions come first, with other line breaks. -/
def regrouped : String :=
  "TRANSITIONS : p, b -> q; q, a\r\nq, c:d -> r\r\nStates: r\r\nq\r\nstates:\r\np, r"

theorem interleaved_read :
    MadeOf interleaved [firstStates, someTransitions, moreStates] ∧
    MadeOf regrouped [someTransitions, firstStates, moreStates] ∧
    Shuffled [firstStates, someTransitions, moreStates] [someTransitions, firstStates, moreStates] ∧
    (∃ r, read interleaved = .ok r ∧ read regrouped = .ok r) ∧ parse interleaved = parse regrouped := by
  have h : MadeOf interleaved [firstStates, someTransitions, moreStates] := by decide +kernel
  have h' : MadeOf regrouped [someTransitions, firstStates, moreStates] := by decide +kernel
  have hshuffled : Shuffled [firstStates, someTransitions, moreStates]
      [someTransitions, firstStates, moreStates] :=
    ⟨List.Perm.swap _ _ _, fun s => by cases s <;> rfl⟩
  exact ⟨h, h', hshuffled, read_of_shuffled h h' hshuffled⟩

end Automaton

end FormalLanguages
