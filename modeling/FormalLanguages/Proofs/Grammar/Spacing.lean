import FormalLanguages.Proofs.Grammar.Tokens
import FormalLanguages.Proofs.Grouping
/-!
# Productions as they are written by hand

A production is written with one arrow or the other, with blanks of any kind between its symbols and a bar between its
alternatives. Its names, words and operators are read as they are, alone or among others: with blanks in between they
are words, and alone they are tokens. But a line is cut at its bars before its symbols are looked at, so the operator
of two bars is not read. It ends the alternative in which it stands, it begins the next one, and between its bars there
is one more, which is empty.

Results:
* `Alternative.read_of_words`: what a text is read as whose words are tokens.
* `Alternative.Written.map_words_splitOn`: where an alternative is cut at its bars.
* `Grammar.read_writtenLine`: what a line is read as, and when it is read as it was meant.
* `Grammar.double_bar_not_read`: it need not be.
-/
namespace FormalLanguages

open Token (IsToken IsName IsWord)

/-- A blank that breaks no line. -/
def Text.isSpace (c : Char) : Bool := isBlank c && !isLineBreak c

/-- The operators of two characters. -/
def Token.operators : List String := ["==", "!=", "<=", ">=", "||", "&&"]

/-- A name, a word or an operator. -/
def Token.IsLexeme (t : List Char) : Prop := IsName t ∨ IsWord t ∨ String.ofList t ∈ operators

instance (t : List Char) : Decidable (Token.IsLexeme t) := inferInstanceAs (Decidable (_ ∨ _ ∨ _))

namespace Alternative

/-- The text has the symbols of an alternative in their order, with blanks between them. -/
inductive Written : Alternative → List Char → Prop
  | single (s : Symbol) : Written [s] s.toList
  | cons (s : Symbol) {gap text : List Char} {α : Alternative} (hne : gap ≠ [])
    (hgap : ∀ c ∈ gap, Text.isSpace c = true) (h : Written α text) : Written (s :: α) (s.toList ++ gap ++ text)

/-- An alternative cut at its bars; the operator of two bars cuts it twice. -/
def cut : Alternative → List Alternative
  | [] => [[]]
  | s :: α => if s = "||" then [] :: [] :: cut α else (cut α).modifyHead (s :: ·)

/-- An alternative without symbols is `ε`. -/
def orEpsilon : Alternative → Alternative
  | [] => [epsilon]
  | s :: α => s :: α

end Alternative

/-- A line with a name, an arrow with perhaps blanks around it, and texts with bars between them. -/
def writtenLine (A : Symbol) (before arrow after : List Char) (texts : List (List Char)) : String :=
  String.ofList (A.toList ++ before ++ arrow ++ after ++ [' ', '|', ' '].intercalate texts)

/-! ## Characters and lexemes -/

namespace Text

variable {b c : Char} {cs xs : List Char}

theorem isBlank_of_isSpace (h : isSpace c = true) : isBlank c = true := by
  rw [isSpace, Bool.and_eq_true] at h
  exact h.1

theorem not_isLineBreak_of_isSpace (h : isSpace c = true) : isLineBreak c = false := by
  simpa [isSpace] using (Bool.and_eq_true_iff.mp h).2

/-- What has no separator goes in front of the first piece. -/
theorem splitOn_append_of_not_mem (h : b ∉ xs) (cs : List Char) :
    (xs ++ cs).splitOn b = (cs.splitOn b).modifyHead (xs ++ ·) := by
  induction xs with
  | nil =>
    rw [List.nil_append]
    cases cs.splitOn b <;> rfl
  | cons x xs ih =>
    have hx : ¬ (x == b) = true := by simpa using (List.ne_of_not_mem_cons h).symm
    rw [List.cons_append, List.splitOn_cons_eq_if_modifyHead, if_neg hx, ih (List.not_mem_of_not_mem_cons h)]
    cases cs.splitOn b <;> rfl

theorem map_modifyHead {α β : Type} {f : α → β} {g : α → α} {k : β → β} (h : ∀ a, f (g a) = k (f a)) (l : List α) :
    (l.modifyHead g).map f = (l.map f).modifyHead k := by
  cases l with
  | nil => rfl
  | cons a l => simp [h]

theorem bar_not_mem_of_blanks (h : ∀ c ∈ cs, isBlank c = true) : '|' ∉ cs := fun hc => absurd (h _ hc) (by decide)

/-- Blanks in front of a text do not change the words of its pieces. -/
theorem map_words_splitOn_blanks_append {blanks : List Char} (h : ∀ c ∈ blanks, isBlank c = true) (cs : List Char) :
    ((blanks ++ cs).splitOn '|').map words = (cs.splitOn '|').map words := by
  rw [splitOn_append_of_not_mem (bar_not_mem_of_blanks h), map_modifyHead (k := id) (words_blanks_append h)]
  cases (cs.splitOn '|').map words <;> rfl

/-- Two bars end a piece and begin another, with an empty one between them. -/
theorem map_words_splitOn_bars (cs : List Char) :
    (("||".toList ++ cs).splitOn '|').map words = [] :: [] :: (cs.splitOn '|').map words := by
  have hcut : ("||".toList ++ cs).splitOn '|' = [] :: [] :: cs.splitOn '|' := by
    simp [List.splitOn_cons_eq_if_modifyHead]
  rw [hcut]
  rfl

end Text

namespace Token

variable {t : List Char}

theorem IsLexeme.cases (ht : IsLexeme t) : IsName t ∨ IsWord t ∨ t ∈ operators.map String.toList :=
  ht.imp_right (Or.imp_right fun h => List.mem_map.mpr ⟨_, h, String.toList_ofList⟩)

theorem IsLexeme.isToken (ht : IsLexeme t) : IsToken t := by
  rcases ht.cases with h | h | h
  · exact .name h
  · exact .word h
  · exact (show ∀ t ∈ operators.map String.toList, IsToken t by decide +kernel) t h

theorem IsLexeme.not_isBlank (ht : IsLexeme t) : ∀ c ∈ t, Text.isBlank c = false := by
  rcases ht.cases with h | h | h
  · exact fun c hc => (h.apart c hc).1
  · exact fun c hc => (h.apart c hc).1
  · have hall : ∀ t ∈ operators.map String.toList, t.any Text.isBlank = false := by decide +kernel
    exact fun c hc => Text.eq_false_of_any (hall t h) hc

/-- The only lexeme with bars is the operator of two bars. -/
theorem IsLexeme.bar_not_mem (ht : IsLexeme t) (hne : t ≠ "||".toList) : '|' ∉ t := by
  rcases ht.cases with h | h | h
  · exact fun hc => (h.apart _ hc).2 rfl
  · exact fun hc => (h.apart _ hc).2 rfl
  · exact (show ∀ t ∈ operators.map String.toList, t ≠ "||".toList → '|' ∉ t by decide +kernel) t h hne

end Token

open Token (IsLexeme)

/-! ## Alternatives -/

namespace Alternative

variable {α : Alternative} {text : List Char} {s : Symbol}

/-- Words that are tokens are the parts of a text, even if there is only one. -/
theorem parts_of_words (h : ∀ w ∈ Text.words text, IsToken w) : parts (Text.trim text) = Text.words text := by
  unfold parts
  split
  · exact Text.words_trim text
  · next hblank =>
    have hblank : ∀ c ∈ Text.trim text, Text.isBlank c = false := by simpa using hblank
    rw [← Text.words_trim] at h ⊢
    by_cases hne : Text.trim text = []
    · simp [hne, Token.tokens, Text.words]
    · rw [Text.words_of_no_blank hne hblank] at h ⊢
      exact Token.tokens_eq_singleton_iff.mpr (h _ List.mem_cons_self)

theorem read_of_words (h : ∀ w ∈ Text.words text, IsToken w ∧ isEpsilon w = false) :
    read text = orEpsilon ((Text.words text).map String.ofList) := by
  have hvisible : visible text = (Text.words text).map String.ofList := by
    have hspell : ∀ w ∈ Text.words text, Symbol.ofChars w = String.ofList w := fun w hw =>
      if_neg (by simp [(h w hw).2])
    rw [visible, parts_of_words fun w hw => (h w hw).1, List.map_congr_left hspell, List.filter_eq_self]
    rintro _ hs
    obtain ⟨w, hw, rfl⟩ := List.mem_map.mp hs
    refine decide_eq_true fun hε => ?_
    obtain rfl : w = ['ε'] := by simpa [epsilon] using congrArg String.toList hε
    exact absurd (h _ hw).2 (by decide)
  rw [read_eq, hvisible]
  cases (Text.words text).map String.ofList <;> rfl

theorem mem_cut {β : Alternative} (hβ : β ∈ cut α) (hs : s ∈ β) : s ∈ α := by
  induction α generalizing β with
  | nil => simp [cut] at hβ; simp [hβ] at hs
  | cons t α ih =>
    rw [cut] at hβ
    split at hβ
    · rcases List.mem_cons.mp hβ with rfl | hβ
      · cases hs
      rcases List.mem_cons.mp hβ with rfl | hβ
      · cases hs
      · exact List.mem_cons_of_mem _ (ih hβ hs)
    · cases hcut : cut α with
      | nil => simp [hcut] at hβ
      | cons first others =>
        rw [hcut] at hβ ih
        rcases List.mem_cons.mp hβ with rfl | hβ
        · exact (List.mem_cons.mp hs).elim (fun h => h ▸ List.mem_cons_self)
            fun hs => List.mem_cons_of_mem _ (ih List.mem_cons_self hs)
        · exact List.mem_cons_of_mem _ (ih (List.mem_cons_of_mem _ hβ) hs)

theorem cut_of_not_mem (h : "||" ∉ α) : cut α = [α] := by
  induction α with
  | nil => rfl
  | cons s α ih =>
    rw [cut, if_neg (List.ne_of_not_mem_cons h).symm, ih (List.not_mem_of_not_mem_cons h)]
    rfl

/-- Every operator of two bars makes two alternatives more. -/
theorem length_cut (α : Alternative) : (cut α).length = 1 + 2 * α.count "||" := by
  induction α with
  | nil => rfl
  | cons s α ih =>
    rw [cut]
    split
    · next hs =>
      subst hs
      simp only [List.length_cons, List.count_cons_self, ih]
      omega
    · next hs => rw [List.length_modifyHead, ih, List.count_cons_of_ne hs]

/-- What is put in the place of the alternatives is the same if there are no operators of two bars. -/
theorem flatMap_cut_eq_self_iff {alternatives : List Alternative} (hne : ∀ α ∈ alternatives, α ≠ []) :
    (alternatives.flatMap fun α => α.cut.map orEpsilon) = alternatives ↔ ∀ α ∈ alternatives, "||" ∉ α := by
  constructor
  · -- with an operator there are more alternatives than there were
    intro h α hα hbars
    have hone := length_le_one_of_length_flatMap_le (f := fun α => α.cut.map orEpsilon)
      (fun β _ => by rw [List.length_map, length_cut]; omega) (le_of_eq (congrArg List.length h)) hα
    rw [List.length_map, length_cut] at hone
    have := List.count_pos_iff.mpr hbars
    omega
  · intro h
    have hsingle : ∀ α ∈ alternatives, α.cut.map orEpsilon = [α] := fun α hα => by
      obtain ⟨s, β, rfl⟩ := List.exists_cons_of_ne_nil (hne α hα)
      rw [cut_of_not_mem (h _ hα)]
      rfl
    rw [List.flatMap_congr hsingle, List.flatMap_singleton']

namespace Written

theorem ne_nil (h : Written α text) : α ≠ [] := by
  cases h <;> simp

/-- The text of some lexemes begins and ends with one. -/
theorem solid (h : Written α text) (hα : ∀ s ∈ α, IsLexeme s.toList) : Text.Solid text := by
  have hlexeme : ∀ {s : Symbol}, IsLexeme s.toList → Text.Solid s.toList := fun hs =>
    .of_no_blank hs.isToken.ne_nil hs.not_isBlank
  induction h with
  | single s => exact hlexeme (hα s List.mem_cons_self)
  | cons s hne hgap h ih =>
    obtain ⟨hs, hα⟩ := List.forall_mem_cons.mp hα
    exact (hlexeme hs).append (ih hα) _

theorem no_break (h : Written α text) (hα : ∀ s ∈ α, IsLexeme s.toList) : ∀ c ∈ text, Text.isLineBreak c = false := by
  have hlexeme : ∀ {s : Symbol}, IsLexeme s.toList → ∀ c ∈ s.toList, Text.isLineBreak c = false := fun hs c hc =>
    Text.not_isLineBreak_of_not_isBlank (hs.not_isBlank c hc)
  induction h with
  | single s => exact hlexeme (hα s List.mem_cons_self)
  | cons s hne hgap h ih =>
    obtain ⟨hs, hα⟩ := List.forall_mem_cons.mp hα
    simp only [List.mem_append]
    rintro c ((hc | hc) | hc)
    · exact hlexeme hs c hc
    · exact Text.not_isLineBreak_of_isSpace (hgap c hc)
    · exact ih hα c hc

/-- Where the text of some lexemes is cut at the bars, the words of the pieces are those of the alternative that is cut
at its operators. -/
theorem map_words_splitOn (h : Written α text) (hα : ∀ s ∈ α, IsLexeme s.toList) {blanks : List Char}
    (hblanks : ∀ c ∈ blanks, Text.isBlank c = true) :
    ((text ++ blanks).splitOn '|').map Text.words = (cut α).map (List.map String.toList) := by
  induction h with
  | single s =>
    have hs := hα s List.mem_cons_self
    by_cases hbar : s = "||"
    · subst hbar
      rw [Text.map_words_splitOn_bars, List.splitOn_eq_singleton (Text.bar_not_mem_of_blanks hblanks), List.map_singleton,
        ← List.append_nil blanks, Text.words_blanks_append hblanks]
      rfl
    · have hno : '|' ∉ s.toList ++ blanks := by
        rw [List.mem_append, not_or]
        exact ⟨hs.bar_not_mem fun h => hbar (String.toList_inj.mp h), Text.bar_not_mem_of_blanks hblanks⟩
      rw [List.splitOn_eq_singleton hno, List.map_singleton, Text.words_append_blanks hblanks,
        Text.words_of_no_blank hs.isToken.ne_nil hs.not_isBlank, cut, if_neg hbar]
      rfl
  | @cons s gap text α hne hgap h ih =>
    obtain ⟨hs, htail⟩ := List.forall_mem_cons.mp hα
    have hgap : ∀ c ∈ gap, Text.isBlank c = true := fun c hc => Text.isBlank_of_isSpace (hgap c hc)
    rw [List.append_assoc, List.append_assoc]
    by_cases hbar : s = "||"
    · subst hbar
      rw [Text.map_words_splitOn_bars, Text.map_words_splitOn_blanks_append hgap, ih htail, cut, if_pos rfl]
      rfl
    · have hno : '|' ∉ s.toList ++ gap := by
        rw [List.mem_append, not_or]
        exact ⟨hs.bar_not_mem fun h => hbar (String.toList_inj.mp h), Text.bar_not_mem_of_blanks hgap⟩
      -- the symbol is one more word in front of the first piece
      have hword := Text.words_append_append hs.isToken.ne_nil hs.not_isBlank hne hgap
      rw [← List.append_assoc, Text.splitOn_append_of_not_mem hno, Text.map_modifyHead hword, ih htail, cut,
        if_neg hbar, Text.map_modifyHead fun _ => List.map_cons]

end Written

end Alternative

/-! ## Lines -/

section Lines

variable {A : Symbol} {alternatives : List Alternative} {texts : List (List Char)} {before arrow after : List Char}

/-- With bars between the texts of alternatives, the pieces are those of all alternatives. -/
theorem Alternative.map_words_splitOn_intercalate (h : List.Forall₂ Written alternatives texts)
    (hne : alternatives ≠ []) (hlexeme : ∀ α ∈ alternatives, ∀ s ∈ α, IsLexeme s.toList) :
    (([' ', '|', ' '].intercalate texts).splitOn '|').map Text.words =
      (alternatives.flatMap cut).map (List.map String.toList) := by
  induction h with
  | nil => exact absurd rfl hne
  | @cons α text alternatives texts hα h ih =>
    obtain ⟨hαs, hlexeme⟩ := List.forall_mem_cons.mp hlexeme
    cases h with
    | nil => simpa using hα.map_words_splitOn hαs (show ∀ c ∈ [], Text.isBlank c = true by simp)
    | @cons β text' alternatives texts hβ h =>
      -- the space in front of the bar ends this piece, the one behind it begins the next
      have hcut : [' ', '|', ' '].intercalate (text :: text' :: texts) =
          (text ++ [' ']) ++ '|' :: ([' '] ++ [' ', '|', ' '].intercalate (text' :: texts)) := by
        rw [List.intercalate_cons_cons]
        simp
      rw [List.flatMap_cons, hcut, List.splitOn_append_cons_self, List.map_append, List.map_append,
        hα.map_words_splitOn hαs Text.isBlank_of_mem_space,
        Text.map_words_splitOn_blanks_append Text.isBlank_of_mem_space, ih (by simp) hlexeme]

/-- Pieces whose words are lexemes are read as these lexemes. -/
theorem Alternative.map_read_of_map_words {pieces : List (List Char)} {lists : List Alternative}
    (h : pieces.map Text.words = lists.map (List.map String.toList))
    (hlexeme : ∀ l ∈ lists, ∀ s ∈ l, IsLexeme s.toList ∧ isEpsilon s.toList = false) :
    pieces.map read = lists.map orEpsilon := by
  have hread : ∀ piece ∈ pieces, read piece = orEpsilon ((Text.words piece).map String.ofList) := fun piece hpiece => by
    have hmem : Text.words piece ∈ lists.map (List.map String.toList) := h ▸ List.mem_map_of_mem hpiece
    obtain ⟨l, hl, hwords⟩ := List.mem_map.mp hmem
    refine read_of_words fun w hw => ?_
    obtain ⟨s, hs, rfl⟩ := List.mem_map.mp (hwords ▸ hw)
    exact (hlexeme l hl s hs).imp_left IsLexeme.isToken
  calc pieces.map read
      = (pieces.map Text.words).map fun ws => orEpsilon (ws.map String.ofList) := by
        rw [List.map_map]
        exact List.map_congr_left hread
    _ = lists.map orEpsilon := by
        rw [h, List.map_map]
        refine List.map_congr_left fun l _ => ?_
        simp [Function.comp_def]

theorem Alternative.exists_written (h : List.Forall₂ Written alternatives texts) {text : List Char}
    (htext : text ∈ texts) : ∃ α ∈ alternatives, Written α text := by
  induction h with
  | nil => cases htext
  | cons hα _ ih =>
    rcases List.mem_cons.mp htext with rfl | htext
    · exact ⟨_, List.mem_cons_self, hα⟩
    · obtain ⟨α, hmem, hα⟩ := ih htext
      exact ⟨α, List.mem_cons_of_mem _ hmem, hα⟩

theorem Alternative.ne_nil_of_written (h : List.Forall₂ Written alternatives texts) : ∀ α ∈ alternatives, α ≠ [] := by
  induction h with
  | nil => simp
  | cons hα _ ih => exact List.forall_mem_cons.mpr ⟨hα.ne_nil, ih⟩

/-- The line is one line. -/
theorem lines_writtenLine (hA : Symbol.PlainName A) (hbefore : ∀ c ∈ before, Text.isSpace c = true)
    (harrow : arrow = "->".toList ∨ arrow = "→".toList) (hafter : ∀ c ∈ after, Text.isSpace c = true)
    (hne : alternatives ≠ []) (hlexeme : ∀ α ∈ alternatives, ∀ s ∈ α, IsLexeme s.toList)
    (htexts : List.Forall₂ Alternative.Written alternatives texts) :
    Text.lines (writtenLine A before arrow after texts).toList =
      [A.toList ++ before ++ arrow ++ (after ++ [' ', '|', ' '].intercalate texts)] := by
  have htext : ∀ text ∈ texts, Text.Solid text ∧ ∀ c ∈ text, Text.isLineBreak c = false := fun text h => by
    obtain ⟨α, hα, hw⟩ := Alternative.exists_written htexts h
    exact ⟨hw.solid (hlexeme α hα), hw.no_break (hlexeme α hα)⟩
  have hcells : Text.Solid ([' ', '|', ' '].intercalate texts) := by
    refine .intercalate ?_ fun text h => (htext text h).1
    rintro rfl
    cases htexts
    exact hne rfl
  have hsolid := hA.solid.append hcells (before ++ arrow ++ after)
  have hbreak : ∀ c ∈ A.toList ++ (before ++ arrow ++ after) ++ [' ', '|', ' '].intercalate texts,
      Text.isLineBreak c = false := by
    have hmark : arrow.any Text.isLineBreak = false := by rcases harrow with rfl | rfl <;> decide
    simp only [List.mem_append]
    rintro c ((hc | (hc | hc) | hc) | hc)
    · exact Text.eq_false_of_any hA.no_break hc
    · exact Text.not_isLineBreak_of_isSpace (hbefore c hc)
    · exact Text.eq_false_of_any hmark hc
    · exact Text.not_isLineBreak_of_isSpace (hafter c hc)
    · rcases Text.mem_of_mem_intercalate hc with hc | ⟨text, h, hc⟩
      · exact Text.eq_false_of_any (show [' ', '|', ' '].any Text.isLineBreak = false by decide) hc
      · exact (htext text h).2 c hc
  have hline := Text.lines_intercalate fun l hl => List.mem_singleton.mp hl ▸ ⟨hsolid, hbreak⟩
  simpa [writtenLine] using hline

end Lines

/-! ## What is read -/

namespace Grammar

variable {A : Symbol} {alternatives : List Alternative} {texts : List (List Char)} {before arrow after : List Char}

/-- What a line is read as whose alternatives are written in names, words and operators, with blanks between them: each
alternative is cut at its operators of two bars, with `ε` for what is empty. So the line is read as it was meant if
there are no such operators. -/
theorem read_writtenLine (hA : Symbol.PlainName A) (hbefore : ∀ c ∈ before, Text.isSpace c = true)
    (harrow : arrow = "->".toList ∨ arrow = "→".toList) (hafter : ∀ c ∈ after, Text.isSpace c = true)
    (hne : alternatives ≠ [])
    (hlexeme : ∀ α ∈ alternatives, ∀ s ∈ α, IsLexeme s.toList ∧ isEpsilon s.toList = false)
    (htexts : List.Forall₂ Alternative.Written alternatives texts) :
    read (writtenLine A before arrow after texts) =
        { grammar := .ofList [(A, alternatives.flatMap fun α => α.cut.map Alternative.orEpsilon)], start := some A,
          skipped := [] } ∧
      (parse (writtenLine A before arrow after texts) = .ok (.ofList [(A, alternatives)], A) ↔
        ∀ α ∈ alternatives, "||" ∉ α) := by
  have hlex : ∀ α ∈ alternatives, ∀ s ∈ α, IsLexeme s.toList := fun α hα s hs => (hlexeme α hα s hs).1
  have hcells : ((after ++ [' ', '|', ' '].intercalate texts).splitOn '|').map Alternative.read =
      (alternatives.flatMap Alternative.cut).map Alternative.orEpsilon := by
    refine Alternative.map_read_of_map_words ?_ fun l hl s hs => ?_
    · rw [Text.map_words_splitOn_blanks_append fun c hc => Text.isBlank_of_isSpace (hafter c hc)]
      exact Alternative.map_words_splitOn_intercalate htexts hne hlex
    · obtain ⟨α, hα, hl⟩ := List.mem_flatMap.mp hl
      exact hlexeme α hα s (Alternative.mem_cut hl hs)
  have hread : read (writtenLine A before arrow after texts) =
      { grammar := .ofList [(A, alternatives.flatMap fun α => α.cut.map Alternative.orEpsilon)], start := some A,
        skipped := [] } := by
    rw [read, readLines, lines_writtenLine hA hbefore harrow hafter hne hlex htexts, List.map_singleton,
      GrammarLine.read_of_arrow hA (fun c hc => Text.isBlank_of_isSpace (hbefore c hc)) harrow, hcells,
      List.map_flatMap]
    exact GrammarReading.foldl_addLine_declarations [(A, _)] {} rfl
  refine ⟨hread, ?_⟩
  have hsame : parse (writtenLine A before arrow after texts) = .ok (.ofList [(A, alternatives)], A) ↔
      (alternatives.flatMap fun α => α.cut.map Alternative.orEpsilon) = alternatives := by
    rw [parse, hread]
    constructor
    · intro h
      have hentries : [(A, alternatives.flatMap fun α => α.cut.map Alternative.orEpsilon)] = [(A, alternatives)] :=
        congrArg OrderedMap.entries (Prod.mk.inj (Except.ok.inj h)).1
      exact (Prod.mk.inj (List.cons.inj hentries).1).2
    · intro h
      rw [h]
  rw [hsame, Alternative.flatMap_cut_eq_self_iff (Alternative.ne_nil_of_written htexts)]

/-- Names, words and operators alone and among others, with tabs and wide spaces between them. -/
def spacedOut : List Alternative := [["Expr_1'", "<=", "id1"], ["x"], ["A₁''"], ["&&"], ["n", "Epsilon_"]]

def spacedTexts : List (List Char) := ["Expr_1'".toList ++ ['\t'] ++ ("<=".toList ++ [' ', '\u3000'] ++ "id1".toList),
  "x".toList, "A₁''".toList, "&&".toList, "n".toList ++ ['\u00a0'] ++ "Epsilon_".toList]

theorem spacedOut_read : Symbol.PlainName "n | m-" ∧ (∀ c ∈ [], Text.isSpace c = true) ∧
    ("→".toList = "->".toList ∨ "→".toList = "→".toList) ∧ (∀ c ∈ ['\t'], Text.isSpace c = true) ∧ spacedOut ≠ [] ∧
    (∀ α ∈ spacedOut, ∀ s ∈ α, IsLexeme s.toList ∧ isEpsilon s.toList = false) ∧
    List.Forall₂ Alternative.Written spacedOut spacedTexts ∧ (∀ α ∈ spacedOut, "||" ∉ α) ∧
    parse (writtenLine "n | m-" [] "→".toList ['\t'] spacedTexts) = .ok (.ofList [("n | m-", spacedOut)], "n | m-") := by
  have hlexeme : ∀ α ∈ spacedOut, ∀ s ∈ α, IsLexeme s.toList ∧ isEpsilon s.toList = false := by decide +kernel
  have htexts : List.Forall₂ Alternative.Written spacedOut spacedTexts :=
    .cons (.cons _ (by simp) (List.all_eq_true.mp (by decide))
        (.cons _ (by simp) (List.all_eq_true.mp (by decide)) (.single _))) <|
      .cons (.single _) <| .cons (.single _) <| .cons (.single _) <|
        .cons (.cons _ (by simp) (List.all_eq_true.mp (by decide)) (.single _)) .nil
  have hbars : ∀ α ∈ spacedOut, "||" ∉ α := by decide
  have hafter : ∀ c ∈ ['\t'], Text.isSpace c = true := List.all_eq_true.mp (by decide)
  exact ⟨by decide +kernel, by simp, Or.inr rfl, hafter, by decide, hlexeme, htexts, hbars,
    (read_writtenLine (by decide +kernel) (by simp) (Or.inr rfl) hafter (by decide) hlexeme htexts).2.mpr hbars⟩

/-- A line in names, words and operators need not be read as it was meant: the operator of two bars divides the
alternative in which it stands into three. -/
theorem double_bar_not_read : ¬ ∀ (A : Symbol) (alternatives : List Alternative) (texts : List (List Char)),
    Symbol.PlainName A → alternatives ≠ [] →
    (∀ α ∈ alternatives, ∀ s ∈ α, IsLexeme s.toList ∧ isEpsilon s.toList = false) →
    List.Forall₂ Alternative.Written alternatives texts →
    parse (writtenLine A [' '] "->".toList [' '] texts) = .ok (.ofList [(A, alternatives)], A) := by
  intro h
  have hspace : ∀ c ∈ [' '], Text.isSpace c = true := List.all_eq_true.mp (by decide)
  have hparse := h "S" [["a", "||", "b"]] ["a".toList ++ [' '] ++ ("||".toList ++ [' '] ++ "b".toList)]
    (by decide +kernel) (by simp) (by decide +kernel)
    (.cons (.cons _ (by simp) hspace (.cons _ (by simp) hspace (.single _))) .nil)
  exact absurd hparse (by decide +kernel)

end Grammar

end FormalLanguages
