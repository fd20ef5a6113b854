import FormalLanguages.Text.Lines
import Mathlib.Data.List.Basic
import Mathlib.Data.List.DropRight
import Mathlib.Tactic.MkIffOfInductiveProp
/-!
# Cutting texts that were put together

What was joined with separators is found again where it is cut at them, as long as no piece holds one. So lines
joined with line feeds, words joined with spaces and cells joined with bars are read back, and the first arrow of
a line is the one that was put behind a text without arrows. Blanks that are put around a text are trimmed away.

Results:
* `trimmed_iff`: what is trimmed has no blank at either end.
* `Solid.append`, `Solid.intercalate`: what is put together from solid texts is solid.
* `of_mem_splitOnP`, `of_mem_entries`, `of_mem_lines`, `of_mem_words`: what the pieces of a text are.
* `lines_append_cons`: texts with a line break between them are read one after the other.
* `lines_intercalate`, `words_intercalate`, `cells_intercalate`: joined lines, words and cells are read back.
* `words_append_append`, `words_trim`: the words of a text with blanks inside or around it.
* `splitArrow_eq_none_iff`, `splitArrow_eq_some_iff`: where a line is cut.
-/
namespace FormalLanguages.Text

variable {cs ds rest : List Char} {b : Char}

/-! ## Trimming -/

theorem trimStart_eq_self_iff : trimStart cs = cs ↔ ∀ c ∈ cs.head?, isBlank c = false := by
  rw [trimStart, List.dropWhile_eq_self_iff]
  cases cs <;> simp

theorem trimEnd_eq_self_iff : trimEnd cs = cs ↔ ∀ c ∈ cs.getLast?, isBlank c = false := by
  rw [← List.head?_reverse, ← trimStart_eq_self_iff, trimEnd, ← trimStart]
  exact ⟨fun h => by rw [← List.reverse_eq_iff, h], fun h => by rw [h, List.reverse_reverse]⟩

theorem trimStart_suffix (cs : List Char) : trimStart cs <:+ cs := List.dropWhile_suffix isBlank

theorem trimEnd_isPrefix (cs : List Char) : trimEnd cs <+: cs := List.rdropWhile_prefix isBlank cs

/-- What is trimmed has no blank at either end. -/
theorem trimmed_iff : Trimmed cs ↔
    (∀ c ∈ cs.head?, isBlank c = false) ∧ ∀ c ∈ cs.getLast?, isBlank c = false := by
  rw [← trimStart_eq_self_iff, ← trimEnd_eq_self_iff, Trimmed, trim]
  constructor
  · intro h
    have hend : (trimEnd (trimStart cs)).length ≤ (trimStart cs).length :=
      (trimEnd_isPrefix _).length_le
    have hsame : trimStart cs = cs := (trimStart_suffix cs).eq_of_length_le (by rwa [h] at hend)
    exact ⟨hsame, by rwa [hsame] at h⟩
  · rintro ⟨hstart, hend⟩
    rw [hstart, hend]

/-- Trimming twice is trimming once. -/
theorem trim_trim (cs : List Char) : trim (trim cs) = trim cs := by
  have hstart : trimStart (trimStart cs) = trimStart cs := List.dropWhile_idempotent isBlank cs
  have hend : trimEnd (trim cs) = trim cs := List.rdropWhile_idempotent isBlank (trimStart cs)
  -- what is left begins as the text does without the blanks at its start
  obtain ⟨blanks, hblanks⟩ := trimEnd_isPrefix (trimStart cs)
  refine trimmed_iff.mpr ⟨fun c hc => trimStart_eq_self_iff.mp hstart c ?_, trimEnd_eq_self_iff.mp hend⟩
  rw [← hblanks]
  exact List.mem_head?_append_of_mem_head? hc

theorem trim_isInfix (cs : List Char) : trim cs <:+: cs :=
  (trimEnd_isPrefix _).isInfix.trans (trimStart_suffix cs).isInfix

theorem mem_of_mem_trim {c : Char} (h : c ∈ trim cs) : c ∈ cs := (trim_isInfix cs).mem h

theorem isBlank_of_mem_space : ∀ c ∈ [' '], isBlank c = true := List.all_eq_true.mp (by decide)

theorem not_isLineBreak_of_not_isBlank {c : Char} (h : isBlank c = false) : isLineBreak c = false :=
  Bool.eq_false_iff.mpr fun hbreak => by simp [isBlank_of_isLineBreak hbreak] at h

theorem trim_cons_of_blank (hb : isBlank b = true) (cs : List Char) : trim (b :: cs) = trim cs := by
  rw [trim, trimStart, List.dropWhile_cons_of_pos hb]
  rfl

/-- What is trimmed away are blanks at the ends. -/
theorem exists_eq_append_trim (cs : List Char) : ∃ before after, cs = before ++ trim cs ++ after ∧
    (∀ c ∈ before, isBlank c = true) ∧ ∀ c ∈ after, isBlank c = true := by
  refine ⟨cs.takeWhile isBlank, (trimStart cs).rtakeWhile isBlank, ?_, fun c hc => List.mem_takeWhile_imp hc,
    fun c hc => ?_⟩
  · have hend : trim cs ++ (trimStart cs).rtakeWhile isBlank = trimStart cs :=
      List.rdropWhile_append_rtakeWhile
    rw [List.append_assoc, hend]
    exact List.takeWhile_append_dropWhile.symm
  · rw [List.rtakeWhile, List.mem_reverse] at hc
    exact List.mem_takeWhile_imp hc

/-! ## Solid texts -/

/-- A text that begins and ends with characters that are no blanks. -/
@[mk_iff]
structure Solid (cs : List Char) : Prop where
  ne_nil : cs ≠ []
  trimmed : Trimmed cs

instance (cs : List Char) : Decidable (Solid cs) := decidable_of_iff' _ (solid_iff cs)

theorem Solid.trim_eq (hcs : Solid cs) : trim cs = cs := hcs.trimmed

/-- Blanks behind a solid text are trimmed away. -/
theorem Solid.trim_append_blanks {blanks : List Char} (hcs : Solid cs) (hblanks : ∀ c ∈ blanks, isBlank c = true) :
    trim (cs ++ blanks) = cs := by
  have hstart := (trimmed_iff.mp hcs.trimmed).1
  have hhead : trimStart (cs ++ blanks) = cs ++ blanks := trimStart_eq_self_iff.mpr fun c hc =>
    hstart c (by rwa [List.head?_append_of_ne_nil _ hcs.ne_nil] at hc)
  have hlast : trimEnd (cs ++ blanks) = trimEnd cs := by
    rw [trimEnd, List.reverse_append, List.dropWhile_append_of_pos fun c hc => hblanks c (List.mem_reverse.mp hc)]
    rfl
  rw [trim, hhead, hlast]
  exact trimEnd_eq_self_iff.mpr (trimmed_iff.mp hcs.trimmed).2

/-- What is left of a text that is trimmed is solid, if anything is. -/
theorem Solid.of_trim (hne : trim cs ≠ []) : Solid (trim cs) := ⟨hne, trim_trim cs⟩

theorem Solid.of_no_blank (hne : cs ≠ []) (h : ∀ c ∈ cs, isBlank c = false) : Solid cs :=
  ⟨hne, trim_of_no_blank h⟩

/-- What stands between two solid texts does not matter. -/
theorem Solid.append (hcs : Solid cs) (hds : Solid ds) (between : List Char) :
    Solid (cs ++ between ++ ds) := by
  refine ⟨by simp [hcs.ne_nil], trimmed_iff.mpr ⟨fun c hc => ?_, fun c hc => ?_⟩⟩
  · rw [List.append_assoc, List.head?_append_of_ne_nil _ hcs.ne_nil] at hc
    exact (trimmed_iff.mp hcs.trimmed).1 c hc
  · rw [List.getLast?_append_of_ne_nil _ hds.ne_nil] at hc
    exact (trimmed_iff.mp hds.trimmed).2 c hc

theorem Solid.intercalate {sep : List Char} {pieces : List (List Char)} (hne : pieces ≠ [])
    (h : ∀ cs ∈ pieces, Solid cs) : Solid (sep.intercalate pieces) := by
  induction pieces with
  | nil => exact absurd rfl hne
  | cons cs pieces ih =>
    obtain ⟨hcs, hpieces⟩ := List.forall_mem_cons.mp h
    cases pieces with
    | nil => rwa [List.intercalate_singleton]
    | cons ds pieces =>
      rw [List.intercalate_cons_cons]
      exact hcs.append (ih (by simp) hpieces) sep

/-! ## Pieces between separators -/

theorem mem_of_mem_intercalate {α : Type} {sep : List α} {ls : List (List α)} {x : α}
    (h : x ∈ sep.intercalate ls) : x ∈ sep ∨ ∃ l ∈ ls, x ∈ l := by
  induction ls with
  | nil => simp at h
  | cons l ls ih =>
    cases ls with
    | nil => exact Or.inr ⟨l, by simp, by simpa using h⟩
    | cons l' ls =>
      rw [List.intercalate_cons_cons, List.mem_append, List.mem_append] at h
      rcases h with (h | h) | h
      · exact Or.inr ⟨l, by simp, h⟩
      · exact Or.inl h
      · exact (ih h).imp_right fun ⟨k, hk, hx⟩ => ⟨k, List.mem_cons_of_mem _ hk, hx⟩

/-- What is written piece by piece and read piece by piece is what it was, if each piece is. -/
theorem map_map_eq_self {α β : Type} {f : β → α} {g : α → β} {l : List α} (h : ∀ a ∈ l, f (g a) = a) :
    (l.map g).map f = l := by
  rw [List.map_map]
  exact (List.map_congr_left h).trans (List.map_id _)

/-- Pieces without separators, joined with one, are found where the text is cut. -/
theorem splitOnP_intercalate {p : Char → Bool} (hb : p b = true) {pieces : List (List Char)}
    (hne : pieces ≠ []) (h : ∀ cs ∈ pieces, ∀ c ∈ cs, p c = false) :
    (List.intercalate [b] pieces).splitOnP p = pieces := by
  induction pieces with
  | nil => exact absurd rfl hne
  | cons cs pieces ih =>
    obtain ⟨hcs, hpieces⟩ := List.forall_mem_cons.mp h
    cases pieces with
    | nil => rw [List.intercalate_singleton, List.splitOnP_eq_singleton hcs]
    | cons ds pieces =>
      rw [List.intercalate_cons_cons, List.append_assoc, List.singleton_append,
        List.splitOnP_append_cons_of_forall_mem hcs b hb, ih (by simp) hpieces]

/-- The pieces of a text have its characters, but not those at which it is cut. -/
theorem of_mem_splitOnP {p : Char → Bool} {piece : List Char} (h : piece ∈ cs.splitOnP p) :
    ∀ c ∈ piece, c ∈ cs ∧ p c = false := by
  induction cs generalizing piece with
  | nil => simp_all
  | cons d cs ih =>
    rw [List.splitOnP_cons_eq_if_modifyHead] at h
    split at h
    · rcases List.mem_cons.mp h with rfl | h
      · simp
      · exact fun c hc => (ih h c hc).imp_left (List.mem_cons_of_mem d)
    · next hd =>
      cases hpieces : cs.splitOnP p with
      | nil => exact absurd hpieces (List.splitOnP_ne_nil _ _)
      | cons first others =>
        rw [hpieces] at h ih
        rcases List.mem_cons.mp h with rfl | h
        · refine List.forall_mem_cons.mpr ⟨⟨List.mem_cons_self, by simpa using hd⟩, fun c hc => ?_⟩
          exact (ih List.mem_cons_self c hc).imp_left (List.mem_cons_of_mem d)
        · exact fun c hc => (ih (List.mem_cons_of_mem _ h) c hc).imp_left (List.mem_cons_of_mem d)

/-- The pieces do not have what a text is cut at. -/
theorem not_mem_of_mem_splitOn {piece : List Char} (h : piece ∈ cs.splitOn b) : b ∉ piece := by
  rw [List.splitOn_eq_splitOnP] at h
  intro hb
  simpa using (of_mem_splitOnP h b hb).2

/-- Entries are solid, and do not have what a text is cut at. -/
theorem of_mem_entries {entry : List Char} (h : entry ∈ entries b cs) : Solid entry ∧ b ∉ entry := by
  obtain ⟨hmem, hne⟩ := List.mem_filter.mp h
  obtain ⟨piece, hpiece, rfl⟩ := List.mem_map.mp hmem
  exact ⟨.of_trim (by simpa using hne), fun hb => not_mem_of_mem_splitOn hpiece (mem_of_mem_trim hb)⟩

/-- Lines are solid and have no line break. -/
theorem of_mem_lines {line : List Char} (h : line ∈ lines cs) :
    Solid line ∧ ∀ c ∈ line, isLineBreak c = false := by
  obtain ⟨hmem, hne⟩ := List.mem_filter.mp h
  obtain ⟨piece, hpiece, rfl⟩ := List.mem_map.mp hmem
  exact ⟨.of_trim (by simpa using hne), fun c hc => (of_mem_splitOnP hpiece c (mem_of_mem_trim hc)).2⟩

/-- Lines have the characters of the text. -/
theorem mem_of_mem_lines {line : List Char} {c : Char} (h : line ∈ lines cs) (hc : c ∈ line) : c ∈ cs := by
  obtain ⟨piece, hpiece, rfl⟩ := List.mem_map.mp (List.mem_filter.mp h).1
  exact (of_mem_splitOnP hpiece c (mem_of_mem_trim hc)).1

/-- Words are not empty, and have the characters of the text that are no blanks. -/
theorem of_mem_words {word : List Char} (h : word ∈ words cs) :
    word ≠ [] ∧ ∀ c ∈ word, c ∈ cs ∧ isBlank c = false := by
  obtain ⟨hmem, hne⟩ := List.mem_filter.mp h
  exact ⟨by simpa using hne, of_mem_splitOnP hmem⟩

theorem eq_false_of_any {p : Char → Bool} (h : cs.any p = false) (hb : b ∈ cs) : p b = false := by
  simpa using List.any_eq_false.mp h b hb

theorem filter_not_isEmpty {pieces : List (List Char)} (h : ∀ cs ∈ pieces, cs ≠ []) :
    pieces.filter (!·.isEmpty) = pieces :=
  List.filter_eq_self.mpr fun cs hcs => by simpa using h cs hcs

/-- Solid lines joined with line feeds are read back. -/
theorem lines_intercalate {ls : List (List Char)}
    (h : ∀ l ∈ ls, Solid l ∧ ∀ c ∈ l, isLineBreak c = false) :
    lines (List.intercalate ['\n'] ls) = ls := by
  cases ls with
  | nil => decide
  | cons l ls =>
    have htrim : (l :: ls).map trim = l :: ls :=
      (List.map_congr_left fun l hl => (h l hl).1.trim_eq).trans (List.map_id _)
    rw [lines, splitOnP_intercalate (by decide) (by simp) fun l hl => (h l hl).2, htrim,
      filter_not_isEmpty fun l hl => (h l hl).1.ne_nil]

/-- A line break ends a line, and what comes before and after it is read apart. -/
theorem lines_append_cons (hb : isLineBreak b = true) (cs ds : List Char) :
    lines (cs ++ b :: ds) = lines cs ++ lines ds := by
  rw [lines, List.splitOnP_append_cons cs ds hb, List.map_append, List.filter_append]
  rfl

theorem words_append_cons (hb : isBlank b = true) (cs ds : List Char) :
    words (cs ++ b :: ds) = words cs ++ words ds := by
  rw [words, List.splitOnP_append_cons cs ds hb, List.filter_append]
  rfl

theorem words_of_no_blank (hne : cs ≠ []) (h : ∀ c ∈ cs, isBlank c = false) : words cs = [cs] := by
  simp [words, List.splitOnP_eq_singleton h, hne]

/-- Blanks in front of a text are no words. -/
theorem words_blanks_append {blanks : List Char} (hblanks : ∀ c ∈ blanks, isBlank c = true) (cs : List Char) :
    words (blanks ++ cs) = words cs := by
  induction blanks with
  | nil => rfl
  | cons b blanks ih =>
    obtain ⟨hb, hblanks⟩ := List.forall_mem_cons.mp hblanks
    exact (words_append_cons hb [] (blanks ++ cs)).trans (ih hblanks)

/-- Blanks behind a text are no words. -/
theorem words_append_blanks {blanks : List Char} (hblanks : ∀ c ∈ blanks, isBlank c = true) (cs : List Char) :
    words (cs ++ blanks) = words cs := by
  cases blanks with
  | nil => rw [List.append_nil]
  | cons b blanks =>
    obtain ⟨hb, hblanks⟩ := List.forall_mem_cons.mp hblanks
    have hnone : words blanks = [] := by simpa [words] using words_blanks_append hblanks []
    rw [words_append_cons hb, hnone, List.append_nil]

/-- A word with blanks behind it is one more word. -/
theorem words_append_append {word blanks : List Char} (hne : word ≠ []) (hword : ∀ c ∈ word, isBlank c = false)
    (hnil : blanks ≠ []) (hblanks : ∀ c ∈ blanks, isBlank c = true) (cs : List Char) :
    words (word ++ blanks ++ cs) = word :: words cs := by
  obtain ⟨b, blanks, rfl⟩ := List.exists_cons_of_ne_nil hnil
  obtain ⟨hb, hblanks⟩ := List.forall_mem_cons.mp hblanks
  rw [List.append_assoc, List.cons_append, words_append_cons hb, words_blanks_append hblanks,
    words_of_no_blank hne hword, List.singleton_append]

/-- Trimming leaves the words. -/
theorem words_trim (cs : List Char) : words (trim cs) = words cs := by
  obtain ⟨before, after, heq, hbefore, hafter⟩ := exists_eq_append_trim cs
  rw [congrArg words heq, words_append_blanks hafter, words_blanks_append hbefore]

/-- Words joined with spaces are read back. -/
theorem words_intercalate {ws : List (List Char)}
    (h : ∀ w ∈ ws, w ≠ [] ∧ ∀ c ∈ w, isBlank c = false) : words (List.intercalate [' '] ws) = ws := by
  cases ws with
  | nil => decide
  | cons w ws =>
    rw [words, splitOnP_intercalate (by decide) (by simp) fun w hw => (h w hw).2,
      filter_not_isEmpty fun w hw => (h w hw).1]

/-- Solid cells joined with bars, with a space at either side of each bar and one in front of all, are read
back where the text is cut at the bars and trimmed. -/
theorem cells_intercalate {cells : List (List Char)} (hne : cells ≠ [])
    (h : ∀ cs ∈ cells, Solid cs ∧ '|' ∉ cs) :
    ((' ' :: [' ', '|', ' '].intercalate cells).splitOn '|').map trim = cells := by
  induction cells with
  | nil => exact absurd rfl hne
  | cons cs cells ih =>
    obtain ⟨⟨hcs, hbar⟩, hcells⟩ := List.forall_mem_cons.mp h
    cases cells with
    | nil =>
      rw [List.intercalate_singleton, List.splitOn_eq_singleton (by simp [hbar]), List.map_singleton,
        trim_cons_of_blank (by decide), hcs.trim_eq]
    | cons ds cells =>
      -- the space in front of the bar ends this cell, the one behind it begins the next
      have hcut : ' ' :: [' ', '|', ' '].intercalate (cs :: ds :: cells) =
          (' ' :: (cs ++ [' '])) ++ '|' :: ' ' :: [' ', '|', ' '].intercalate (ds :: cells) := by
        rw [List.intercalate_cons_cons]
        simp
      rw [hcut, List.splitOn_append_cons_self_of_not_mem (by simp [hbar]), List.map_cons,
        ih (by simp) hcells, trim_cons_of_blank (by decide), hcs.trim_append_blanks isBlank_of_mem_space]

/-! ## Arrows -/

/-- There is an arrow in the text. -/
def HasArrow (cs : List Char) : Prop := "->".toList <:+: cs ∨ '→' ∈ cs

instance (cs : List Char) : Decidable (HasArrow cs) := inferInstanceAs (Decidable (_ ∨ _))

theorem HasArrow.of_isInfix (h : HasArrow cs) (hds : cs <:+: ds) : HasArrow ds :=
  h.imp (fun harrow => harrow.trans hds) (fun harrow => hds.mem harrow)

/-- Where no arrow begins, the arrows are those further on. -/
theorem hasArrow_cons_iff {c : Char} (hline : ∀ ds, c = '-' → rest ≠ '>' :: ds) (hc : c ≠ '→') :
    HasArrow (c :: rest) ↔ HasArrow rest := by
  have hnot : ¬ "->".toList <+: c :: rest := fun ⟨ds, h⟩ => by
    obtain ⟨h1, h2⟩ := List.cons_eq_cons.mp h
    exact hline ds h1.symm h2.symm
  rw [HasArrow, HasArrow, List.infix_cons_iff, or_iff_right hnot, List.mem_cons,
    or_iff_right hc.symm]

/-- A line is cut unless there is no arrow in it. -/
theorem splitArrow_eq_none_iff : splitArrow cs = none ↔ ¬ HasArrow cs := by
  fun_induction splitArrow cs with
  | case1 => simp [HasArrow]
  | case2 rest =>
    have harrow : HasArrow ('-' :: '>' :: rest) := Or.inl ⟨[], rest, rfl⟩
    simp [harrow]
  | case3 rest => simp [HasArrow]
  | case4 c rest h1 h2 ih =>
    rw [Option.map_eq_none_iff, ih, hasArrow_cons_iff (fun ds hc hr => h1 ds hc hr) h2]

/-- A line is cut at an arrow that has no arrow in front of it. -/
theorem splitArrow_eq_some_iff {left right : List Char} : splitArrow cs = some (left, right) ↔
    ¬ HasArrow left ∧ (cs = left ++ '-' :: '>' :: right ∨ cs = left ++ '→' :: right) := by
  constructor
  · intro h
    fun_induction splitArrow cs generalizing left with
    | case1 => cases h
    | case2 rest =>
      cases h
      exact ⟨by simp [HasArrow], Or.inl rfl⟩
    | case3 rest =>
      cases h
      exact ⟨by simp [HasArrow], Or.inr rfl⟩
    | case4 c rest h1 h2 ih =>
      obtain ⟨⟨before, after⟩, hrest, he⟩ := Option.map_eq_some_iff.mp h
      cases he
      obtain ⟨harrow, hcut⟩ := ih hrest
      -- were there an arrow at the first character, the line would be cut there
      have hline : ∀ ds, c = '-' → before ≠ '>' :: ds := fun ds hc hbefore => by
        rcases hcut with rfl | rfl <;> exact h1 _ hc (by rw [hbefore]; rfl)
      exact ⟨(hasArrow_cons_iff hline h2).not.mpr harrow, by simpa using hcut⟩
  · rintro ⟨harrow, hcut⟩
    induction left generalizing cs with
    | nil => rcases hcut with rfl | rfl <;> rfl
    | cons c left ih =>
      have hc : c ≠ '→' := fun hc => harrow (Or.inr (by simp [hc]))
      have hline : ∀ ds, c = '-' → left ≠ '>' :: ds := fun ds hc hleft =>
        harrow (Or.inl ⟨[], ds, by simp [hc, hleft]⟩)
      obtain ⟨rest, rfl, hrest⟩ : ∃ rest, cs = c :: rest ∧
          (rest = left ++ '-' :: '>' :: right ∨ rest = left ++ '→' :: right) :=
        hcut.elim (fun h => ⟨_, h, Or.inl rfl⟩) (fun h => ⟨_, h, Or.inr rfl⟩)
      rw [hasArrow_cons_iff hline hc] at harrow
      rw [splitArrow, ih harrow hrest]
      · rfl
      · -- a hyphen in front of the arrow makes no arrow with it
        rintro ds hc rfl
        cases left with
        | nil => rcases hrest with h | h <;> cases h
        | cons d left => exact hline left hc (by rcases hrest with h | h <;> rw [(List.cons.inj h).1])
      · exact hc

/-- An arrow does not end in a text that has neither of the characters with which arrows end. -/
theorem HasArrow.of_append (h : HasArrow (cs ++ ds)) (hds : ∀ c ∈ ds, c ≠ '>' ∧ c ≠ '→') : HasArrow cs := by
  rcases h with h | h
  · refine Or.inl ?_
    rcases List.infix_append_iff.mp h with h | h | ⟨left, right, hsplit, hleft, hright⟩
    · exact h
    · exact absurd rfl (hds '>' (h.mem (by simp))).1
    · rcases List.eq_nil_or_concat right with rfl | ⟨right, c, rfl⟩
      · rw [hsplit, List.append_nil]
        exact hleft.isInfix
      · have hlast := congrArg List.getLast? hsplit
        simp at hlast
        exact absurd hlast.symm (hds c (hright.mem (by simp))).1
  · exact Or.inr ((List.mem_append.mp h).resolve_right fun h => (hds _ h).2 rfl)

theorem HasArrow.of_append_blanks {blanks : List Char} (h : HasArrow (cs ++ blanks))
    (hblanks : ∀ c ∈ blanks, isBlank c = true) : HasArrow cs :=
  h.of_append fun c hc => by
    have hb := hblanks c hc
    constructor <;> rintro rfl <;> exact absurd hb (by decide)

end FormalLanguages.Text
