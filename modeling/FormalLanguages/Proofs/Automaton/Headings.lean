import FormalLanguages.Automaton.Description
import FormalLanguages.Proofs.Text.Cutting
/-!
# Labels of sections

A label that is spelled with letters of ASCII, in whatever case, belongs to its section, as no label begins with
another one. Three letters outside of ASCII share a case with letters of the labels; a line that has none of them
is a line with a label of a section, or it has no label.

Results:
* `heading?_of_opens`: what a line with a label is read as.
* `exists_foreignCase_of_unknown`: a label that belongs to no section is spelled with a letter outside of ASCII.
-/
namespace FormalLanguages

namespace Text

/-- The letters outside of ASCII that share a case with a letter of ASCII. -/
def foreignCases : List Char := ['ſ', 'ı', 'İ']

variable {w v spelling rest cs : List Char} {l c : Char}

theorem isCaseOf_iff : isCaseOf w cs = true ↔ cs.map Char.toLower = w := beq_iff_eq

theorem sharesCase_toLower (c : Char) : sharesCase c.toLower c = true := by
  simp [sharesCase]

theorem toLower_eq_of_sharesCase (h : sharesCase l c = true) (hc : c ∉ foreignCases) : c.toLower = l := by
  simp only [foreignCases, List.mem_cons, List.not_mem_nil, or_false, not_or] at hc
  simpa [sharesCase, hc] using h

theorem lowered_eq_map (h : 'İ' ∉ cs) : lowered cs = cs.map Char.toLower := by
  induction cs with
  | nil => rfl
  | cons c cs ih =>
    obtain ⟨hc, hcs⟩ := not_or.mp (List.mem_cons.not.mp h)
    rw [lowered, List.flatMap_cons, if_neg (Ne.symm hc), List.map_cons, ← ih hcs]
    rfl

/-- A word in some case is split off. -/
theorem dropCaseOf_append (h : spelling.map Char.toLower = w) (rest : List Char) :
    dropCaseOf w (spelling ++ rest) = some (spelling, rest) := by
  induction spelling generalizing w with
  | nil => subst h; rfl
  | cons c spelling ih =>
    subst h
    rw [List.map_cons, List.cons_append, dropCaseOf, if_pos (sharesCase_toLower c), ih rfl]
    rfl

/-- A word that is split off is spelled by what stands in front of the rest. -/
theorem eq_append_of_dropCaseOf (h : dropCaseOf w cs = some (spelling, rest)) : cs = spelling ++ rest := by
  induction w generalizing cs spelling with
  | nil => cases h; rfl
  | cons l w ih =>
    cases cs with
    | nil => cases h
    | cons c cs =>
      rw [dropCaseOf] at h
      split at h
      · obtain ⟨⟨spelling, rest⟩, hrest, he⟩ := Option.map_eq_some_iff.mp h
        cases he
        rw [ih hrest, List.cons_append]
      · cases h

/-- Without the letters outside of ASCII only a word in some case is split off. -/
theorem map_toLower_of_dropCaseOf (h : dropCaseOf w cs = some (spelling, rest))
    (hcs : ∀ c ∈ spelling, c ∉ foreignCases) : spelling.map Char.toLower = w := by
  induction w generalizing cs spelling with
  | nil => cases h; rfl
  | cons l w ih =>
    cases cs with
    | nil => cases h
    | cons c cs =>
      rw [dropCaseOf] at h
      split at h
      · next hc =>
        obtain ⟨⟨spelling, rest⟩, hrest, he⟩ := Option.map_eq_some_iff.mp h
        cases he
        obtain ⟨hforeign, hcs⟩ := List.forall_mem_cons.mp hcs
        rw [List.map_cons, toLower_eq_of_sharesCase hc hforeign, ih hrest hcs]
      · cases h

/-- If two words can be split off, one of them begins with the other. -/
theorem isPrefix_or_isPrefix_of_dropCaseOf (h : spelling.map Char.toLower = w)
    (hforeign : ∀ c ∈ spelling, c ∉ foreignCases) (hv : (dropCaseOf v (spelling ++ rest)).isSome = true) :
    v <+: w ∨ w <+: v := by
  induction v generalizing w spelling with
  | nil => exact Or.inl List.nil_prefix
  | cons l v ih =>
    subst h
    cases spelling with
    | nil => exact Or.inr List.nil_prefix
    | cons c spelling =>
      obtain ⟨hc, hforeign⟩ := List.forall_mem_cons.mp hforeign
      rw [List.cons_append, dropCaseOf] at hv
      split at hv
      · next hl =>
        rw [List.map_cons, toLower_eq_of_sharesCase hl hc, List.cons_prefix_cons, List.cons_prefix_cons]
        exact (ih rfl hforeign (by simpa using hv)).imp (⟨rfl, ·⟩) (⟨rfl, ·⟩)
      · cases hv

end Text

namespace Description

open Text

/-- The line is opened by the label of the section: its letters, in any case, perhaps blanks, and a colon. -/
def Opens (line : List Char) (s : Section) : Prop :=
  ∃ spelling blanks content, line = spelling ++ blanks ++ ':' :: content ∧
    isCaseOf s.label.toList spelling = true ∧ ∀ c ∈ blanks, isBlank c = true

variable {line content : List Char} {s t : Section} {label : String}

/-- No label begins with another one. -/
theorem eq_of_label_isPrefix (h : s.label.toList <+: t.label.toList) : s = t := by
  revert h
  cases s <;> cases t <;> decide

theorem not_foreignCase_of_mem_label {c : Char} (h : c ∈ s.label.toList) : c ∉ foreignCases := by
  have hall : s.label.toList.all (fun c => c ∉ foreignCases) = true := by cases s <;> decide
  simpa using List.all_eq_true.mp hall c h

theorem mem_all (s : Section) : s ∈ Section.all := by
  cases s <;> decide

/-- The letters of ASCII that spell a label are none of the others. -/
theorem not_foreignCase_of_spelling {spelling : List Char} (h : spelling.map Char.toLower = s.label.toList) :
    ∀ c ∈ spelling, c ∉ foreignCases := by
  intro c hc hforeign
  have hlower : c.toLower ∈ s.label.toList := h ▸ List.mem_map_of_mem hc
  have hfixed : foreignCases.all (fun c => c.toLower = c) = true := by decide
  rw [of_decide_eq_true (List.all_eq_true.mp hfixed c hforeign)] at hlower
  exact not_foreignCase_of_mem_label hlower hforeign

/-- A line with the label of a section is read as such. -/
theorem heading?_of_opens (h : Opens line s) : ∃ content, heading? line = some (.section s, content) := by
  obtain ⟨spelling, blanks, content, rfl, hspelling, hblanks⟩ := h
  have hlower := isCaseOf_iff.mp hspelling
  have hforeign := not_foreignCase_of_spelling hlower
  have hlabel : String.ofList (lowered spelling) = s.label := by
    rw [lowered_eq_map fun h => hforeign _ h (by decide), hlower, String.ofList_toList]
  have hcolon : trimStart (blanks ++ ':' :: content) = ':' :: content := by
    rw [trimStart, List.dropWhile_append_of_pos hblanks]
    exact List.dropWhile_cons_of_neg (by decide)
  have hself : headingOf? (spelling ++ (blanks ++ ':' :: content)) s = some (.section s, trim content) := by
    simp only [headingOf?, dropCaseOf_append hlower, hcolon, hlabel, if_true]
  refine ⟨trim content, ?_⟩
  rw [List.append_assoc]
  -- of the labels before this one none is there, as it would begin with this one or this one with it
  obtain ⟨before, after, hall⟩ := List.append_of_mem (mem_all s)
  refine List.findSome?_eq_some_iff.mpr ⟨before, s, after, hall, hself, fun t ht => ?_⟩
  have hts : t ≠ s := by
    rintro rfl
    have hnodup : (before ++ t :: after).Nodup := hall ▸ (by decide : Section.all.Nodup)
    exact (List.nodup_append.mp hnodup).2.2 t ht t List.mem_cons_self rfl
  have hnone : dropCaseOf t.label.toList (spelling ++ (blanks ++ ':' :: content)) = none := by
    refine Option.not_isSome_iff_eq_none.mp fun hsome => hts ?_
    rcases isPrefix_or_isPrefix_of_dropCaseOf hlower hforeign hsome with h | h
    · exact eq_of_label_isPrefix h
    · exact (eq_of_label_isPrefix h).symm
  rw [headingOf?, hnone]

/-- A label that belongs to no section is spelled with a letter outside of ASCII. -/
theorem exists_foreignCase_of_unknown (h : heading? line = some (.unknown label, content)) :
    ∃ c ∈ line, c ∈ foreignCases := by
  by_contra hno
  push Not at hno
  obtain ⟨s, -, hs⟩ := List.exists_of_findSome?_eq_some h
  unfold headingOf? at hs
  split at hs
  · cases hs
  next spelling rest hdrop =>
  have hforeign : ∀ c ∈ spelling, c ∉ foreignCases := fun c hc =>
    hno c (eq_append_of_dropCaseOf hdrop ▸ List.mem_append_left rest hc)
  have hlabel : String.ofList (lowered spelling) = s.label := by
    rw [lowered_eq_map fun h => hforeign _ h (by decide), map_toLower_of_dropCaseOf hdrop hforeign,
      String.ofList_toList]
  split at hs
  · simp [hlabel] at hs
  · cases hs

end Description

end FormalLanguages
