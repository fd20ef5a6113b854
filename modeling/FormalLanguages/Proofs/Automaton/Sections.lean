import FormalLanguages.Automaton.Description
import FormalLanguages.Proofs.Grouping
import FormalLanguages.Proofs.Text.Cutting
/-!
# What stands in a description

A description is told line by line. A content stands under a label if it comes behind it on the same line, or if
it is a line without a label of its own and the label is the last one above it. An entry of the transition section
writes a transition if it has an arrow, with a source and a symbol in front of the first one, divided by the only
comma there, and with at least one target behind it.

Results:
* `mem_underHeadings_iff`: what is read under a label stands under it.
* `map_snd_filter_underHeadings`: what is read under no label are the lines in front of the first one.
* `transition?_eq_some_iff`: an entry is read as the transition that it writes.
* `isName_of_mem_names`, `Writes.isName`: names are trimmed, not empty and without commas.
-/
namespace FormalLanguages

/-- What a symbol is read as is `ε`, or is spelled by the text and is no spelling of `ε`. -/
theorem Symbol.ofChars_cases (cs : List Char) :
    Symbol.ofChars cs = epsilon ∨ Symbol.ofChars cs = String.ofList cs ∧ isEpsilon cs = false := by
  unfold Symbol.ofChars
  split
  · exact Or.inl rfl
  · next h => exact Or.inr ⟨rfl, by simpa using h⟩

namespace Description

/-! ## Contents of sections -/

/-- The last label in some lines. -/
def lastHeading? (lines : List (List Char)) : Option Heading :=
  ((lines.filterMap heading?).map Prod.fst).getLast?

/-- The content stands under the label: behind it on the same line, or on a line without a label, where this is
the last label above. -/
def StandsUnder (lines : List (List Char)) (h : Heading) (content : List Char) : Prop :=
  ∃ before line after, lines = before ++ line :: after ∧
    (heading? line = some (h, content) ∧ content ≠ [] ∨
      heading? line = none ∧ content = line ∧ lastHeading? before = some h)

variable {current : Option Heading} {h : Heading} {line content : List Char} {lines : List (List Char)}

theorem lastHeading?_cons_of_label (hline : heading? line = some (h, content)) :
    lastHeading? (line :: lines) = (lastHeading? lines).or (some h) := by
  rw [lastHeading?, List.filterMap_cons_some hline, List.map_cons, List.getLast?_cons]
  cases hlast : ((lines.filterMap heading?).map Prod.fst).getLast? <;> simp [lastHeading?, hlast]

theorem lastHeading?_cons_of_no_label (hline : heading? line = none) :
    lastHeading? (line :: lines) = lastHeading? lines := by
  rw [lastHeading?, List.filterMap_cons_none hline, lastHeading?]

/-- What is read under a label stands under it, where `current` is the last label of the lines before. -/
theorem mem_underHeadings_cases : (some h, content) ∈ underHeadings current lines ↔
    ∃ before line after, lines = before ++ line :: after ∧
      (heading? line = some (h, content) ∧ content ≠ [] ∨
        heading? line = none ∧ content = line ∧ (lastHeading? before).or current = some h) := by
  induction lines generalizing current with
  | nil => simp [underHeadings]
  | cons line lines ih =>
    rw [exists_place_cons_iff, underHeadings]
    cases hline : heading? line with
    | none =>
      simp only [List.mem_cons, ih, lastHeading?_cons_of_no_label hline]
      refine or_congr ?_ Iff.rfl
      simp [lastHeading?, eq_comm, and_comm]
    | some label =>
      obtain ⟨h', content'⟩ := label
      have hbelow (before : List (List Char)) :
          (lastHeading? (line :: before)).or current = (lastHeading? before).or (some h') := by
        rw [lastHeading?_cons_of_label hline]
        cases lastHeading? before <;> rfl
      simp only [hbelow, ← ih]
      by_cases hempty : content' = []
      · -- nothing stands on the line of the label
        subst hempty
        simp only [List.isEmpty_nil, if_true, Option.some.injEq, Prod.mk.injEq]
        refine ⟨Or.inr, fun hor => hor.elim (fun hline => ?_) id⟩
        rcases hline with ⟨⟨-, rfl⟩, hne⟩ | ⟨hno, -⟩
        · exact absurd rfl hne
        · cases hno
      · simp only [List.isEmpty_iff, if_neg hempty, List.mem_cons, Option.some.injEq, Prod.mk.injEq]
        refine or_congr ⟨?_, ?_⟩ Iff.rfl
        · rintro ⟨rfl, rfl⟩
          exact Or.inl ⟨⟨rfl, rfl⟩, hempty⟩
        · rintro (⟨⟨rfl, rfl⟩, -⟩ | ⟨hno, -⟩)
          · exact ⟨rfl, rfl⟩
          · cases hno

/-- What is read under a label stands under it. -/
theorem mem_underHeadings_iff :
    (some h, content) ∈ underHeadings none lines ↔ StandsUnder lines h content := by
  simp only [mem_underHeadings_cases, StandsUnder, Option.or_none]

theorem mem_contentsOf_iff {s : Section} :
    content ∈ contentsOf (underHeadings none lines) s ↔ StandsUnder lines (.section s) content := by
  rw [← mem_underHeadings_iff, contentsOf]
  simp

theorem isSome_of_mem_underHeadings {c : Option Heading × List Char} (hc : c ∈ underHeadings (some h) lines) :
    c.1.isSome = true := by
  induction lines generalizing h with
  | nil => cases hc
  | cons line lines ih =>
    unfold underHeadings at hc
    split at hc
    · split at hc
      · exact ih hc
      · rcases List.mem_cons.mp hc with rfl | hc
        · rfl
        · exact ih hc
    · rcases List.mem_cons.mp hc with rfl | hc
      · rfl
      · exact ih hc

/-- What is read under no label are the lines in front of the first label. -/
theorem map_snd_filter_underHeadings (lines : List (List Char)) :
    ((underHeadings none lines).filter (·.1.isNone)).map Prod.snd =
      lines.takeWhile fun line => (heading? line).isNone := by
  induction lines with
  | nil => rfl
  | cons line lines ih =>
    rw [underHeadings, List.takeWhile_cons]
    cases hline : heading? line with
    | none => simpa using ih
    | some label =>
      have hnone : (underHeadings (some label.1) lines).filter (·.1.isNone) = [] :=
        List.filter_eq_nil_iff.mpr fun c hc => by
          simpa [Option.isSome_iff_ne_none] using isSome_of_mem_underHeadings hc
      by_cases hempty : label.2 = [] <;> simp [hempty, hnone]

/-! ## Entries of the transition section -/

/-- The entry writes the transition: in front of its first arrow stand the source and the symbol, not blank and
divided by the only comma, and behind it the targets, at least one. -/
def Writes (entry : List Char) (t : TransitionEntry) : Prop :=
  ∃ source symbol right,
    (entry = (source ++ ',' :: symbol) ++ '-' :: '>' :: right ∨ entry = (source ++ ',' :: symbol) ++ '→' :: right) ∧
    ¬ Text.HasArrow (source ++ ',' :: symbol) ∧ ',' ∉ source ∧ ',' ∉ symbol ∧
    Text.trim source ≠ [] ∧ t.source = String.ofList (Text.trim source) ∧
    Text.trim symbol ≠ [] ∧ t.symbol = Symbol.ofChars (Text.trim symbol) ∧
    t.targets ≠ [] ∧ t.targets = (Text.entries ',' right).map String.ofList

/-- The entry writes some transition. -/
def Legible (entry : List Char) : Prop := ∃ t, Writes entry t

variable {entry : List Char} {t : TransitionEntry}

/-- An entry is read as the transition that it writes. -/
theorem transition?_eq_some_iff : transition? entry = some t ↔ Writes entry t := by
  constructor
  · intro h
    unfold transition? at h
    split at h
    · cases h
    next left right hcut =>
    split at h
    · next source' symbol' q qs hleft hright =>
      split at h
      · cases h
      next hblank =>
      cases h
      obtain ⟨source, others, hsplit, rfl, hothers⟩ := List.map_eq_cons_iff.mp hleft
      obtain ⟨symbol, none, rfl, rfl, hnone⟩ := List.map_eq_cons_iff.mp hothers
      obtain rfl := List.map_eq_nil_iff.mp hnone
      have hjoin : left = source ++ ',' :: symbol := by
        have hjoin : [','].intercalate (left.splitOn ',') = left := List.intercalate_splitOn ','
        rw [← hjoin, hsplit]
        simp [List.intercalate_cons_cons]
      have hcomma : ∀ piece ∈ [source, symbol], ',' ∉ piece := fun piece hpiece =>
        Text.not_mem_of_mem_splitOn (hsplit ▸ hpiece)
      subst hjoin
      obtain ⟨harrow, hentry⟩ := Text.splitArrow_eq_some_iff.mp hcut
      simp only [Bool.or_eq_true, List.isEmpty_iff, not_or] at hblank
      exact ⟨source, symbol, right, hentry, harrow, hcomma source (by simp), hcomma symbol (by simp),
        hblank.1, rfl, hblank.2, rfl, by simp, hright.symm⟩
    · cases h
  · rintro ⟨source, symbol, right, hentry, harrow, hsource, hsymbol, hsource', hs, hsymbol', ha, hne, ht⟩
    have hcut := Text.splitArrow_eq_some_iff.mpr ⟨harrow, hentry⟩
    have hleft : (source ++ ',' :: symbol).splitOn ',' = [source, symbol] := by
      rw [List.splitOn_append_cons_self_of_not_mem hsource, List.splitOn_eq_singleton hsymbol]
    obtain ⟨p, a, targets⟩ := t
    dsimp only at hs ha hne ht
    cases targets with
    | nil => exact absurd rfl hne
    | cons q qs =>
      simp [transition?, hcut, hleft, ← ht, hs, ha, hsource', hsymbol']

instance : Decidable (Legible entry) :=
  decidable_of_iff ((transition? entry).isSome = true) <| by
    simp only [Option.isSome_iff_exists, transition?_eq_some_iff, Legible]

theorem transition?_eq_none_iff : transition? entry = none ↔ ¬ Legible entry := by
  simp only [Option.eq_none_iff_forall_ne_some, ne_eq, transition?_eq_some_iff, Legible, not_exists]

/-! ## Names -/

/-- A name that a list can hold: no blank at either end, not empty, and no comma. -/
def IsName (s : String) : Prop := Text.Solid s.toList ∧ ',' ∉ s.toList

theorem isName_of_mem_entries {s : String} {text : List Char}
    (h : s ∈ (Text.entries ',' text).map String.ofList) : IsName s := by
  obtain ⟨e, he, rfl⟩ := List.mem_map.mp h
  simpa [IsName] using Text.of_mem_entries he

theorem isName_of_mem_names {contents : List (Option Heading × List Char)} {sec : Section} {s : String}
    (h : s ∈ names contents sec) : IsName s := by
  obtain ⟨line, -, h⟩ := List.mem_flatMap.mp h
  exact isName_of_mem_entries h

theorem isName_ofList_trim {cs : List Char} (hne : Text.trim cs ≠ []) (hcomma : ',' ∉ cs) :
    IsName (String.ofList (Text.trim cs)) := by
  simpa [IsName] using ⟨Text.Solid.of_trim hne, fun hc => hcomma (Text.mem_of_mem_trim hc)⟩

namespace Writes

/-- The states that a transition mentions have names. -/
theorem isName (h : Writes entry t) {s : State} (hs : s ∈ t.source :: t.targets) : IsName s := by
  obtain ⟨source, symbol, right, -, -, hcomma, -, hne, hsource, -, -, -, htargets⟩ := h
  rcases List.mem_cons.mp hs with rfl | hs
  · exact hsource ▸ isName_ofList_trim hne hcomma
  · exact isName_of_mem_entries (htargets ▸ hs)

/-- The symbol of a transition is `ε`, or it has a name that is no spelling of `ε`. -/
theorem symbol_cases (h : Writes entry t) :
    t.symbol = epsilon ∨ IsName t.symbol ∧ isEpsilon t.symbol.toList = false := by
  obtain ⟨source, symbol, right, -, -, -, hcomma, -, -, hne, hsymbol, -, -⟩ := h
  rw [hsymbol]
  refine (Symbol.ofChars_cases _).imp_right fun ⟨hspell, hε⟩ => ?_
  rw [hspell]
  exact ⟨isName_ofList_trim hne hcomma, by simpa using hε⟩

end Writes

end Description

end FormalLanguages
