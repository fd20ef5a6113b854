import FormalLanguages.Proofs.Automaton.MinimalSubset
import FormalLanguages.Proofs.Automaton.Sections
/-!
# What descriptions are read as

What a text mentions is declared by it: the states of start, acceptance and transitions are states of
the automaton, wherever they stand, and the symbols of transitions are in its alphabet. There is no set of
targets without a member, as a transition is kept only together with a target. What is no transition is skipped.

Results:
* `proper_ofContents`: an automaton that was read is well-formed, with names that its text can spell.
* `mem_targets_ofContents`: its transitions are those that can be read.
* `proper_of_read`: both, with what was skipped, said of the lines of the text.
* `comma_not_mem_of_parse`, `epsilon_not_mem_of_parse`: names of states have no commas, and `ε` is no
  input symbol.
-/
namespace FormalLanguages

namespace Description

/-- The transitions that can be read. -/
def readTransitions (contents : List (Option Heading × List Char)) : List TransitionEntry :=
  (transitionTexts contents).filterMap transition?

/-- The states that some section mentions. -/
def mentionedStates (contents : List (Option Heading × List Char)) : List State :=
  (names contents .states ++ (names contents .start).take 1 ++ names contents .accept ++
    (readTransitions contents).flatMap fun t => t.source :: t.targets).eraseDups

/-- The symbols that some section mentions, other than `ε`. -/
def mentionedSymbols (contents : List (Option Heading × List Char)) : List Symbol :=
  ((names contents .alphabet).filter (fun a => !isEpsilon a.toList) ++
    ((readTransitions contents).map (·.symbol)).filter (· ≠ epsilon)).eraseDups

/-- What is mentioned, without the transitions; `first` is the start if none is named. -/
def bare (contents : List (Option Heading × List Char)) (first : State) : Automaton where
  states := mentionedStates contents
  alphabet := mentionedSymbols contents
  start := (names contents .start).head?.getD first
  accept := .ofList (names contents .accept)

/-- Some entry of a transition section writes a transition from `p` to `q` on `a`. -/
def WritesStep (lines : List (List Char)) (p : State) (a : Symbol) (q : State) : Prop :=
  ∃ content, StandsUnder lines (.section .transitions) content ∧ ∃ entry ∈ Text.entries ';' content,
    ∃ t, Writes entry t ∧ t.source = p ∧ t.symbol = a ∧ q ∈ t.targets

variable {contents : List (Option Heading × List Char)} {lines : List (List Char)} {e : TransitionEntry}
  {s p q : State} {a : Symbol}

theorem mem_readTransitions_iff :
    e ∈ readTransitions contents ↔ ∃ entry ∈ transitionTexts contents, Writes entry e := by
  simp only [readTransitions, List.mem_filterMap, transition?_eq_some_iff]

/-- The transitions that can be read are those that some entry writes. -/
theorem exists_mem_readTransitions_iff :
    (∃ e ∈ readTransitions (underHeadings none lines), e.source = p ∧ e.symbol = a ∧ q ∈ e.targets) ↔
      WritesStep lines p a q := by
  simp only [mem_readTransitions_iff, transitionTexts, List.mem_flatMap, mem_contentsOf_iff, WritesStep]
  constructor
  · rintro ⟨e, ⟨entry, ⟨content, hcontent, hentry⟩, he⟩, hstep⟩
    exact ⟨content, hcontent, entry, hentry, e, he, hstep⟩
  · rintro ⟨content, hcontent, entry, hentry, e, he, hstep⟩
    exact ⟨e, ⟨entry, ⟨content, hcontent, hentry⟩, he⟩, hstep⟩

theorem mem_mentionedStates_iff : s ∈ mentionedStates contents ↔ s ∈ names contents .states ∨
    s ∈ (names contents .start).take 1 ∨ s ∈ names contents .accept ∨
      ∃ e ∈ readTransitions contents, s ∈ e.source :: e.targets := by
  simp only [mentionedStates, List.mem_eraseDups, List.mem_append, List.mem_flatMap, or_assoc]

theorem mem_mentionedSymbols_iff : a ∈ mentionedSymbols contents ↔
    a ∈ names contents .alphabet ∧ isEpsilon a.toList = false ∨
      a ≠ epsilon ∧ ∃ e ∈ readTransitions contents, e.symbol = a := by
  simp only [mentionedSymbols, List.mem_eraseDups, List.mem_append, List.mem_filter, List.mem_map,
    Bool.not_eq_true', decide_eq_true_eq, and_comm]

theorem isName_of_mem_mentionedStates (h : s ∈ mentionedStates contents) : IsName s := by
  rcases mem_mentionedStates_iff.mp h with h | h | h | ⟨e, he, hs⟩
  · exact isName_of_mem_names h
  · exact isName_of_mem_names (List.mem_of_mem_take h)
  · exact isName_of_mem_names h
  · obtain ⟨entry, -, he⟩ := mem_readTransitions_iff.mp he
    exact he.isName hs

/-- Input symbols have names that do not spell `ε`. -/
theorem of_mem_mentionedSymbols (h : a ∈ mentionedSymbols contents) :
    IsName a ∧ isEpsilon a.toList = false := by
  rcases mem_mentionedSymbols_iff.mp h with ⟨h, hε⟩ | ⟨hε, e, he, rfl⟩
  · exact ⟨isName_of_mem_names h, hε⟩
  · obtain ⟨entry, -, he⟩ := mem_readTransitions_iff.mp he
    exact he.symbol_cases.resolve_left hε

end Description

namespace Automaton

open Description

/-- An automaton as it can be written down: what is mentioned is declared once, under a name, and no set of
targets is empty. -/
structure Proper (m : Automaton) : Prop extends m.Declared where
  symbol_mem : ∀ e ∈ m.transitions.entries, e.1.2 = epsilon ∨ e.1.2 ∈ m.alphabet
  exists_target : ∀ e ∈ m.transitions.entries, ∃ t, t ∈ e.2
  not_isEpsilon : ∀ a ∈ m.alphabet, a ≠ epsilon ∧ isEpsilon a.toList = false
  nodup_states : m.states.Nodup
  nodup_alphabet : m.alphabet.Nodup
  isName_state : ∀ s ∈ m.states, IsName s
  isName_symbol : ∀ a ∈ m.alphabet, IsName a

/-- The automaton with a transition to each target of the entry. -/
def addEntry (m : Automaton) (e : TransitionEntry) : Automaton :=
  e.targets.foldl (fun m q => m.addTransition e.source e.symbol q) m

/-- The automaton with more transitions. -/
def addTransitions (m : Automaton) (entries : List TransitionEntry) : Automaton :=
  entries.foldl addEntry m

variable {m : Automaton} {e : TransitionEntry} {entries : List TransitionEntry} {s t p q : State} {a b : Symbol}

/-! ## Adding transitions -/

theorem mem_targets_addTransition :
    q ∈ (m.addTransition s a t).targets p b ↔ q ∈ m.targets p b ∨ s = p ∧ a = b ∧ q = t := by
  rw [targets, addTransition, OrderedMap.getD_alter]
  split
  · next hkey =>
    obtain ⟨rfl, rfl⟩ := Prod.mk.inj hkey
    simp [targets, or_comm]
  · next hkey =>
    have hother : ¬ (s = p ∧ a = b ∧ q = t) := fun h => hkey (by rw [h.1, h.2.1])
    rw [or_iff_left hother, targets]

theorem mem_targets_addEntry :
    q ∈ (m.addEntry e).targets p a ↔ q ∈ m.targets p a ∨ e.source = p ∧ e.symbol = a ∧ q ∈ e.targets := by
  obtain ⟨source, symbol, ts⟩ := e
  induction ts generalizing m with
  | nil => simp [addEntry]
  | cons t ts ih =>
    change q ∈ ((m.addTransition source symbol t).addEntry ⟨source, symbol, ts⟩).targets p a ↔ _
    rw [ih, mem_targets_addTransition]
    simp only [List.mem_cons]
    tauto

/-- The transitions of an automaton with more transitions are its own and those added. -/
theorem mem_targets_addTransitions : q ∈ (m.addTransitions entries).targets p a ↔
    q ∈ m.targets p a ∨ ∃ e ∈ entries, e.source = p ∧ e.symbol = a ∧ q ∈ e.targets := by
  induction entries generalizing m with
  | nil => simp [addTransitions]
  | cons e entries ih =>
    change q ∈ ((m.addEntry e).addTransitions entries).targets p a ↔ _
    rw [ih, mem_targets_addEntry]
    simp only [List.mem_cons, exists_eq_or_imp, or_assoc]

/-- What holds of an automaton and is kept by a further transition holds when transitions were added. -/
theorem addTransitions_induction {motive : Automaton → Prop} (hm : motive m)
    (hstep : ∀ n s a t, motive n → motive (n.addTransition s a t)) : motive (m.addTransitions entries) :=
  List.foldlRecOn entries _ hm fun _ hn e _ =>
    List.foldlRecOn e.targets _ hn fun n hn t _ => hstep n e.source e.symbol t hn

/-- Only transitions are added. -/
theorem addTransitions_frame (m : Automaton) (entries : List TransitionEntry) :
    (m.addTransitions entries).states = m.states ∧ (m.addTransitions entries).alphabet = m.alphabet ∧
      (m.addTransitions entries).start = m.start ∧ (m.addTransitions entries).accept = m.accept :=
  addTransitions_induction (motive := fun n => n.states = m.states ∧ n.alphabet = m.alphabet ∧
    n.start = m.start ∧ n.accept = m.accept) ⟨rfl, rfl, rfl, rfl⟩ fun _ _ _ _ hn => hn

/-- No set of targets becomes empty. -/
theorem exists_target_addTransitions (hm : ∀ e ∈ m.transitions.entries, ∃ t, t ∈ e.2) :
    ∀ e ∈ (m.addTransitions entries).transitions.entries, ∃ t, t ∈ e.2 := by
  refine addTransitions_induction (motive := fun n : Automaton => ∀ e ∈ n.transitions.entries, ∃ t, t ∈ e.2)
    hm fun n s a t hn e he => ?_
  have hget := OrderedMap.mem_entries_iff.mp (show (e.1, e.2) ∈ _ from he)
  rw [addTransition, OrderedMap.alter, OrderedMap.get?_insert] at hget
  split at hget
  · rw [← Option.some.inj hget]
    exact ⟨t, NameSet.mem_insert.mpr (Or.inl rfl)⟩
  · exact hn e (OrderedMap.mem_entries_iff.mpr hget)

/-! ## Reading -/

variable {contents : List (Option Heading × List Char)} {skipped : List String} {text : String}

theorem automaton_ofContents (contents : List (Option Heading × List Char)) :
    (ofContents contents).automaton = (mentionedStates contents).head?.map fun first =>
      (bare contents first).addTransitions (readTransitions contents) := rfl

/-- What is read has just the transitions that can be read. -/
theorem mem_targets_ofContents (h : (ofContents contents).automaton = some m) :
    q ∈ m.targets p a ↔ ∃ e ∈ readTransitions contents, e.source = p ∧ e.symbol = a ∧ q ∈ e.targets := by
  rw [automaton_ofContents] at h
  obtain ⟨first, -, rfl⟩ := Option.map_eq_some_iff.mp h
  have hbare : q ∉ (bare contents first).targets p a := NameSet.not_mem_empty
  rw [mem_targets_addTransitions, or_iff_right hbare]

/-- What is read is well-formed. -/
theorem proper_ofContents (h : (ofContents contents).automaton = some m) : m.Proper := by
  have hread {e} (he : e ∈ m.transitions.entries) {q} (hq : q ∈ e.2) :
      ∃ t ∈ readTransitions contents, t.source = e.1.1 ∧ t.symbol = e.1.2 ∧ q ∈ t.targets :=
    (mem_targets_ofContents h).mp (mem_targets_iff.mpr ⟨e.2, OrderedMap.mem_entries_iff.mp he, hq⟩)
  rw [automaton_ofContents] at h
  obtain ⟨first, hfirst, hm⟩ := Option.map_eq_some_iff.mp h
  obtain ⟨hstates, halphabet, hstart, haccept⟩ :=
    hm ▸ addTransitions_frame (bare contents first) (readTransitions contents)
  have htarget : ∀ e ∈ m.transitions.entries, ∃ t, t ∈ e.2 :=
    hm ▸ exists_target_addTransitions fun _ he => nomatch he
  have hmention {t s} (ht : t ∈ readTransitions contents) (hs : s ∈ t.source :: t.targets) : s ∈ m.states :=
    hstates ▸ mem_mentionedStates_iff.mpr (Or.inr (Or.inr (Or.inr ⟨t, ht, hs⟩)))
  exact {
    start_mem := by
      rw [hstates, hstart]
      change (names contents .start).head?.getD first ∈ mentionedStates contents
      cases hnames : names contents .start with
      | nil => exact List.mem_of_mem_head? hfirst
      | cons s starts => exact mem_mentionedStates_iff.mpr (by simp [hnames])
    accept_mem := fun s hs => by
      rw [haccept] at hs
      exact hstates ▸ mem_mentionedStates_iff.mpr (Or.inr (Or.inr (Or.inl (NameSet.mem_ofList.mp hs))))
    transition := fun e he => by
      obtain ⟨q, hq⟩ := htarget e he
      obtain ⟨t, ht, hsource, -, -⟩ := hread he hq
      refine ⟨hsource ▸ hmention ht List.mem_cons_self, fun q hq => ?_⟩
      obtain ⟨t, ht, -, -, hq⟩ := hread he hq
      exact hmention ht (List.mem_cons_of_mem _ hq)
    symbol_mem := fun e he => by
      obtain ⟨q, hq⟩ := htarget e he
      obtain ⟨t, ht, -, hsymbol, -⟩ := hread he hq
      refine or_iff_not_imp_left.mpr fun hε => ?_
      exact halphabet ▸ mem_mentionedSymbols_iff.mpr (Or.inr ⟨hε, t, ht, hsymbol⟩)
    exists_target := htarget
    not_isEpsilon := fun a ha => by
      have hε := (of_mem_mentionedSymbols (halphabet ▸ ha)).2
      exact ⟨fun h => absurd (h ▸ hε) (by decide), hε⟩
    nodup_states := hstates ▸ nodup_eraseDups _
    nodup_alphabet := halphabet ▸ nodup_eraseDups _
    isName_state := fun s hs => isName_of_mem_mentionedStates (hstates ▸ hs)
    isName_symbol := fun a ha => (of_mem_mentionedSymbols (halphabet ▸ ha)).1 }

/-- What was skipped are the lines in front of the first label, and then the entries that write no transition. -/
theorem skipped_ofContents (lines : List (List Char)) : (ofContents (underHeadings none lines)).skipped =
    ((lines.takeWhile fun line => (heading? line).isNone) ++
      (transitionTexts (underHeadings none lines)).filter fun entry => ¬ Legible entry).map String.ofList := by
  have hmalformed : (fun entry => (transition? entry).isNone) = fun entry => decide (¬ Legible entry) :=
    funext fun entry => by
      rw [Bool.eq_iff_iff, Option.isNone_iff_eq_none, transition?_eq_none_iff, decide_eq_true_eq]
  rw [← map_snd_filter_underHeadings, ← hmalformed]
  rfl

theorem eq_ofContents_of_read {r : AutomatonReading} (h : read text = .ok r) :
    r = ofContents (underHeadings none (Text.lines text.toList)) := by
  unfold read at h
  dsimp only at h
  split at h
  · cases h
  · exact (Except.ok.inj h).symm

/-- What is read from a text is well-formed; its transitions are those that the entries of the transition
sections write, and the other entries are skipped, after the lines in front of the first label. -/
theorem proper_of_read (h : read text = .ok ⟨some m, skipped⟩) :
    m.Proper ∧ (∀ p a q, q ∈ m.targets p a ↔ WritesStep (Text.lines text.toList) p a q) ∧
      skipped = (((Text.lines text.toList).takeWhile fun line => (heading? line).isNone) ++
        (transitionTexts (underHeadings none (Text.lines text.toList))).filter fun entry =>
          ¬ Legible entry).map String.ofList := by
  have hread := eq_ofContents_of_read h
  have hm : (ofContents (underHeadings none (Text.lines text.toList))).automaton = some m := by rw [← hread]
  refine ⟨proper_ofContents hm, fun p a q => ?_, ?_⟩
  · rw [mem_targets_ofContents hm, exists_mem_readTransitions_iff]
  · rw [← skipped_ofContents, ← hread]

/-- A description in pieces: transitions before anything else and then once more, no list of states, and
what cannot be read in three places. -/
def inPieces : String :=
  "two states\nTransitions: p, a → q, r; p, a\nACCEPT : r\nStart: s, p\ntransitions:\nq, Epsilon->p; ; q, b, c->p"

/-- What `inPieces` describes. -/
def inPiecesAutomaton : Automaton where
  states := ["s", "r", "p", "q"]
  alphabet := ["a"]
  start := "s"
  accept := .singleton "r"
  transitions := .ofList [(("p", "a"), .ofList ["q", "r"]), (("q", "ε"), .singleton "p")]

theorem inPieces_proper : read inPieces = .ok ⟨some inPiecesAutomaton, ["two states", "p, a", "q, b, c->p"]⟩ ∧
    inPiecesAutomaton.Proper ∧ (∀ p a q, q ∈ inPiecesAutomaton.targets p a ↔
      WritesStep (Text.lines inPieces.toList) p a q) ∧
    ["two states", "p, a", "q, b, c->p"] =
      (((Text.lines inPieces.toList).takeWhile fun line => (heading? line).isNone) ++
        (transitionTexts (underHeadings none (Text.lines inPieces.toList))).filter fun entry =>
          ¬ Legible entry).map String.ofList := by
  have hread : read inPieces = .ok ⟨some inPiecesAutomaton, ["two states", "p, a", "q, b, c->p"]⟩ := by
    decide +kernel
  exact ⟨hread, proper_of_read hread⟩

/-- What `parse` gives is well-formed. -/
theorem of_parse (h : parse text = .ok m) : m.Proper := by
  unfold parse at h
  cases hread : read text with
  | error e => simp [hread, bind, Except.bind] at h
  | ok r =>
    have hm : r.automaton = some m := by
      cases hm : r.automaton with
      | none => simp [hread, hm, bind, Except.bind, throw, throwThe, MonadExceptOf.throw] at h
      | some n => simpa [hread, hm, bind, pure, Except.bind, Except.pure] using h
    exact proper_ofContents (eq_ofContents_of_read hread ▸ hm)

/-- Names of states have no commas. -/
theorem comma_not_mem_of_parse (h : parse text = .ok m) (hs : s ∈ m.states) : ',' ∉ s.toList :=
  ((of_parse h).isName_state s hs).2

/-- `ε` is no input symbol. -/
theorem epsilon_not_mem_of_parse (h : parse text = .ok m) : epsilon ∉ m.alphabet := fun hε =>
  ((of_parse h).not_isEpsilon epsilon hε).1 rfl

end Automaton

end FormalLanguages
