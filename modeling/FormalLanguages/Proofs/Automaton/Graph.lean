import FormalLanguages.Proofs.Automaton.Description
import FormalLanguages.Proofs.Text.DotLanguage
/-!
# The graph of an automaton

The graph has a node for each state, with a double circle around accepting states, and a point that leads to the
start. States that some transition joins have one edge between them in each direction, with all symbols of these
transitions. What is written is read back as this graph, unless a name that is written between quotes ends with a
backslash. The point has a bare name, and states have quoted ones; where quotes make no difference, a state may have
the name of the point.

Results:
* `OrderedMap.keys_collect`, `OrderedMap.getD_collect`: the values of each key, collected.
* `entries_edges`: the transitions, collected by the states that they join.
* `nodup_and_mem_of_mem_edges`: edges lose no symbol and repeat none.
* `readsAs_toDot`: what the text of the graph is read as, and when.
* `isDepictedBy_graph`: what the graph says.
* `read_toDot_iff`: the graphs that are read back.
-/
namespace FormalLanguages

namespace OrderedMap

variable {κ α : Type} [DecidableEq κ]

/-- The keys with all their values in lists. -/
def collect (es : List (κ × α)) : OrderedMap κ (List α) :=
  es.foldl (fun m e => m.alter e.1 [] (· ++ [e.2])) ∅

theorem collect_append_singleton (es : List (κ × α)) (e : κ × α) :
    collect (es ++ [e]) = (collect es).alter e.1 [] (· ++ [e.2]) := by
  rw [collect, List.foldl_append]
  rfl

/-- The keys, in the order in which they first occur. -/
theorem keys_collect [BEq κ] [LawfulBEq κ] (es : List (κ × α)) :
    (collect es).keys = (es.map Prod.fst).eraseDups := by
  induction es using List.reverseRecOn with
  | nil => rfl
  | append_singleton es e ih =>
    rw [collect_append_singleton, alter, keys_insert, ih, List.map_append, List.map_singleton,
      eraseDups_append_singleton]
    simp only [List.mem_eraseDups]

/-- The values of a key, in order. -/
theorem getD_collect (es : List (κ × α)) (k : κ) :
    (collect es).getD k [] = (es.filter (·.1 = k)).map Prod.snd := by
  induction es using List.reverseRecOn with
  | nil => rfl
  | append_singleton es e ih =>
    rw [collect_append_singleton, getD_alter, List.filter_append, List.map_append, ← ih]
    by_cases hk : k = e.1
    · subst hk
      simp
    · simp [hk, Ne.symm hk]

end OrderedMap

theorem NameSet.filter_eq (T : NameSet) (t : String) :
    T.toList.filter (fun u => u = t) = if t ∈ T then [t] else [] := by
  have hnodup : T.toList.Nodup := T.ascending.imp fun h => String.ne_of_lt h
  rw [List.filter_eq, hnodup.count]
  simp only [NameSet.mem_def]
  split <;> rfl

namespace Automaton

open Dot

/-- The transitions target by target: the two states that are joined, and the symbol. -/
def moves (m : Automaton) : List ((State × State) × Symbol) :=
  m.transitions.entries.flatMap fun e => e.2.toList.map fun t => ((e.1.1, t), e.1.2)

/-- The pairs of states that some transition joins. -/
def joinedPairs (m : Automaton) : List (State × State) := (m.moves.map Prod.fst).eraseDups

/-- The symbols on which `p` leads to `q`, in the order of the transitions. -/
def symbolsBetween (m : Automaton) (p q : State) : List Symbol :=
  (m.transitions.entries.filter fun e => e.1.1 = p ∧ q ∈ e.2).map (·.1.2)

/-- The label of the edge from `p` to `q`. -/
def edgeLabel (m : Automaton) (p q : State) : String := ",".intercalate (m.symbolsBetween p q)

/-- The statement of a state, as it should be read. -/
def nodeStatement (m : Automaton) (s : State) : Statement :=
  .node (.quoted s) [(.bare "shape", .bare (if s ∈ m.accept then "doublecircle" else "circle")),
    (.bare "label", .quoted s)]

/-- The statement of an edge, as it should be read. -/
def edgeStatement (m : Automaton) (p q : State) : Statement :=
  .edge (.quoted p) (.quoted q) [(.bare "label", .quoted (m.edgeLabel p q))]

/-- The statements that all graphs begin with, the last one about the point that leads to the start. -/
def preamble : List Statement :=
  [.setting (.bare "rankdir") (.bare "LR"),
   .node (.bare "node") [(.bare "shape", .bare "circle"), (.bare "fontname", .quoted "Courier")],
   .node (.bare "__start") [(.bare "shape", .bare "point"), (.bare "label", .quoted "")]]

/-- The graph of an automaton, as it should be read. -/
def graph (m : Automaton) (name : String) : Graph where
  name := .quoted name
  statements := preamble ++ m.states.map m.nodeStatement ++
    [.edge (.bare "__start") (.quoted m.start) []] ++ m.joinedPairs.map fun e => m.edgeStatement e.1 e.2

/-- No name that is written between quotes ends with a backslash. -/
structure Quotable (m : Automaton) (name : String) : Prop where
  name : EndsPlain name
  state : ∀ s ∈ m.states, EndsPlain s
  label : ∀ p q, (∃ a, q ∈ m.targets p a) → EndsPlain (m.edgeLabel p q)

variable {m : Automaton} {p q s : State} {a : Symbol} {name text : String}

/-! ## Edges -/

theorem mem_symbolsBetween_iff : a ∈ m.symbolsBetween p q ↔ q ∈ m.targets p a := by
  rw [mem_targets_iff]
  simp only [symbolsBetween, List.mem_map, List.mem_filter, decide_eq_true_eq]
  constructor
  · rintro ⟨⟨⟨p, a⟩, T⟩, ⟨he, rfl, hq⟩, rfl⟩
    exact ⟨T, OrderedMap.mem_entries_iff.mp he, hq⟩
  · rintro ⟨T, hT, hq⟩
    exact ⟨((p, a), T), ⟨OrderedMap.mem_entries_iff.mpr hT, rfl, hq⟩, rfl⟩

/-- The moves from one state to another have the symbols between them, each once, as no target comes twice. -/
theorem map_snd_filter_moves (m : Automaton) (p q : State) :
    (m.moves.filter (·.1 = (p, q))).map Prod.snd = m.symbolsBetween p q := by
  have hentry (e : (State × Symbol) × NameSet) :
      ((e.2.toList.map fun t => ((e.1.1, t), e.1.2)).filter (·.1 = (p, q))).map Prod.snd =
        if e.1.1 = p ∧ q ∈ e.2 then [e.1.2] else [] := by
    rw [List.filter_map, List.map_map]
    by_cases hp : e.1.1 = p
    · have hfilter := NameSet.filter_eq e.2 q
      simp only [Function.comp_def, hp, Prod.mk.injEq, true_and, hfilter]
      split <;> rfl
    · simp [Function.comp_def, hp]
  rw [moves, symbolsBetween, List.filter_flatMap, List.map_flatMap]
  simp only [hentry]
  induction m.transitions.entries with
  | nil => rfl
  | cons e es ih =>
    rw [List.flatMap_cons, ih, List.filter_cons]
    by_cases he : e.1.1 = p ∧ q ∈ e.2 <;> simp [he]

theorem mem_joinedPairs_iff : (p, q) ∈ m.joinedPairs ↔ ∃ a, q ∈ m.targets p a := by
  simp only [← mem_symbolsBetween_iff, ← map_snd_filter_moves]
  simp [joinedPairs]

/-- The edges are the pairs of states that some transition joins, with the symbols between them. -/
theorem entries_edges (m : Automaton) :
    m.edges.entries = m.joinedPairs.map fun e => (e, m.symbolsBetween e.1 e.2) := by
  have hedges : m.edges = OrderedMap.collect m.moves := rfl
  have hpairs : (m.moves.map Prod.fst).eraseDups = m.joinedPairs := rfl
  rw [hedges, OrderedMap.entries_eq _ [], OrderedMap.keys_collect, hpairs]
  refine List.map_congr_left fun e _ => ?_
  rw [OrderedMap.getD_collect, map_snd_filter_moves]

theorem nodup_symbolsBetween (m : Automaton) (p q : State) : (m.symbolsBetween p q).Nodup := by
  have hentries : m.transitions.entries.Nodup := .of_map _ m.transitions.distinct
  refine (hentries.filter _).map_on fun e he e' he' ha => ?_
  obtain ⟨he, hp⟩ := List.mem_filter.mp he
  obtain ⟨he', hp'⟩ := List.mem_filter.mp he'
  have hkey : e.1 = e'.1 :=
    Prod.ext ((of_decide_eq_true hp).1.trans (of_decide_eq_true hp').1.symm) ha
  exact List.inj_on_of_nodup_map m.transitions.distinct he he' hkey

/-- An edge has the symbols on which its tail leads to its head, none of them twice. -/
theorem nodup_and_mem_of_mem_edges {as : List Symbol} (h : ((p, q), as) ∈ m.edges.entries) :
    as.Nodup ∧ ∀ a, a ∈ as ↔ q ∈ m.targets p a := by
  rw [entries_edges] at h
  obtain ⟨e, -, he⟩ := List.mem_map.mp h
  cases he
  exact ⟨m.nodup_symbolsBetween p q, fun a => mem_symbolsBetween_iff⟩

/-! ## What is written -/

/-- A line with a statement. -/
theorem readsAs_line {cs : List Char} {ts : List Token} {P : Prop} (h : ReadsAs cs ts P) :
    ReadsAs ("  ".toList ++ (cs ++ ";\n".toList)) (ts ++ [.mark ';']) P := by
  have hindent : ReadsAs "  ".toList [] True := .always fun _ => rfl
  have hend : ReadsAs ";\n".toList [.mark ';'] True := .always fun _ => rfl
  exact (hindent.append (h.append hend)).congr (by simp)

theorem readsAs_dotNode (m : Automaton) (s : State) :
    ReadsAs ((m.dotNode s).toList ++ ['\n']) ((m.nodeStatement s).tokens ++ [.mark ';']) (EndsPlain s) := by
  have hshape (shape : String) (h : shape = "doublecircle" ∨ shape = "circle") :
      ReadsAs (" [shape=" ++ shape ++ ", label=").toList [.mark '[', .name (.bare "shape"), .mark '=',
        .name (.bare shape), .mark ',', .name (.bare "label"), .mark '='] True := by
    rcases h with rfl | rfl <;> exact .always fun _ => rfl
  have hbracket : ReadsAs "]".toList [.mark ']'] True := .always fun _ => rfl
  have hname := readsAs_dotString s
  have h := readsAs_line <| hname.append <|
    (hshape (if s ∈ m.accept then "doublecircle" else "circle") (by split <;> simp)).append <|
      hname.append hbracket
  have h := h.congr (Q := EndsPlain s) (by simp)
  simpa [dotNode, nodeStatement, Statement.tokens, attributeTokens, pairTokens] using h

theorem readsAs_dotEdge (m : Automaton) (p q : State) :
    ReadsAs ((dotEdge ((p, q), m.symbolsBetween p q)).toList ++ ['\n'])
      ((m.edgeStatement p q).tokens ++ [.mark ';'])
      (EndsPlain p ∧ EndsPlain q ∧ EndsPlain (m.edgeLabel p q)) := by
  have harrow : ReadsAs " -> ".toList [.mark '-', .mark '>'] True := .always fun _ => rfl
  have hlabel : ReadsAs " [label=".toList [.mark '[', .name (.bare "label"), .mark '='] True := .always fun _ => rfl
  have hbracket : ReadsAs "]".toList [.mark ']'] True := .always fun _ => rfl
  have h := readsAs_line <| (readsAs_dotString p).append <| harrow.append <| (readsAs_dotString q).append <|
    hlabel.append <| (readsAs_dotString (m.edgeLabel p q)).append hbracket
  have h := h.congr (Q := EndsPlain p ∧ EndsPlain q ∧ EndsPlain (m.edgeLabel p q)) (by simp)
  simpa [dotEdge, edgeStatement, edgeLabel, Statement.tokens, attributeTokens, pairTokens] using h

theorem readsAs_preamble :
    ReadsAs ("  rankdir=LR;\n".toList ++ ("  node [shape=circle, fontname=\"Courier\"];\n".toList ++
      "  __start [shape=point, label=\"\"];\n".toList))
      (preamble.flatMap fun s => s.tokens ++ [.mark ';']) True := by
  have hsetting : ReadsAs "  rankdir=LR;\n".toList
      ((Statement.setting (.bare "rankdir") (.bare "LR")).tokens ++ [.mark ';']) True := .always fun _ => rfl
  have hall : ReadsAs "  node [shape=circle, fontname=\"Courier\"];\n".toList
      ((Statement.node (.bare "node") [(.bare "shape", .bare "circle"),
        (.bare "fontname", .quoted "Courier")]).tokens ++ [.mark ';']) True := .always fun _ => rfl
  have hpoint : ReadsAs "  __start [shape=point, label=\"\"];\n".toList
      ((Statement.node (.bare "__start") [(.bare "shape", .bare "point"),
        (.bare "label", .quoted "")]).tokens ++ [.mark ';']) True := .always fun _ => rfl
  exact (hsetting.append (hall.append hpoint)).congr (by simp)

/-- What the text of the graph is read as, and when. -/
theorem readsAs_toDot (m : Automaton) (name : String) :
    ReadsAs (m.toDot name).toList (m.graph name).tokens
      (EndsPlain name ∧ (∀ s ∈ m.states, EndsPlain s) ∧ EndsPlain m.start ∧
        ∀ e ∈ m.joinedPairs, EndsPlain e.1 ∧ EndsPlain e.2 ∧ EndsPlain (m.edgeLabel e.1 e.2)) := by
  have hdigraph : ReadsAs "digraph ".toList [.name (.bare "digraph")] True := .always fun _ => rfl
  have hopen : ReadsAs " \x7b\n".toList [.mark '\x7b'] True := .always fun _ => rfl
  have hclose : ReadsAs "\x7d".toList [.mark '\x7d'] True := .always fun _ => rfl
  have hnodes : ReadsAs (m.states.flatMap fun s => (m.dotNode s).toList ++ ['\n'])
      (m.states.flatMap fun s => (m.nodeStatement s).tokens ++ [.mark ';']) (∀ s ∈ m.states, EndsPlain s) :=
    .flatMap fun s _ => readsAs_dotNode m s
  have harrow : ReadsAs "__start -> ".toList [.name (.bare "__start"), .mark '-', .mark '>'] True :=
    .always fun _ => rfl
  have hstart := readsAs_line (harrow.append (readsAs_dotString m.start))
  have hedges : ReadsAs
      (m.joinedPairs.flatMap fun e => (dotEdge (e, m.symbolsBetween e.1 e.2)).toList ++ ['\n'])
      (m.joinedPairs.flatMap fun e => (m.edgeStatement e.1 e.2).tokens ++ [.mark ';'])
      (∀ e ∈ m.joinedPairs, EndsPlain e.1 ∧ EndsPlain e.2 ∧ EndsPlain (m.edgeLabel e.1 e.2)) :=
    .flatMap fun e _ => readsAs_dotEdge m e.1 e.2
  have h := hdigraph.append <| (readsAs_dotString name).append <| hopen.append <| readsAs_preamble.append <|
    hnodes.append <| hstart.append <| hedges.append hclose
  have h := h.congr (Q := EndsPlain name ∧ (∀ s ∈ m.states, EndsPlain s) ∧ EndsPlain m.start ∧
    ∀ e ∈ m.joinedPairs, EndsPlain e.1 ∧ EndsPlain e.2 ∧ EndsPlain (m.edgeLabel e.1 e.2)) (by simp)
  convert h using 1
  · -- each line but the last one ends with a line feed
    rw [toDot, String.toList_intercalate, List.map_append, List.map_singleton, intercalate_append_singleton,
      entries_edges]
    simp [List.flatMap_map]
  · simp [Graph.tokens, graph, List.flatMap_map, Statement.tokens, attributeTokens]

/-! ## What the graph says -/

/-- A graph of the automaton: one node for each state, with a double circle around accepting states, one edge from
the point, which leads to the start, and one edge for each pair of states that some transition joins, with the
symbols between them. -/
structure IsDepictedBy (m : Automaton) (name : String) (g : Graph) : Prop where
  name_eq : g.name = .quoted name
  nodup_nodes : (g.nodes.map Prod.fst).Nodup
  node_iff : ∀ s, .quoted s ∈ g.nodes.map Prod.fst ↔ s ∈ m.states
  node_attributes : ∀ s attributes, (.quoted s, attributes) ∈ g.nodes →
    attributes = [(.bare "shape", .bare (if s ∈ m.accept then "doublecircle" else "circle")),
      (.bare "label", .quoted s)]
  start_edges : (g.edges.filter fun e => e.1.1 = .bare "__start") = [((.bare "__start", .quoted m.start), [])]
  nodup_edges : (g.edges.map Prod.fst).Nodup
  edge_iff : ∀ p q, (.quoted p, .quoted q) ∈ g.edges.map Prod.fst ↔ ∃ a, q ∈ m.targets p a
  edge_attributes : ∀ p q attributes, ((.quoted p, .quoted q), attributes) ∈ g.edges →
    attributes = [(.bare "label", .quoted (m.edgeLabel p q))]

theorem nodes_graph (m : Automaton) (name : String) : (m.graph name).nodes =
    [(.bare "node", [(.bare "shape", .bare "circle"), (.bare "fontname", .quoted "Courier")]),
      (.bare "__start", [(.bare "shape", .bare "point"), (.bare "label", .quoted "")])] ++
    m.states.map fun s => (.quoted s, [(.bare "shape", .bare (if s ∈ m.accept then "doublecircle" else "circle")),
      (.bare "label", .quoted s)]) := by
  simp [Graph.nodes, graph, preamble, nodeStatement, edgeStatement, List.filterMap_map, Function.comp_def]

theorem edges_graph (m : Automaton) (name : String) : (m.graph name).edges =
    ((.bare "__start", .quoted m.start), []) :: m.joinedPairs.map fun e =>
      ((.quoted e.1, .quoted e.2), [(.bare "label", .quoted (m.edgeLabel e.1 e.2))]) := by
  simp [Graph.edges, graph, preamble, nodeStatement, edgeStatement, List.filterMap_map, Function.comp_def]

/-- What the graph says. -/
theorem isDepictedBy_graph (hm : m.states.Nodup) (name : String) : m.IsDepictedBy name (m.graph name) where
  name_eq := rfl
  nodup_nodes := by
    have hnames : (m.graph name).nodes.map Prod.fst = .bare "node" :: .bare "__start" :: m.states.map .quoted := by
      simp [nodes_graph, Function.comp_def]
    have hquoted : (m.states.map Name.quoted).Nodup := hm.map fun _ _ => Name.quoted.inj
    simp [hnames, hquoted]
  node_iff s := by simp [nodes_graph]
  node_attributes s attributes h := by
    rw [nodes_graph] at h
    simp only [List.cons_append, List.nil_append, List.mem_cons, List.mem_map] at h
    rcases h with h | h | ⟨t, -, h⟩ <;> cases h
    rfl
  start_edges := by
    rw [edges_graph, List.filter_cons_of_pos (by simp), List.filter_eq_nil_iff.mpr]
    intro e he
    obtain ⟨pair, -, rfl⟩ := List.mem_map.mp he
    simp
  nodup_edges := by
    have hends : (m.graph name).edges.map Prod.fst =
        (.bare "__start", .quoted m.start) :: m.joinedPairs.map fun e => (.quoted e.1, .quoted e.2) := by
      simp [edges_graph, Function.comp_def]
    have hpairs : (m.joinedPairs.map fun e => (Name.quoted e.1, Name.quoted e.2)).Nodup :=
      (nodup_eraseDups _).map fun e e' he => by
        obtain ⟨h1, h2⟩ := Prod.mk.inj he
        exact Prod.ext (Name.quoted.inj h1) (Name.quoted.inj h2)
    simp [hends, hpairs]
  edge_iff p q := by simp [edges_graph, mem_joinedPairs_iff]
  edge_attributes p q attributes h := by
    rw [edges_graph] at h
    simp only [List.mem_cons, List.mem_map] at h
    rcases h with h | ⟨e, -, h⟩ <;> cases h
    rfl

/-- With quotes left aside each node is stated once, unless a state has the name of the point. -/
theorem nodup_ids_graph_iff (hm : m.states.Nodup) (name : String) :
    ((m.graph name).nodes.filterMap (·.1.id?)).Nodup ↔ "__start" ∉ m.states := by
  have hids : (m.graph name).nodes.filterMap (·.1.id?) = "__start" :: m.states := by
    simp [nodes_graph, Name.id?, List.filterMap_map]
  rw [hids, List.nodup_cons, and_iff_left hm]

/-! ## What is read back -/

/-- The ends of edges are states, so nothing need be asked of them. -/
theorem quotable_iff (hm : m.Declared) : m.Quotable name ↔
    EndsPlain name ∧ (∀ s ∈ m.states, EndsPlain s) ∧ EndsPlain m.start ∧
      ∀ e ∈ m.joinedPairs, EndsPlain e.1 ∧ EndsPlain e.2 ∧ EndsPlain (m.edgeLabel e.1 e.2) := by
  constructor
  · rintro ⟨hname, hstate, hlabel⟩
    refine ⟨hname, hstate, hstate _ hm.start_mem, fun ⟨p, q⟩ he => ?_⟩
    obtain ⟨a, hq⟩ := mem_joinedPairs_iff.mp he
    obtain ⟨T, hT, hqT⟩ := mem_targets_iff.mp hq
    obtain ⟨hp, hT⟩ := hm.transition _ (OrderedMap.mem_entries_iff.mpr hT)
    exact ⟨hstate p hp, hstate q (hT q hqT), hlabel p q ⟨a, hq⟩⟩
  · rintro ⟨hname, hstate, -, hedge⟩
    exact ⟨hname, hstate, fun p q h => (hedge (p, q) (mem_joinedPairs_iff.mpr h)).2.2⟩

/-- The text of the graph of an automaton that was read is read back just if no name that is written between quotes
ends with a backslash; what is read back then depicts the automaton. Each node is stated once even with quotes left
aside, unless a state has the name of the point. -/
theorem read_toDot_iff (h : parse text = .ok m) (name : String) :
    (Dot.read (m.toDot name) = some (m.graph name) ↔ m.Quotable name) ∧ m.IsDepictedBy name (m.graph name) ∧
      (((m.graph name).nodes.filterMap (·.1.id?)).Nodup ↔ "__start" ∉ m.states) := by
  have hm := of_parse h
  refine ⟨?_, isDepictedBy_graph hm.nodup_states name, nodup_ids_graph_iff hm.nodup_states name⟩
  rw [read_eq_some_iff, (readsAs_toDot m name).tokens_eq_iff, quotable_iff hm.toDeclared]

/-- A description with double quotes and backslashes in names, at any place but the end. -/
def scribbled : String :=
  "States: \\\"q, \"\nAccept: \"\nTransitions: \\\"q, \\ -> \"; \\\"q, \"-> \", \\\"q; \\\"q, a -> \""

/-- What `scribbled` describes. -/
def scribbledAutomaton : Automaton where
  states := ["\\\"q", "\""]
  alphabet := ["\\", "\"", "a"]
  start := "\\\"q"
  accept := .singleton "\""
  transitions := .ofList [(("\\\"q", "\\"), .singleton "\""), (("\\\"q", "\""), .ofList ["\"", "\\\"q"]),
    (("\\\"q", "a"), .singleton "\"")]

theorem scribbled_read_toDot : parse scribbled = .ok scribbledAutomaton ∧
    scribbledAutomaton.edgeLabel "\\\"q" "\"" = "\\,\",a" ∧
    scribbledAutomaton.Quotable "\\\"" ∧
    (Dot.read (scribbledAutomaton.toDot "\\\"") = some (scribbledAutomaton.graph "\\\"") ↔
      scribbledAutomaton.Quotable "\\\"") ∧
    scribbledAutomaton.IsDepictedBy "\\\"" (scribbledAutomaton.graph "\\\"") ∧
    (((scribbledAutomaton.graph "\\\"").nodes.filterMap (·.1.id?)).Nodup ↔
      "__start" ∉ scribbledAutomaton.states) := by
  have hparse : parse scribbled = .ok scribbledAutomaton := by decide +kernel
  have hquotable : scribbledAutomaton.Quotable "\\\"" :=
    (quotable_iff (of_parse hparse).toDeclared).mpr (by decide +kernel)
  exact ⟨hparse, by decide +kernel, hquotable, read_toDot_iff hparse "\\\""⟩

/-- An automaton with one state, whose name ends with a backslash. -/
def backslashed : Automaton where
  states := ["q\\"]
  alphabet := []
  start := "q\\"

/-- The backslash takes the closing quote into the name, and no graph is left to read. -/
theorem backslashed_not_read : parse "States: q\\" = .ok backslashed ∧
    ¬ ∃ g, Dot.read (backslashed.toDot "AF") = some g ∧ backslashed.IsDepictedBy "AF" g := by
  have hread : Dot.read (backslashed.toDot "AF") = none := by
    have hedges : backslashed.edges.entries = [] := rfl
    -- the characters are spelled out first, as strings are slow to evaluate
    rw [Dot.read, toDot, String.toList_intercalate, hedges]
    simp only [backslashed, List.map_cons, List.map_nil, List.map_append, dotNode, dotString,
      String.toList_append, String.reduceToList]
    decide +kernel
  refine ⟨by decide +kernel, ?_⟩
  rintro ⟨g, hg, -⟩
  rw [hread] at hg
  cases hg

end Automaton

end FormalLanguages
