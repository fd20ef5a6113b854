import FormalLanguages.Page.Session
import FormalLanguages.Grammar.Editing
import FormalLanguages.Automaton.Editing
import FormalLanguages.Proofs.Grammar.PredictiveParser
import FormalLanguages.Proofs.Grammar.EliminationTermination
import FormalLanguages.Proofs.Grammar.FactoringRun
import FormalLanguages.Proofs.Grammar.LeftDerivation
import FormalLanguages.Proofs.Grammar.FactoringAnalyses
import FormalLanguages.Proofs.Grammar.Inlining
import FormalLanguages.Proofs.Grammar.Preparation
import FormalLanguages.Proofs.Automaton.Subset
import FormalLanguages.Proofs.Automaton.Run
import FormalLanguages.Proofs.Automaton.Trim
import FormalLanguages.Proofs.Automaton.Partition
import FormalLanguages.Proofs.Automaton.Quotient
import FormalLanguages.Proofs.Automaton.Minimal
import FormalLanguages.Proofs.Automaton.Completion
import FormalLanguages.Proofs.Automaton.MinimalSubset
import FormalLanguages.Proofs.Automaton.Reduced
import FormalLanguages.Proofs.Automaton.Description
import FormalLanguages.Proofs.Automaton.Fewest
import FormalLanguages.Proofs.Grammar.TableCells
import FormalLanguages.Proofs.Grammar.Reordering
import FormalLanguages.Proofs.Grammar.Diagnosis
import FormalLanguages.Proofs.Grammar.EliminationIdempotence
import FormalLanguages.Proofs.Grammar.Passes
import FormalLanguages.Proofs.Grammar.FirstSets
import FormalLanguages.Proofs.Grammar.FollowSets
import FormalLanguages.Proofs.Grammar.Splitting
import FormalLanguages.Proofs.Grammar.EliminationProductive
import FormalLanguages.Proofs.Grammar.ForwardHeads
import FormalLanguages.Proofs.Grammar.HiddenRecursion
import FormalLanguages.Proofs.Grammar.VanishingRecursion
import FormalLanguages.Proofs.Grammar.EliminationDivergence
import FormalLanguages.Proofs.Grammar.Rendering
import FormalLanguages.Proofs.Grammar.Rereading
import FormalLanguages.Proofs.Grammar.Outcome
import FormalLanguages.Proofs.Page.History
import FormalLanguages.Proofs.Automaton.DeadState
import FormalLanguages.Proofs.Automaton.Reordering
import FormalLanguages.Proofs.Automaton.MinimalIdempotence
import FormalLanguages.Proofs.Grammar.WellFormed
import FormalLanguages.Proofs.Grammar.Tokens
import FormalLanguages.Proofs.Grammar.Merging
import FormalLanguages.Proofs.Grammar.Spacing
import FormalLanguages.Proofs.Grammar.Vocabulary
import FormalLanguages.Proofs.Grammar.RereadingTransformed
import FormalLanguages.Proofs.Automaton.Closure
import FormalLanguages.Proofs.Automaton.Headings
import FormalLanguages.Proofs.Automaton.SectionBlocks
import FormalLanguages.Proofs.Automaton.Analysis
import FormalLanguages.Proofs.Text.DotLanguage
import FormalLanguages.Proofs.Automaton.Graph
import FormalLanguages.Proofs.FreshName
