import TextGrammar.Grammar.Parse
import TextGrammar.Pattern.Engine
import TextGrammar.Text.Excerpt
import TextGrammar.Proofs.Matching.Atomicity
import TextGrammar.Proofs.Matching.Finding
import TextGrammar.Proofs.Rules.Range
import TextGrammar.Proofs.Matching.Soundness
import TextGrammar.Proofs.Matching.Adequacy
import TextGrammar.Proofs.Matching.Record
import TextGrammar.Proofs.Replay.Cue
import TextGrammar.Proofs.Replay.Nesting
import TextGrammar.Proofs.Matching.Restriction
import TextGrammar.Proofs.Replay.Selection
import TextGrammar.Proofs.Matching.Watching
import TextGrammar.Proofs.Grammar.Binding
import TextGrammar.Proofs.Grammar.Calls
import TextGrammar.Proofs.Grammar.Independence
import TextGrammar.Proofs.Replay.Boundary
import TextGrammar.Proofs.Notation.Braces
import TextGrammar.Proofs.Notation.Derivation
import TextGrammar.Proofs.Notation.Reading
import TextGrammar.Proofs.Matching.Threshold
import TextGrammar.Proofs.Matching.Lockstep
import TextGrammar.Proofs.Matching.LeftRecursion
import TextGrammar.Proofs.Rules.Compilation
import TextGrammar.Proofs.Matching.Faultless
import TextGrammar.Proofs.Replay.Drawing
import TextGrammar.Proofs.Grammar.Agreement
import TextGrammar.Proofs.Scanning.Cutting
import TextGrammar.Proofs.Scanning.Draining
import TextGrammar.Proofs.Scanning.Session
import TextGrammar.Proofs.Matching.Relevance
import TextGrammar.Proofs.Rules.Reordering
import TextGrammar.Proofs.Matching.Renumbering
import TextGrammar.Proofs.Grammar.Ordering
import TextGrammar.Proofs.Matching.Counters
import TextGrammar.Proofs.Grammar.Hooking
import TextGrammar.Proofs.Matching.Shifting
import TextGrammar.Proofs.Matching.Unrolling
import TextGrammar.Proofs.Grammar.Dispatching
import TextGrammar.Proofs.Matching.Greed
import TextGrammar.Proofs.Matching.Regrouping
import TextGrammar.Proofs.Matching.Logbook
import TextGrammar.Proofs.Matching.Tracing
import TextGrammar.Proofs.Matching.Leftover
import TextGrammar.Proofs.Notation.Spelling
import TextGrammar.Proofs.Notation.Violations
import TextGrammar.Proofs.Replay.Bracketing
import TextGrammar.Proofs.Grammar.Outlining
import TextGrammar.Proofs.Scanning.Standstill
import TextGrammar.Proofs.Notation.Counts
import TextGrammar.Proofs.Notation.Spacing
import TextGrammar.Proofs.Rules.Rendering
import TextGrammar.Proofs.Notation.Canonical
