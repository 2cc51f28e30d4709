import Descent.Grammar.Leaves
import Descent.Grammar.Rules
import Descent.Session
import Descent.Settings
import Descent.Proofs.Correspondence.Basic
import Descent.Proofs.Correspondence.Combinators
import Descent.Proofs.Correspondence.Grammar
import Descent.Proofs.Correspondence.Symbols
import Descent.Proofs.Cursor.Buffer
import Descent.Proofs.Cursor.Text
import Descent.Proofs.TextAsTokens
import Descent.Proofs.Correspondence.Invariant
import Descent.Proofs.Session
import Descent.Proofs.Clones
import Descent.Proofs.TokensAsSlices
import Descent.Proofs.Brackets
import Descent.Proofs.OpenCount
import Descent.Proofs.Bounds
import Descent.Proofs.Grammar.Variation
import Descent.Proofs.Comparison.Basic
import Descent.Proofs.Comparison.Combinators
import Descent.Proofs.Comparison.Grammar
import Descent.Proofs.Unfolding
import Descent.Proofs.Comparison.Rules
import Descent.Proofs.Comparison.Symbols
import Descent.Proofs.SilentLimits
import Descent.Proofs.Labels
import Descent.Proofs.Lossless.Reading
import Descent.Proofs.Lossless.Grammar
import Descent.Proofs.Lossless.Parses
import Descent.Proofs.OpenLimit
import Descent.Proofs.Iterations
import Descent.Proofs.Forward
import Descent.Proofs.Ending
import Descent.Proofs.Attempts
import Descent.Proofs.UnreadInput
import Descent.Proofs.Congruence.Combinators
import Descent.Proofs.Grammar.Observers
import Descent.Proofs.Congruence.Grammar
import Descent.Proofs.Congruence.Symbols
import Descent.Proofs.Observers
import Descent.Proofs.Pulls
import Descent.Proofs.SharedBuffers
import Descent.Proofs.Repetitions
import Descent.Proofs.Conduct.Basic
import Descent.Proofs.Conduct.Combinators
import Descent.Proofs.Grammar.Consumption
import Descent.Proofs.Conduct.Grammar
import Descent.Proofs.Conduct.Symbols
import Descent.Proofs.LabelStacks
import Descent.Proofs.Conduct.Rules
import Descent.Proofs.Conduct.Guards
import Descent.Proofs.Consumption
import Descent.Proofs.Chains
import Descent.Proofs.Yields
import Descent.Proofs.TextReading
import Descent.Proofs.Numerals
import Descent.Proofs.NestedLists
import Descent.Proofs.Rounds
import Descent.Proofs.Separation
import Descent.Proofs.Absorption
import Descent.Proofs.CaseFolding
import Descent.Proofs.Reguarding
import Descent.Proofs.NestedChoices
import Descent.Proofs.LeftFactoring
import Descent.Proofs.Sequences
import Descent.Proofs.CursorContract
