import ChainLexer.Grammar.Rule
import ChainLexer.Grammar.Standard
import ChainLexer.Grammar.Table
import ChainLexer.Journal
import ChainLexer.Proofs.Literals
import ChainLexer.Proofs.CharClass
import ChainLexer.Proofs.Lexemes
import ChainLexer.Proofs.Trivia
import ChainLexer.Proofs.Derivation
import ChainLexer.Proofs.Tiling
import ChainLexer.Proofs.History
import ChainLexer.Proofs.Rendering
import ChainLexer.Proofs.Segmentation
import ChainLexer.Proofs.Qualifier
import ChainLexer.Proofs.Locality
import ChainLexer.Proofs.FirstFault
import ChainLexer.Proofs.Lines
import ChainLexer.Proofs.Agreement
import ChainLexer.Proofs.Alike
import ChainLexer.Proofs.Escapes
import ChainLexer.Proofs.Standard
import ChainLexer.Proofs.Places
import ChainLexer.Proofs.Faults
import ChainLexer.Proofs.MaximalMunch
import ChainLexer.Proofs.Termination
import ChainLexer.Proofs.Arrivals
import ChainLexer.Proofs.Dispatch
import ChainLexer.Proofs.Encodings
import ChainLexer.Proofs.ClosingQuote
import ChainLexer.Proofs.NumberLiterals
import ChainLexer.Proofs.LineFeeds
import ChainLexer.Proofs.TriviaAlone
import ChainLexer.Proofs.Comments
import ChainLexer.Proofs.PositionOrder
import ChainLexer.Proofs.ByteCursor
import ChainLexer.Proofs.Zipper
import ChainLexer.Proofs.Chains
import ChainLexer.Proofs.Registrations
import ChainLexer.Proofs.Tables
import ChainLexer.Proofs.Insertions
import ChainLexer.Proofs.Containment
import ChainLexer.Proofs.Slices
import ChainLexer.Proofs.Display
