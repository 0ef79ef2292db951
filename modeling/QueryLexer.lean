import QueryLexer.Expression.Basic
import QueryLexer.Main
import QueryLexer.Proofs.Lossless
import QueryLexer.Proofs.Acceptance
import QueryLexer.Proofs.Printing
import QueryLexer.Proofs.ListMachine
import QueryLexer.Proofs.Blanks
import QueryLexer.Proofs.LineEnds
import QueryLexer.Proofs.Lookahead
import QueryLexer.Proofs.Insertion
import QueryLexer.Proofs.LetterCase
import QueryLexer.Proofs.Coherence
import QueryLexer.Proofs.FlatCursor
import QueryLexer.Proofs.Agreement
import QueryLexer.Proofs.Text.Numerals
import QueryLexer.Proofs.Vocabulary
import QueryLexer.Proofs.Words
import QueryLexer.Proofs.Operators
import QueryLexer.Proofs.Priority
import QueryLexer.Proofs.Listings
import QueryLexer.Proofs.Spans
import QueryLexer.Proofs.Checking
import QueryLexer.Proofs.Classification
import QueryLexer.Proofs.Literals
import QueryLexer.Proofs.Readability
import QueryLexer.Proofs.Locations
