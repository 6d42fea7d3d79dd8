import QueryPhrase.Main
import QueryPhrase.Recognizer.Cutter
import QueryPhrase.Proofs.Lexer.Reading
import QueryPhrase.Proofs.Lexer.Tiling
import QueryPhrase.Proofs.TermList.Run
import QueryPhrase.Proofs.TermList.Turns
import QueryPhrase.Proofs.TermList.Splice
import QueryPhrase.Proofs.TermList.Invariant
import QueryPhrase.Proofs.TermList.Sound
import QueryPhrase.Proofs.Term.Phrase
import QueryPhrase.Proofs.Lexer.Phrase
import QueryPhrase.Proofs.TermList.Phrase
import QueryPhrase.Proofs.Codec.Terms
import QueryPhrase.Proofs.TermList.Plain
import QueryPhrase.Proofs.Text.Count
import QueryPhrase.Proofs.Codec.RoundTrip
import QueryPhrase.Proofs.Request.Removal
import QueryPhrase.Proofs.Request.Validity
import QueryPhrase.Proofs.Recognizer.Triple
import QueryPhrase.Proofs.Lexer.Cut
import QueryPhrase.Proofs.Lexer.Form
import QueryPhrase.Proofs.TermList.Reread
import QueryPhrase.Proofs.Form
import QueryPhrase.Proofs.CommandLine.Terms
import QueryPhrase.Proofs.TermList.Identifiers
import QueryPhrase.Proofs.Lexer.Stability
import QueryPhrase.Proofs.Lexer.Suffix
import QueryPhrase.Proofs.TermList.Undo
import QueryPhrase.Proofs.Lexer.Query
import QueryPhrase.Proofs.Lexer.QueryForm
import QueryPhrase.Proofs.Lexer.QuotedValue
import QueryPhrase.Proofs.Analysis.Location
import QueryPhrase.Proofs.Analysis.Site
import QueryPhrase.Proofs.TermList.Refusal
import QueryPhrase.Proofs.TermList.Finding
import QueryPhrase.Proofs.Codec.Canonical
import QueryPhrase.Proofs.Completion
import QueryPhrase.Proofs.Analysis.Slot
import QueryPhrase.Proofs.Settings.Columns
import QueryPhrase.Proofs.Settings.Merge
import QueryPhrase.Proofs.Text.Pieces
import QueryPhrase.Proofs.Path
import QueryPhrase.Proofs.Settings.Discovery
import QueryPhrase.Proofs.Toml.Quoted
import QueryPhrase.Proofs.Toml.Scalar
import QueryPhrase.Proofs.Toml.Reader
import QueryPhrase.Proofs.Toml.Value
import QueryPhrase.Proofs.Toml.Document
import QueryPhrase.Proofs.Settings.Document
import QueryPhrase.Proofs.Lexer.Leaves
import QueryPhrase.Proofs.Lexer.Reuse
import QueryPhrase.Proofs.Lexer.Runs
import QueryPhrase.Proofs.Terminal
import QueryPhrase.Proofs.Request.Json
import QueryPhrase.Proofs.Parameters
import QueryPhrase.Proofs.Recognizer.Stage
import QueryPhrase.Proofs.Text.Closing
import QueryPhrase.Proofs.Scanner
import QueryPhrase.Proofs.Token.Buffer
