import GeneratedKeys.Catalog.Loading
import GeneratedKeys.Column.Document
import GeneratedKeys.Command.Run
import GeneratedKeys.Main
import GeneratedKeys.Proofs.Coherence
import GeneratedKeys.Proofs.Covering
import GeneratedKeys.Proofs.Denotation
import GeneratedKeys.Proofs.Failures
import GeneratedKeys.Proofs.Memoization
import GeneratedKeys.Proofs.Rewriting
import GeneratedKeys.Session
import GeneratedKeys.Statement.Reader
import GeneratedKeys.Text.Span
import GeneratedKeys.Token.Display
import GeneratedKeys.Proofs.Printing
import GeneratedKeys.Proofs.ByteOrder
import GeneratedKeys.Proofs.Folding
import GeneratedKeys.Proofs.Outline
import GeneratedKeys.Proofs.Trailing
import GeneratedKeys.Proofs.LookingUp
import GeneratedKeys.Proofs.Agreement
import GeneratedKeys.Proofs.Remembering
import GeneratedKeys.Proofs.Quoting
import GeneratedKeys.Proofs.Resolving
import GeneratedKeys.Proofs.Loading
import GeneratedKeys.Proofs.Running
import GeneratedKeys.Proofs.Viability
import GeneratedKeys.Proofs.Longest
import GeneratedKeys.Proofs.Selecting
import GeneratedKeys.Proofs.Naming
import GeneratedKeys.Proofs.Casing
import GeneratedKeys.Proofs.Ending
import GeneratedKeys.Proofs.Closing
import GeneratedKeys.Proofs.Swallowing
import GeneratedKeys.Proofs.Joining
import GeneratedKeys.Proofs.Placing
import GeneratedKeys.Proofs.Rereading
import GeneratedKeys.Proofs.Recasing
import GeneratedKeys.Proofs.Renaming
import GeneratedKeys.Proofs.Caseless
