import Dialogue.Main
import Dialogue.Proofs.Check.Definitions
import Dialogue.Proofs.Check.Duplicates
import Dialogue.Proofs.Check.ReservedNames
import Dialogue.Proofs.Check.Spelling
import Dialogue.Proofs.Check.Undefined
import Dialogue.Proofs.Check.WellFormed
import Dialogue.Proofs.Command.Exit
import Dialogue.Proofs.Compilation.Form
import Dialogue.Proofs.Compilation.Nesting
import Dialogue.Proofs.Compilation.Respelling
import Dialogue.Proofs.Flow.Contexts
import Dialogue.Proofs.Flow.Coverage
import Dialogue.Proofs.Flow.Precedence
import Dialogue.Proofs.Message.Contexts
import Dialogue.Proofs.Message.Isolation
import Dialogue.Proofs.Message.Payload
import Dialogue.Proofs.Message.Scan
import Dialogue.Proofs.Report.Span
