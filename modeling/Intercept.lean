import Intercept.ArgumentFile
import Intercept.EventLog
import Intercept.Expectation
import Intercept.Files.Path
import Intercept.Host
import Intercept.Log
import Intercept.Main
import Intercept.Proofs.Log.Truncation
import Intercept.Proofs.Trap
import Intercept.Settings
import Intercept.Trap
import Intercept.WaitStatus
import Intercept.Proofs.Log.Image
import Intercept.Proofs.Trap.Isolation
import Intercept.Proofs.Inspector
import Intercept.Proofs.Words
import Intercept.Proofs.Trap.Parallel
import Intercept.Proofs.Log.Shown
import Intercept.Proofs.Log.Grammar
import Intercept.Proofs.Tokens
import Intercept.Proofs.Json.Tokens
import Intercept.Proofs.Text.Decoding
import Intercept.Proofs.Invocation.Shown
import Intercept.Proofs.Json.Reading
import Intercept.Proofs.Inspector.Views
import Intercept.Proofs.Inspector.Listing
import Intercept.Proofs.Inspector.Columns
import Intercept.Proofs.Trap.Nesting
import Intercept.Proofs.Expectation
import Intercept.Proofs.ArgumentFile
import Intercept.Proofs.Log.Search
import Intercept.Proofs.EventLog
import Intercept.Proofs.Files
import Intercept.Proofs.Host
import Intercept.Proofs.Shell.Reading
import Intercept.Proofs.Shell.Line
import Intercept.Proofs.Shell.Arguments
import Intercept.Proofs.Shell.Execution
