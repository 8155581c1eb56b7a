import Turnstile.CommandLine.Session
import Turnstile.Main
import Turnstile.Proofs.CommandGlob.Language
import Turnstile.Proofs.Gate.Strictness
import Turnstile.Proofs.Text.Splitting
import Turnstile.Proofs.Text.Decoding
import Turnstile.Proofs.Text.Encoding
import Turnstile.Proofs.Text.Validity
import Turnstile.Proofs.Text.Offsets
import Turnstile.Proofs.Json.RoundTrip
import Turnstile.Proofs.Host.Appending
import Turnstile.Proofs.Host.Listing
import Turnstile.Proofs.Audit.Framing
import Turnstile.Proofs.Process.Supervision
import Turnstile.Proofs.Shell.Quiet
import Turnstile.Proofs.Process.Playing
import Turnstile.Proofs.Process.Searching
import Turnstile.Proofs.Template.Reading
import Turnstile.Proofs.Tool.Checking
import Turnstile.Proofs.Tool.Rendering
import Turnstile.Proofs.Registry.Schema
import Turnstile.Proofs.Registry.Registration
import Turnstile.Proofs.Registry.Loading
import Turnstile.Proofs.Service.Waiting
import Turnstile.Proofs.Filter.Limits
import Turnstile.Proofs.Filter.Selection
import Turnstile.Proofs.Regex.Reporting
import Turnstile.Proofs.Filter.Removal
import Turnstile.Proofs.Filter.Idempotence
import Turnstile.Proofs.Filter.WholeLines
import Turnstile.Proofs.Filter.Context
import Turnstile.Proofs.Filter.Slicing
import Turnstile.Proofs.Number.Rounding
import Turnstile.Proofs.Number.Nearest
import Turnstile.Proofs.Filter.Reduction
import Turnstile.Proofs.Runner.Recorded
import Turnstile.Proofs.Runner.Effects
import Turnstile.Proofs.Runner.Course
import Turnstile.Proofs.Runner.GateSafety
import Turnstile.Proofs.Runner.Transition
import Turnstile.Proofs.Runner.Transfer
import Turnstile.Proofs.Runner.Custody
import Turnstile.Proofs.Runner.Tracking
import Turnstile.Proofs.Runner.Overlap
import Turnstile.Proofs.Runner.Pairing
import Turnstile.Proofs.Runner.Streaming
import Turnstile.Proofs.Runner.Watching
import Turnstile.Proofs.Runner.Deadlines
import Turnstile.Proofs.Runner.Trail
import Turnstile.Proofs.Runner.Foretelling
import Turnstile.Proofs.Registry.Precedence
import Turnstile.Proofs.Tool.Declaration
import Turnstile.Proofs.Template.Escaping
import Turnstile.Proofs.Registry.Prompt
import Turnstile.Proofs.Registry.WellFormed
import Turnstile.Proofs.Tool.Counting
