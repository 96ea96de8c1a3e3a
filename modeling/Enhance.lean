import Enhance.Json.Reader
import Enhance.Main
import Enhance.Path.Text
import Enhance.Report.Reading
import Enhance.Transformer.Script
import Enhance.Proofs.Disk.Entry
import Enhance.Proofs.Disk.Walk
import Enhance.Proofs.Program
import Enhance.Proofs.Disk.Leads
import Enhance.Proofs.Disk.Proper
import Enhance.Proofs.Scan.Rows
import Enhance.Proofs.Scan.Discovery
import Enhance.Proofs.Scan
import Enhance.Proofs.Invocation
import Enhance.Proofs.Classpath
import Enhance.Proofs.Disk.Leaf
import Enhance.Proofs.Replacement
import Enhance.Proofs.Run.Processing
import Enhance.Proofs.Run.Course
import Enhance.Proofs.Run.History
import Enhance.Proofs.Run.Account
import Enhance.Proofs.Lawful
import Enhance.Proofs.Blind
import Enhance.Proofs.Run.Policy
import Enhance.Proofs.Run.Effect
import Enhance.Proofs.Trail
import Enhance.Proofs.Replacement.Moments
import Enhance.Proofs.Run.Approach
import Enhance.Proofs.Run.Survival
import Enhance.Proofs.Console
import Enhance.Proofs.Shown
import Enhance.Proofs.CommandLine.Exit
import Enhance.Proofs.Disk.Through
import Enhance.Proofs.Run.Reported
import Enhance.Proofs.Run.Handed
import Enhance.Proofs.Disk.Ascending
import Enhance.Proofs.Disk.Outline
import Enhance.Proofs.Calm
import Enhance.Proofs.Faultless
import Enhance.Proofs.Replacement.Faultless
import Enhance.Proofs.Run.Prospect
import Enhance.Proofs.Run.Order
import Enhance.Proofs.Disk.Renewed
import Enhance.Proofs.Scan.Again
import Enhance.Proofs.Run.Again
import Enhance.Proofs.Disk.Taken
import Enhance.Proofs.Replacement.Returns
import Enhance.Proofs.Replacement.Anew
import Enhance.Proofs.Replacement.Whole
import Enhance.Proofs.Replacement.Room
import Enhance.Proofs.Replacement.Agreement
import Enhance.Proofs.Console.Front
import Enhance.Proofs.Json.RoundTrip
import Enhance.Proofs.CommandLine.Output
import Enhance.Proofs.Classpath.Assembly
import Enhance.Proofs.Classpath.Entries
import Enhance.Proofs.Disk.LinkFree
import Enhance.Proofs.Classpath.Confinement
import Enhance.Proofs.Classpath.Providers
import Enhance.Proofs.Classpath.Damage
import Enhance.Proofs.Classpath.Interchange
import Enhance.Proofs.Classpath.Spelling
import Enhance.Proofs.Invocation.Containment
import Enhance.Proofs.Settings.Anchoring
import Enhance.Proofs.Checked
import Enhance.Proofs.Settings.Merging
import Enhance.Proofs.Settings.Loading
import Enhance.Proofs.CommandLine.Configuration
import Enhance.Proofs.Dependency
import Enhance.Proofs.Transformer.Outcome
import Enhance.Proofs.Report.Digest
import Enhance.Proofs.Console.Literal
import Enhance.Proofs.Console.Spliced
import Enhance.Proofs.Console.Wrapping
import Enhance.Proofs.Console.Verbatim
import Enhance.Proofs.Console.Resolved
import Enhance.Proofs.Report.Table
import Enhance.Proofs.Grounded
import Enhance.Proofs.Run.Scanned
import Enhance.Proofs.CommandLine.Arguments
import Enhance.Proofs.CommandLine.Prediction
