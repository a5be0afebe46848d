import SaveCheck.Text.Utf8
import SaveCheck.Diagnostic.Listing
import SaveCheck.GoFile
import SaveCheck.GoFile.Clause
import SaveCheck.Coverage.Profile
import SaveCheck.Number.Rounding
import SaveCheck.Settings.Arguments
import SaveCheck.Settings.Reading
import SaveCheck.ToolRun
import SaveCheck.Main
import SaveCheck.Editor.Session
import SaveCheck.Proofs.Published
import SaveCheck.Proofs.Listing
import SaveCheck.Proofs.Concurrency
import SaveCheck.Proofs.Lookup
import SaveCheck.Proofs.Marks
import SaveCheck.Proofs.ProjectFile
import SaveCheck.Proofs.Failures
import SaveCheck.Proofs.Missing
import SaveCheck.Proofs.FrontEnds
import SaveCheck.Proofs.Freshness
import SaveCheck.Proofs.InForce
import SaveCheck.Proofs.Publishing
import SaveCheck.Proofs.FailedSaves
import SaveCheck.Proofs.ExitStatus
import SaveCheck.Proofs.Cuts
import SaveCheck.Proofs.Overtaking
import SaveCheck.Proofs.Profiles
import SaveCheck.Proofs.Encodings
import SaveCheck.Proofs.LineReadings
import SaveCheck.Proofs.Commands
import SaveCheck.Proofs.Blocks
import SaveCheck.Proofs.Reports
import SaveCheck.Proofs.PackageClause
import SaveCheck.Proofs.Appended
import SaveCheck.Proofs.BlankSources
import SaveCheck.Proofs.RowNumbers
import SaveCheck.Proofs.StatementCounts
import SaveCheck.Proofs.TestRounds
import SaveCheck.Proofs.ProfileErrors
import SaveCheck.Proofs.Layers
import SaveCheck.Proofs.Streams
import SaveCheck.Proofs.ByteLines
import SaveCheck.Proofs.RawClause
import SaveCheck.Proofs.Composed
import SaveCheck.Proofs.Partition
import SaveCheck.Proofs.FirstHit
