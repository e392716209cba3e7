import CommandScript.Main
import CommandScript.Properties
import CommandScript.Proofs.Lookahead
import CommandScript.Proofs.Draining
import CommandScript.Proofs.Rewind
import CommandScript.Proofs.Duplication
import CommandScript.Proofs.Reporting
import CommandScript.Proofs.Encoding
import CommandScript.Proofs.SourceKinds
import CommandScript.Proofs.Comments
import CommandScript.Proofs.Splitting
import CommandScript.Proofs.CommentRemoval
import CommandScript.Proofs.WrittenRecords
import CommandScript.Proofs.WrittenTables
import CommandScript.Proofs.Classification
import CommandScript.Proofs.SharedRegistry
import CommandScript.Proofs.PropertiesRoute
import CommandScript.Proofs.Reportable
import CommandScript.Proofs.Histories
import CommandScript.Proofs.Tracing
import CommandScript.Proofs.TracedSessions
import CommandScript.Proofs.CursorProtocol
import CommandScript.Proofs.Echo
import CommandScript.Proofs.EchoedLines
import CommandScript.Proofs.EchoMarks
import CommandScript.Proofs.Escaping
import CommandScript.Proofs.LineCounts
import CommandScript.Proofs.Surfacing
import CommandScript.Proofs.DrawnTexts
import CommandScript.Proofs.Listings
import CommandScript.Proofs.ExitStatus
import CommandScript.Proofs.ScreenLaws
import CommandScript.Proofs.Confluence
import CommandScript.Proofs.StrictExpansion
import CommandScript.Proofs.SpacedRecords
import CommandScript.Proofs.PeekedLines
import CommandScript.Proofs.Opening
import CommandScript.Proofs.WholeLoads
import CommandScript.Proofs.NestedChains
import CommandScript.Proofs.OptionalForms
import CommandScript.Proofs.MissingSources
import CommandScript.Proofs.TwinWalks
import CommandScript.Proofs.OptionalMark
import CommandScript.Proofs.ClosedQuotes
import CommandScript.Proofs.TidyLines
import CommandScript.Proofs.Recleaning
import CommandScript.Proofs.ScannerInvariants
import CommandScript.Proofs.ReplayRequests
import CommandScript.Proofs.RestyledLines
import CommandScript.Proofs.StoredLines
import CommandScript.Proofs.Labels
import CommandScript.Proofs.Recognition
import CommandScript.Proofs.UnboundedRuns
import CommandScript.Proofs.IncludeTrees
import CommandScript.Proofs.Termination
import CommandScript.Proofs.FlatExpansion
import CommandScript.Proofs.AnnouncedPayloads
import CommandScript.Proofs.RawMarks
import CommandScript.Proofs.PatternGrammar
