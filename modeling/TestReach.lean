import TestReach.Command.Run
import TestReach.Home
import TestReach.Main
import TestReach.Proofs.Ambiguity
import TestReach.Proofs.Command.Options
import TestReach.Proofs.Command.Search
import TestReach.Proofs.DeclarationLine
import TestReach.Proofs.DeclaredName
import TestReach.Proofs.FileType
import TestReach.Proofs.LiteralSearch
import TestReach.Proofs.LiteralTerm
import TestReach.Proofs.Log.Session
import TestReach.Proofs.Report.Approval
import TestReach.Proofs.Report.Comments
import TestReach.Proofs.Report.Durations
import TestReach.Proofs.Report.Layout
import TestReach.Proofs.Report.Places
import TestReach.Proofs.Report.Scripts
import TestReach.Proofs.Routine
import TestReach.Proofs.Spans
import TestReach.Proofs.Trace.Depth
import TestReach.Proofs.Trace.Irrelevance
import TestReach.Proofs.Trace.Merge
import TestReach.Proofs.Trace.Names
import TestReach.Proofs.Trace.Order
import TestReach.Proofs.Trace.Repeats
import TestReach.Proofs.Trace.Retry
import TestReach.Proofs.WrittenEstimate
