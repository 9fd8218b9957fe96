import TestReach.Proofs.Disk.Changes
import TestReach.Report.Document

namespace TestReach.Report

open Disk

variable {disk disk' : Disk} {path target : Path} {now : Moment} {request : Request}
  {cases : TestCase.Cases} {files : Set Key}

end TestReach.Report
