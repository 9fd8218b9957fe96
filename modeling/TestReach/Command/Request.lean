import TestReach.Path

namespace TestReach.Command

/-- A search for the test cases that use a pattern. -/
structure SearchRequest where
  pattern : String
  directory : Path
  isPattern : Bool := false
  fileType : Option String := none
  depth : Option Int := none
  workers : Option Int := none
  logFile : Option Path := none
  outFile : Option Path := none
  template : Option Path := none
  workItems : Option Path := none
  config : Option Path := none
  verbose : Bool := false

structure ScanRequest where
  pattern : String
  directory : Path
  isPattern : Bool := false
  fileType : Option String := none
  workers : Option Int := none
  config : Option Path := none

inductive Request where
  | version
  | search (request : SearchRequest)
  | scan (request : ScanRequest)
  | workItems (file : Path)

end TestReach.Command
