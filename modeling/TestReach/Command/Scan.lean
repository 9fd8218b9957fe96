import TestReach.Command.Console
import TestReach.Command.Request

namespace TestReach.Command.ScanRequest

def saySource (result : FileResult) : Action Unit := do
  sayResult result
  if result.isTestCase then
    say ("  TC: " ++ (if result.info.identifier == "" then "?" else result.info.identifier))

def run (request : ScanRequest) (surroundings : Surroundings) : Action Unit := do
  let settings ← loadSettings surroundings request.config
  let term ← makeTerm request.pattern request.isPattern
  let scanner ← makeScanner settings request.fileType request.workers
  let results ← orStop (fun error => .failed (.files error))
    (scanner.scan (← get).disk request.directory term)
  let results := results.mergeSort fun a b => decide (a.path ≤ b.path)
  if results.isEmpty then say ("No matches for " ++ term.text)
  else
    for result in results do
      saySource result
    let total := results.foldl (fun total result => total + result.hits.length) 0
    say (toString total ++ " matches in " ++ toString results.length ++ " files")

end TestReach.Command.ScanRequest
