import PatternLint.Report.Style
import PatternLint.Scan.Violation

namespace PatternLint.Report

def location (violation : Violation) : String :=
  violation.path ++ ":" ++ toString violation.line ++ ":" ++ toString violation.column

def violationLine (colours : Bool) (violation : Violation) : String :=
  let place := location violation
  (if colours then bold place else place) ++ ": " ++ violation.message ++ "\n"

def summary (result : ScanResult) : String :=
  "-- Summary -- violations=" ++ toString result.violations.length ++
    " files=" ++ toString result.files ++ " skipped=" ++ toString result.skipped.length

def summaryLine (colours : Bool) (result : ScanResult) : String :=
  let text := summary result
  let colour := if result.isClean then Colour.green else Colour.red
  (if colours then bold (coloured colour text) else text) ++ "\n"

def human (colours : Bool) (result : ScanResult) : String :=
  String.join (result.violations.map (violationLine colours)) ++ summaryLine colours result

end PatternLint.Report
