import HeaderScan.Report.Style
import HeaderScan.Summary

/-!
# Statistics of a scan

The statistics show the summary of a scan, one figure a line, and below it the
hosts that could not be requested.
-/

namespace HeaderScan

/-- The figures of a scan and its failing responses. -/
structure Statistics where
  /-- The figures that are shown. -/
  summary : Summary
  /-- The failing responses, in the order in which they are shown. -/
  failures : List Response

namespace Statistics

/-- Statistics without any response. -/
def new : Statistics := ⟨.empty, []⟩

/-- Remember a response if it is a failure. -/
def add (statistics : Statistics) (response : Response) : Statistics :=
  if response.status.isFailure then
    { statistics with failures := statistics.failures ++ [response] }
  else statistics

/-- Show this summary, and the failures so far ordered by host. -/
def finish (statistics : Statistics) (summary : Summary) : Statistics :=
  ⟨summary, statistics.failures.mergeSort fun a b => a.host.notAfter b.host⟩

/-- The columns that a title and its figure fill. -/
def width : Nat := 20

/-- A title and a figure with dots between them. -/
def figureLine (title : String) (figure : Nat) : String :=
  let digits := figure.repr
  title ++ "".pushn '.' (width - title.length - digits.length) ++ digits ++ "\n"

/-- The figures of a summary, one a line. -/
def figures (summary : Summary) : String :=
  figureLine "🔍 Total" summary.total ++ figureLine "🎯 Found" summary.found ++
    figureLine "👻 Missing" summary.missing ++ figureLine "🚫 Failed" summary.failed ++
    figureLine "⛔ Cancelled" summary.cancelled

/-- The failing responses below their own title; nothing if there is none. -/
def failureList (colors : Bool) : List Response → String
  | [] => ""
  | failures =>
    "\nFailed hosts\n" ++ String.join (failures.map fun r => r.styledLine colors ++ "\n")

/-- The statistics as text. -/
def text (statistics : Statistics) (colors : Bool) : String :=
  "📝 Summary\n" ++ "".pushn '-' (width + 1) ++ "\n" ++ figures statistics.summary ++
    failureList colors statistics.failures

end Statistics

end HeaderScan
