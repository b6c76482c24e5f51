import LineLint.Bug.Record
import LineLint.Report

namespace LineLint

open Json

def Summary.toJson (summary : Summary) : Value :=
  .object [
    ("critical", .ofNat summary.critical),
    ("warning", .ofNat summary.warning),
    ("info", .ofNat summary.info)]

def Report.members (report : Report) : Members :=
  [("bugs", .array (report.bugs.map Bug.toJson)), ("summary", report.summary.toJson)]

end LineLint
