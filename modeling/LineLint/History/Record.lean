import LineLint.History
import LineLint.Report.Record

namespace LineLint

open Json

def Analysis.toJson (analysis : Analysis) : Value :=
  .object (
    ("id", .text analysis.id) ::
    ("code", .ofOption .ofString analysis.code) ::
    ("language", .text analysis.language) ::
    (analysis.report.members ++ ([("created_at", .text analysis.createdAt)] : Members)))

end LineLint
