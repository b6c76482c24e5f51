import LineLint.Command

namespace LineLint

def readErrorOf : IO.Error → ReadError
  | .noFileOrDirectory .. => .notFound
  | .permissionDenied .. => .denied
  | .inappropriateType _ code details => .failed code.toNat details
  | error => .failed 5 (toString error)

def readBytes (path : String) : IO (Except ReadError (List UInt8)) := do
  try
    return .ok (← IO.FS.readBinFile path).toList
  catch error => return .error (readErrorOf error)

def readEnvironment : IO Environment := do
  let maxCodeBytes ← IO.getEnv Settings.maxCodeBytesVariable
  let historySize ← IO.getEnv Settings.historySizeVariable
  return fun name =>
    if name = Settings.maxCodeBytesVariable then maxCodeBytes
    else if name = Settings.historySizeVariable then historySize
    else none

end LineLint

open LineLint in
def main : IO UInt32 := do
  let bytes := (← (← IO.getStdin).readBinToEnd).toList
  if Utf8.encode (Utf8.decode bytes) ≠ bytes then
    IO.eprintln "the input is not UTF-8"
    return 1
  let input := Command.fileText bytes
  let limits : Json.Limits := { depth := 993 }
  let files ← (Command.paths limits input).mapM fun path =>
    return (Utf8.encode path.toList, ← readBytes path)
  let context : Command.Context := {
    analyzer := analyzeStandard
    environment := ← readEnvironment
    reader := fun name => (files.lookup name).getD (.error .notFound)
    limits }
  match Command.run context input with
  | .ok outcome =>
      IO.print outcome.output
      return outcome.exitCode
  | .error crash =>
      IO.eprintln (repr crash)
      return 1
