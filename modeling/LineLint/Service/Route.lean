import LineLint.Json.Read
import LineLint.Text.Split
import LineLint.Text.Utf8

namespace LineLint.Service

/-- Bytes with each percent sign and two digits as the byte they stand for. -/
def percentDecode : List UInt8 → List UInt8
  | [] => []
  | a :: b :: c :: rest =>
      if a = 0x25 then
        match Json.hexValue? (Char.ofNat b.toNat), Json.hexValue? (Char.ofNat c.toNat) with
        | some high, some low => UInt8.ofNat (high * 16 + low) :: percentDecode rest
        | _, _ => a :: percentDecode (b :: c :: rest)
      else a :: percentDecode (b :: c :: rest)
  | a :: rest => a :: percentDecode rest

/-- What is left of a reference after two slashes and a host. -/
def withoutHost : List Char → List Char
  | '/' :: '/' :: rest => rest.dropWhile (· ≠ '/')
  | reference => reference

/-- One more part of a path; `kept` holds those before it, the last one first. A dot is no part, and
two dots take away the part before them, unless only the root is left. -/
def resolvePart (kept : List (List Char)) (part : List Char) : List (List Char) :=
  if part = ['.'] then kept
  else if part = ['.', '.'] then if kept = [[]] then kept else kept.drop 1
  else part :: kept

def resolveDots (path : List Char) : List Char :=
  joinWith '/' ((split '/' path).foldl resolvePart []).reverse

/-- The path of a target, decoded. What comes from a query or a fragment on is left out. -/
def pathOf (target : String) : List Char :=
  let reference := target.toList.takeWhile fun c => c ≠ '?' && c ≠ '#'
  let path := '/' :: (withoutHost reference).dropWhile (· = '/')
  Utf8.decode (percentDecode (Utf8.encode (resolveDots path)))

def withoutSlashes (path : List Char) : List Char := (path.reverse.dropWhile (· = '/')).reverse

/-- The path without a line feed at its end. -/
def withoutLineFeed (path : List Char) : List Char :=
  match path.reverse with
  | '\n' :: rest => rest.reverse
  | _ => path

inductive Route
  | health
  | languages
  | analyze
  | history
  | analysis (id : String)
  /-- The pages that describe the service. -/
  | manual
  deriving Repr, DecidableEq

namespace Route

def fixed : List (String × Route) :=
  [("/health", health), ("/languages", languages), ("/analyze", analyze), ("/history", history),
    ("/openapi.json", manual), ("/docs", manual), ("/docs/oauth2-redirect", manual),
    ("/redoc", manual)]

/-- The route of an analysis, whose identifier is all that follows the second slash. -/
def analysisOfPath? (path : List Char) : Option Route :=
  match (split '/' path).map String.ofList with
  | ["", "history", id] => if id.isEmpty then none else some (analysis id)
  | _ => none

/-- A fixed route may have a line feed after it; in an identifier a line feed counts. -/
def ofPath? (path : List Char) : Option Route :=
  (fixed.lookup (String.ofList (withoutLineFeed path))).or (analysisOfPath? path)

/-- The route of a target; slashes at the end of its path make no difference. -/
def ofTarget? (target : String) : Option Route := ofPath? (withoutSlashes (pathOf target))

end Route

end LineLint.Service
