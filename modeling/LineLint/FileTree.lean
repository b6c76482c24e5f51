import LineLint.Text.Quoted
import LineLint.Text.Split
import LineLint.Text.Utf8

namespace LineLint

inductive ReadError
  | notFound
  | denied
  /-- A number under which no file can be read. -/
  | badDescriptor
  /-- The system's number and description of the failure. -/
  | failed (number : Nat) (description : String)
  deriving Repr, DecidableEq

namespace ReadError

def notDirectory : ReadError := failed 20 "Not a directory"

def isDirectory : ReadError := failed 21 "Is a directory"

def nameTooLong : ReadError := failed 36 "File name too long"

def message (path : Text) : ReadError → Text
  | notFound => path.wrap "File not found: " ""
  | denied => path.wrap "Permission denied: " ""
  | badDescriptor => path.wrap "Failed to read file: " " ([Errno 9] Bad file descriptor)"
  | failed number description =>
      path.wrap "Failed to read file: " (" ([Errno " ++ toString number ++ "] " ++ description ++
        ": " ++ String.ofList (quoted path) ++ ")")

end ReadError

/-- A path or the name of a file as the system knows it. -/
abbrev SystemName := List UInt8

abbrev FileReader := SystemName → Except ReadError (List UInt8)

namespace Path

section

variable {α : Type} [DecidableEq α]

/-- The parts between slashes that count: neither empty nor a single dot. -/
def names (slash dot : α) (path : List α) : List (List α) :=
  (split slash path).filter fun part => part ≠ [] && part ≠ [dot]

end

def name (path : Text) : Text :=
  .ofPoints ((names (.char '/') (.char '.') path.points).getLast?.getD [])

def systemNames (path : SystemName) : List SystemName := names 0x2F 0x2E path

end Path

/-- A tree of files. Above its top are directories of which only the way up is known. -/
inductive FileTree
  | file (bytes : List UInt8)
  | directory (entries : List (SystemName × FileTree))
  deriving Inhabited, Repr

namespace FileTree

abbrev Entries := List (SystemName × FileTree)

/-- The entries with one put in, in the place of an earlier one of its name. -/
def put (name : SystemName) (node : FileTree) (entries : Entries) : Entries :=
  (name, node) :: entries.filter fun entry => entry.1 != name

def subentries (entries : Entries) (name : SystemName) : Entries :=
  match entries.lookup name with
  | some (.directory inner) => inner
  | _ => []

/-- The entries with a node at the end of a path, whose directories are made where they are
missing. -/
def insert (node : FileTree) : List SystemName → Entries → Entries
  | [], entries => entries
  | [name], entries => put name node entries
  | name :: rest, entries =>
      put name (.directory (insert node rest (subentries entries name))) entries

/-- A place that a path leads to: a node under the directories above it, or somewhere above the
top. -/
inductive Place
  | inside (node : FileTree) (above : List Entries)
  | outside

/-- The greatest size of a name, and the size from which a path is too long, in bytes. -/
def nameLimit : Nat := 255

def pathLimit : Nat := 4096

def child (entries : Entries) (above : List Entries) (name : SystemName) : Except ReadError Place :=
  if nameLimit < name.length then .error .nameTooLong
  else
    match entries.lookup name with
    | some node => .ok (.inside node (entries :: above))
    | none => .error .notFound

def parent : List Entries → Place
  | [] => .outside
  | entries :: above => .inside (.directory entries) above

/-- The parts of a path that lead nowhere, and the one that leads up. -/
def isIdle (part : SystemName) : Bool := part = [] || part = [0x2E]

def isUp (part : SystemName) : Bool := part = [0x2E, 0x2E]

/-- One part of a path. Nothing leads on from a file, and above the top no name is known. -/
def step : Place → SystemName → Except ReadError Place
  | .inside (.file _) _, _ => .error .notDirectory
  | .inside (.directory entries) above, part =>
      if isIdle part then .ok (.inside (.directory entries) above)
      else if isUp part then .ok (parent above)
      else child entries above part
  | .outside, part =>
      if isIdle part || isUp part then .ok .outside
      else child [] [] part

def readPlace : Place → Except ReadError (List UInt8)
  | .inside (.file bytes) _ => .ok bytes
  | .inside (.directory _) _ => .error .isDirectory
  | .outside => .error .isDirectory

/-- Reads the file of a path. A path that starts with a slash starts above the top. -/
def read (top : Entries) (path : SystemName) : Except ReadError (List UInt8) :=
  if path.isEmpty then .error .notFound
  else if pathLimit ≤ path.length then .error .nameTooLong
  else do
    let start := if path.head? = some 0x2F then .outside else .inside (.directory top) []
    let place ← (split 0x2F path).foldlM step start
    readPlace place

end FileTree

end LineLint
