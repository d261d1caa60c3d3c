import TimeServer.IoError
import TimeServer.Text.Split

/-! # Files

A tree of files and directories, and the calls that a program makes on it by path.

* `Files.resolve` — walks a path to something that exists;
* `Files.read`, `Files.write`, `Files.append` — whole files;
* `Files.createParents` — makes the directories that a path lacks.

A path is walked name by name from the root or from the current directory; every name but the last
must lead to a directory.
-/

namespace TimeServer

open TimeServer.Text

inductive FileNode
  | directory
  /-- A file with its text; without a text if its bytes are no UTF-8. -/
  | file (text : Option String)
  deriving DecidableEq, Repr

def FileNode.ofBytes (bytes : ByteArray) : FileNode := .file (String.fromUTF8? bytes)

structure Files where
  /-- All but the root, each by the names that lead to it from there. -/
  entries : List (List String × FileNode) := []
  current : List String := []
  deriving DecidableEq, Repr

structure FilePath where
  isAbsolute : Bool
  names : List String
  endsInSlash : Bool
  deriving DecidableEq, Repr

namespace FilePath

/-- Splits a path up.  Several slashes in a row count as one. -/
def ofText (path : String) : FilePath where
  isAbsolute := path.toList.head? == some '/'
  names := ((splitAtMark '/' path.toList).filter (· ≠ [])).map String.ofList
  endsInSlash := path.toList.getLast? == some '/'

def text (path : FilePath) : String :=
  (if path.isAbsolute then "/" else "") ++ "/".intercalate path.names ++
    (if path.endsInSlash then "/" else "")

/-- The path of the directory that holds what a path leads to; `none` for the root and the empty
    path.  A name that stays in place is dropped, unless it begins the path. -/
def parent? (path : FilePath) : Option FilePath :=
  let names :=
    match path.isAbsolute, path.names with
    | false, "." :: names => "." :: names.filter (· ≠ ".")
    | _, names => names.filter (· ≠ ".")
  if names = [] then none else some ⟨path.isAbsolute, names.dropLast, false⟩

end FilePath

namespace Files

def at? (fs : Files) (place : List String) : Option FileNode :=
  if place = [] then some .directory else fs.entries.lookup place

def put (fs : Files) (place : List String) (node : FileNode) : Files :=
  { fs with entries := (place, node) :: fs.entries.filter (·.1 ≠ place) }

/-- The tree with something at the end of a way from a place, and directories on the way to it. -/
def plant (fs : Files) (place : List String) : (way : List String) → FileNode → Files
  | [], _ => fs
  | [name], node => fs.put (place ++ [name]) node
  | name :: way, node => (fs.put (place ++ [name]) .directory).plant (place ++ [name]) way node

def maxName : Nat := 255

def maxPath : Nat := 4095

def needDirectory (fs : Files) (place : List String) : Except IoError Unit :=
  if fs.at? place = some .directory then .ok () else .error (.os 20)

def step (fs : Files) (place : List String) (name : String) : Except IoError (List String) := do
  fs.needDirectory place
  if name = "." then .ok place
  else if name = ".." then .ok place.dropLast
  else if maxName < name.utf8ByteSize then .error (.os 36)
  else if (fs.at? (place ++ [name])).isSome then .ok (place ++ [name])
  else .error (.os 2)

def walk (fs : Files) : (place : List String) → List String → Except IoError (List String)
  | place, [] => .ok place
  | place, name :: names => do walk fs (← fs.step place name) names

def start (fs : Files) (path : FilePath) : List String :=
  if path.isAbsolute then [] else fs.current

def checkPath (path : String) : Except IoError Unit :=
  if '\x00' ∈ path.toList then
    .error (.custom .invalidInput "file name contained an unexpected NUL byte")
  else if path.isEmpty then .error (.os 2)
  else if maxPath < path.utf8ByteSize then .error (.os 36)
  else .ok ()

def resolve (fs : Files) (path : String) : Except IoError (List String) := do
  checkPath path
  let p := FilePath.ofText path
  let place ← fs.walk (fs.start p) p.names
  if p.endsInSlash then fs.needDirectory place
  return place

def pathExists (fs : Files) (path : String) : Bool := (fs.resolve path).isOk

def read (fs : Files) (path : String) : Except IoError String := do
  match fs.at? (← fs.resolve path) with
  | some (.file (some text)) => .ok text
  | some (.file none) => .error (.custom .invalidData "stream did not contain valid UTF-8")
  | some .directory => .error (.os 21)
  | none => .error (.os 2)

/-- The place of a file that is opened to be written, which need not exist. -/
def target (fs : Files) (path : String) : Except IoError (List String) := do
  checkPath path
  let p := FilePath.ofText path
  match p.names.getLast? with
  | none => .error (.os 21)
  | some name =>
    let place ← fs.walk (fs.start p) p.names.dropLast
    fs.needDirectory place
    if name = "." ∨ name = ".." ∨ p.endsInSlash then .error (.os 21)
    else if maxName < name.utf8ByteSize then .error (.os 36)
    else if fs.at? (place ++ [name]) = some .directory then .error (.os 21)
    else .ok (place ++ [name])

def write (fs : Files) (path text : String) : Except IoError Files := do
  return fs.put (← fs.target path) (.file (some text))

def extended (old : Option FileNode) (text : String) : Option String :=
  match old with
  | some (.file old) => old.map (· ++ text)
  | _ => some text

def append (fs : Files) (path text : String) : Except IoError Files := do
  let place ← fs.target path
  return fs.put place (.file (extended (fs.at? place) text))

/-! ## Directories -/

def makeDirectory (fs : Files) (start : List String) (names : List String) :
    Except IoError Files :=
  match names.getLast? with
  | none => .error (.os 17)
  | some name => do
    let place ← fs.walk start names.dropLast
    fs.needDirectory place
    if name = "." ∨ name = ".." then .error (.os 17)
    else if maxName < name.utf8ByteSize then .error (.os 36)
    else if (fs.at? (place ++ [name])).isSome then .error (.os 17)
    else .ok (fs.put (place ++ [name]) .directory)

def isDirectory (fs : Files) (start : List String) (names : List String) : Bool :=
  match fs.walk start names with
  | .ok place => fs.at? place = some .directory
  | .error _ => false

def ensureDirectory (fs : Files) (start : List String) (names : List String) :
    Except IoError Unit × Files :=
  match fs.makeDirectory start names with
  | .ok fs => (.ok (), fs)
  | .error e => if fs.isDirectory start names then (.ok (), fs) else (.error e, fs)

/-- Makes a directory and, if need be, those that lead to it; `upwards` are its names from the last
    to the first. -/
def makeDirectories (fs : Files) (start : List String) : (upwards : List String) →
    Except IoError Unit × Files
  | [] => (.ok (), fs)
  | name :: upwards =>
    let names := (name :: upwards).reverse
    match fs.ensureDirectory start names with
    | (.error (.os 2), fs) =>
      match makeDirectories fs start upwards with
      | (.ok (), fs) => fs.ensureDirectory start names
      | (.error e, fs) => (.error e, fs)
    | result => result

/-- Makes the directories that lead to a path.  Those made stay even if a later one fails. -/
def createParents (fs : Files) (path : String) : Except IoError Unit × Files :=
  match (FilePath.ofText path).parent? with
  | none => (.ok (), fs)
  | some parent =>
    if parent.text.isEmpty then (.ok (), fs)
    else
      match checkPath parent.text with
      | .error e => (.error e, fs)
      | .ok () => fs.makeDirectories (fs.start parent) parent.names.reverse

end Files

end TimeServer
