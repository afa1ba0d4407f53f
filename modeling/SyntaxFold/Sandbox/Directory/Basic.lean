import SyntaxFold.Entries
import SyntaxFold.Sandbox.Directory.Entry

/-!
# Directories

The files that a command reads, writes and runs. A path is walked part by part: every part but the
last must lead to a directory, even when a later part goes back up. A directory is there when it
was made or when something is inside it.
-/

namespace SyntaxFold

open Sandbox

/-- The files around a working directory. -/
structure Directory where
  /-- How many steps the working directory lies below the root. -/
  depth : Nat
  /-- Where paths start that do not start at the root. -/
  current : Place
  entries : List (Place × Entry)
  /-- What was written to the streams of the program, oldest first. -/
  printed : List (Nat × Bytes)

namespace Directory

/-- The directory that holds files with the given texts. A text that names its interpreter may be
run. -/
def ofFiles (files : List (String × String)) : Directory :=
  let entries := files.map fun (path, text) =>
    ((⟨0, (Path.ofText path).parts⟩ : Place), Entry.file (.text text) (text.startsWith "#!"))
  ⟨2, .here, entries, []⟩

/-- What is at a place. -/
def entryAt? (directory : Directory) (place : Place) : Option Entry :=
  match Entries.get? place directory.entries with
  | some entry => some entry
  | none =>
    if place.down.isEmpty ∨ directory.entries.any (fun (other, _) => other.isInside place) then
      some .folder
    else if place.up = directory.depth then systemFile? place.down
    else none

/-- Where a path leads. -/
inductive Target where
  | found (place : Place) (entry : Entry)
  /-- Nothing is there, though the directory that it would be in is. -/
  | missing (place : Place)
  deriving DecidableEq, Repr

/-- Walks the parts of a path from a directory. -/
def walk (directory : Directory) (place : Place) (asksForDirectory : Bool) :
    List String → Except FileFault Target
  | [] => .ok (.found place .folder)
  | part :: rest =>
    if part = "." then directory.walk place asksForDirectory rest
    else if part = ".." then directory.walk (place.parent directory.depth) asksForDirectory rest
    else if maxPartLength < part.utf8ByteSize then .error .nameTooLong
    else
      let place := place.child part
      match directory.entryAt? place with
      | some .folder => directory.walk place asksForDirectory rest
      | some entry =>
        if rest.isEmpty ∧ ¬ asksForDirectory then .ok (.found place entry)
        else .error .notDirectory
      | none => if rest.isEmpty then .ok (.missing place) else .error .notFound

/-- Finds where a path leads. -/
def locate (directory : Directory) (path : String) : Except FileFault Target :=
  if path = "" then .error .notFound
  else if maxPathLength < path.utf8ByteSize then .error .nameTooLong
  else
    let ⟨fromRoot, parts, asksForDirectory⟩ := Path.ofText path
    let start := if fromRoot then ⟨directory.depth, []⟩ else directory.current
    directory.walk start asksForDirectory parts

/-- What is at a path. -/
def entry (directory : Directory) (path : String) : Except FileFault Entry := do
  match ← directory.locate path with
  | .found _ entry => return entry
  | .missing _ => throw .notFound

/-- The content of the file at a path. -/
def content (directory : Directory) (path : String) : Except FileFault Content := do
  match ← directory.entry path with
  | .file content _ => return content
  | .folder => throw .isDirectory
  | .device _ => return .text ""
  | .program => return .raw [127]
  | .closed fault => throw fault

/-- The text of the file at a path. -/
def read (directory : Directory) (path : String) : Except FileFault String := do
  match (← directory.content path).text? with
  | some text => return text
  | none => throw .notText

/-- Puts something at a place. -/
def put (directory : Directory) (place : Place) (entry : Entry) : Directory :=
  { directory with entries := Entries.insert place entry directory.entries }

/-- Puts a content into what is at a place; a file stays executable if it was. -/
def fill (directory : Directory) (place : Place) (content : Content) :
    Entry → Except FileFault Directory
  | .file _ executable => .ok (directory.put place (.file content executable))
  | .folder => .error .isDirectory
  | .device .null => .ok directory
  | .device .full => if content.bytes.isEmpty then .ok directory else .error .noSpace
  | .device (.stream number) =>
    .ok { directory with printed := directory.printed ++ [(number, content.bytes)] }
  | .program => .error .permissionDenied
  | .closed fault => .error fault

/-- Puts a content into the file at a path, which is made when its directory exists. -/
def writeContent (directory : Directory) (path : String) (content : Content) :
    Except FileFault Directory := do
  match ← directory.locate path with
  | .found place entry => directory.fill place content entry
  | .missing place =>
    if path.endsWith "/" then throw .isDirectory
    else return directory.put place (.file content false)

/-- Puts a text into the file at a path. -/
def write (directory : Directory) (path text : String) : Except FileFault Directory :=
  directory.writeContent path (.text text)

/-- All that was written to a stream of the program. -/
def printedTo (directory : Directory) (number : Nat) : Bytes :=
  (directory.printed.filter (·.1 == number)).flatMap Prod.snd

/-- The names of what was put into the directory at a place, in ascending order. -/
def namesIn (directory : Directory) (place : Place) : List String :=
  let names := directory.entries.filterMap fun (other, _) =>
    if other.isInside place then other.down[place.down.length]? else none
  names.eraseDups.mergeSort

/-- A path to a place: from the root if the place lies beside the working directory at all heights,
and otherwise from the working directory. -/
def pathTo (directory : Directory) (place : Place) : String :=
  if place.up = directory.depth then "/" ++ "/".intercalate place.down
  else "/".intercalate ("." :: List.replicate place.up ".." ++ place.down)

end Directory

end SyntaxFold
