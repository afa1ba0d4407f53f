import SyntaxFold.Sandbox.Directory.Basic

/-!
# Interpreter lines

A script names its interpreter in its first line, behind `#!`: a path, and perhaps one argument. The
system looks only at the first bytes of the file. The interpreter may be a script itself, so what is
started in the end is found by following interpreter lines, up to a limit.
-/

namespace SyntaxFold.Sandbox

/-- How many bytes of a file are searched for its interpreter. -/
def interpreterLineLength : Nat := 256

/-- How many scripts may name each other as interpreters. -/
def maxInterpreters : Nat := 5

/-- What the first line of a script says: the path of the interpreter, and an argument. -/
structure InterpreterLine where
  path : Bytes
  argument : Option Bytes
  deriving DecidableEq, Repr

namespace InterpreterLine

/-- Whether a byte separates the path from the argument. -/
def isBlank (byte : UInt8) : Bool := byte == 32 || byte == 9

/-- Whether a byte ends the path. -/
def endsPath (byte : UInt8) : Bool := isBlank byte || byte == 0

/-- Tells the path from the argument. Blanks around them do not count. -/
def ofLine? (line : Bytes) : Option InterpreterLine :=
  match ((line.reverse.dropWhile isBlank).reverse).dropWhile isBlank with
  | [] => none
  | trimmed =>
    let path := trimmed.takeWhile (!endsPath ·)
    let argument := match trimmed.drop path.length with
      | [] | 0 :: _ => none
      | behind => some ((behind.dropWhile isBlank).takeWhile (· != 0))
    some ⟨path, argument⟩

/-- The interpreter line at the start of a file, behind the first two bytes. A file that is shorter
than what is searched counts as filled up with zeros. Where the line has no end, at least the path
must have one. -/
def ofStart? (start : Bytes) : Option InterpreterLine :=
  let length := interpreterLineLength - 2
  let searched := start.take length ++ List.replicate (length - start.length) 0
  let line := (searched.takeWhile (· != 0)).takeWhile (· != 10)
  if searched[line.length]? = some 10 then ofLine? line
  else if ((searched.dropWhile isBlank).any endsPath) then ofLine? (searched.take (length - 1))
  else none

/-- The interpreter line of a file. -/
def ofFile? : Bytes → Option InterpreterLine
  | 35 :: 33 :: start => ofStart? start
  | _ => none

end InterpreterLine

/-- What is started in the end: a program of the system by its name, with all its arguments and the
name by which it is called. -/
structure Launch where
  program : String
  name : Bytes
  arguments : List Bytes
  deriving DecidableEq, Repr

/-- The name of the program at a place in the directories of the system. -/
def programName (place : Place) : String := place.down.getLast?.getD ""

end SyntaxFold.Sandbox

namespace SyntaxFold.Directory

open Sandbox

/-- Finds what is started for the file at a path. So many interpreters may still follow. -/
def launch (directory : Directory) : (limit : Nat) → (path : String) → (name : Bytes) →
    (arguments : List Bytes) → Except FileFault Launch
  | limit, path, name, arguments => do
    match ← directory.locate path with
    | .missing _ => throw .notFound
    | .found place .program => return ⟨programName place, name, arguments⟩
    | .found _ (.file content true) =>
      match InterpreterLine.ofFile? content.bytes with
      | none => throw .wrongFormat
      | some line =>
        match limit with
        | 0 => throw .tooManyLinks
        | limit + 1 =>
          let before := line.argument.toList ++ [Bytes.ofString path]
          if line.path.isEmpty then throw .permissionDenied
          directory.launch limit (Bytes.toStringLossy line.path) line.path (before ++ arguments)
    | .found _ _ => throw .permissionDenied

/-- Finds what is started under a name. A name without a slash is that of a program of the system;
the names of directories are found where programs are searched, but cannot be started. -/
def launchNamed (directory : Directory) (program : String) (name : Bytes)
    (arguments : List Bytes) : Except FileFault Launch :=
  if program.toList.contains '/' then
    directory.launch maxInterpreters program name arguments
  else if programNames.contains program then .ok ⟨program, name, arguments⟩
  else if program = "." ∨ program = ".." then .error .permissionDenied
  else if maxPartLength < program.utf8ByteSize then .error .nameTooLong
  else .error .notFound

end SyntaxFold.Directory
