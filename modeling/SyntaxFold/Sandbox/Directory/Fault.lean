import SyntaxFold.System

/-!
# File faults

Why a file could not be read, written or run. Each fault has the text by which the system names it,
with its number where it has one.
-/

namespace SyntaxFold.Sandbox

/-- Why a file could not be read, written or run. -/
inductive FileFault where
  | notFound
  /-- An argument of a program is longer than the system allows. -/
  | argumentTooLong
  /-- A file that may be run is neither a program nor a script. -/
  | wrongFormat
  | permissionDenied
  | notDirectory
  | isDirectory
  | noSpace
  /-- A program ended before it had taken its input. -/
  | brokenPipe
  | nameTooLong
  /-- Scripts name each other as their interpreters. -/
  | tooManyLinks
  /-- A name or an argument holds the character that ends one. -/
  | holdsNul
  /-- The bytes of the file are not the encoding of a text. -/
  | notText
  deriving DecidableEq, Repr

namespace FileFault

/-- What a fault is called. -/
def reason : FileFault → String
  | notFound => "No such file or directory"
  | argumentTooLong => "Argument list too long"
  | wrongFormat => "Exec format error"
  | permissionDenied => "Permission denied"
  | notDirectory => "Not a directory"
  | isDirectory => "Is a directory"
  | noSpace => "No space left on device"
  | brokenPipe => "Broken pipe"
  | nameTooLong => "File name too long"
  | tooManyLinks => "Too many levels of symbolic links"
  | holdsNul => "nul byte found in provided data"
  | notText => "stream did not contain valid UTF-8"

/-- The number that the system has for a fault. -/
def number? : FileFault → Option Nat
  | notFound => some 2
  | argumentTooLong => some 7
  | wrongFormat => some 8
  | permissionDenied => some 13
  | notDirectory => some 20
  | isDirectory => some 21
  | noSpace => some 28
  | brokenPipe => some 32
  | nameTooLong => some 36
  | tooManyLinks => some 40
  | holdsNul | notText => none

/-- The fault as commands see it. -/
def toSystemFault (fault : FileFault) : SystemFault := ⟨fault.reason, fault.number?⟩

end FileFault

end SyntaxFold.Sandbox
