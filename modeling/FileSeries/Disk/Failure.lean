/-!
Why a disk refuses an operation.
-/

namespace FileSeries.Disk

/-- A refusal by the disk, or a content that is not a text. -/
inductive Failure where
  | notFound
  | notFolder
  | isFolder
  | notMappable
  | nameTooLong
  | tooManyLinks
  | nulInPath
  | notText
  deriving DecidableEq

namespace Failure

/-- The number of a refusal in the tables of the system. -/
def code? : Failure → Option Nat
  | notFound => some 2
  | notMappable => some 19
  | notFolder => some 20
  | isFolder => some 21
  | nameTooLong => some 36
  | tooManyLinks => some 40
  | nulInPath | notText => none

def reason : Failure → String
  | notFound => "No such file or directory"
  | notMappable => "No such device"
  | notFolder => "Not a directory"
  | isFolder => "Is a directory"
  | nameTooLong => "File name too long"
  | tooManyLinks => "Too many levels of symbolic links"
  | nulInPath => "file name contained an unexpected NUL byte"
  | notText => "stream did not contain valid UTF-8"

def message (f : Failure) : String :=
  match f.code? with
  | none => f.reason
  | some code => s!"{f.reason} (os error {code})"

end Failure

end FileSeries.Disk
