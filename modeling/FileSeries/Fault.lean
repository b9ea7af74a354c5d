import FileSeries.Glob
import FileSeries.Pattern.Defect
import FileSeries.Selector
import FileSeries.Snapshot.Defect
import FileSeries.Text.Raw
/-!
Faults: everything that an operation of this library can fail with, and the message for each.
-/

namespace FileSeries

/-- A position, tuple, value or name outside of what was scanned. -/
inductive OutOfRange where
  | refused (dimension : Nat) (refusal : Selector.Refusal)
  | unscanned (indices : Indices) (pattern : String) (name : String)
  | wrongLength (indices : Indices) (expected : Nat)
  | noPosition (position size : Nat)
  | noSelection (index size : Nat)
  | noFileName (path : Raw)
  | foreignName (name template : String)
  | noAnchor (start : Int) (stop : Option Int) (pattern : String)
  deriving DecidableEq

namespace OutOfRange

/-- The dimension that it is about. -/
def dimension? : OutOfRange → Option Nat
  | refused dimension _ => some dimension
  | _ => none

/-- The tuple that it is about. -/
def indices? : OutOfRange → Option Indices
  | unscanned indices .. | wrongLength indices _ => some indices
  | _ => none

def detail : OutOfRange → String
  | refused _ refusal => refusal.message
  | unscanned _ pattern name => s!"pattern `{pattern}` names {name} which was not found by the scan"
  | wrongLength indices expected => s!"expected {expected} indices, got {indices.length}"
  | noPosition position size => s!"position {position} is beyond the {size} files of the serie"
  | noSelection index size => s!"serie {index} requested but there are only {size}"
  | noFileName path => s!"{path.shown} has no file name"
  | foreignName name template => s!"{name} does not follow the naming template {template}"
  | noAnchor start (some stop) pattern =>
    s!"no anchor in {start}..{stop} yields a serie for `{pattern}`"
  | noAnchor start none pattern => s!"no anchor from {start} yields a complete serie for `{pattern}`"

/-- Indices in brackets. -/
def indicesText (indices : Indices) : String :=
  "[" ++ ", ".intercalate (indices.map fun n => toString n) ++ "]"

/-- Where it is, as an addition to a message. -/
def location (o : OutOfRange) : String :=
  (match o.dimension? with
    | some dimension => s!" in dimension {dimension}"
    | none => "") ++
  (match o.indices? with
    | some indices => " at indices " ++ indicesText indices
    | none => "")

end OutOfRange

/-- What is wrong with a configuration or with an option. -/
inductive ConfigDefect where
  | badGlob (glob : String) (failure : Glob.Failure)
  | zeroStep
  | negativeStart (start : Int)
  | unreadable (path : String) (failure : Disk.Failure)
  | malformed (path : String)
  deriving DecidableEq

namespace ConfigDefect

def message : ConfigDefect → String
  | badGlob glob failure =>
    s!"invalid name glob {Text.quote glob}: Pattern syntax error near position " ++
      s!"{failure.position}: {failure.defect.message}"
  | zeroStep => "anchor step must be at least 1"
  | negativeStart start => s!"anchor start must not be negative, got {start}"
  | unreadable path failure => s!"failed to read series config {path}: {failure.message}"
  | malformed path => s!"failed to parse series config {path}"

end ConfigDefect

/-- A failed operation. -/
inductive Fault where
  /-- A refusal of the disk that a loader passes on as it is. -/
  | disk (failure : Disk.Failure)
  | scan (directory : String) (defect : Snapshot.Defect)
  | pattern (error : Pattern.SyntaxError)
  | outOfRange (reason : OutOfRange)
  | missingFile (path : String)
  | load (path : String) (failure : Disk.Failure)
  | config (defect : ConfigDefect)
  deriving DecidableEq

namespace Fault

def message : Fault → String
  | disk failure => "IO error: " ++ failure.message
  | scan directory defect => s!"Scan error in {directory}: {defect.message}"
  | pattern error =>
    s!"Pattern syntax error near {Text.quote (String.ofList error.fragment)} at byte " ++
      s!"{error.position}: {error.defect.message}"
  | outOfRange reason => s!"Out of range{reason.location}: {reason.detail}"
  | missingFile path => "Missing file: " ++ path
  | load path failure => s!"Load error for {path}: {failure.message}"
  | config defect => "Config error: " ++ defect.message

end Fault

end FileSeries
