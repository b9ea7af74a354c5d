import FileSeries.Axis
import FileSeries.Fault
/-!
Notes: what an operation reports about its course besides its result. Notes are kept also when the
operation fails.
-/

namespace FileSeries

/-- An event worth a line in a log. -/
inductive Note where
  | skippedName (name : Raw)
  | scanned (directory : String) (kept listed : Nat) (template : String) (axes : List Axis)
  | ignoredAnchor (pattern : String) (anchor : Int)
  | onlyClipped (anchor : Int)
  | noTrailing (anchor : Int)
  | stopLowered (requested stop : Int)
  | opened (pattern directory : String) (start stop : Int) (step : Nat) (requested : Option Int)
      (count : Nat)

namespace Note

/-- How important a note is. -/
inductive Level where
  | info
  | debug
  deriving DecidableEq

def Level.name : Level → String
  | info => "INFO"
  | debug => "DEBUG"

def level : Note → Level
  | scanned .. => .info
  | _ => .debug

/-- The number of values on an axis and its two ends. -/
def axisText (x : Axis) : String :=
  match x.min?, x.max? with
  | some min, some max => s!"{x.size} values in [{min}, {max}]"
  | _, _ => "empty"

def requestedText : Option Int → String
  | some stop => s!"Some({stop})"
  | none => "None"

def text : Note → String
  | skippedName name => "skipping non UTF-8 file name " ++ name.quoted
  | scanned directory kept listed template axes =>
    s!"scanned {directory}: {kept} of {listed} files follow {template} " ++
      "(" ++ "; ".intercalate (axes.map axisText) ++ ")"
  | ignoredAnchor pattern anchor => s!"pattern `{pattern}` has no anchor, ignoring anchor {anchor}"
  | onlyClipped anchor => s!"only a clipped serie at anchor {anchor} fits the requested range"
  | noTrailing anchor => s!"trailing serie at anchor {requestedText (some anchor)} does not resolve"
  | stopLowered requested stop => s!"requested stop {requested} clamped to {stop}"
  | opened pattern directory start stop step requested count =>
    s!"series `{pattern}` over {directory}: anchors {start}..{stop} step {step} " ++
      s!"(requested stop {requestedText requested}), {count} series"

/-- A note as a line of a log. -/
def line (n : Note) : String := n.level.name ++ " " ++ n.text

end Note

/-- The result of an operation with the notes made on the way. -/
structure Logged (α : Type) where
  notes : List Note
  outcome : Except Fault α

namespace Logged

variable {α β : Type}

def ofExcept (x : Except Fault α) : Logged α := ⟨[], x⟩

def fail (f : Fault) : Logged α := ⟨[], .error f⟩

/-- A result with notes before it. -/
def noting (notes : List Note) (x : Except Fault α) : Logged α := ⟨notes, x⟩

/-- Goes on with the result of an operation; its notes come first. -/
def andThen (x : Logged α) (f : α → Logged β) : Logged β :=
  match x.outcome with
  | .error e => ⟨x.notes, .error e⟩
  | .ok a => ⟨x.notes ++ (f a).notes, (f a).outcome⟩

instance : Monad Logged where
  pure a := ⟨[], .ok a⟩
  bind := andThen

end Logged

end FileSeries
