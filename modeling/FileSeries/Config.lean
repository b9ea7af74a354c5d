import FileSeries.Json.Value
import FileSeries.Slide
/-!
Configurations: all that is needed to open a slide, kept in a JSON file.
-/

namespace FileSeries

/-- A folder, a pattern, the anchors that the pattern takes and the files that are looked at. -/
structure Config where
  directory : String
  pattern : String
  range : AnchorRange := {}
  filter : Filter := {}
  deriving DecidableEq

namespace Config

open Json (Value)

/-- A field that may be absent, but not of a wrong form. -/
def fieldOr {α : Type} (fallback : α) (read : Value → Option α) : Option Value → Option α
  | none => some fallback
  | some v => read v

/-- A value, or nothing for `null`. -/
def nullable {α : Type} (read : Value → Option α) : Value → Option (Option α)
  | .null => some none
  | v => (read v).map some

def offset? : Value → Option Int := Value.integer? minOffset maxOffset

def step? (v : Value) : Option Nat := (v.integer? 0 maxIndex).map Int.toNat

def strings? (v : Value) : Option (List String) := do (← v.list?).mapM Value.string?

def range? (v : Value) : Option AnchorRange := do
  match ← v.members? ["start", "stop", "step"] with
  | [start, stop, step] =>
    return {
      start := ← fieldOr 0 offset? start
      stop := ← fieldOr none (nullable offset?) stop
      step := ← fieldOr 1 step? step }
  | _ => none

def filter? (v : Value) : Option Filter := do
  match ← v.members? ["extensions", "name_glob", "include_hidden"] with
  | [extensions, glob, hidden] =>
    return {
      extensions := ← fieldOr [] strings? extensions
      glob := ← fieldOr none (nullable Value.string?) glob
      hidden := ← fieldOr false Value.bool? hidden }
  | _ => none

def ofValue? (v : Value) : Option Config := do
  match ← v.members? ["directory", "pattern", "range", "scan"] with
  | [directory, pattern, range, filter] =>
    return {
      directory := ← directory.bind Value.string?
      pattern := ← pattern.bind Value.string?
      range := ← fieldOr {} range? range
      filter := ← fieldOr {} filter? filter }
  | _ => none

/-- The configuration that a text holds. -/
def ofText? (text : List Char) : Option Config := (Json.parse? text).bind ofValue?

/-- Reads a configuration from a file, with `read` for its text. -/
def loadWith (read : List Char → Option Config) (d : Disk) (path : Raw) : Except Fault Config :=
  match d.read path with
  | .error failure => .error (.config (.unreadable path.shown failure))
  | .ok bytes =>
    match (Raw.ofBytes bytes).text? with
    | none => .error (.config (.unreadable path.shown .notText))
    | some text =>
      match read text with
      | none => .error (.config (.malformed path.shown))
      | some config => .ok config

/-- Reads a configuration from a file. -/
def load (d : Disk) (path : String) : Except Fault Config :=
  loadWith ofText? d (Raw.ofString path)

/-- Scans the folder and slides the pattern over it. -/
def slide (c : Config) (d : Disk) : Logged Slide :=
  Slide.scan d c.directory c.pattern c.range c.filter

/-- Reads a configuration from a file and opens its slide. -/
def openWith (read : List Char → Option Config) (d : Disk) (path : Raw) : Except Fault Slide := do
  let config ← loadWith read d path
  (config.slide d).outcome

/-- Scans the folder and resolves a pattern that needs no anchor. -/
def selection (c : Config) (d : Disk) : Logged Selection := do
  let p ← Logged.ofExcept ((Pattern.parse c.pattern).mapError Fault.pattern)
  let snapshot ← Snapshot.scan d c.directory p.arity c.filter
  Selection.resolveLogged p snapshot none

end Config

end FileSeries
