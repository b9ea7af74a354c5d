import FileSeries.Slide.Ending
/-!
Slides: a pattern with a window, moved over a snapshot from anchor to anchor. A slide hands out one
selection for each anchor, by its number, by a walk or by its cursor.
-/

namespace FileSeries

/-- A pattern that slides over a snapshot. -/
structure Slide where
  pattern : Pattern
  snapshot : Snapshot
  /-- The dimension of the window. -/
  dimension : Nat
  requested : AnchorRange
  ending : Slide.Ending
  /-- The number of selections that `next` has handed out. -/
  cursor : Nat := 0

namespace Slide

/-- The first anchor beyond the range. -/
def stop (s : Slide) : Int := s.ending.stop

/-- The number of selections. -/
def size (s : Slide) : Nat := AnchorRange.count s.requested.start s.stop s.requested.step

/-- The slide of a pattern over a snapshot; it has at least one selection. -/
def ofSnapshot (snapshot : Snapshot) (p : Pattern) (r : AnchorRange) : Except Fault Slide := do
  r.check
  (p.checkArity snapshot.arity).mapError Fault.pattern
  match p.anchorDimension? with
  | none => throw (.pattern (p.errorAt 0 .anchorNeeded))
  | some dimension =>
    let ending ← endingOf p snapshot r dimension
    let slide : Slide := { pattern := p, snapshot, dimension, requested := r, ending }
    if slide.size = 0 then throw (.outOfRange (.noAnchor r.start r.stop p.text))
    else return slide

/-- The notes on how the range of a slide was found. -/
def notes (s : Slide) : List Note :=
  s.ending.notes ++ [.opened s.pattern.text s.snapshot.directory s.requested.start s.stop
    s.requested.step s.requested.stop s.size]

def ofSnapshotLogged (snapshot : Snapshot) (p : Pattern) (r : AnchorRange) : Logged Slide :=
  match ofSnapshot snapshot p r with
  | .error e => .fail e
  | .ok slide => .noting slide.notes (.ok slide)

/-- Scans a folder for files with as many numbers as the pattern has dimensions, and slides the
pattern over them. -/
def scan (d : Disk) (directory : String) (pattern : String) (r : AnchorRange) (filter : Filter) :
    Logged Slide := do
  let p ← Logged.ofExcept ((Pattern.parse pattern).mapError Fault.pattern)
  let snapshot ← Snapshot.scan d directory p.arity filter
  ofSnapshotLogged snapshot p r

def anchorAt? (s : Slide) (index : Nat) : Option Int :=
  if index < s.size then AnchorRange.nth? s.requested.start index s.requested.step else none

/-- The selection with a number. -/
def selection (s : Slide) (index : Nat) : Except Fault Selection :=
  match s.anchorAt? index with
  | some anchor => resolveAt s.pattern s.snapshot anchor
  | none => .error (.outOfRange (.noSelection index s.size))

/-- The selection at the cursor, and the slide with the cursor moved on; nothing once all selections
were handed out. -/
def next? (s : Slide) : Option (Except Fault Selection × Slide) :=
  if s.cursor < s.size then some (s.selection s.cursor, { s with cursor := s.cursor + 1 }) else none

def reset (s : Slide) : Slide := { s with cursor := 0 }

/-- A walk through all selections; the cursor stays where it is. -/
def walk (s : Slide) : Walk (Except Fault Selection) :=
  { size := s.size, item? := fun index => some (s.selection index) }

/-- All selections in order. -/
def selections (s : Slide) : Except Fault (List Selection) := (List.range s.size).mapM s.selection

/-- The names of the files of all selections; where selections overlap, names come again. -/
def allFileNames (s : Slide) : Except Fault (List String) := do
  return (← s.selections).flatMap Selection.fileNames

def allPaths (s : Slide) : Except Fault (List String) := do
  return (← s.selections).flatMap Selection.paths

end Slide

end FileSeries
