import FileSeries.Box
import FileSeries.Pattern
import FileSeries.Snapshot
import FileSeries.Walk
/-!
Selections: the files that a pattern chooses from a snapshot, in order. The tuples of a selection
form a box, and each tuple that the count of the box reaches was scanned.
-/

namespace FileSeries

/-- The files chosen by a pattern at an anchor, if it uses one. -/
structure Selection where
  snapshot : Snapshot
  anchor : Option Int
  box : Box
  /-- Whether a slice reaches past the end of its axis and was cut there. -/
  clipped : Bool

namespace Selection

/-- The choices of selectors on their axes, the first of which is that of `dimension`. -/
def chooseAll (anchor : Option Int) (dimension : Nat) :
    List Selector → List Axis → Except Fault (List Selector.Choice)
  | selector :: selectors, axis :: axes =>
    match selector.choose anchor axis with
    | .error refusal => .error (.outOfRange (.refused dimension refusal))
    | .ok choice => do return choice :: (← chooseAll anchor (dimension + 1) selectors axes)
  | _, _ => .ok []

/-- If all selectors choose something, so does the one of each dimension. -/
theorem exists_choose_of_chooseAll {anchor : Option Int} {i d : Nat} {selectors : List Selector}
    {axes : List Axis} {cs : List Selector.Choice} {selector : Selector} {axis : Axis}
    (h : chooseAll anchor i selectors axes = .ok cs) (hs : selectors[d]? = some selector)
    (hx : axes[d]? = some axis) : ∃ c, selector.choose anchor axis = .ok c := by
  induction selectors generalizing i d axes cs with
  | nil => simp at hs
  | cons first selectors ih =>
    cases axes with
    | nil => simp at hx
    | cons firstAxis axes =>
      rw [chooseAll] at h
      cases hc : first.choose anchor firstAxis with
      | error refusal => simp [hc] at h
      | ok c =>
        cases hrest : chooseAll anchor (i + 1) selectors axes with
        | error e => simp [hc, hrest, bind, Except.bind] at h
        | ok rest =>
          cases d with
          | zero => exact ⟨c, by simp_all⟩
          | succ d => exact ih hrest (by simpa using hs) (by simpa using hx)

/-- The anchor that a pattern uses: none if it has no window. -/
def usedAnchor (p : Pattern) (anchor : Option Int) : Option Int :=
  if p.anchorDimension?.isSome then anchor else none

theorem usedAnchor_of_anchorDimension? {p : Pattern} {d : Nat} (hd : p.anchorDimension? = some d)
    (anchor : Option Int) : usedAnchor p anchor = anchor := by
  simp [usedAnchor, hd]

/-- The files that a pattern chooses. It fails with the first dimension where nothing is chosen, and
then with the first tuple of its box that was not scanned. -/
def resolve (p : Pattern) (s : Snapshot) (anchor : Option Int) : Except Fault Selection := do
  (p.checkArity s.arity).mapError Fault.pattern
  let anchor := usedAnchor p anchor
  let choices ← chooseAll anchor 0 p.selectors s.axes
  let box : Box := choices.map (·.values)
  match box.firstUnknown? s.tuples with
  | some tuple =>
    throw (.outOfRange (.unscanned tuple p.text (String.ofList (s.template.format tuple))))
  | none => return { snapshot := s, anchor, box, clipped := choices.any (·.clipped) }

theorem chooseAll_of_resolve {p : Pattern} {s : Snapshot} {anchor : Option Int} {x : Selection}
    (h : resolve p s anchor = .ok x) : p.arity = s.arity ∧
      ∃ cs, chooseAll (usedAnchor p anchor) 0 p.selectors s.axes = .ok cs := by
  by_cases harity : p.arity = s.arity
  · have hcheck : p.checkArity s.arity = .ok () := if_pos harity
    cases hcs : chooseAll (usedAnchor p anchor) 0 p.selectors s.axes with
    | error e =>
      rw [resolve, hcheck] at h
      dsimp only at h
      rw [hcs] at h
      cases show Except.error e = .ok x from h
    | ok cs => exact ⟨harity, cs, rfl⟩
  · have hcheck : p.checkArity s.arity = .error _ := if_neg harity
    rw [resolve, hcheck] at h
    cases show Except.error _ = Except.ok x from h

/-- The note that a given anchor is not used. -/
def anchorNotes (p : Pattern) (s : Snapshot) (anchor : Option Int) : List Note :=
  match anchor with
  | some anchor =>
    if p.arity = s.arity && p.anchorDimension?.isNone then [.ignoredAnchor p.text anchor] else []
  | none => []

/-- Resolves a pattern and notes an anchor that is not used. -/
def resolveLogged (p : Pattern) (s : Snapshot) (anchor : Option Int) : Logged Selection :=
  .noting (anchorNotes p s anchor) (resolve p s anchor)

/-- The number of files. -/
def size (s : Selection) : Nat := s.box.count

/-- The tuples of all files in order. -/
def tuples (s : Selection) : List Indices := s.box.list

/-- A walk through the tuples in order. -/
def walk (s : Selection) : Walk Indices :=
  { size := s.size, item? := fun position => some (s.box.tupleAt position) }

/-- The tuple at a position. -/
def indicesAt (s : Selection) (position : Nat) : Except Fault Indices :=
  if position < s.size then .ok (s.box.tupleAt position)
  else .error (.outOfRange (.noPosition position s.size))

/-- The position of a tuple. -/
def positionOf? (s : Selection) (indices : Indices) : Option Nat := s.box.positionOf? indices

def fileNames (s : Selection) : List String :=
  s.tuples.map fun tuple => String.ofList (s.snapshot.template.format tuple)

def paths (s : Selection) : List String := s.fileNames.map (Path.join s.snapshot.directory)

/-- The indices in the file name of a path. -/
def indicesOfPath (s : Selection) (path : Raw) : Except Fault Indices :=
  match (Path.fileName? path).bind Raw.text? with
  | none => .error (.outOfRange (.noFileName path))
  | some name =>
    match s.snapshot.template.parse? name with
    | some indices => .ok indices
    | none => .error (.outOfRange
        (.foreignName (String.ofList name) (String.ofList s.snapshot.template.text)))

/-- Fails with the first path that does not lead to a file. -/
def checkFiles (s : Selection) (d : Disk) : Except Fault Unit :=
  match s.paths.find? fun path => !d.isFile (Raw.ofString path) with
  | some path => .error (.missingFile path)
  | none => .ok ()

end Selection

end FileSeries
