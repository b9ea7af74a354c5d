/-!
File names taken apart at their runs of digits. A name such as `cam_0012-3.png` consists of the
leading text `cam_`, the runs `0012` and `3` with the texts `-` and the empty one after them, and
the extension `png`. Main statement: putting the parts together gives the name back.
-/

namespace FileSeries

/-- A name between its runs of digits: what stays the same when the numbers change. -/
structure Skeleton where
  lead : List Char
  tails : List (List Char)
  extension : Option (List Char)
  deriving DecidableEq

/-- A name taken apart; each run of digits comes with the text after it. -/
structure FileName where
  lead : List Char
  runs : List (List Char × List Char)
  extension : Option (List Char)
  deriving DecidableEq

/-- The part of a name after the stem: a dot and the extension, if there is one. -/
def extensionText : Option (List Char) → List Char
  | none => []
  | some extension => '.' :: extension

namespace FileName

/-- The extension is the text after the last dot; it is not empty and holds no digit, and its dot
does not start the name. Gives the stem and the extension. -/
def cutExtension (name : List Char) : List Char × Option (List Char) :=
  let last := (name.reverse.takeWhile (· != '.')).reverse
  match name.reverse.dropWhile (· != '.') with
  | _ :: c :: front =>
    if last.isEmpty || last.any Char.isDigit then (name, none)
    else ((c :: front).reverse, some last)
  | _ => (name, none)

/-- The text up to the first digit, and each run of digits with the text after it. -/
def cutRuns : List Char → List Char × List (List Char × List Char)
  | [] => ([], [])
  | c :: rest =>
    match cutRuns rest with
    | (lead, runs) =>
      if c.isDigit then
        match lead, runs with
        | [], (run, text) :: more => ([], (c :: run, text) :: more)
        | _, _ => ([], ([c], lead) :: runs)
      else (c :: lead, runs)

def joinRuns (lead : List Char) (runs : List (List Char × List Char)) : List Char :=
  lead ++ runs.flatMap fun (run, text) => run ++ text

def ofText (name : List Char) : FileName :=
  match cutExtension name with
  | (stem, extension) => ⟨(cutRuns stem).1, (cutRuns stem).2, extension⟩

def toText (n : FileName) : List Char := joinRuns n.lead n.runs ++ extensionText n.extension

/-- The number of runs of digits. -/
def arity (n : FileName) : Nat := n.runs.length

/-- The runs of digits. -/
def fields (n : FileName) : List (List Char) := n.runs.map (·.1)

def skeleton (n : FileName) : Skeleton := ⟨n.lead, n.runs.map (·.2), n.extension⟩

theorem joinRuns_cutRuns (s : List Char) : joinRuns (cutRuns s).1 (cutRuns s).2 = s := by
  induction s with
  | nil => rfl
  | cons c rest ih =>
    unfold cutRuns
    cases h : cutRuns rest with
    | mk lead runs =>
      rw [h] at ih
      by_cases hc : c.isDigit
      · cases lead <;> cases runs <;> simp_all [joinRuns]
      · simp_all [joinRuns]

theorem cutExtension_append (name : List Char) :
    (cutExtension name).1 ++ extensionText (cutExtension name).2 = name := by
  have split : name.reverse.takeWhile (· != '.') ++ name.reverse.dropWhile (· != '.')
      = name.reverse := List.takeWhile_append_dropWhile
  unfold cutExtension
  cases h : name.reverse.dropWhile (· != '.') with
  | nil => simp [extensionText]
  | cons d rest =>
    have hd : d = '.' := by
      have := List.head?_dropWhile_not (· != '.') name.reverse
      rw [h] at this
      simpa using this
    cases rest with
    | nil => simp [extensionText]
    | cons c front =>
      simp only
      split
      · simp [extensionText]
      · have := congrArg List.reverse split
        rw [h] at this
        simpa [extensionText, hd] using this

theorem toText_ofText (name : List Char) : toText (ofText name) = name := by
  have := cutExtension_append name
  cases h : cutExtension name with
  | mk stem extension => simp_all [toText, ofText, joinRuns_cutRuns]

end FileName

namespace Skeleton

/-- A skeleton as text, with a pair of braces for each number. -/
def text (s : Skeleton) : List Char :=
  s.lead ++ s.tails.flatMap (['\x7b', '\x7d'] ++ ·) ++ extensionText s.extension

end Skeleton

end FileSeries
