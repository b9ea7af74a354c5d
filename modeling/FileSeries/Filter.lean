import FileSeries.Glob
/-!
Filters: which files of a folder are looked at. A filter is given by its options and compiled into a
matcher of names before use.
-/

namespace FileSeries

/-- The options of a filter. Without extensions every extension is accepted, without a glob every
name, and names that start with a dot are left out unless hidden files are asked for. -/
structure Filter where
  extensions : List String := []
  glob : Option String := none
  hidden : Bool := false
  deriving DecidableEq

namespace Filter

/-- An extension in the form in which extensions are compared: without dots in front, in lower case
as far as it is ASCII. -/
def plainExtension (extension : List Char) : List Char :=
  (extension.dropWhile (· == '.')).map Char.toLower

/-- The filter that accepts one extension. -/
def ofExtension (extension : String) : Filter :=
  { extensions := [String.ofList (plainExtension extension.toList)] }

/-- A filter ready for use, with a test of whole names in place of its glob. -/
structure Matcher where
  extensions : List (List Char)
  glob : Option (List Char → Bool)
  hidden : Bool

/-- Makes a filter ready, with `readGlob` for the text of its glob. -/
def compile (readGlob : Glob.Reader) (f : Filter) : Except Glob.Failure Matcher := do
  let glob ← f.glob.mapM (readGlob ·.toList)
  return {
    extensions := (f.extensions.map (plainExtension ·.toList)).filter (!·.isEmpty)
    glob
    hidden := f.hidden }

/-- The text after the last dot of a name. -/
def afterLastDot? (name : List Char) : Option (List Char) :=
  if name.contains '.' then some (name.reverse.takeWhile (· != '.')).reverse else none

namespace Matcher

def acceptsHidden (m : Matcher) (name : List Char) : Bool := m.hidden || name.head? != some '.'

def acceptsExtension (m : Matcher) (name : List Char) : Bool :=
  m.extensions.isEmpty || (afterLastDot? name).any (m.extensions.contains <| ·.map Char.toLower)

def acceptsGlob (m : Matcher) (name : List Char) : Bool := m.glob.all (· name)

def accepts (m : Matcher) (name : List Char) : Bool :=
  m.acceptsHidden name && m.acceptsExtension name && m.acceptsGlob name

end Matcher

end Filter

end FileSeries
