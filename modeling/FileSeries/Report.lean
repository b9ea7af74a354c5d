import FileSeries.Config
/-!
The report of the command line: the selections of a configuration, one on a line.
-/

namespace FileSeries

/-- What a run leaves behind: its exit code and the texts that it wrote. -/
structure Report where
  code : Nat
  output : String
  errors : String
  deriving DecidableEq

namespace Report

/-- The report of a run without a configuration. -/
def usage : Report := ⟨2, "", "usage: list-series <config.json>\n"⟩

/-- The report of a run that wrote `output` and then failed. -/
def failed (output : String) (f : Fault) : Report := ⟨1, output, s!"list-series: {f.message}\n"⟩

def header (s : Slide) : String :=
  s!"{s.size} series of `{s.pattern.text}` in {s.snapshot.directory} " ++
    s!"(anchors {s.requested.start}..{s.stop} step {s.requested.step})\n"

def line (s : Selection) : String :=
  s!"i={s.anchor.getD 0}: " ++ " ".intercalate s.fileNames ++ "\n"

/-- Writes a line for each selection up to the first that fails. -/
def lines (output : String) : List (Except Fault Selection) → Report
  | [] => ⟨0, output, ""⟩
  | .ok s :: rest => lines (output ++ line s) rest
  | .error f :: _ => failed output f

/-- The report on a slide. -/
def ofSlide (s : Slide) : Report := lines (header s) ((List.range s.size).map s.selection)

/-- The report on the configuration in a file. -/
def ofConfig (read : List Char → Option Config) (d : Disk) (path : Raw) : Report :=
  match Config.openWith read d path with
  | .error f => failed "" f
  | .ok slide => ofSlide slide

/-- The report of a run with these arguments; only the first of them counts. -/
def ofRawArguments (read : List Char → Option Config) (d : Disk) : List Raw → Report
  | [] => usage
  | path :: _ => ofConfig read d path

def ofArguments (d : Disk) (arguments : List String) : Report :=
  ofRawArguments Config.ofText? d (arguments.map Raw.ofString)

end Report

end FileSeries
