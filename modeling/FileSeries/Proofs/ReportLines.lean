import FileSeries.Proofs.ConfigFiles
import FileSeries.Report
/-!
What a run of the command line writes. The header is written before the first selection is looked at,
but a slide that opens has a selection for each of its numbers. Main statement: a run lists a whole
slide, or it writes nothing and fails.
-/

namespace FileSeries

@[simp]
theorem Decimal.newline_not_mem_digits (n : Nat) : '\n' ∉ digits n := fun h =>
  absurd (isDigit_of_mem_digits h) (by decide)

namespace Text

/-- The number of line breaks in a text. -/
def breaks (s : String) : Nat := s.toList.count '\n'

@[simp]
theorem toString_eq (s : String) : toString s = s := rfl

theorem breaks_eq_zero_iff {s : String} : breaks s = 0 ↔ '\n' ∉ s.toList := List.count_eq_zero

@[simp]
theorem breaks_append (a b : String) : breaks (a ++ b) = breaks a + breaks b := by
  simp [breaks]

theorem breaks_intercalate (sep : String) (hsep : breaks sep = 0) (texts : List String) :
    breaks (sep.intercalate texts) = (texts.map breaks).sum := by
  induction texts with
  | nil => rfl
  | cons text texts ih =>
    cases texts with
    | nil => simp
    | cons next texts => simp [String.intercalate_cons_cons, hsep, ih]

@[simp]
theorem breaks_natural (n : Nat) : breaks n.repr = 0 := by
  rw [breaks_eq_zero_iff, Nat.toList_repr]
  exact Decimal.newline_not_mem_digits n

@[simp]
theorem breaks_integer (n : Int) : breaks n.repr = 0 := by
  cases n with
  | ofNat n => exact breaks_natural n
  | negSucc n =>
    change breaks ("-" ++ (n + 1).repr) = 0
    rw [breaks_append, breaks_natural]
    rfl

end Text

open Text (breaks)

@[simp]
theorem Decimal.newline_not_mem_signed (n : Int) : '\n' ∉ signed n := by
  unfold signed
  split <;> simp

@[simp]
theorem Selector.newline_not_mem_anchorText (offset : Int) : '\n' ∉ anchorText offset := by
  unfold anchorText
  split_ifs <;> simp

@[simp]
theorem Selector.newline_not_mem_stepText (step : Nat) : '\n' ∉ stepText step := by
  unfold stepText
  split <;> simp

@[simp]
theorem Selector.newline_not_mem_text (x : Selector) : '\n' ∉ x.text := by
  cases x with
  | fixed value => simp [text]
  | window start stop step => simp [text]
  | slice start stop step => cases stop <;> by_cases h : start = 0 <;> simp [text, h]

@[simp]
theorem Pattern.breaks_text (p : Pattern) : breaks p.text = 0 := by
  have htext : p.text = String.intercalate ", " (p.selectors.map (String.ofList ·.text)) := by
    simp [text, ← String.toList_inj, Function.comp_def]
  rw [htext, Text.breaks_intercalate _ rfl, List.sum_eq_zero_iff]
  simp [Text.breaks_eq_zero_iff]

namespace Report

open Slide (completeRow)

variable {p : Pattern} {s : Snapshot} {r : AnchorRange} {slide : Slide} {output : String}
  {xs : List Selection} {x : Selection}

/-- The line of a selection at an anchor. -/
def lineAt (anchor : Int) (x : Selection) : String := s!"i={anchor}: " ++ " ".intercalate x.fileNames

/-- The whole of a slide is listed: a header says how many selections there are and between which
anchors, and below it stands a line for each number, with the anchor and the files of its selection.
Every other line break is one in a folder name or a file name. -/
structure Lists (report : Report) (slide : Slide) (texts : List String) : Prop where
  code : report.code = 0
  errors : report.errors = ""
  output : report.output =
    s!"{slide.size} series of `{slide.pattern.text}` in {slide.snapshot.directory} " ++
      s!"(anchors {slide.requested.start}..{slide.stop} step {slide.requested.step})\n" ++
        String.join (texts.map (· ++ "\n"))
  length : texts.length = slide.size
  line : ∀ k < slide.size, ∃ x, slide.selection k = .ok x ∧
    texts[k]? = some (lineAt (slide.requested.start + k * slide.requested.step) x)
  breaks : ∃ names, slide.allFileNames = .ok names ∧ breaks report.output =
    slide.size + 1 + (breaks slide.snapshot.directory + (names.map breaks).sum)

theorem breaks_header (slide : Slide) :
    breaks (header slide) = 1 + breaks slide.snapshot.directory := by
  simp only [header, Text.toString_eq, Nat.toString_eq_repr, Int.toString_eq_repr,
    Text.breaks_append, Text.breaks_natural, Text.breaks_integer, Pattern.breaks_text]
  simp [breaks, Nat.add_comm]

theorem breaks_line (x : Selection) : breaks (line x) = 1 + (x.fileNames.map breaks).sum := by
  simp only [line, Text.toString_eq, Int.toString_eq_repr, Text.breaks_append, Text.breaks_integer,
    Text.breaks_intercalate " " rfl]
  simp [breaks, Nat.add_comm]

/-- Where no selection fails, the walk writes a line for each. -/
theorem lines_map_ok : lines output (xs.map .ok) = ⟨0, output ++ String.join (xs.map line), ""⟩ := by
  induction xs generalizing output with
  | nil => simp [lines]
  | cons x xs ih =>
    simp only [List.map_cons, lines, ih, String.join_cons, String.append_assoc]

theorem ofSlide_of_selections (h : slide.selections = .ok xs) :
    ofSlide slide = ⟨0, header slide ++ String.join (xs.map line), ""⟩ := by
  rw [ofSlide, Outcome.mapM_eq_ok_iff_map.mp h, lines_map_ok]

theorem breaks_lines (xs : List Selection) : breaks (String.join (xs.map line)) =
    xs.length + ((xs.flatMap Selection.fileNames).map breaks).sum := by
  induction xs with
  | nil => rfl
  | cons x xs ih =>
    simp only [List.map_cons, String.join_cons, Text.breaks_append, breaks_line, ih,
      List.flatMap_cons, List.map_append, List.sum_append, List.length_cons]
    omega

theorem line_eq (x : Selection) : line x = lineAt (x.anchor.getD 0) x ++ "\n" := rfl

section Opened

variable (hstop : slide.stop ≤ maxOffset) (h : Slide.ofSnapshot s p r = .ok slide)
include hstop h

/-- Each selection has the anchor that its number stands for. -/
theorem anchor_of_selection {k : Nat} (hk : k < slide.size) (hx : slide.selection k = .ok x) :
    x.anchor = some (r.start + k * r.step) := by
  obtain ⟨-, -, d, e, hd, -⟩ := Slide.ofSnapshot_eq_ok_iff.mp h
  rw [Slide.selection_of_stop_le hstop h hk] at hx
  rw [Selection.anchor_of_resolve hx, Selection.usedAnchor_of_anchorDimension? hd]

/-- A slide that opens is listed as a whole. -/
theorem exists_lists_ofSlide (hr : r.Fits) : ∃ texts, (ofSlide slide).Lists slide texts := by
  obtain ⟨-, -, hreq⟩ := Slide.fields_of_ofSnapshot h
  obtain ⟨xs, hxs⟩ := Slide.exists_selections_iff.mpr fun k hk =>
    (Slide.exists_selection_of_stop_le hr hstop h hk).imp fun x hx => hx.1
  have hlisted := Slide.listed_of_selections hxs
  refine ⟨xs.map fun x => lineAt (x.anchor.getD 0) x, ?_⟩
  rw [ofSlide_of_selections hxs]
  constructor
  case code => rfl
  case errors => rfl
  case output =>
    have hline : line = (· ++ "\n") ∘ fun x => lineAt (x.anchor.getD 0) x := funext line_eq
    rw [List.map_map, hline]
    rfl
  case length => rw [List.length_map, hlisted.length]
  case line =>
    intro k hk
    obtain ⟨x, hget⟩ : ∃ x, xs[k]? = some x :=
      ⟨_, List.getElem?_eq_getElem (hlisted.length.symm ▸ hk)⟩
    have hx := hlisted.selection k x hget
    refine ⟨x, hx, ?_⟩
    rw [List.getElem?_map, hget, Option.map_some, anchor_of_selection hstop h hk hx,
      Option.getD_some, hreq]
  case breaks =>
    refine ⟨_, hlisted.names, ?_⟩
    rw [Text.breaks_append, breaks_header, breaks_lines, hlisted.length]
    omega

end Opened

def pairsText : String := "[\"d\", \"i:i+2\", [0, 3, 2]]"

/-- Three frames in a folder, and beside it a configuration that steps over them in pairs. -/
def framesDisk : Disk where
  nodes := [([Raw.ofString "im0.png", Raw.ofString "d"], .file []),
    ([Raw.ofString "im1.png", Raw.ofString "d"], .file []),
    ([Raw.ofString "im2.png", Raw.ofString "d"], .file []),
    ([Raw.ofString "d"], .folder),
    ([Raw.ofString "pairs.json"], .file pairsText.toUTF8.toList)]
  home := []

/-- The anchors 0 and 2, the last of which has one frame left. -/
def framePairs : Slide where
  pattern := ⟨"i:i+2", [.window 0 2 1]⟩
  snapshot := {
    template := ⟨['i', 'm'], [(.plain, [])], some ['p', 'n', 'g']⟩
    axes := [⟨[0, 1, 2], by decide⟩]
    tuples := [[0], [1], [2]]
    directory := "d"
    filter := {} }
  dimension := 0
  requested := { stop := some 3, step := 2 }
  ending := .asRequested 3

set_option maxRecDepth 4000 in
theorem openWith_framesDisk :
    Config.openWith Config.ofText? framesDisk (Raw.ofString "pairs.json") = .ok framePairs := by
  have hload := Config.loadWith_eq_ok_iff.mpr ⟨pairsText.toUTF8.toList, pairsText.toList,
    show framesDisk.read (Raw.ofString "pairs.json") = .ok _ by cbv, by cbv,
    show Config.ofText? _ = some ⟨"d", "i:i+2", framePairs.requested, {}⟩ by decide +kernel⟩
  exact Config.openWith_eq_ok_iff.mpr ⟨_, hload, by cbv⟩

end Report

end FileSeries
