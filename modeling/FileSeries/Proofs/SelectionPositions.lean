import FileSeries.Proofs.BoxPositions
import FileSeries.Proofs.SelectionResolve
import FileSeries.Proofs.WalkRest
import Mathlib
/-!
The positions of the files of a selection. Main statement: as long as the exact number of tuples is
an index, the walk through a selection, the tuple at a position and the position of a tuple are one
bijection between the numbers below the size and the tuples that have a chosen value in each
dimension, and it keeps the order; with more tuples the size is no longer their number.
-/

namespace FileSeries.Selection

variable {p : Pattern} {s : Snapshot} {anchor : Option Int} {x : Selection} {t : Indices}

/-- The tuples that the walk through a selection visits. -/
def visited (x : Selection) : List Indices := x.walk.rest.map (·.2)

/-- A selection numbers the tuples with a chosen value in each dimension. -/
structure Numbers (x : Selection) : Prop where
  size : x.size = (x.box.map List.length).prod ∧ 1 ≤ x.size
  visited : x.visited.length = x.size ∧ x.visited.Pairwise (· < ·)
  mem : ∀ t, t ∈ x.visited ↔ List.Forall₂ (fun n choices => n ∈ choices) t x.box
  indices : ∀ k t, x.indicesAt k = .ok t ↔ x.visited[k]? = some t
  beyond : ∀ k, x.size ≤ k → x.indicesAt k = .error (.outOfRange (.noPosition k x.size))
  position : ∀ t k, x.positionOf? t = some k ↔ k < x.size ∧ x.indicesAt k = .ok t
  absent : ∀ t, x.positionOf? t = none ↔
    ¬List.Forall₂ (fun n choices => n ∈ choices) t x.box
  /-- Some steps on, the walk has left that many tuples behind and all others to come. -/
  steps : ∀ j, (x.walk.skip j).1 = min j x.size ∧
    (x.walk.skip j).2.left = x.size - min j x.size ∧
    (x.walk.skip j).2.position + (x.walk.skip j).2.left = x.size ∧
    (x.walk.skip j).2.rest.map (·.2) = x.visited.drop j

theorem through_walk (x : Selection) : x.walk.Through x.tuples where
  size := x.length_tuples.symm
  item k hk := by
    have hlt : k < x.box.count := hk
    simp [walk, tuples, Box.list, hlt]

theorem visited_eq_tuples (x : Selection) : x.visited = x.tuples := x.through_walk.map_rest

theorem length_visited (x : Selection) : x.visited.length = x.size := by
  rw [visited_eq_tuples, length_tuples]

theorem indicesAt_of_le {k : Nat} (h : x.size ≤ k) :
    x.indicesAt k = .error (.outOfRange (.noPosition k x.size)) := by
  rw [indicesAt, if_neg (Nat.not_lt.mpr h)]

theorem skip_walk (x : Selection) (j : Nat) :
    x.walk.skip j = (min j x.size, { x.walk with position := min j x.size }) := by
  have hskip := x.through_walk.skip_eq j
  have hleft : x.walk.left = x.size := rfl
  have hstart : x.walk.position = 0 := rfl
  rwa [hleft, hstart, Nat.zero_add] at hskip

theorem map_rest_skip_walk (x : Selection) (j : Nat) :
    (x.walk.skip j).2.rest.map (·.2) = x.visited.drop j := by
  have hsize := x.length_tuples
  rw [skip_walk, (x.through_walk.move (min j x.size)).map_rest, visited_eq_tuples]
  rcases Nat.le_total j x.size with hle | hge
  · rw [Nat.min_eq_left hle]
  · rw [Nat.min_eq_right hge, List.drop_eq_nil_of_le hsize.le,
      List.drop_eq_nil_of_le (hsize.trans_le hge)]

theorem numbers_of_size_le (h : resolve p s anchor = .ok x)
    (hsize : Box.size x.box ≤ maxIndex) : x.Numbers := by
  have htuples : x.tuples = Box.tuples x.box := Box.list_eq_tuples hsize
  have hnodup : ∀ choices ∈ x.box, choices.Nodup := fun choices hm =>
    (pairwise_of_mem_box h hm).imp fun hlt => hlt.ne
  constructor
  case size =>
    have hcount : x.size = Box.size x.box := Box.count_of_size_le hsize
    exact ⟨hcount, hcount ▸ Box.size_pos fun choices => ne_nil_of_mem_box h⟩
  case visited => exact ⟨x.length_visited, x.visited_eq_tuples ▸ pairwise_tuples h hsize⟩
  case mem =>
    intro t
    rw [visited_eq_tuples, htuples, Box.mem_tuples_iff]
  case indices =>
    intro k t
    rw [indicesAt_eq_ok_iff, visited_eq_tuples]
  case beyond => exact fun k hk => indicesAt_of_le hk
  case position =>
    intro t k
    rw [indicesAt_eq_ok_iff, htuples, positionOf?, Box.positionOf?_eq_some_iff hnodup hsize,
      ← htuples, ← length_tuples]
    exact (and_iff_right_of_imp fun ht => (List.getElem?_eq_some_iff.mp ht).1).symm
  case absent => exact fun t => Box.positionOf?_eq_none_iff
  case steps =>
    intro j
    have hrest := x.map_rest_skip_walk j
    have hwalk : x.walk.size = x.size := rfl
    rw [skip_walk] at hrest ⊢
    refine ⟨rfl, rfl, ?_, hrest⟩
    simp only [Walk.left, hwalk]
    omega

/-- Five rows of four files, `file0_0.png` to `file4_3.png`. -/
def fiveRows : Snapshot where
  template := ⟨"file".toList, [(.plain, "_".toList), (.plain, [])], some "png".toList⟩
  axes := [⟨List.range 5, by decide⟩, ⟨List.range 4, by decide⟩]
  tuples := (List.range 5).flatMap fun i => (List.range 4).map fun j => [i, j]
  directory := "d"
  filter := {}

def everyOtherRow : Pattern := ⟨"0:5:2, :", [.slice 0 (some 5) 2, .slice 0 none 1]⟩

/-- Two files with 64 numbers in their names, all of them zero or all of them one. -/
def corners : Snapshot where
  template := ⟨[], List.replicate 63 (.plain, ['_']) ++ [(.plain, [])], some ['p', 'n', 'g']⟩
  axes := List.replicate 64 (.ofValues [0, 1])
  tuples := [List.replicate 64 0, List.replicate 64 1]
  directory := "d"
  filter := {}

def cornersDisk : Disk where
  nodes := [
    ([Raw.ofText (corners.template.format (List.replicate 64 0)), Raw.ofString "d"], .file []),
    ([Raw.ofText (corners.template.format (List.replicate 64 1)), Raw.ofString "d"], .file []),
    ([Raw.ofString "d"], .folder)]
  home := []

set_option maxRecDepth 20000 in
theorem corners_scanned : (Snapshot.scan cornersDisk "d" 64 {}).outcome = .ok corners := by cbv

/-- A colon for each of the 64 numbers. -/
def everyCorner : Pattern where
  source := String.ofList (List.intercalate [','] (List.replicate 64 [':']))
  selectors := List.replicate 64 (.slice 0 none 1)

end FileSeries.Selection
