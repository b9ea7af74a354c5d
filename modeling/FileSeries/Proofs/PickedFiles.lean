import FileSeries.Proofs.Pattern.RoundTrip
import FileSeries.Proofs.SelectionFiles
/-!
Files picked by their own indices. Indices with commas between them are a pattern as long as none
of them is larger than all offsets. Main statement: exactly then a scanned file is picked by its
indices, and nothing else is picked with it.
-/

namespace FileSeries

theorem Box.list_map_singleton (t : Indices) : list (t.map fun n => [n]) = [t] := by
  have hsize : size (t.map fun n => [n]) = 1 := by simp [size, Function.comp_def]
  rw [list_eq_tuples (hsize.trans_le (by decide))]
  induction t with
  | nil => rfl
  | cons n t ih =>
    rw [List.map_cons, tuples, ih (by simp [size, Function.comp_def])]
    rfl

namespace Pattern

variable {p : Pattern} {t : Indices}

/-- Indices with commas between them. -/
def indicesText (t : Indices) : String :=
  String.ofList (List.intercalate [','] (t.map Decimal.digits))

theorem wellFormed_fixed (hne : t ≠ []) (h : ∀ n ∈ t, (n : Int) ≤ maxOffset) :
    WellFormed (t.map .fixed) := by
  constructor
  case nonempty => exact mt List.map_eq_nil_iff.mp hne
  case fits =>
    intro x hx
    obtain ⟨n, hn, rfl⟩ := List.mem_map.mp hx
    exact h n hn
  case once =>
    have hnone : (t.map Selector.fixed).countP Selector.isAnchored = 0 := by
      simp [Selector.isAnchored]
    omega

theorem exists_parse_indicesText (hne : t ≠ []) (h : ∀ n ∈ t, (n : Int) ≤ maxOffset) :
    ∃ p, parse (indicesText t) = .ok p ∧ p.selectors = t.map .fixed := by
  have htexts : (t.map Selector.fixed).map Selector.text = t.map Decimal.digits := by
    rw [List.map_map]
    rfl
  rw [indicesText, ← htexts]
  refine exists_parse_intercalate (wellFormed_fixed hne h) (fun x hx => ?_) (List.forall_mem_nil _)
  obtain ⟨n, -, rfl⟩ := List.mem_map.mp hx
  exact List.not_mem_nil

theorem le_of_parse_indicesText (h : parse (indicesText t) = .ok p) {n : Nat} (hn : n ∈ t) :
    (n : Int) ≤ maxOffset := by
  obtain ⟨items, hreads, -⟩ := parse_eq_ok_iff.mp h
  have hsep : ∀ c ∈ [','], c.isDigit = false := by simp
  obtain ⟨front, back, hwhole, hfront, hback⟩ :=
    exists_intercalate_eq (List.cons_ne_nil _ _) hsep (List.mem_map_of_mem (f := Decimal.digits) hn)
  have hspells := hreads.spells
  rw [indicesText, String.toList_ofList, hwhole] at hspells
  have hle := Spells.value_le (Decimal.isRun_digits n) hfront hback hspells
  rwa [Decimal.value_digits] at hle

theorem selectors_of_parse_indicesText (hne : t ≠ []) (h : parse (indicesText t) = .ok p) :
    p.selectors = t.map .fixed := by
  obtain ⟨q, hq, hselectors⟩ :=
    exists_parse_indicesText hne fun n hn => le_of_parse_indicesText h hn
  obtain rfl := Except.ok.inj (h.symm.trans hq)
  exact hselectors

end Pattern

namespace Selection

variable {p : Pattern} {s : Snapshot} {t : Indices} {anchor : Option Int}

theorem choose_fixed_of_mem {axis : Axis} {n : Nat} (h : n ∈ axis.values) :
    (Selector.fixed n).choose anchor axis = .ok ⟨[n], false⟩ := by
  have hsome : (axis.positionOf? n).isSome = true := List.isSome_idxOf?.mpr h
  rw [Selector.choose, if_pos hsome]

theorem exists_chooseAll_fixed (hs : s.Scanned) (ht : t ∈ s.tuples) (anchor : Option Int) :
    ∃ cs, chooseAll anchor 0 (t.map .fixed) s.axes = .ok cs ∧
      cs.map (·.values) = t.map fun n => [n] := by
  have hlength : (t.map Selector.fixed).length = s.axes.length := by
    rw [List.length_map]
    exact Snapshot.length_of_mem_tuples hs ht
  refine ⟨t.map fun n => ⟨[n], false⟩, ?_, List.map_map⟩
  rw [chooseAll_eq_ok_iff_getElem? hlength]
  refine ⟨by rw [List.length_map, List.length_map], ?_⟩
  intro d selector axis c hsel hax hc
  rw [List.getElem?_map, Option.map_eq_some_iff] at hsel hc
  obtain ⟨n, hn, rfl⟩ := hsel
  obtain ⟨n', hn', rfl⟩ := hc
  obtain rfl := Option.some.inj (hn.symm.trans hn')
  exact choose_fixed_of_mem (Snapshot.mem_axis_of_mem_tuples hs ht hax hn)

/-- The pattern picks the file with these indices, whatever the anchor. -/
structure Picks (p : Pattern) (s : Snapshot) (t : Indices) : Prop where
  selectors : p.selectors = t.map .fixed
  resolves : ∀ anchor, ∃ x name, resolve p s anchor = .ok x ∧ x.tuples = [t] ∧
    s.name t = .ok name ∧ name ∈ s.fileNamesInOrder ∧ x.fileNames = [name]

theorem picks_of_selectors (hs : s.Scanned) (ht : t ∈ s.tuples)
    (h : p.selectors = t.map .fixed) : Picks p s t := by
  have hlength := Snapshot.length_of_mem_tuples hs ht
  have harity : p.arity = s.arity := by rw [Pattern.arity, h, List.length_map, hlength]
  have hknown : Box.firstUnknown? (t.map fun n => [n]) s.tuples = none := by
    rw [Box.firstUnknown?_eq_none_iff, Box.list_map_singleton]
    exact List.forall_mem_singleton.mpr ht
  refine ⟨h, fun anchor => ?_⟩
  obtain ⟨cs, hcs, hbox⟩ := exists_chooseAll_fixed hs ht (usedAnchor p anchor)
  rw [← h] at hcs
  have hx := resolve_eq_ok_iff.mpr ⟨harity, cs, hcs, hbox ▸ hknown, rfl⟩
  have htuples : Box.list (cs.map (·.values)) = [t] := by rw [hbox, Box.list_map_singleton]
  refine ⟨_, String.ofList (s.template.format t), hx, htuples, if_pos hlength, ?_, ?_⟩
  · rw [Snapshot.fileNamesInOrder, Numbering.names]
    exact List.mem_map_of_mem (List.mem_map_of_mem ht)
  · rw [fileNames, tuples, htuples]
    rfl

/-- The indices of a scanned file are read as a pattern exactly if all of them are offsets, and this
pattern picks the file. -/
theorem picks_of_parse_indicesText (hs : s.Scanned) (ht : s.has t = true) :
    ((∃ p, Pattern.parse (Pattern.indicesText t) = .ok p) ↔ ∀ n ∈ t, (n : Int) ≤ maxOffset) ∧
      ∀ p, Pattern.parse (Pattern.indicesText t) = .ok p → Picks p s t := by
  have hmem := Snapshot.has_iff.mp ht
  have hne : t ≠ [] := by
    apply List.ne_nil_of_length_pos
    rw [Snapshot.length_of_mem_tuples hs hmem]
    exact Snapshot.arity_pos hs
  refine ⟨⟨?_, fun hfits => ?_⟩, fun p hp => ?_⟩
  · rintro ⟨p, hp⟩ n hn
    exact Pattern.le_of_parse_indicesText hp hn
  · obtain ⟨p, hp, -⟩ := Pattern.exists_parse_indicesText hne hfits
    exact ⟨p, hp⟩
  · exact picks_of_selectors hs hmem (Pattern.selectors_of_parse_indicesText hne hp)

theorem cameraFrame_picked :
    Snapshot.cameraFrames.Scanned ∧ Snapshot.cameraFrames.has [7, 1] = true ∧
      ∃ p, Pattern.parse "7,1" = .ok p ∧ Picks p Snapshot.cameraFrames [7, 1] := by
  have hs : Snapshot.cameraFrames.Scanned :=
    ⟨⟨[], none, false⟩, 2, Snapshot.cameraFrames.names, by decide, by cbv⟩
  have htext : Pattern.indicesText [7, 1] = "7,1" := by decide
  have ht : Snapshot.cameraFrames.has [7, 1] = true := rfl
  obtain ⟨haccepted, hpicks⟩ := picks_of_parse_indicesText hs ht
  obtain ⟨p, hp⟩ := haccepted.mpr (by decide)
  exact ⟨hs, ht, p, htext ▸ hp, hpicks p hp⟩

/-- A folder with one frame whose number is an index but no offset. -/
def farDisk : Disk where
  nodes := [([Raw.ofString "im9223372036854775808.tif", Raw.ofString "d"], .file []),
    ([Raw.ofString "d"], .folder)]
  home := []

def farFrame : Snapshot where
  template := ⟨['i', 'm'], [(.plain, [])], some ['t', 'i', 'f']⟩
  axes := [⟨[9223372036854775808], by decide⟩]
  tuples := [[9223372036854775808]]
  directory := "d"
  filter := {}

theorem farFrame_not_picked :
    (Snapshot.scan farDisk "d" 1 {}).outcome = .ok farFrame ∧
      farFrame.has [9223372036854775808] = true ∧
      ∃ e, Pattern.parse (Pattern.indicesText [9223372036854775808]) = .error e ∧
        e.defect = .integerTooLarge := by
  refine ⟨by cbv, rfl, _, by cbv, rfl⟩

end Selection

end FileSeries
