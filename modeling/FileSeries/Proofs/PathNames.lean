import FileSeries.Path
import Mathlib
/-!
The last name of a path. Main statement: the path of a file in a folder ends with the name of the
file, if this is a name that a folder can hold.
-/

namespace FileSeries.Path

/-- Names that a folder can hold: not empty, without slashes, and not one of those that lead to a
folder that is there anyway. -/
structure IsPlain (name : Raw) : Prop where
  nonempty : name ≠ []
  noSlash : slash ∉ name
  notHere : name ≠ here
  notAbove : name ≠ above

theorem fileName?_of_names_eq {path name : Raw} {front : List Raw} (h : IsPlain name)
    (hnames : names path = front ++ [name]) : fileName? path = some name := by
  have hkeep : (!name.isEmpty && name != here) = true := by
    simp [h.nonempty, h.notHere]
  rw [fileName?, hnames, List.filter_append, List.filter_singleton, hkeep]
  simp [h.notAbove]

theorem names_append_slash {name : Raw} (h : slash ∉ name) (folder : Raw) :
    names (folder ++ slash :: name) = names folder ++ [name] := by
  rw [names, List.splitOn_append_cons_self, List.splitOn_eq_singleton h, names]

theorem fileName?_within {name : Raw} (h : IsPlain name) (folder : Raw) :
    fileName? (within folder name) = some name := by
  unfold within
  split
  · rename_i hend
    rw [Bool.or_eq_true, List.isEmpty_iff, beq_iff_eq] at hend
    rcases hend with rfl | hslash
    · have hnames : names name = [] ++ [name] := List.splitOn_eq_singleton h.noSlash
      exact fileName?_of_names_eq h hnames
    · obtain ⟨front, rfl⟩ := List.getLast?_eq_some_iff.mp hslash
      rw [List.append_assoc]
      exact fileName?_of_names_eq h (names_append_slash h.noSlash front)
  · exact fileName?_of_names_eq h (names_append_slash h.noSlash folder)

theorem fileName?_join {name : String} (h : IsPlain (Raw.ofString name)) (folder : String) :
    fileName? (Raw.ofString (join folder name)) = some (Raw.ofString name) := by
  rw [ofString_join]
  exact fileName?_within h _

theorem join_injective (folder : String) : Function.Injective (join folder) := by
  intro name name' h
  unfold join at h
  split at h
  · exact (String.append_right_inj folder).mp h
  · exact (String.append_right_inj (folder ++ "/")).mp h

end FileSeries.Path
