import FileSeries.Config
import FileSeries.Proofs.Slide.Selections
/-!
Configurations that are read from files. Main statements: the numbers of a configuration are in the
ranges in which they are kept, and a slide that a configuration opens is one over a snapshot.
-/

namespace FileSeries

namespace Logged

variable {α β : Type} {x : Logged α} {f : α → Logged β} {b : β}

theorem outcome_bind_eq_ok_iff :
    (x >>= f).outcome = .ok b ↔ ∃ a, x.outcome = .ok a ∧ (f a).outcome = .ok b := by
  change (andThen x f).outcome = .ok b ↔ _
  unfold andThen
  cases x.outcome with
  | error e => simp
  | ok a => simp

end Logged

theorem Slide.outcome_ofSnapshotLogged (s : Snapshot) (p : Pattern) (r : AnchorRange) :
    (ofSnapshotLogged s p r).outcome = ofSnapshot s p r := by
  unfold ofSnapshotLogged
  cases ofSnapshot s p r <;> rfl

namespace Config

open Json (Value)

variable {v : Value} {r : AnchorRange} {text : List Char} {config : Config}

theorem eq_or_exists_of_fieldOr {α : Type} {fallback a : α} {read : Value → Option α}
    {field : Option Value} (h : fieldOr fallback read field = some a) :
    a = fallback ∨ ∃ v, read v = some a := by
  cases field with
  | none => exact .inl (Option.some.inj h).symm
  | some v => exact .inr ⟨v, h⟩

theorem bounds_of_integer? {low high n : Int} (h : v.integer? low high = some n) :
    low ≤ n ∧ n ≤ high := by
  unfold Value.integer? at h
  split at h
  · simp only [Option.ite_none_right_eq_some, Bool.and_eq_true, decide_eq_true_eq,
      Option.some.injEq] at h
    exact h.2 ▸ h.1
  · simp at h

theorem fitsOffset_of_offset? {n : Int} (h : offset? v = some n) : fitsOffset n = true :=
  fitsOffset_iff.mpr (bounds_of_integer? h)

theorem fitsOffset_of_nullable {t : Option Int} (h : nullable offset? v = some t) (n : Int)
    (hn : t = some n) : fitsOffset n = true := by
  unfold nullable at h
  split at h
  · simp [hn] at h
  · obtain ⟨m, hm, rfl⟩ := Option.map_eq_some_iff.mp h
    exact Option.some.inj hn ▸ fitsOffset_of_offset? hm

theorem fitsIndex_of_step? {n : Nat} (h : step? v = some n) : fitsIndex n = true := by
  obtain ⟨m, hm, rfl⟩ := Option.map_eq_some_iff.mp h
  have := bounds_of_integer? hm
  simp only [fitsIndex, decide_eq_true_eq]
  omega

theorem fits_default : ({} : AnchorRange).Fits := by decide

/-- Every number of a range is read within its bounds. -/
theorem fits_of_range? (h : range? v = some r) : r.Fits := by
  unfold range? at h
  simp only [Option.bind_eq_bind, Option.bind_eq_some_iff] at h
  obtain ⟨fields, -, h⟩ := h
  split at h
  · simp only [Option.bind_eq_some_iff] at h
    obtain ⟨start, hstart, stop, hstop, step, hstep, hr⟩ := h
    obtain rfl := Option.some.inj hr
    constructor
    case start =>
      rcases eq_or_exists_of_fieldOr hstart with rfl | ⟨v, hv⟩
      · rfl
      · exact fitsOffset_of_offset? hv
    case stop =>
      rcases eq_or_exists_of_fieldOr hstop with rfl | ⟨v, hv⟩
      · simp
      · exact fitsOffset_of_nullable hv
    case step =>
      rcases eq_or_exists_of_fieldOr hstep with rfl | ⟨v, hv⟩
      · rfl
      · exact fitsIndex_of_step? hv
  · simp at h

theorem fits_of_ofText? (h : ofText? text = some config) : config.range.Fits := by
  obtain ⟨v, -, hv⟩ := Option.bind_eq_some_iff.mp h
  unfold ofValue? at hv
  simp only [Option.bind_eq_bind, Option.bind_eq_some_iff] at hv
  obtain ⟨fields, -, hv⟩ := hv
  split at hv
  · simp only [Option.bind_eq_some_iff] at hv
    obtain ⟨directory, -, pattern, -, range, hrange, filter, -, hconfig⟩ := hv
    obtain rfl := Option.some.inj hconfig
    rcases eq_or_exists_of_fieldOr hrange with rfl | ⟨v, hv⟩
    · exact fits_default
    · exact fits_of_range? hv
  · simp at hv

variable {read : List Char → Option Config} {d : Disk} {path : Raw}

theorem loadWith_eq_ok_iff : loadWith read d path = .ok config ↔ ∃ bytes text,
    d.read path = .ok bytes ∧ (Raw.ofBytes bytes).text? = some text ∧ read text = some config := by
  unfold loadWith
  cases hbytes : d.read path with
  | error failure => simp
  | ok bytes =>
    cases htext : (Raw.ofBytes bytes).text? with
    | none => simp [htext]
    | some text => cases hread : read text <;> simp [htext, hread]

theorem openWith_eq_ok_iff {slide : Slide} : openWith read d path = .ok slide ↔
    ∃ config, loadWith read d path = .ok config ∧ (config.slide d).outcome = .ok slide :=
  Outcome.bind_eq_ok_iff

/-- A slide that a configuration opens is one over a snapshot. -/
theorem exists_ofSnapshot_of_openWith {slide : Slide} (h : openWith read d path = .ok slide) :
    ∃ text config p s, read text = some config ∧
      Slide.ofSnapshot s p config.range = .ok slide := by
  obtain ⟨config, hload, hslide⟩ := openWith_eq_ok_iff.mp h
  obtain ⟨-, text, -, -, htext⟩ := loadWith_eq_ok_iff.mp hload
  obtain ⟨p, -, hscan⟩ := Logged.outcome_bind_eq_ok_iff.mp hslide
  obtain ⟨s, -, hopen⟩ := Logged.outcome_bind_eq_ok_iff.mp hscan
  rw [Slide.outcome_ofSnapshotLogged] at hopen
  exact ⟨text, config, p, s, htext, hopen⟩

end Config

end FileSeries
