import LineRuns.Proofs.Tiling
import LineRuns.Run

/-!
# Runs that tile a line

When the check of a tiling accepts runs: said by their neighbours, and said by the units of the
line.
-/

namespace LineRuns.Run

/-! ## Runs that follow one another

The check of a tiling walks over the runs with a cursor. It accepts exactly the runs that follow
one another from zero to the size, which for a line with units are those that `Tiles` describes.
-/

/-- Runs that tile `size` units: the first starts at zero, none is empty, each starts where the
one before it stops, and the last stops at `size`. -/
structure Tiles (size : Nat) (runs : List Run) : Prop where
  first : runs.head?.map Run.start = some 0
  positive : ∀ run ∈ runs, 0 < run.length
  continued : runs.IsChain fun a b => b.start = a.stop
  last : runs.getLast?.map Run.stop = some (size : Int)

theorem start_lt_stop {run : Run} : run.start < run.stop ↔ 0 < run.length := by
  unfold stop
  omega

theorem checkFrom_eq_ok_iff {size : Nat} {cursor : Int} {runs : List Run} :
    checkFrom size cursor runs = .ok () ↔ Consecutive Run.start Run.stop cursor size runs := by
  induction runs generalizing cursor with
  | nil =>
    simp only [checkFrom, Consecutive]
    split <;> simp [*]
  | cons run rest ih =>
    simp only [checkFrom, Consecutive, start_lt_stop]
    split
    · rename_i h
      rw [ih]
      simp [h.1, h.2]
    · rename_i h
      constructor
      · intro hok
        cases hok
      · rintro ⟨hstart, hpos, -⟩
        exact absurd ⟨hstart, hpos⟩ h

theorem checkTiling_eq_ok_iff {size : Nat} {runs : List Run} :
    checkTiling size runs = .ok () ↔ Consecutive Run.start Run.stop 0 size runs :=
  checkFrom_eq_ok_iff

/-- Runs that follow one another from zero to a size that is not zero tile it. -/
theorem tiles_of_consecutive {size : Nat} {runs : List Run} (hsize : 0 < size)
    (h : Consecutive Run.start Run.stop 0 size runs) : Tiles size runs := by
  have hne : runs ≠ [] := by
    rintro rfl
    have hzero : (0 : Int) = size := h
    omega
  refine ⟨?_, fun run hrun => start_lt_stop.mp (h.bounds hrun).2.1, h.isChain,
    h.getLast?_stop hne⟩
  cases runs with
  | nil => exact absurd rfl hne
  | cons run rest => exact congrArg some h.1

/-! ## What the check of a tiling accepts

The check compares each start with a cursor and looks at nothing else. What it stands for is said
without a cursor: no run is empty or reaches out of the line, starts increase, and each unit is in
exactly one run (`IsPartition`). Starts and lengths are any integers, so runs that are refused may
overlap, leave gaps, begin in front of the line or go on behind its end.
-/

variable {size : Nat} {runs : List Run} {e : TilingError}

/-- Runs partition the units of a line: none is empty, all are within the line, each starts behind
the starts of those before it, and each unit is in exactly one. -/
structure IsPartition (size : Nat) (runs : List Run) : Prop where
  positive : ∀ run ∈ runs, 0 < run.length
  within : ∀ run ∈ runs, 0 ≤ run.start ∧ run.stop ≤ size
  increasing : runs.Pairwise fun a b => a.start < b.start
  once : ∀ p : Int, 0 ≤ p → p < size → runs.countP (fun run => run.start ≤ p ∧ p < run.stop) = 1

/-- Runs partition a line if and only if they follow one another from its start to its end. -/
theorem isPartition_iff_consecutive :
    IsPartition size runs ↔ Consecutive Run.start Run.stop 0 size runs := by
  constructor
  · rintro ⟨hpositive, hwithin, hincreasing, honce⟩
    have hinside : ∀ run ∈ runs, 0 ≤ run.start ∧ run.start < run.stop ∧ run.stop ≤ size := by
      intro run hrun
      obtain ⟨hstart, hstop⟩ := hwithin run hrun
      exact ⟨hstart, start_lt_stop.mpr (hpositive run hrun), hstop⟩
    exact Consecutive.of_holders (Int.natCast_nonneg size) hinside hincreasing honce
  · intro h
    constructor
    case positive =>
      intro run hrun
      exact start_lt_stop.mp (h.bounds hrun).2.1
    case within =>
      intro run hrun
      obtain ⟨hstart, -, hstop⟩ := h.bounds hrun
      exact ⟨hstart, hstop⟩
    case increasing => exact h.pairwise_start
    case once =>
      intro p hp hlt
      exact h.holders_eq_one hp hlt

/-! ### Runs that are refused -/

/-- What an error says of the runs that are refused with it. The runs in front of the one that it
names partition a line up to the cursor, and that run is empty or starts elsewhere; or else all runs
partition a line, but one of another size. -/
def TilingError.Describes (size : Nat) (runs : List Run) : TilingError → Prop
  | .notContinued run cursor =>
    ∃ (before rest : List Run) (reached : Nat), runs = before ++ run :: rest ∧
      IsPartition reached before ∧ cursor = reached ∧ (run.start ≠ cursor ∨ run.length ≤ 0)
  | .coverage covered total =>
    ∃ reached : Nat, IsPartition reached runs ∧ covered = reached ∧ reached ≠ size ∧ total = size

/-- Up to where it stops, the check goes over runs that follow one another. -/
theorem checkFrom_eq_error {cursor : Int} (h : checkFrom size cursor runs = .error e) :
    (∃ before run rest reached, e = .notContinued run reached ∧ runs = before ++ run :: rest ∧
      Consecutive Run.start Run.stop cursor reached before ∧
      (run.start ≠ reached ∨ run.length ≤ 0)) ∨
    ∃ reached, e = .coverage reached size ∧ Consecutive Run.start Run.stop cursor reached runs ∧
      reached ≠ size := by
  induction runs generalizing cursor with
  | nil =>
    rw [checkFrom] at h
    split at h
    · cases h
    · rename_i hne
      exact Or.inr ⟨cursor, (Except.error.inj h).symm, rfl, hne⟩
  | cons run rest ih =>
    rw [checkFrom] at h
    split at h
    · rename_i hcontinued
      obtain ⟨hstart, hpositive⟩ := hcontinued
      have hrun := start_lt_stop.mpr hpositive
      rcases ih h with
        ⟨before, named, more, reached, he, rfl, hbefore, hnamed⟩ | ⟨reached, he, hall, hne⟩
      · exact Or.inl
          ⟨run :: before, named, more, reached, he, rfl, ⟨hstart, hrun, hbefore⟩, hnamed⟩
      · exact Or.inr ⟨reached, he, ⟨hstart, hrun, hall⟩, hne⟩
    · rename_i hbroken
      rw [not_and_or, not_lt] at hbroken
      exact Or.inl ⟨[], run, rest, cursor, (Except.error.inj h).symm, rfl, rfl, hbroken⟩

theorem describes_of_checkTiling (h : checkTiling size runs = .error e) :
    e.Describes size runs := by
  rcases checkFrom_eq_error h with
    ⟨before, run, rest, reached, rfl, hruns, hbefore, hrun⟩ | ⟨reached, rfl, hall, hne⟩
  · obtain ⟨reached, rfl⟩ := Int.eq_ofNat_of_zero_le hbefore.le
    exact ⟨before, rest, reached, hruns, isPartition_iff_consecutive.mpr hbefore, rfl, hrun⟩
  · obtain ⟨reached, rfl⟩ := Int.eq_ofNat_of_zero_le hall.le
    exact ⟨reached, isPartition_iff_consecutive.mpr hall, rfl, mt Int.ofNat_inj.mpr hne, rfl⟩

/-! ### The check -/

/-- The check accepts runs if and only if they partition the units of the line. It refuses all
others, and its error describes them: it names the first run that does not go on where the runs in
front of it end, or else where all runs end. -/
theorem checkTiling_decides_isPartition (size : Nat) (runs : List Run) :
    (checkTiling size runs = .ok () ↔ IsPartition size runs) ∧
    (¬ IsPartition size runs →
      ∃ e, checkTiling size runs = .error e ∧ e.Describes size runs) := by
  have haccepts : checkTiling size runs = .ok () ↔ IsPartition size runs :=
    checkTiling_eq_ok_iff.trans isPartition_iff_consecutive.symm
  refine ⟨haccepts, fun hnot => ?_⟩
  cases hcheck : checkTiling size runs with
  | ok => exact absurd (haccepts.mp hcheck) hnot
  | error e => exact ⟨e, rfl, describes_of_checkTiling hcheck⟩

/-- Two runs over five units are accepted. With the first of them a unit longer they overlap, and
the second does not go on at the third unit. -/
theorem checkTiling_decides_isPartition_overlap :
    IsPartition 5 [⟨0, 2, "Latn", .leftToRight⟩, ⟨2, 3, "Hebr", .rightToLeft⟩] ∧
    ¬ IsPartition 5 [⟨0, 3, "Latn", .leftToRight⟩, ⟨2, 3, "Hebr", .rightToLeft⟩] ∧
    (TilingError.notContinued ⟨2, 3, "Hebr", .rightToLeft⟩ 3).Describes 5
      [⟨0, 3, "Latn", .leftToRight⟩, ⟨2, 3, "Hebr", .rightToLeft⟩] := by
  have hrefused : checkTiling 5 [⟨0, 3, "Latn", .leftToRight⟩, ⟨2, 3, "Hebr", .rightToLeft⟩] =
      .error (.notContinued ⟨2, 3, "Hebr", .rightToLeft⟩ 3) := rfl
  have hnot : ¬ IsPartition 5 [⟨0, 3, "Latn", .leftToRight⟩, ⟨2, 3, "Hebr", .rightToLeft⟩] := by
    intro h
    rw [← (checkTiling_decides_isPartition 5 _).1, hrefused] at h
    cases h
  refine ⟨(checkTiling_decides_isPartition 5 _).1.mp rfl, hnot, ?_⟩
  obtain ⟨e, he, hdescribes⟩ := (checkTiling_decides_isPartition 5 _).2 hnot
  obtain rfl := Except.error.inj (hrefused.symm.trans he)
  exact hdescribes

end LineRuns.Run
