import LineRuns.Script
import Mathlib.Data.List.Basic
import Mathlib.Data.List.Infix

/-!
# Stretches that share a script

A stretch of code points is homogeneous if it is a single one, or if some script of its first
code point is a script of every later one that is not inherited. An inherited code point asks
nothing of a stretch unless it comes first, so a later part of a homogeneous stretch need not be
homogeneous, while a beginning always is. `common` computes the scripts that decide this.
-/

namespace LineRuns.Script

variable {lookup : Lookup} {s : Code} {c : CodePoint} {p q : Text}

/-- A script that a code point can be joined with. -/
def Admits (lookup : Lookup) (s : Code) (c : CodePoint) : Prop :=
  isInherited (extensions lookup c) = false → s ∈ extensions lookup c

/-- A stretch that is a single code point, or whose code points share a script. -/
def Homogeneous (lookup : Lookup) : Text → Prop
  | [] => False
  | c :: rest => rest = [] ∨ ∃ s ∈ extensions lookup c, ∀ d ∈ rest, Admits lookup s d

/-- The scripts that are left when the code points of a stretch are joined one by one. -/
def common (lookup : Lookup) : Text → List Code
  | [] => []
  | c :: rest => rest.foldl (narrow lookup) (extensions lookup c)

theorem mem_narrow {current : List Code} :
    s ∈ narrow lookup current c ↔ s ∈ current ∧ Admits lookup s c := by
  unfold narrow narrowBy Admits
  cases isInherited (extensions lookup c) <;> simp

/-- Joining code points one by one keeps the scripts that all of them admit. -/
theorem mem_foldl_narrow {current : List Code} {rest : Text} :
    s ∈ rest.foldl (narrow lookup) current ↔
      s ∈ current ∧ ∀ d ∈ rest, Admits lookup s d := by
  induction rest generalizing current with
  | nil => simp
  | cons d rest ih =>
    rw [List.foldl_cons, ih, mem_narrow, List.forall_mem_cons, and_assoc]

theorem mem_common_cons {rest : Text} :
    s ∈ common lookup (c :: rest) ↔
      s ∈ extensions lookup c ∧ ∀ d ∈ rest, Admits lookup s d :=
  mem_foldl_narrow

theorem common_append_singleton (hp : p ≠ []) :
    common lookup (p ++ [c]) = narrow lookup (common lookup p) c := by
  cases p with
  | nil => exact absurd rfl hp
  | cons d rest => simp [common, List.foldl_append]

theorem homogeneous_cons_iff {rest : Text} :
    Homogeneous lookup (c :: rest) ↔ rest = [] ∨ common lookup (c :: rest) ≠ [] := by
  refine or_congr_right ⟨?_, ?_⟩
  · rintro ⟨s, hs, hall⟩
    exact List.ne_nil_of_mem (mem_common_cons.mpr ⟨hs, hall⟩)
  · intro hne
    obtain ⟨s, hs⟩ := List.exists_mem_of_ne_nil _ hne
    exact ⟨s, mem_common_cons.mp hs⟩

theorem homogeneous_singleton : Homogeneous lookup [c] :=
  Or.inl rfl

theorem Homogeneous.ne_nil (h : Homogeneous lookup p) : p ≠ [] := by
  rintro rfl
  exact h

/-- With a code point more, a stretch stays homogeneous if and only if joining it leaves a
script. -/
theorem homogeneous_append_singleton_iff (hp : p ≠ []) :
    Homogeneous lookup (p ++ [c]) ↔ narrow lookup (common lookup p) c ≠ [] := by
  rw [← common_append_singleton hp]
  cases p with
  | nil => exact absurd rfl hp
  | cons d rest =>
    rw [List.cons_append, homogeneous_cons_iff]
    simp

/-- A homogeneous stretch that shares no script is a code point without scripts. -/
theorem Homogeneous.eq_singleton_of_common (h : Homogeneous lookup p)
    (hp : common lookup p = []) : ∃ c, p = [c] ∧ extensions lookup c = [] := by
  cases p with
  | nil => exact absurd h id
  | cons c rest =>
    rw [homogeneous_cons_iff] at h
    obtain rfl := h.resolve_right (not_not.mpr hp)
    exact ⟨c, rfl, hp⟩

/-- A beginning of a homogeneous stretch is homogeneous. -/
theorem Homogeneous.of_append (h : Homogeneous lookup (p ++ q)) (hp : p ≠ []) :
    Homogeneous lookup p := by
  cases p with
  | nil => exact absurd rfl hp
  | cons c rest =>
    rcases h with hnil | ⟨s, hs, hall⟩
    · exact Or.inl (List.append_eq_nil_iff.mp hnil).1
    · exact Or.inr ⟨s, hs, fun d hd => hall d (List.mem_append_left q hd)⟩

/-- A later part of a homogeneous stretch is homogeneous unless it starts with an inherited code
point. -/
theorem Homogeneous.of_append_right (h : Homogeneous lookup (p ++ c :: q)) (hp : p ≠ [])
    (hc : isInherited (extensions lookup c) = false) : Homogeneous lookup (c :: q) := by
  cases p with
  | nil => exact absurd rfl hp
  | cons d rest =>
    rcases h with hnil | ⟨s, -, hall⟩
    · exact absurd hnil (by simp)
    · -- not inherited, its first code point has the script itself
      refine Or.inr ⟨s, hall c (by simp) hc, fun e he => hall e ?_⟩
      exact List.mem_append_right rest (List.mem_cons_of_mem c he)

/-- No script is shared with a code point that has none, so it stands alone. -/
theorem Homogeneous.eq_singleton (h : Homogeneous lookup (p ++ c :: q))
    (hc : extensions lookup c = []) : p = [] ∧ q = [] := by
  cases p with
  | nil =>
    rcases h with hnil | ⟨s, hs, -⟩
    · exact ⟨rfl, hnil⟩
    · rw [hc] at hs
      exact absurd hs List.not_mem_nil
  | cons d rest =>
    rcases h with hnil | ⟨s, -, hall⟩
    · exact absurd hnil (by simp)
    · have hs : s ∈ extensions lookup c := hall c (by simp) (by rw [hc]; rfl)
      rw [hc] at hs
      exact absurd hs List.not_mem_nil

/-- An inherited code point can be joined to any stretch that has a script. -/
theorem narrow_of_isInherited {current : List Code}
    (hc : isInherited (extensions lookup c) = true) : narrow lookup current c = current := by
  simp [narrow, narrowBy, hc]

end LineRuns.Script
