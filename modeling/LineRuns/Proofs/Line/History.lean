import LineRuns.Proofs.Line.Division

/-!
# Many lines in one context

A context is used for line after line, and some of these fail half way through the stages. Nothing
of this shows: a step gives what it gives in a fresh context. What a context holds is what its last
reset or analysis left there, and only the count tells of those before.
-/

namespace LineRuns

open Bidi (Context)

/-! ## Steps -/

/-- What can be done with a context; an analysis may be given a fault that ends its stages before
the weak classes. -/
inductive Step
  | reset
  | analyse (t : Text) (fault : Option Text)
  | divide (lookup : Script.Lookup) (source : Source) (fault : Option Text)

/-- What a step gives, or the error that it ends with. -/
inductive Outcome
  | done
  | analysed (logical : Except Bidi.AnalysisError (List Bidi.LogicalRun))
  | divided (line : Except DivisionError Line)
  deriving DecidableEq

namespace Step

/-- A step that begins an analysis, whether it succeeds or fails. -/
def attempts : Step → Bool
  | reset => false
  | analyse _ _ => true
  | divide _ source _ => source.checked.isOk

/-- A step that resets the context or begins an analysis. -/
def touches : Step → Bool
  | reset => true
  | step => step.attempts

end Step

/-- Does a step: the context afterwards, and the outcome. -/
def perform (ctx : Context) : Step → Context × Outcome
  | .reset => (ctx.reset, .done)
  | .analyse t fault =>
    let (ctx', logical) := ctx.analyse t fault
    (ctx', .analysed logical)
  | .divide lookup source fault =>
    let (ctx', line) := Line.divide lookup ctx source fault
    (ctx', .divided line)

/-- Does one step after another: the context at the end, and the outcome of each. -/
def run (ctx : Context) : List Step → Context × List Outcome
  | [] => (ctx, [])
  | step :: rest =>
    let (ctx', outcome) := perform ctx step
    let (last, outcomes) := run ctx' rest
    (last, outcome :: outcomes)

/-- What a context holds apart from its count: the base level, and the storage with its base level
and side, its characters and its level runs. -/
def Bidi.Context.found (ctx : Context) : Option Nat × Bidi.Storage :=
  (ctx.base, ctx.storage)

/-! ## One step -/

variable (ctx : Context) {lookup : Script.Lookup} {source : Source} {t : Text}
  {fault : Option Text}

theorem Step.attempts_of_error {e : TextError} (h : source.checked = .error e) :
    (divide lookup source fault).attempts = false := by
  rw [attempts, h]
  rfl

theorem Step.attempts_of_ok (h : source.checked = .ok t) :
    (divide lookup source fault).attempts = true := by
  rw [attempts, h]
  rfl

/-- A source that is no line does not reach the context. -/
theorem perform_of_error {e : TextError} (h : source.checked = .error e) :
    perform ctx (.divide lookup source fault) = (ctx, .divided (.error (.text e))) := by
  rw [perform, Line.divide, h]

/-- A source that is a line is analysed, and what becomes of it depends on the analysis alone. -/
theorem perform_of_ok (h : source.checked = .ok t) :
    perform ctx (.divide lookup source fault) =
      ((ctx.analyse t fault).1, (perform .fresh (.divide lookup source fault)).2) := by
  simp only [perform, Line.divide, h, Context.analyse_eq]

/-- An analysis counts, and leaves what it leaves in a fresh context. -/
theorem analyse_found (t : Text) (fault : Option Text) :
    (ctx.analyse t fault).1.analyses = ctx.analyses + 1 ∧
      (ctx.analyse t fault).1.found = (Context.fresh.analyse t fault).1.found := by
  rw [Context.analyse_eq, Context.analyse_eq]
  exact ⟨rfl, rfl⟩

theorem outcome_perform (step : Step) : (perform ctx step).2 = (perform .fresh step).2 := by
  cases step with
  | reset => rfl
  | analyse t fault =>
    simp only [perform, Context.analyse_eq]
  | divide lookup source fault =>
    cases hchecked : source.checked with
    | error e => rw [perform_of_error ctx hchecked, perform_of_error .fresh hchecked]
    | ok t => rw [perform_of_ok ctx hchecked]

theorem analyses_perform (step : Step) :
    (perform ctx step).1.analyses = ctx.analyses + if step.attempts then 1 else 0 := by
  cases step with
  | reset => rfl
  | analyse t fault => exact (analyse_found ctx t fault).1
  | divide lookup source fault =>
    cases hchecked : source.checked with
    | error e =>
      rw [perform_of_error ctx hchecked, Step.attempts_of_error hchecked]
      rfl
    | ok t =>
      rw [perform_of_ok ctx hchecked, Step.attempts_of_ok hchecked]
      exact (analyse_found ctx t fault).1

/-- A step leaves what it leaves in a fresh context, or else it leaves the context alone. -/
theorem found_perform (step : Step) :
    (perform ctx step).1.found = (if step.touches then (perform .fresh step).1 else ctx).found := by
  cases step with
  | reset => rfl
  | analyse t fault => exact (analyse_found ctx t fault).2
  | divide lookup source fault =>
    show _ = (if (Step.divide lookup source fault).attempts then _ else ctx).found
    cases hchecked : source.checked with
    | error e =>
      rw [perform_of_error ctx hchecked, Step.attempts_of_error hchecked]
      rfl
    | ok t =>
      rw [perform_of_ok ctx hchecked, Step.attempts_of_ok hchecked, perform_of_ok .fresh hchecked]
      exact (analyse_found ctx t fault).2

/-- A step whose source turns out to be no line leaves the context as it was. -/
theorem perform_of_textError {step : Step} {e : TextError}
    (h : (perform ctx step).2 = .divided (.error (.text e))) : (perform ctx step).1 = ctx := by
  cases step with
  | reset => cases h
  | analyse t fault => cases h
  | divide lookup source fault =>
    cases hchecked : source.checked with
    | error e => rw [perform_of_error ctx hchecked]
    | ok t =>
      -- what is a line is always divided
      simp only [perform, Line.divide_eq lookup ctx fault hchecked] at h
      cases h

/-! ## All steps -/

theorem run_cons (step : Step) (rest : List Step) :
    run ctx (step :: rest) = ((run (perform ctx step).1 rest).1,
      (perform ctx step).2 :: (run (perform ctx step).1 rest).2) :=
  rfl

theorem outcomes_run (steps : List Step) :
    (run ctx steps).2 = steps.map fun step => (perform .fresh step).2 := by
  induction steps generalizing ctx with
  | nil => rfl
  | cons step rest ih => rw [run_cons, ih, outcome_perform, List.map_cons]

theorem analyses_run (steps : List Step) :
    (run ctx steps).1.analyses = ctx.analyses + steps.countP Step.attempts := by
  induction steps generalizing ctx with
  | nil => rfl
  | cons step rest ih =>
    rw [run_cons, ih, analyses_perform, List.countP_cons]
    omega

theorem found_run (steps : List Step) :
    (run ctx steps).1.found =
      ((steps.filter Step.touches).getLast?.elim ctx
        fun step => (perform .fresh step).1).found := by
  induction steps generalizing ctx with
  | nil => rfl
  | cons step rest ih =>
    have hfound := found_perform ctx step
    rw [run_cons, ih, List.filter_cons]
    -- what a later step left hides what this one left
    cases hlast : (rest.filter Step.touches).getLast? with
    | none =>
      -- the last step that counts, if any, is this one
      rw [List.getLast?_eq_none_iff] at hlast
      rw [Option.elim_none, hfound, hlast]
      split <;> rfl
    | some last =>
      rw [Option.elim_some]
      split
      · rw [List.getLast?_cons, hlast]
        rfl
      · rw [hlast]
        rfl

/-- Whatever was done with a context, each step gives what it gives in a fresh one, even after
analyses that failed at any stage. The count is that of the analyses begun. A step whose source is
no line leaves the context exactly as it was; and apart from its count the context is as the last
reset or analysis left it, which is as that step alone leaves a fresh one. -/
theorem run_history (ctx : Context) (steps : List Step) :
    (run ctx steps).2 = steps.map (fun step => (perform .fresh step).2) ∧
    (run ctx steps).1.analyses = ctx.analyses + steps.countP Step.attempts ∧
    (∀ (before after : List Step) (step : Step) (e : TextError), steps = before ++ step :: after →
      (perform (run ctx before).1 step).2 = .divided (.error (.text e)) →
        (perform (run ctx before).1 step).1 = (run ctx before).1) ∧
    (run ctx steps).1.found =
      ((steps.filter Step.touches).getLast?.elim ctx
        fun step => (perform .fresh step).1).found :=
  ⟨outcomes_run ctx steps, analyses_run ctx steps,
    fun before _ _ _ _ h => perform_of_textError (run ctx before).1 h, found_run ctx steps⟩

/-- An empty text after an analysis that failed. -/
theorem run_history_empty :
    (run .fresh [.analyse [0x5D0] (some "lost"),
      .divide .standard (.text []) none]).1.analyses = 1 ∧
    (perform (run .fresh [.analyse [0x5D0] (some "lost")]).1
        (.divide .standard (.text []) none)).1 =
      (run .fresh [.analyse [0x5D0] (some "lost")]).1 := by
  obtain ⟨-, hcount, hrejected, -⟩ := run_history .fresh
    [.analyse [0x5D0] (some "lost"), .divide .standard (.text []) none]
  exact ⟨hcount, hrejected [.analyse [0x5D0] (some "lost")] [] _ .empty rfl rfl⟩

end LineRuns
