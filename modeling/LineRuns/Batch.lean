import LineRuns.Line
import LineRuns.Text.Basic

/-!
# Batches of lines

The lines of a body that are not blank are divided one by one, by workers that each have a
context of their own, and are done in any order. What comes out is ordered by line again. A
schedule says which worker takes which line and in which order the lines are done; the records
do not depend on it.
-/

namespace LineRuns.Batch

/-! ## Jobs -/

/-- A line to divide, with its number in the body. -/
structure Job where
  number : Nat
  text : Text
  deriving DecidableEq, Repr

/-- All lines of a body, numbered from `first` on. -/
def numbered (first : Nat) : List Text → List Job
  | [] => []
  | t :: rest => ⟨first, t⟩ :: numbered (first + 1) rest

/-- The lines of a body that are not blank. Blank lines have numbers too. -/
def jobs (body : Text) : List Job :=
  (numbered 1 (Text.withLineFeeds body).lines).filter fun job => !job.text.trimmed.isEmpty

/-! ## Records -/

/-- A divided line with its number. -/
structure Record where
  number : Nat
  line : Line
  deriving DecidableEq, Repr

/-- What came of a job. -/
structure Outcome where
  number : Nat
  result : Except DivisionError Record

/-- The record of a job, made on a context. -/
def record (lookup : Script.Lookup) (ctx : Bidi.Context) (visual : Bool) (job : Job) :
    Bidi.Context × Except DivisionError Record :=
  let (ctx', result) := Line.divide lookup ctx (.text job.text) none
  (ctx', result.map fun line => ⟨job.number, if visual then line.reordered else line⟩)

/-! ## Schedules -/

/-- Which worker takes a line, the workers' contexts, and the order in which outcomes come. -/
structure Schedule where
  worker : Nat → Nat
  contexts : Nat → Bidi.Context
  arrival : List Outcome → List Outcome
  arrival_perm : ∀ outcomes, (arrival outcomes).Perm outcomes

/-- One worker that has done nothing takes all lines, in order. -/
def Schedule.single : Schedule where
  worker _ := 0
  contexts _ := Bidi.Context.fresh
  arrival := id
  arrival_perm _ := .refl _

/-- The outcomes of jobs, each made on the context of its worker. -/
def perform (lookup : Script.Lookup) (visual : Bool) (worker : Nat → Nat)
    (contexts : Nat → Bidi.Context) : List Job → List Outcome
  | [] => []
  | job :: rest =>
    let mine := worker job.number
    let (ctx', result) := record lookup (contexts mine) visual job
    ⟨job.number, result⟩ ::
      perform lookup visual worker (fun w => if w = mine then ctx' else contexts w) rest

/-! ## Results -/

/-- Why a batch has no result: there is nothing to divide, a line was refused, or a promise was
broken on the way. -/
inductive BatchError
  | noLines
  | refused (number : Nat) (e : TextError)
  | broken (e : DivisionError)
  deriving DecidableEq, Repr

/-- The records of a batch by line, and how many lines were degraded and refused. -/
structure Summary where
  records : List Record
  degraded : Nat
  refused : Nat
  deriving DecidableEq, Repr

/-- Puts a record in its place by line. -/
def insert (r : Record) : List Record → List Record
  | [] => [r]
  | first :: rest => if r.number ≤ first.number then r :: first :: rest else first :: insert r rest

/-- Takes outcomes in the order they come. A refused line ends the batch unless it goes on. -/
def gather (goOn : Bool) (sofar : Summary) : List Outcome → Except BatchError Summary
  | [] => .ok sofar
  | o :: rest =>
    match o.result with
    | .ok r =>
      let degraded := sofar.degraded + if r.line.isDegraded then 1 else 0
      gather goOn ⟨insert r sofar.records, degraded, sofar.refused⟩ rest
    | .error (.text e) =>
      if goOn then gather goOn { sofar with refused := sofar.refused + 1 } rest
      else .error (.refused o.number e)
    | .error e => .error (.broken e)

/-- Divides the lines of a body. -/
def run (lookup : Script.Lookup) (schedule : Schedule) (visual goOn : Bool) (body : Text) :
    Except BatchError Summary :=
  match jobs body with
  | [] => .error .noLines
  | work =>
    gather goOn ⟨[], 0, 0⟩
      (schedule.arrival (perform lookup visual schedule.worker schedule.contexts work))

end LineRuns.Batch
