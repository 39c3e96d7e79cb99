import ThreadPlatform.Bench.Request
import ThreadPlatform.Log

/-!
# Step lists with logs

A stateful bench request is a list of steps run in order on one state. A step
answers on its own: a step that cannot be read answers its `BenchError` and the
list goes on, while a fatal condition answers a `fatal` error and ends the list,
as the program would have stopped there.

With `logs`, each answer object also lists the log records emitted while its
step ran, written `LEVEL text`.
-/

namespace ThreadPlatform.Bench

/-- Why a step stops short. -/
inductive Halt where
  | bench (e : BenchError)
  | fatal (message : String)
  deriving Repr

/-- A step on a state of type `σ`. -/
abbrev StepM (σ : Type) := ExceptT Halt (StateM σ)

instance {σ : Type} : MonadLift (Except BenchError) (StepM σ) where
  monadLift r := match r with
    | .ok a => pure a
    | .error e => throw (.bench e)

/-- Refuses the step with a message. -/
def refuse {σ α : Type} (message : String) : StepM σ α := throw (.bench (.badInput message))

/-- The answer of a fatal step. -/
def fatalJson (message : String) : Json := errorJson "fatal" message

/-- Log records as the bench lists them. -/
def logsJson (records : List LogRecord) : Json := .arr (records.map fun r => .str r.line)

/-- Adds the step's log records to an answer when they are asked for. -/
def tagLogs (logs : Bool) (records : List LogRecord) (j : Json) : Json :=
  if logs then withMember j "logs" (logsJson records) else j

/-- Runs one step: its answer, and whether the list ends with it. -/
def runStep {σ : Type} (logs : Bool) (journal : StateM σ (List LogRecord))
    (step : String → Json → StepM σ Json) (item : Json) : StateM σ (Json × Bool) := do
  let _ ← journal
  let r ← (do step (← opName item) item : StepM σ Json).run
  let records ← journal
  let (j, stop) := match r with
    | .ok j => (j, false)
    | .error (.bench e) => (e.toJson, false)
    | .error (.fatal m) => (fatalJson m, true)
  return (tagLogs logs records j, stop)

/-- Runs the steps in order, up to and including a fatal one. -/
def runAll {σ : Type} (logs : Bool) (journal : StateM σ (List LogRecord))
    (step : String → Json → StepM σ Json) : List Json → StateM σ (List Json)
  | [] => return []
  | item :: rest => do
    let (j, stop) ← runStep logs journal step item
    if stop then return [j]
    else return j :: (← runAll logs journal step rest)

end ThreadPlatform.Bench
