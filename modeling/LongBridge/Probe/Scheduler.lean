import LongBridge.Effects.Environment
import LongBridge.Python.Equality

namespace LongBridge.Probe
open Effects

inductive Action where
  | pause
  | resume
  deriving DecidableEq

-- An HTTP response; a status that is no int is none.
structure Response where
  statusCode : Option ℤ
  isRedirect : Bool

-- A response whose body may fail to parse.
structure JobResponse where
  statusCode : Option ℤ
  isRedirect : Bool
  json : Except PyExc PyVal

-- A clock reading; only an aware moment is one.
inductive ClockValue where
  | aware (microseconds : ℤ)
  | invalid

structure Selected where
  body : String
  record : Fields

inductive Call where
  | act (action : Action)
  | readJob
  | runJob
  | monotonic
  | now
  | observe (startedAt : ℤ) (deadline : ℚ)

def Result : Call → Type
  | .act _ => Response
  | .readJob => JobResponse
  | .runJob => Response
  | .monotonic => ℚ
  | .now => ClockValue
  | .observe _ _ => Option Selected

abbrev ports : Ports := ⟨Call,Result,Empty⟩

abbrev Step := Script ports PyExc Unit

abbrev Happening := Event ports PyExc

def ask (request : Call) : Step (Result request) := Script.invoke (P := ports) request

structure Config where
  schedulerResource : String
  waitSeconds : ℚ

-- The exception that carries a category to the caller.
def rejected (category : String) : PyExc := ⟨"_Rejected",category⟩

-- `rejected.category` where any other exception stands for an unknown outcome.
def categoryOr (fallback : String) (exc : PyExc) : String := if exc.kind = "_Rejected" then exc.text else fallback

def actionName : Action → String
  | .pause => "pause"
  | .resume => "resume"

def unknownAction (action : Action) : PyExc := rejected ("scheduler_" ++ actionName action ++ "_unknown")

def rejectedAction (action : Action) : PyExc := rejected ("scheduler_" ++ actionName action ++ "_rejected")

-- What an answered action says: done, refused, or neither.
def actionOutcome (action : Action) (response : Response) : Except PyExc Unit :=
  match response.statusCode with
  | none => .error (unknownAction action)
  | some status =>
    if response.isRedirect then .error (unknownAction action)
    else if 200 ≤ status ∧ status < 300 then .ok ()
    else if 500 ≤ status then .error (unknownAction action)
    else .error (rejectedAction action)

def schedulerAction (action : Action) : Step Unit := do
  let answer ← (ask (.act action)).attempt
  match answer with
  | .error _ => Script.raise (unknownAction action)
  | .ok response => Script.fromExcept (actionOutcome action response)

def schedulerOutputFields : List String :=
  ["state","status","lastAttemptTime","scheduleTime","userUpdateTime","updateTime","etag"]

def schedulerControlView (job : Fields) : Fields := job.filter fun entry => !schedulerOutputFields.contains entry.1

def sameView (one two : Fields) : Bool :=
  (PyVal.dict (schedulerControlView one)).same (.dict (schedulerControlView two))

-- The job a read response shows, or why it shows none.
def shownJob (response : JobResponse) : Except PyExc Fields :=
  if response.statusCode ≠ some 200 ∨ response.isRedirect then .error (rejected "scheduler_read_failed")
  else match response.json with
    | .error _ => .error (rejected "scheduler_read_invalid")
    | .ok (.dict job) => .ok job
    | .ok _ => .error (rejected "scheduler_read_invalid")

def namedJob (config : Config) (response : JobResponse) : Except PyExc Fields := do
  let job ← shownJob response
  if (job.get "name").isStr config.schedulerResource then return job
  else .error (rejected "scheduler_readback_mismatch")

def readSchedulerJob (config : Config) : Step Fields := do
  let response ← ask .readJob
  Script.fromExcept (namedJob config response)

def hasState (job : Fields) (state : String) : Bool := (job.get "state").isStr state

-- Whether the job is paused and otherwise as it was found.
def restoredAs (original job : Fields) : Bool := hasState job "PAUSED" && sameView job original

def orElse (text fallback : String) : String := if text = "" then fallback else text

def pauseError (paused : Except PyExc Unit) : String :=
  match paused with
  | .ok _ => ""
  | .error exc => categoryOr "scheduler_pause_unknown" exc

def verifyRestored (original : Fields) (error : String) (read : Except PyExc Fields) : Except PyExc Unit :=
  match read with
  | .error _ => .error (rejected (orElse error "scheduler_restore_readback_unknown"))
  | .ok job =>
    if !restoredAs original job then .error (rejected (orElse error "scheduler_restore_mismatch"))
    else if error ≠ "" then .error (rejected error)
    else .ok ()

def pauseAndVerify (config : Config) (original : Fields) : Step Unit := do
  let paused ← (schedulerAction .pause).attempt
  let read ← (readSchedulerJob config).attempt
  Script.fromExcept (verifyRestored original (pauseError paused) read)

def runOutcome (response : Response) : Except PyExc Unit :=
  match response.statusCode with
  | none => .error (rejected "scheduler_run_rejected")
  | some status =>
    if response.isRedirect then .error (rejected "scheduler_run_rejected")
    else if 200 ≤ status ∧ status < 300 then .ok ()
    else if status < 500 then .error (rejected "scheduler_run_rejected")
    else .error (rejected "scheduler_run_unknown")

def schedulerRun : Step Unit := do
  let response ← ask .runJob
  Script.fromExcept (runOutcome response)

def utcNow : Step ℤ := do
  let value ← ask .now
  match value with
  | .aware microseconds => return microseconds
  | .invalid => Script.raise (rejected "clock_invalid")

def withinDeadline (deadline : ℚ) : Step Unit := do
  let now : ℚ ← ask .monotonic
  if deadline ≤ now then Script.raise (rejected "observation_timeout") else pure ()

-- The observation itself; every exit of it is followed by a pause.
def probe (deadline : ℚ) : Step (Option Selected) := do
  withinDeadline deadline
  let startedAt ← utcNow
  let ran ← schedulerRun.attempt
  match ran with
  | .error exc => Script.raise (rejected (categoryOr "scheduler_run_unknown" exc))
  | .ok _ => do
    withinDeadline deadline
    ask (.observe startedAt deadline)

-- try/finally: a failure of the clean-up replaces what the body returned or raised.
def withPause (config : Config) (original : Fields) (body : Step α) : Step α := do
  let result ← body.attempt
  pauseAndVerify config original
  Script.fromExcept result

-- A resume without an answer: the job is read once, and paused if it turns out enabled.
def containUnknownResume (config : Config) (original : Fields) (exc : PyExc) : Step (Option Selected) := do
  let observed ← (readSchedulerJob config).attempt
  match observed with
  | .error _ => Script.raise (rejected "scheduler_resume_state_unknown")
  | .ok job =>
    if hasState job "ENABLED" then do
      pauseAndVerify config original
      Script.raise exc
    else if hasState job "PAUSED" then Script.raise exc
    else Script.raise (rejected "scheduler_resume_state_unknown")

def lastAttemptChanged (original job : Fields) : Bool :=
  !(job.get "lastAttemptTime").same (original.get "lastAttemptTime")

def resumedIsValid (original job : Fields) : Bool :=
  hasState job "ENABLED" && sameView job original && !lastAttemptChanged original job

def rejectResumed (config : Config) (original job : Fields) : Step (Option Selected) := do
  if hasState job "ENABLED" then pauseAndVerify config original else pure ()
  Script.raise (rejected
    (if lastAttemptChanged original job then "scheduler_unexpected_attempt" else "scheduler_resume_readback_mismatch"))

def afterResume (config : Config) (original : Fields) (deadline : ℚ) : Step (Option Selected) := do
  let read ← (readSchedulerJob config).attempt
  match read with
  | .error _ => do
    pauseAndVerify config original
    Script.raise (rejected "scheduler_resume_readback_unknown")
  | .ok job =>
    if resumedIsValid original job then withPause config original (probe deadline)
    else rejectResumed config original job

def runPausedProbe (config : Config) (original : Fields) : Step (Option Selected) := do
  let now : ℚ ← ask .monotonic
  let resumed ← (schedulerAction .resume).attempt
  match resumed with
  | .ok _ => afterResume config original (now + config.waitSeconds)
  | .error exc =>
    if exc = unknownAction .resume then containUnknownResume config original exc else Script.raise exc

-- The scheduler: whether the job is enabled, and whether a resume request was ever applied to it.
structure Job where
  enabled : Bool
  resumed : Bool

namespace Job

def apply (job : Job) : Action → Job
  | .pause => { job with enabled := false }
  | .resume => ⟨true,true⟩

-- A request that was done is applied, one that was refused is not; without a
-- definite answer either may be. A readback shows the state the job has then.
def Step (before : Job) (event : Happening) (after : Job) : Prop :=
  match event with
  | .answered _ (.act action) (.ok response) => match actionOutcome action response with
    | .ok _ => after = before.apply action
    | .error exc => after = before ∨ exc = unknownAction action ∧ after = before.apply action
  | .answered _ (.act action) (.error _) => after = before ∨ after = before.apply action
  | .answered _ .readJob (.ok response) => after = before ∧
    ∀ job, shownJob response = .ok job → hasState job (if before.enabled then "ENABLED" else "PAUSED") = true
  | _ => after = before

end Job
end LongBridge.Probe
