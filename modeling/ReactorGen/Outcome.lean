/-!
# Outcomes

How a build or a launched program ended.
-/

namespace ReactorGen

/-- How a process ended. -/
inductive Outcome
  | pass
  /-- With an exit code other than zero, or by a signal. -/
  | fail
  /-- It was terminated because it took too long. -/
  | timeout
  /-- It could not be started. -/
  | noExec
deriving DecidableEq, Repr

namespace Outcome

/-- Classify a finished process.  A timeout counts whatever the exit code is, and a
process without exit code was ended by a signal. -/
def ofExit (started timedOut : Bool) (exitCode : Option Int32) : Outcome :=
  if !started then noExec
  else if timedOut then timeout
  else if exitCode = some 0 then pass
  else fail

/-- Whether a process ended well. -/
def isPass (outcome : Outcome) : Bool :=
  outcome = pass

/-- The spelling of an outcome in messages. -/
def text : Outcome -> String
  | pass => "pass"
  | fail => "fail"
  | timeout => "timeout"
  | noExec => "no-exec"

/-- The spelling of an outcome in data. -/
def name : Outcome -> String
  | noExec => "no_exec"
  | outcome => outcome.text

end Outcome
end ReactorGen
