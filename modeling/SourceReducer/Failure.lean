import SourceReducer.Settings
import SourceReducer.Tree.Fault
import SourceReducer.NodeRef

/-! What ends a run, and what only refuses a change. -/
namespace SourceReducer

/-- A fault that ends the run. -/
inductive Failure
  | noInputs
  | file (path : String) (fault : FileFault)
  /-- A text could not be read into a tree before anything was changed. -/
  | unreadable (path : String) (error : ParseError)
  | invariant (message : String)
  | strategy (message : String)
  | settings (fault : SettingsFault)
  deriving DecidableEq

def Failure.message : Failure → String
  | .noInputs => "No input files to minimize"
  | .file path fault => s!"I/O error on {path}: {fault.message}"
  | .unreadable path error => s!"Input {path} does not parse: {error.message}"
  | .invariant message => s!"Invariant error: {message}"
  | .strategy message => s!"Strategy error: {message}"
  | .settings fault => s!"Invalid configuration: {fault.message}"

/-- Why a change is not made. -/
inductive Rejection
  | unsatisfied
  | timedOut
  | unparseable (unit : Nat) (error : ParseError)
  | nothingToRemove
  | exhausted
  deriving DecidableEq

def Rejection.message : Rejection → String
  | .unsatisfied => "invariant not satisfied"
  | .timedOut => "invariant check timed out"
  | .unparseable unit error => s!"{showUnit unit} does not parse: {error.message}"
  | .nothingToRemove => "no known nodes to remove"
  | .exhausted => "strategy exhausted"

/-- How a pass, or one request of a pass, ends. -/
inductive Control
  /-- Something was changed and the next pass starts. -/
  | proceed
  /-- The run is to end. -/
  | stop
  | failed (reason : Rejection)
  deriving DecidableEq

namespace Control

/-- Whether a pass ends with this answer to one of its requests. -/
def isTransfer : Control → Bool
  | .proceed | .stop => true
  | .failed _ => false

def message : Control → String
  | .proceed => "Continue"
  | .stop => "Stop"
  | .failed reason => s!"Failed: {reason.message}"

end Control

end SourceReducer
