import HexeAiNode.Governance.RoutingMode

/-!
# Execution requests

`TaskExecutionRequest` and the queue intent it carries, after validation, and the result of a prompt
authorization.  Fields that validation has given a closed set of values are inductive types; the
free-form `inputs` and `constraints` stay dictionaries.
-/

namespace HexeAiNode
namespace Execution

open Py Governance

/-- The five levels of `TaskExecutionPriority` and `TaskExecutionQueueImportance`. -/
inductive Importance where
  | background
  | low
  | normal
  | high
  | critical
  deriving DecidableEq, Repr

/-- The text of a level. -/
def Importance.text : Importance → String
  | .background => "background"
  | .low => "low"
  | .normal => "normal"
  | .high => "high"
  | .critical => "critical"

/-- `RuntimeLane`. -/
inductive RuntimeLane where
  | cloud
  | textLlm
  | visionLlm
  | visualGpu
  | visualCpu
  | trainingRuntime
  deriving DecidableEq, Repr

/-- `TaskExecutionQueueClass`. -/
inductive QueueClass where
  | interactive
  | background
  | scheduled
  deriving DecidableEq, Repr

/-- `TaskExecutionResponseMode`. -/
inductive ResponseMode where
  | sync
  | asyncIfQueued
  deriving DecidableEq, Repr

/-- `TaskExecutionQueueIntent`, after the request's `_normalize_identity_fields`.  Dates are
microseconds on the node's wall clock. -/
structure QueueIntent where
  importance : Importance := .normal
  priority : Option Importance := none
  queueClass : Option QueueClass := none
  runtimeLane : Option RuntimeLane := none
  maxWaitSeconds : Option Nat := none
  deadlineAt : Option Int := none
  allowCloudSpillover : Option Bool := none
  localPreferred : Option Bool := none
  routingPolicy : Option RoutingMode := none
  estimatedVramMib : Option Nat := none
  estimatedRuntimeSeconds : Option Nat := none
  reason : Option String := none

/-- `TaskExecutionRequest`. -/
structure TaskExecutionRequest where
  taskId : String
  idempotencyKey : Option String := none
  promptId : Option String := none
  promptVersion : Option String := none
  taskFamily : String
  requestedBy : String
  serviceId : Option String := none
  customerId : Option String := none
  requestedProvider : Option String := none
  requestedModel : Option String := none
  inputs : Dict := []
  constraints : Dict := []
  priority : Importance := .normal
  queue : QueueIntent := {}
  responseMode : ResponseMode := .sync
  jobName : Option String := none
  timeoutS : Int := 60
  traceId : String
  leaseId : Option String := none

/-- `ExecutionAuthorizationResult`.  The three dictionaries are `None` when the prompt entry has
none. -/
structure ExecutionAuthorizationResult where
  allowed : Bool
  reason : String
  promptVersion : Option String := none
  privacyClass : Option String := none
  providerPreferences : Value := .null
  promptConstraints : Value := .null
  promptDefinition : Value := .null

/-- `TaskExecutionMetrics`, as far as a response fills it. -/
structure TaskExecutionMetrics where
  providerLatencyMs : Option FloatVal := none
  retries : Int := 0
  fallbackUsed : Bool := false
  promptTokens : Int := 0
  cachedInputTokens : Int := 0
  completionTokens : Int := 0
  totalTokens : Int := 0
  estimatedCost : Option FloatVal := none

/-- An optional text as a value. -/
def optStr : Option String → Value
  | none => .null
  | some s => .str s

@[simp] theorem optStr_none : optStr none = .null := rfl
@[simp] theorem optStr_some (s : String) : optStr (some s) = .str s := rfl

end Execution
end HexeAiNode
