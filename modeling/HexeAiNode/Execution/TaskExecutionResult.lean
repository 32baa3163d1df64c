import HexeAiNode.Execution.TaskModels
import HexeAiNode.Python.Coercion

/-!
# Execution results

`TaskExecutionResult` with the validation its model runs when a result is built, and the failure
codes.  Of several fields that fail their validation only the first is reported here.
-/

namespace HexeAiNode
namespace Execution

open Py

/-! ## Failure codes -/

/-- `FAILURE_CODE_TAXONOMY`: the categories with their aliases. -/
def failureCodeTaxonomy : List (String × List String) :=
  [("unsupported_task_family",
      ["unsupported_task_family", "task_family_not_declared", "task_family_not_accepted"]),
    ("provider_unavailable",
      ["no_enabled_providers", "no_governance_approved_providers",
        "no_eligible_provider_available", "no_provider_configured",
        "local_only_provider_unavailable", "cloud_only_provider_unavailable",
        "provider_execution_failed"]),
    ("model_unavailable", ["no_eligible_model_available", "local_only_no_eligible_model"]),
    ("governance_violation",
      ["prompt_not_registered", "prompt_in_probation", "task_family_mismatch",
        "prompt_task_family_mismatch", "prompt_state_invalid", "prompt_access_denied",
        "invalid_prompt_version", "duplicate_prompt_id", "duplicate_prompt_version",
        "prompt_provider_not_allowed", "prompt_model_override_not_allowed",
        "prompt_structured_output_required", "prompt_routing_policy_conflict", "governance_stale",
        "governance_violation_task_family", "governance_violation_timeout",
        "governance_violation_input_size", "governance_violation_provider",
        "governance_violation_model"]),
    ("budget_violation",
      ["missing_budget_grant", "budget_exhausted", "reservation_conflict",
        "budget_state_invalid"]),
    ("invalid_input",
      ["invalid_input", "prompt_input_validation_failed", "prompt_input_schema_untrusted",
        "prompt_input_schema_reference_mismatch", "prompt_input_schema_unavailable",
        "prompt_input_schema_invalid", "prompt_input_schema_not_found",
        "idempotency_key_conflict"]),
    ("execution_timeout", ["execution_timeout"]),
    ("lease_expired", ["lease_expired", "lease_lost"]),
    ("internal_execution_error",
      ["internal_execution_error", "execution_queue_recovery_runner_unavailable",
        "execution_queue_restart_while_running"])]

/-- `classify_failure_code`. -/
def classifyFailureCode (code : String) : Option String :=
  let code := strip code
  if code = "" then none
  else
    match failureCodeTaxonomy.find? fun entry => entry.2.contains code with
    | some entry => some entry.1
    | none =>
      if startsWith code "governance_violation" then some "governance_violation"
      else if startsWith code "budget_" then some "budget_violation"
      else if startsWith code "invalid_input" then some "invalid_input"
      else none

/-- `FAILURE_RECOVERY_POLICY`: whether a retry and a fallback are allowed, and the action. -/
def failureRecoveryPolicy : List (String × Bool × Bool × String) :=
  [("unsupported_task_family", false, false, "do_not_retry"),
    ("provider_unavailable", true, true, "retry_or_fallback"),
    ("model_unavailable", false, true, "fallback_if_allowed"),
    ("governance_violation", false, false, "fix_request_or_policy"),
    ("budget_violation", false, false, "refresh_or_increase_budget"),
    ("invalid_input", false, false, "fix_request"),
    ("execution_timeout", true, true, "retry_or_fallback"),
    ("lease_expired", true, false, "renew_lease_then_retry"),
    ("internal_execution_error", false, false, "inspect_error")]

/-- `recovery_policy_for_failure_code`. -/
def recoveryPolicyForFailureCode (code : String) : Dict :=
  let category := (classifyFailureCode code).getD "internal_execution_error"
  let policy := (Assoc.get? failureRecoveryPolicy category).getD (false, false, "inspect_error")
  [("failure_category", .str category), ("retryable", .bool policy.1),
    ("fallback_allowed", .bool policy.2.1), ("action", .str policy.2.2)]

/-! ## Results -/

/-- `TaskExecutionStatus`. -/
inductive ExecutionStatus where
  | accepted
  | completed
  | failed
  | rejected
  | degraded
  | unsupported
  deriving DecidableEq, Repr

/-- `TaskExecutionResult`. -/
structure TaskExecutionResult where
  taskId : String
  status : ExecutionStatus
  output : Option Dict := none
  metrics : TaskExecutionMetrics := {}
  errorCode : Option String := none
  errorMessage : Option String := none
  providerUsed : Option String := none
  modelUsed : Option String := none
  resolutionMetadata : Option Dict := none
  completedAt : Option String := none

/-- A failed validation. -/
def invalid (text : String) : Exc := ⟨.validationError, text⟩

/-- `_normalized_non_empty_string`. -/
def normalizedNonEmptyString (value field : String) (maxLength : Nat) : Except Exc String :=
  let normalized := strip value
  if normalized = "" then .error (invalid (field ++ "_required"))
  else if maxLength < normalized.length then .error (invalid (field ++ "_too_long"))
  else .ok normalized

/-- `_normalized_non_empty_string` on a field that may be missing. -/
def normalizedOptional (value : Option String) (field : String) (maxLength : Nat) :
    Except Exc (Option String) :=
  match value with
  | none => .ok none
  | some s => some <$> normalizedNonEmptyString s field maxLength

/-- `normalized < 0`, for a float that may be missing. -/
def negativeFloat (x : Option FloatVal) : Bool :=
  match x with
  | some (.finite q) => decide (q < 0)
  | some .negInf => true
  | _ => false

/-- The validators of `TaskExecutionMetrics`. -/
def validateMetrics (m : TaskExecutionMetrics) : Except Exc Unit :=
  if negativeFloat m.providerLatencyMs ∨ negativeFloat m.estimatedCost ∨ m.retries < 0 ∨
      m.promptTokens < 0 ∨ m.cachedInputTokens < 0 ∨ m.completionTokens < 0 ∨
      m.totalTokens < 0 then
    .error (invalid "metrics_value_must_be_non_negative")
  else .ok ()

/-- The evidence a completed `local_only` result has to carry. -/
def localOnlyEvidence (metadata : Dict) : Bool :=
  (Dict.get metadata "routing_policy_mode").normalizeLower != "local_only" ||
    ((Dict.get metadata "provider_class").same (.str "local") &&
      (Dict.get metadata "execution_location").same (.str "local") &&
      (Dict.get metadata "cloud_used").same (.bool false))

/-- `isinstance(value, int) and not isinstance(value, bool) and value > 0`. -/
def isPositiveInt : Value → Bool
  | .int i => decide (0 < i)
  | _ => false

/-- The checks of one image of a completed result. -/
def validateImage : Value → Except Exc Unit
  | .dict image =>
    if (Dict.get image "url").normalizeString = "" then
      .error (invalid "completed_image_artifact_url_required")
    else
      match ["width", "height", "size_bytes"].find? fun f => !isPositiveInt (Dict.get image f) with
      | some field => .error (invalid ("completed_image_artifact_" ++ field ++ "_required"))
      | none => .ok ()
  | _ => .error (invalid "completed_image_artifact_url_required")

/-- The checks of a list of images. -/
def validateImageList : List Value → Except Exc Unit
  | [] => .ok ()
  | image :: images => do
    validateImage image
    validateImageList images

/-- The checks of the images of a completed output. -/
def validateImages (output : Dict) : Except Exc Unit :=
  match Assoc.get? output "images" with
  | none => .ok ()
  | some (.list (image :: images)) => validateImageList (image :: images)
  | some _ => .error (invalid "completed_image_artifact_required")

/-- `_validate_status_consistency`. -/
def validateStatusConsistency (r : TaskExecutionResult) : Except Exc Unit :=
  if r.status ∈ [.failed, .rejected, .unsupported] ∧ r.errorCode = none then
    .error (invalid "error_code_required_for_non_success_status")
  else if r.status ∈ [.completed, .degraded] ∧ r.output.isNone then
    .error (invalid "output_required_for_result_status")
  else if r.status = .accepted ∧ r.completedAt.isSome then
    .error (invalid "accepted_status_cannot_have_completed_at")
  else if r.status ≠ .accepted ∧ r.completedAt.isNone then
    .error (invalid "completed_at_required_for_terminal_status")
  else if r.status = .completed ∧ ¬ (r.resolutionMetadata.all localOnlyEvidence) then
    .error (invalid "local_only_resolution_evidence_required")
  else if r.status = .completed then validateImages (r.output.getD [])
  else .ok ()

/-- `TaskExecutionResult.model_validate`. -/
def modelValidate (r : TaskExecutionResult) : Except Exc TaskExecutionResult := do
  let taskId ← normalizedNonEmptyString r.taskId "task_id" 128
  validateMetrics r.metrics
  let errorCode ← normalizedOptional r.errorCode "error_code" 128
  let errorMessage ← normalizedOptional r.errorMessage "error_message" 4096
  let providerUsed ← normalizedOptional r.providerUsed "provider_used" 128
  let modelUsed ← normalizedOptional r.modelUsed "model_used" 128
  let result := { r with
    taskId := taskId
    errorCode := errorCode
    errorMessage := errorMessage
    providerUsed := providerUsed
    modelUsed := modelUsed }
  validateStatusConsistency result
  return result

end Execution
end HexeAiNode
