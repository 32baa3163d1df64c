import Mathlib.Data.List.Dedup
import HexeAiNode.Execution.TaskExecutionResult
import HexeAiNode.Prompts.Versioning
import HexeAiNode.Queue.Jobs

/-!
# Validation of execution requests

`TaskExecutionRequest.modelValidate` is the validation of a request whose fields have their declared types:
pydantic's conversions of JSON to these types come before it.  It checks and normalizes each field, and then
derives the fields of the queue intent that the caller left open from each other
(`normalizeIdentityFields`).

`WellFormed` is what validation establishes, and `modelValidate_wellFormed` says that it does.  Three fields of
a well-formed request need not be valid again: a deadline is compared with the clock, the service id that is
taken from `requested_by` may be longer than a service id may be, and so may a version that was completed
by `.0`.
-/

namespace HexeAiNode
namespace Execution

open Py Governance Prompts

/-! ## Task families -/

/-- `LEGACY_TASK_FAMILY_ALIASES`. -/
def legacyTaskFamilyAliases : List (String × String) := [("task.classification.text", "task.classification")]

/-- `CANONICAL_TASK_FAMILIES`. -/
def canonicalTaskFamilies : List String := [
  "task.classification", "task.classification.email", "task.classification.image",
  "task.summarization.text", "task.summarization.email", "task.summarization.event",
  "task.generation.text", "task.generation.image", "task.chat", "task.summarization", "task.reasoning",
  "task.information_extraction", "task.structured_extraction", "task.translation",
  "task.sentiment_analysis", "task.task_planning", "task.workflow_reasoning", "task.tool_usage",
  "task.automation_command", "task.environment_control", "task.coding", "task.code_generation",
  "task.code_review", "task.code_debugging", "task.code_explanation", "task.vision_analysis",
  "task.object_detection", "task.image_description", "task.document_ocr", "task.image_generation",
  "task.image_editing", "task.image_variation", "task.speech_to_text", "task.text_to_speech",
  "task.voice_conversation", "task.audio_analysis", "task.realtime_voice", "task.streaming_response",
  "task.low_latency_interaction", "task.embedding_generation", "task.semantic_search",
  "task.document_indexing", "task.knowledge_retrieval", "task.moderation", "task.policy_check"]

/-- `canonicalize_task_family`. -/
def canonicalizeTaskFamily (value : Value) : Option String :=
  let normalized := value.normalizeLower
  if normalized = "" then none else some ((Assoc.get? legacyTaskFamilyAliases normalized).getD normalized)

/-- `_TASK_FAMILY_ID_RE`: 2 to 128 characters, the first a letter or a digit. -/
def isTaskFamilyId (s : String) : Bool :=
  let alphanumeric (c : Char) : Bool := isDigit c || decide (97 ≤ c.toNat ∧ c.toNat ≤ 122)
  match s.toList with
  | [] => false
  | c :: cs => alphanumeric c && cs.all (fun c => alphanumeric c || ['.', '_', '/', '-'].contains c) &&
      decide (1 ≤ cs.length ∧ cs.length ≤ 127)

/-- `_normalize_string_list` on a list: the canonical families, sorted, each once. -/
def normalizeTaskFamilies (items : List Value) : List String :=
  (items.filterMap canonicalizeTaskFamily).dedup.insertionSort fun a b => a.toList ≤ b.toList

/-- `validate_task_family_capabilities`: the error, if there is one. -/
def validateTaskFamilyCapabilities : Value → Option String
  | .list items =>
    let normalized := normalizeTaskFamilies items
    match normalized.find? fun family => !isTaskFamilyId family with
    | some family => some ("invalid_task_family:" ++ family)
    | none =>
      match normalized.find? fun family => !canonicalTaskFamilies.contains family with
      | some family => some ("unsupported_task_family:" ++ family)
      | none => none
  | _ => some "invalid_task_families"

/-! ## Runtime lanes -/

/-- `QUEUE_LANE_ALIASES`, and the names of the lanes. -/
def queueLaneAliases : List (String × RuntimeLane) := [
  ("cloud", .cloud), ("cloud_queue", .cloud), ("local", .textLlm), ("text", .textLlm),
  ("text_llm", .textLlm), ("llamacpp", .textLlm), ("llama_cpp", .textLlm), ("vision", .visionLlm),
  ("vision_llm", .visionLlm), ("local_vision", .visionLlm), ("visual", .visualGpu),
  ("visual_runtime", .visualGpu), ("visual_gpu", .visualGpu), ("comfyui", .visualGpu),
  ("comfyui_gpu", .visualGpu), ("gpu_comfyui", .visualGpu), ("visual_cpu", .visualCpu),
  ("comfyui_cpu", .visualCpu), ("cpu_comfyui", .visualCpu), ("training", .trainingRuntime),
  ("training_runtime", .trainingRuntime), ("sd_scripts", .trainingRuntime),
  ("sd_scripts_training", .trainingRuntime)]

/-- `TASK_FAMILY_DEFAULT_LANES`. -/
def taskFamilyDefaultLanes : List (String × RuntimeLane) := [
  ("task.chat", .textLlm), ("task.classification", .textLlm), ("task.information_extraction", .textLlm),
  ("task.reasoning", .textLlm), ("task.sentiment_analysis", .textLlm),
  ("task.streaming_response", .textLlm), ("task.vision_analysis", .visionLlm),
  ("task.image_generation", .visualGpu), ("task.generation.image", .visualGpu),
  ("task.avatar_generation", .visualGpu), ("task.lora_training", .trainingRuntime)]

/-- `normalize_runtime_lane`, with an empty default. -/
def normalizeRuntimeLane (value : Value) : Option RuntimeLane :=
  Assoc.get? queueLaneAliases (Queue.underscored value.normalizeLower)

/-- `infer_runtime_lane`. -/
def inferRuntimeLane (queue taskFamily requestedProvider : Value) : RuntimeLane :=
  match normalizeRuntimeLane queue with
  | some lane =>
    if lane = .textLlm ∧ taskFamily.normalizeLower = "task.vision_analysis" then .visionLlm else lane
  | none =>
    match normalizeRuntimeLane requestedProvider with
    | some lane => lane
    | none => (Assoc.get? taskFamilyDefaultLanes taskFamily.normalizeLower).getD .textLlm

/-! ## Field validators -/

/-- `_normalized_non_empty_string`, with the value last. -/
def normalizedName (fieldName : String) (maxLength : ℕ) (value : String) : Except Exc String :=
  normalizedNonEmptyString value fieldName maxLength

/-- A validator of a field that may be left out. -/
def optional {α β : Type} (validator : α → Except Exc β) : Option α → Except Exc (Option β)
  | none => .ok none
  | some a => (validator a).map some

/-- `_validate_prompt_selection_field`, for `prompt_version`. -/
def validatePromptVersion (value : String) : Except Exc String := do
  let normalized ← normalizedName "prompt_version" 128 value
  normalizePromptVersion (.str normalized) true

/-- `_validate_task_family`. -/
def validateTaskFamily (value : String) : Except Exc String := do
  let normalized ← normalizedName "task_family" 128 value
  match validateTaskFamilyCapabilities (.list [.str normalized]) with
  | some error => .error ⟨.validationError, error⟩
  | none => pure ((canonicalizeTaskFamily (.str normalized)).getD normalized)

/-- `_validate_timeout_s`. -/
def validateTimeoutS (value : ℤ) : Except Exc ℤ :=
  if value ≤ 0 then .error ⟨.validationError, "timeout_s_must_be_positive"⟩
  else if 3600 < value then .error ⟨.validationError, "timeout_s_exceeds_phase3_limit"⟩
  else .ok value

/-- `_validate_non_negative_int`. -/
def validateNonNegativeInt (fieldName : String) (value : ℤ) : Except Exc ℕ :=
  if value < 0 then .error ⟨.validationError, fieldName ++ "_must_be_non_negative"⟩ else .ok value.toNat

/-- `_validate_queue_reason`. -/
def validateQueueReason (value : String) : Except Exc (Option String) :=
  let normalized := strip value
  if 512 < normalized.length then .error ⟨.validationError, "queue_reason_too_long"⟩
  else .ok (if normalized = "" then none else some normalized)

/-- `_validate_deadline_at`. -/
def validateDeadlineAt (now deadline : ℤ) : Except Exc ℤ :=
  if deadline ≤ now then .error ⟨.validationError, "queue_deadline_at_must_be_in_future"⟩ else .ok deadline

/-! ## The request -/

/-- The fields of a `TaskExecutionQueueIntent`, with their declared types. -/
structure QueueIntentFields where
  importance : Importance := .normal
  priority : Option Importance := none
  queueClass : Option QueueClass := none
  runtimeLane : Option RuntimeLane := none
  maxWaitSeconds : Option ℤ := none
  deadlineAt : Option ℤ := none
  allowCloudSpillover : Option Bool := none
  localPreferred : Option Bool := none
  routingPolicy : Option RoutingMode := none
  estimatedVramMib : Option ℤ := none
  estimatedRuntimeSeconds : Option ℤ := none
  reason : Option String := none

/-- The fields of a `TaskExecutionRequest`, with their declared types. -/
structure TaskExecutionFields where
  taskId : String
  idempotencyKey : Option String := none
  promptId : Option String := none
  promptVersion : Option String := none
  taskFamily : String
  requestedBy : String
  serviceId : Option String := none
  customerId : Option String := none
  requestedProvider : Option String := none
  requestedModel : Option String := none
  inputs : Dict := []
  constraints : Dict := []
  priority : Importance := .normal
  queue : QueueIntentFields := {}
  responseMode : ResponseMode := .sync
  jobName : Option String := none
  timeoutS : ℤ := 60
  traceId : String
  leaseId : Option String := none

/-- The validation of a queue intent. -/
def QueueIntent.modelValidate (now : ℤ) (fields : QueueIntentFields) : Except Exc QueueIntent := do
  let maxWaitSeconds ← optional (validateNonNegativeInt "max_wait_seconds") fields.maxWaitSeconds
  let deadlineAt ← optional (validateDeadlineAt now) fields.deadlineAt
  let estimatedVramMib ← optional (validateNonNegativeInt "estimated_vram_mib") fields.estimatedVramMib
  let estimatedRuntimeSeconds ←
    optional (validateNonNegativeInt "estimated_runtime_seconds") fields.estimatedRuntimeSeconds
  let reason ← optional validateQueueReason fields.reason
  pure {
    importance := fields.importance
    priority := fields.priority
    queueClass := fields.queueClass
    runtimeLane := fields.runtimeLane
    maxWaitSeconds := maxWaitSeconds
    deadlineAt := deadlineAt
    allowCloudSpillover := fields.allowCloudSpillover
    localPreferred := fields.localPreferred
    routingPolicy := fields.routingPolicy
    estimatedVramMib := estimatedVramMib
    estimatedRuntimeSeconds := estimatedRuntimeSeconds
    reason := reason.join }

namespace TaskExecutionRequest

/-- The routing policy of a request that names none in its queue intent. -/
def derivedRoutingPolicy (request : TaskExecutionRequest) : RoutingMode :=
  match normalizeRoutingPolicyMode ((request.constraints.get "routing_policy").asDict.get "mode") with
  | some mode => mode
  | none =>
    match request.requestedProvider with
    | some provider =>
      if provider = "" ∨ stripLower provider ∈ ["local", "local_vision"] then .localPreferred
      else .cloudOnly
    | none => .localPreferred

/-- The queue class of a request that names none. -/
def derivedQueueClass (request : TaskExecutionRequest) (importance : Importance) : QueueClass :=
  let imageBackground := stripLower request.taskFamily ∈ ["task.image_generation", "task.generation.image"] ∧
    request.priority ∈ [.background, .low]
  if importance = .background ∨ imageBackground then .background else .interactive

/-- The wait budget of a class. -/
def derivedMaxWaitSeconds : QueueClass → ℕ
  | .background => 6 * 60 * 60
  | _ => 5 * 60

/-- The queue intent that `_normalize_identity_fields` leaves. -/
def normalizedQueue (request : TaskExecutionRequest) : QueueIntent :=
  let queue := request.queue
  let importance :=
    if queue.importance = .normal ∧ request.priority ≠ .normal then request.priority else queue.importance
  let queueClass := queue.queueClass.getD (request.derivedQueueClass importance)
  let routingPolicy := queue.routingPolicy.getD request.derivedRoutingPolicy
  { queue with
    importance := importance
    priority := some (queue.priority.getD importance)
    queueClass := some queueClass
    maxWaitSeconds := some (queue.maxWaitSeconds.getD (derivedMaxWaitSeconds queueClass))
    routingPolicy := some routingPolicy
    localPreferred := some (queue.localPreferred.getD
      (decide (routingPolicy ∈ [.localPreferred, .cloudFallback])))
    runtimeLane := some (queue.runtimeLane.getD
      (inferRuntimeLane .null (.str request.taskFamily) (optStr request.requestedProvider))) }

/-- `_normalize_identity_fields`. -/
def normalizeIdentityFields (request : TaskExecutionRequest) : TaskExecutionRequest :=
  { request with
    serviceId := some (request.serviceId.getD request.requestedBy)
    queue := request.normalizedQueue }

/-- `TaskExecutionRequest.model_validate`, of fields with their declared types. -/
def modelValidate (now : ℤ) (fields : TaskExecutionFields) : Except Exc TaskExecutionRequest := do
  let taskId ← normalizedName "task_id" 128 fields.taskId
  let idempotencyKey ← optional (normalizedName "idempotency_key" 128) fields.idempotencyKey
  let promptId ← optional (normalizedName "prompt_id" 128) fields.promptId
  let promptVersion ← optional validatePromptVersion fields.promptVersion
  let taskFamily ← validateTaskFamily fields.taskFamily
  let requestedBy ← normalizedName "requested_by" 255 fields.requestedBy
  let serviceId ← optional (normalizedName "service_id" 128) fields.serviceId
  let customerId ← optional (normalizedName "customer_id" 128) fields.customerId
  let requestedProvider ←
    optional (normalizedName "requested_provider" 128) fields.requestedProvider
  let requestedModel ← optional (normalizedName "requested_model" 128) fields.requestedModel
  let queue ← QueueIntent.modelValidate now fields.queue
  let jobName ← optional (normalizedName "job_name" 255) fields.jobName
  let timeoutS ← validateTimeoutS fields.timeoutS
  let traceId ← normalizedName "trace_id" 128 fields.traceId
  let leaseId ← optional (normalizedName "lease_id" 128) fields.leaseId
  pure (normalizeIdentityFields {
    taskId := taskId
    idempotencyKey := idempotencyKey
    promptId := promptId
    promptVersion := promptVersion
    taskFamily := taskFamily
    requestedBy := requestedBy
    serviceId := serviceId
    customerId := customerId
    requestedProvider := requestedProvider
    requestedModel := requestedModel
    inputs := fields.inputs
    constraints := fields.constraints
    priority := fields.priority
    queue := queue
    responseMode := fields.responseMode
    jobName := jobName
    timeoutS := timeoutS
    traceId := traceId
    leaseId := leaseId })

end TaskExecutionRequest

/-! ## What validation establishes -/

/-- A text that `_normalized_non_empty_string` gives. -/
structure IsName (maxLength : ℕ) (s : String) : Prop where
  stripped : strip s = s
  nonempty : s ≠ ""
  short : s.length ≤ maxLength

theorem normalizedName_eq_ok {fieldName value s : String} {n : ℕ}
    (h : normalizedName fieldName n value = .ok s) : s = strip value ∧ IsName n s := by
  unfold normalizedName normalizedNonEmptyString at h
  dsimp only at h
  split at h
  · cases h
  · next hne =>
    split at h
    · cases h
    · next hlong =>
      obtain rfl := Except.ok.inj h
      exact ⟨rfl, strip_strip value, hne, not_lt.mp hlong⟩

/-- **A name is validated as it is.** -/
theorem normalizedName_self_iff {fieldName s : String} {n : ℕ} :
    normalizedName fieldName n s = .ok s ↔ IsName n s := by
  refine ⟨fun h => (normalizedName_eq_ok h).2, fun h => ?_⟩
  unfold normalizedName normalizedNonEmptyString
  rw [h.stripped]
  simp [h.nonempty, h.short]

section Optional

variable {α β : Type} {validator : α → Except Exc β}

theorem optional_eq_ok {o : Option α} {o' : Option β} (h : optional validator o = .ok o') :
    ∀ b ∈ o', ∃ a ∈ o, validator a = .ok b := by
  rintro b rfl
  cases o with
  | none => cases h
  | some a =>
    have h : (validator a).map some = .ok (some b) := h
    rcases ha : validator a with e | b'
    · rw [ha] at h
      cases h
    · rw [ha] at h
      obtain rfl := Option.some.inj (Except.ok.inj h)
      exact ⟨a, rfl, ha⟩

theorem optional_map {f : β → α} {o : Option β} (h : ∀ b ∈ o, validator (f b) = .ok b) :
    optional validator (o.map f) = .ok o := by
  cases o with
  | none => rfl
  | some b =>
    show (validator (f b)).map some = _
    rw [h b rfl]
    rfl

theorem optional_self {validator : α → Except Exc α} {o : Option α} (h : ∀ a ∈ o, validator a = .ok a) :
    optional validator o = .ok o := by
  rw [← optional_map (f := id) h, Option.map_id_fun, id]

end Optional

/-- A version that a request carries. -/
structure IsVersion (version : String) : Prop where
  stripped : strip version = version
  nonempty : version ≠ ""
  normalized : normalizePromptVersion (.str version) true = .ok version

theorem isVersion_of_eq_ok {value version : String} (h : validatePromptVersion value = .ok version) :
    IsVersion version := by
  obtain ⟨normalized, -, h⟩ := bind_eq_ok.mp h
  have hself := normalizePromptVersion_normalized h
  refine ⟨?_, ?_, hself⟩
  · unfold normalizePromptVersion at h
    dsimp only at h
    split at h
    · next hmajor =>
      obtain rfl := Except.ok.inj h
      exact strip_append_of_isMajorOnly hmajor
    · split at h
      · obtain rfl := Except.ok.inj h
        simp
      · split at h
        · obtain rfl := Except.ok.inj h
          simp
        · cases h
  · rintro rfl
    cases hself

/-- **A version is validated as it is, unless it is too long.** -/
theorem validatePromptVersion_self_iff {version : String} (h : IsVersion version) :
    validatePromptVersion version = .ok version ↔ version.length ≤ 128 := by
  constructor
  · intro hok
    obtain ⟨normalized, hnormalized, -⟩ := bind_eq_ok.mp hok
    obtain ⟨hstrip, hname⟩ := normalizedName_eq_ok hnormalized
    rw [h.stripped] at hstrip
    exact hstrip ▸ hname.short
  · intro hshort
    refine bind_eq_ok.mpr ⟨version, ?_, h.normalized⟩
    exact normalizedName_self_iff.mpr ⟨h.stripped, h.nonempty, hshort⟩

/-- The family of a text that is not blank. -/
theorem canonicalizeTaskFamily_of_ne {value : Value} (h : value.normalizeLower ≠ "") :
    ∃ family, canonicalizeTaskFamily value = some family := by
  unfold canonicalizeTaskFamily
  dsimp only
  rw [if_neg h]
  exact ⟨_, rfl⟩

theorem normalizeTaskFamilies_singleton {value : Value} {family : String}
    (h : canonicalizeTaskFamily value = some family) : normalizeTaskFamilies [value] = [family] := by
  unfold normalizeTaskFamilies
  rw [List.filterMap_cons_some h, List.filterMap_nil, List.dedup_eq_self.mpr (List.nodup_singleton family)]
  rfl

theorem validateTaskFamily_mem {value family : String} (h : validateTaskFamily value = .ok family) :
    family ∈ canonicalTaskFamilies := by
  obtain ⟨normalized, hname, h⟩ := bind_eq_ok.mp h
  have hname := (normalizedName_eq_ok hname).2
  have hblank : (Value.str normalized).normalizeLower ≠ "" := by
    show lower (Value.normalizeString _) ≠ ""
    rw [Value.normalizeString_str, hname.stripped]
    exact fun hlower => hname.nonempty (lower_eq_empty_iff.mp hlower)
  obtain ⟨canonical, hcanonical⟩ := canonicalizeTaskFamily_of_ne hblank
  rcases hvalid : validateTaskFamilyCapabilities (.list [.str normalized]) with _ | error
  · rw [hvalid, hcanonical] at h
    obtain rfl := pure_eq_ok.mp h
    unfold validateTaskFamilyCapabilities at hvalid
    dsimp only at hvalid
    rw [normalizeTaskFamilies_singleton hcanonical] at hvalid
    split at hvalid
    · cases hvalid
    · split at hvalid
      · cases hvalid
      · next hknown => simpa using hknown
  · rw [hvalid] at h
    cases h

theorem canonicalTaskFamilies_spec : ∀ family ∈ canonicalTaskFamilies,
    isTaskFamilyId family = true ∧ family ≠ "task.classification.text" := by
  decide +kernel

/-- An identifier of a family has no blanks and nothing to lower-case. -/
theorem of_isTaskFamilyId {s : String} (h : isTaskFamilyId s = true) :
    IsName 128 s ∧ lower s = s := by
  unfold isTaskFamilyId at h
  dsimp only at h
  rcases hs : s.toList with _ | ⟨c, cs⟩
  · rw [hs] at h
    cases h
  rw [hs] at h
  simp only [Bool.and_eq_true, Bool.or_eq_true, List.all_eq_true, decide_eq_true_eq] at h
  obtain ⟨⟨hhead, htail⟩, -, hlength⟩ := h
  have hplain : ∀ d ∈ s.toList, lowerChar d = [d] ∧ isSpace d = false := by
    have hrange : ∀ d ∈ s.toList, 45 ≤ d.toNat ∧ d.toNat ≤ 122 ∧ ¬(65 ≤ d.toNat ∧ d.toNat ≤ 90) := by
      have halnum : ∀ d : Char, isDigit d = true ∨ 97 ≤ d.toNat ∧ d.toNat ≤ 122 →
          45 ≤ d.toNat ∧ d.toNat ≤ 122 ∧ ¬(65 ≤ d.toNat ∧ d.toNat ≤ 90) := by
        rintro d (hd | hd)
        · have := of_decide_eq_true hd
          omega
        · omega
      rw [hs]
      refine List.forall_mem_cons.mpr ⟨halnum c hhead, fun d hd => ?_⟩
      rcases htail d hd with hd | hd
      · exact halnum d hd
      · simp only [List.contains_iff_mem, List.mem_cons, List.not_mem_nil, or_false] at hd
        rcases hd with rfl | rfl | rfl | rfl <;> decide
    intro d hd
    have hd := hrange d hd
    constructor
    · simp only [lowerChar]
      rw [if_pos (by omega), if_neg hd.2.2]
    · simp [isSpace]
      omega
  refine ⟨⟨strip_eq_self ⟨fun d hd => ?_, fun d hd => ?_⟩, ?_, ?_⟩, ?_⟩
  · exact (hplain d (List.mem_of_mem_head? hd)).2
  · exact (hplain d (List.mem_of_getLast? hd)).2
  · rintro rfl
    cases hs
  · rw [← String.length_toList, hs, List.length_cons]
    omega
  · rw [lower, List.flatMap_congr fun d hd => (hplain d hd).1, List.flatMap_singleton', String.ofList_toList]

/-- **A canonical family is validated as it is.** -/
theorem validateTaskFamily_self {family : String} (h : family ∈ canonicalTaskFamilies) :
    validateTaskFamily family = .ok family := by
  obtain ⟨hid, halias⟩ := canonicalTaskFamilies_spec family h
  obtain ⟨hname, hlower⟩ := of_isTaskFamilyId hid
  have hcanonical : canonicalizeTaskFamily (.str family) = some family := by
    unfold canonicalizeTaskFamily Value.normalizeLower
    simp [hname.stripped, hlower, hname.nonempty, legacyTaskFamilyAliases, Assoc.get?_cons, Ne.symm halias]
  refine bind_eq_ok.mpr ⟨family, normalizedName_self_iff.mpr hname, ?_⟩
  have hvalid : validateTaskFamilyCapabilities (.list [.str family]) = none := by
    unfold validateTaskFamilyCapabilities
    simp [normalizeTaskFamilies_singleton hcanonical, hid, h]
  rw [hvalid, hcanonical]
  rfl

theorem validateTimeoutS_eq_ok {value t : ℤ} (h : validateTimeoutS value = .ok t) : 0 < t ∧ t ≤ 3600 := by
  unfold validateTimeoutS at h
  split at h
  · cases h
  · split at h
    · cases h
    · obtain rfl := Except.ok.inj h
      omega

theorem validateTimeoutS_self {t : ℤ} (h : 0 < t ∧ t ≤ 3600) : validateTimeoutS t = .ok t := by
  unfold validateTimeoutS
  rw [if_neg (by omega), if_neg (by omega)]

@[simp] theorem validateNonNegativeInt_natCast (fieldName : String) (n : ℕ) :
    validateNonNegativeInt fieldName n = .ok n := by
  unfold validateNonNegativeInt
  rw [if_neg (by omega), Int.toNat_natCast]

theorem validateDeadlineAt_eq_ok {now deadline d : ℤ} (h : validateDeadlineAt now deadline = .ok d) :
    d = deadline ∧ now < d := by
  unfold validateDeadlineAt at h
  split at h
  · cases h
  · obtain rfl := Except.ok.inj h
    exact ⟨rfl, by omega⟩

theorem validateDeadlineAt_self {now d : ℤ} (h : now < d) : validateDeadlineAt now d = .ok d := by
  unfold validateDeadlineAt
  rw [if_neg (by omega)]

/-- A reason that a request carries. -/
structure IsReason (reason : String) : Prop where
  stripped : strip reason = reason
  nonempty : reason ≠ ""
  short : reason.length ≤ 512

theorem validateQueueReason_eq_ok {value : String} {reason : Option String}
    (h : validateQueueReason value = .ok reason) : ∀ s ∈ reason, IsReason s := by
  unfold validateQueueReason at h
  dsimp only at h
  split at h
  · cases h
  · next hlong =>
    obtain rfl := Except.ok.inj h
    rintro s hs
    split at hs
    · cases hs
    · next hne =>
      obtain rfl := Option.some.inj hs
      exact ⟨strip_strip value, hne, not_lt.mp hlong⟩

theorem validateQueueReason_self {reason : String} (h : IsReason reason) :
    validateQueueReason reason = .ok (some reason) := by
  unfold validateQueueReason
  rw [h.stripped]
  simp [h.nonempty, h.short]

/-! ## Queue intents -/

/-- The fields of a queue intent that is dumped and read again. -/
def QueueIntent.modelDump (queue : QueueIntent) : QueueIntentFields where
  importance := queue.importance
  priority := queue.priority
  queueClass := queue.queueClass
  runtimeLane := queue.runtimeLane
  maxWaitSeconds := queue.maxWaitSeconds.map Nat.cast
  deadlineAt := queue.deadlineAt
  allowCloudSpillover := queue.allowCloudSpillover
  localPreferred := queue.localPreferred
  routingPolicy := queue.routingPolicy
  estimatedVramMib := queue.estimatedVramMib.map Nat.cast
  estimatedRuntimeSeconds := queue.estimatedRuntimeSeconds.map Nat.cast
  reason := queue.reason

/-- The reason of a validated intent. -/
theorem QueueIntent.reason_of_modelValidate {now : ℤ} {fields : QueueIntentFields} {queue : QueueIntent}
    (h : QueueIntent.modelValidate now fields = .ok queue) : ∀ s ∈ queue.reason, IsReason s := by
  obtain ⟨maxWait, -, h⟩ := bind_eq_ok.mp h
  obtain ⟨deadline, -, h⟩ := bind_eq_ok.mp h
  obtain ⟨vram, -, h⟩ := bind_eq_ok.mp h
  obtain ⟨runtime, -, h⟩ := bind_eq_ok.mp h
  obtain ⟨reason, hreason, h⟩ := bind_eq_ok.mp h
  obtain rfl := pure_eq_ok.mp h
  intro s hs
  rcases reason with _ | reason
  · cases hs
  · obtain ⟨value, -, hvalue⟩ := optional_eq_ok hreason reason rfl
    exact validateQueueReason_eq_ok hvalue s hs

/-- **A queue intent is validated as it is**, exactly when its deadline is in the future. -/
theorem QueueIntent.modelValidate_modelDump_iff {now : ℤ} {queue : QueueIntent}
    (hreason : ∀ s ∈ queue.reason, IsReason s) :
    QueueIntent.modelValidate now queue.modelDump = .ok queue ↔ ∀ d ∈ queue.deadlineAt, now < d := by
  constructor
  · intro h d hd
    obtain ⟨maxWait, -, h⟩ := bind_eq_ok.mp h
    obtain ⟨deadline, hdeadline, h⟩ := bind_eq_ok.mp h
    obtain ⟨vram, -, h⟩ := bind_eq_ok.mp h
    obtain ⟨runtime, -, h⟩ := bind_eq_ok.mp h
    obtain ⟨reason, -, h⟩ := bind_eq_ok.mp h
    have hd : d ∈ deadline := by
      rw [← pure_eq_ok.mp h] at hd
      exact hd
    obtain ⟨a, -, ha⟩ := optional_eq_ok hdeadline d hd
    exact (validateDeadlineAt_eq_ok ha).2
  · intro hdeadline
    have hreason' : optional validateQueueReason queue.reason = .ok (queue.reason.map some) := by
      rcases hqueue : queue.reason with _ | reason
      · rfl
      · show (validateQueueReason reason).map some = _
        rw [validateQueueReason_self (hreason reason hqueue)]
        rfl
    unfold QueueIntent.modelValidate QueueIntent.modelDump
    dsimp only
    rw [optional_map fun n _ => validateNonNegativeInt_natCast _ n,
      optional_self fun d hd => validateDeadlineAt_self (hdeadline d hd),
      optional_map fun n _ => validateNonNegativeInt_natCast _ n,
      optional_map fun n _ => validateNonNegativeInt_natCast _ n, hreason']
    rcases queue with ⟨importance, priority, queueClass, lane, wait, deadline, spill, local', policy, vram,
      runtime, _ | reason⟩
    · rfl
    · rfl

/-! ## Requests -/

/-- The validators of the fields give the fields of `request`. -/
structure TaskExecutionFields.Validated (now : ℤ) (fields : TaskExecutionFields)
    (request : TaskExecutionRequest) : Prop where
  taskId : normalizedName "task_id" 128 fields.taskId = .ok request.taskId
  idempotencyKey : optional (normalizedName "idempotency_key" 128) fields.idempotencyKey =
    .ok request.idempotencyKey
  promptId : optional (normalizedName "prompt_id" 128) fields.promptId = .ok request.promptId
  promptVersion : optional validatePromptVersion fields.promptVersion = .ok request.promptVersion
  taskFamily : validateTaskFamily fields.taskFamily = .ok request.taskFamily
  requestedBy : normalizedName "requested_by" 255 fields.requestedBy = .ok request.requestedBy
  serviceId : optional (normalizedName "service_id" 128) fields.serviceId = .ok request.serviceId
  customerId : optional (normalizedName "customer_id" 128) fields.customerId = .ok request.customerId
  requestedProvider : optional (normalizedName "requested_provider" 128) fields.requestedProvider =
    .ok request.requestedProvider
  requestedModel : optional (normalizedName "requested_model" 128) fields.requestedModel =
    .ok request.requestedModel
  queue : QueueIntent.modelValidate now fields.queue = .ok request.queue
  jobName : optional (normalizedName "job_name" 255) fields.jobName = .ok request.jobName
  timeoutS : validateTimeoutS fields.timeoutS = .ok request.timeoutS
  traceId : normalizedName "trace_id" 128 fields.traceId = .ok request.traceId
  leaseId : optional (normalizedName "lease_id" 128) fields.leaseId = .ok request.leaseId
  inputs : fields.inputs = request.inputs
  constraints : fields.constraints = request.constraints
  priority : fields.priority = request.priority
  responseMode : fields.responseMode = request.responseMode

namespace TaskExecutionRequest

variable {now : ℤ} {fields : TaskExecutionFields} {request : TaskExecutionRequest}

/-- **What validation does**: the validators of the fields, then `_normalize_identity_fields`. -/
theorem modelValidate_eq_ok_iff : modelValidate now fields = .ok request ↔
    ∃ validated, fields.Validated now validated ∧ request = validated.normalizeIdentityFields := by
  constructor
  · intro h
    obtain ⟨taskId, htaskId, h⟩ := bind_eq_ok.mp h
    obtain ⟨idempotencyKey, hkey, h⟩ := bind_eq_ok.mp h
    obtain ⟨promptId, hpromptId, h⟩ := bind_eq_ok.mp h
    obtain ⟨promptVersion, hversion, h⟩ := bind_eq_ok.mp h
    obtain ⟨taskFamily, hfamily, h⟩ := bind_eq_ok.mp h
    obtain ⟨requestedBy, hrequestedBy, h⟩ := bind_eq_ok.mp h
    obtain ⟨serviceId, hserviceId, h⟩ := bind_eq_ok.mp h
    obtain ⟨customerId, hcustomerId, h⟩ := bind_eq_ok.mp h
    obtain ⟨requestedProvider, hprovider, h⟩ := bind_eq_ok.mp h
    obtain ⟨requestedModel, hmodel, h⟩ := bind_eq_ok.mp h
    obtain ⟨queue, hqueue, h⟩ := bind_eq_ok.mp h
    obtain ⟨jobName, hjobName, h⟩ := bind_eq_ok.mp h
    obtain ⟨timeoutS, htimeout, h⟩ := bind_eq_ok.mp h
    obtain ⟨traceId, htraceId, h⟩ := bind_eq_ok.mp h
    obtain ⟨leaseId, hleaseId, h⟩ := bind_eq_ok.mp h
    exact ⟨_, ⟨htaskId, hkey, hpromptId, hversion, hfamily, hrequestedBy, hserviceId, hcustomerId, hprovider,
      hmodel, hqueue, hjobName, htimeout, htraceId, hleaseId, rfl, rfl, rfl, rfl⟩, (pure_eq_ok.mp h).symm⟩
  · rintro ⟨validated, h, rfl⟩
    unfold modelValidate
    rw [h.taskId, h.idempotencyKey, h.promptId, h.promptVersion, h.taskFamily, h.requestedBy, h.serviceId,
      h.customerId, h.requestedProvider, h.requestedModel, h.queue, h.jobName, h.timeoutS, h.traceId,
      h.leaseId, h.inputs, h.constraints, h.priority, h.responseMode]
    rfl

/-- The fields of a queue intent that `_normalize_identity_fields` fills in. -/
structure QueueSettled (request : TaskExecutionRequest) : Prop where
  importance : request.queue.importance = .normal → request.priority = .normal
  priority : request.queue.priority.isSome
  queueClass : request.queue.queueClass.isSome
  maxWaitSeconds : request.queue.maxWaitSeconds.isSome
  routingPolicy : request.queue.routingPolicy.isSome
  localPreferred : request.queue.localPreferred.isSome
  runtimeLane : request.queue.runtimeLane.isSome
  reason : ∀ s ∈ request.queue.reason, IsReason s

/-- A request that validation has given. -/
structure WellFormed (request : TaskExecutionRequest) : Prop where
  taskId : IsName 128 request.taskId
  idempotencyKey : ∀ s ∈ request.idempotencyKey, IsName 128 s
  promptId : ∀ s ∈ request.promptId, IsName 128 s
  promptVersion : ∀ v ∈ request.promptVersion, IsVersion v
  taskFamily : request.taskFamily ∈ canonicalTaskFamilies
  requestedBy : IsName 255 request.requestedBy
  serviceId : ∃ s, request.serviceId = some s ∧ IsName 255 s
  customerId : ∀ s ∈ request.customerId, IsName 128 s
  requestedProvider : ∀ s ∈ request.requestedProvider, IsName 128 s
  requestedModel : ∀ s ∈ request.requestedModel, IsName 128 s
  queue : request.QueueSettled
  jobName : ∀ s ∈ request.jobName, IsName 255 s
  timeoutS : 0 < request.timeoutS ∧ request.timeoutS ≤ 3600
  traceId : IsName 128 request.traceId
  leaseId : ∀ s ∈ request.leaseId, IsName 128 s

theorem isName_of_optional {fieldName : String} {n : ℕ} {o o' : Option String}
    (h : optional (normalizedName fieldName n) o = .ok o') : ∀ s ∈ o', IsName n s := by
  intro s hs
  obtain ⟨value, -, hvalue⟩ := optional_eq_ok h s hs
  exact (normalizedName_eq_ok hvalue).2

/-- `_normalize_identity_fields` settles the queue intent. -/
theorem queueSettled_normalizeIdentityFields (hreason : ∀ s ∈ request.queue.reason, IsReason s) :
    request.normalizeIdentityFields.QueueSettled where
  importance := by
    intro h
    unfold normalizeIdentityFields normalizedQueue at h
    dsimp only at h
    split at h
    · next hderived => exact absurd h hderived.2
    · next hkept =>
      show request.priority = .normal
      simpa [h] using hkept
  priority := rfl
  queueClass := rfl
  maxWaitSeconds := rfl
  routingPolicy := rfl
  localPreferred := rfl
  runtimeLane := rfl
  reason := hreason

/-- A settled queue intent stays as it is. -/
theorem normalizedQueue_of_settled (h : request.QueueSettled) : request.normalizedQueue = request.queue := by
  rcases request with ⟨_, _, _, _, _, _, _, _, _, _, _, _, priority, queue, _, _, _, _, _⟩
  rcases queue with ⟨importance, queuePriority, queueClass, lane, wait, _, _, localPreferred, policy, _, _, _⟩
  obtain ⟨himportance, hpriority, hclass, hwait, hpolicy, hlocal, hlane, -⟩ := h
  obtain ⟨_, rfl⟩ := Option.isSome_iff_exists.mp hpriority
  obtain ⟨_, rfl⟩ := Option.isSome_iff_exists.mp hclass
  obtain ⟨_, rfl⟩ := Option.isSome_iff_exists.mp hwait
  obtain ⟨_, rfl⟩ := Option.isSome_iff_exists.mp hpolicy
  obtain ⟨_, rfl⟩ := Option.isSome_iff_exists.mp hlocal
  obtain ⟨_, rfl⟩ := Option.isSome_iff_exists.mp hlane
  have hkept : ¬(importance = .normal ∧ priority ≠ .normal) := fun hderived =>
    hderived.2 (himportance hderived.1)
  unfold normalizedQueue
  dsimp only
  rw [if_neg hkept]
  rfl

/-- **A settled request stays as it is.** -/
theorem normalizeIdentityFields_of_settled (h : request.QueueSettled) (hservice : request.serviceId.isSome) :
    request.normalizeIdentityFields = request := by
  obtain ⟨s, hservice⟩ := Option.isSome_iff_exists.mp hservice
  unfold normalizeIdentityFields
  rw [normalizedQueue_of_settled h, hservice, Option.getD_some, ← hservice]

/-- **Validation gives a well-formed request.** -/
theorem modelValidate_wellFormed (h : modelValidate now fields = .ok request) : request.WellFormed := by
  obtain ⟨validated, hv, rfl⟩ := modelValidate_eq_ok_iff.mp h
  have hrequestedBy := (normalizedName_eq_ok hv.requestedBy).2
  exact {
    taskId := (normalizedName_eq_ok hv.taskId).2
    idempotencyKey := isName_of_optional hv.idempotencyKey
    promptId := isName_of_optional hv.promptId
    promptVersion := fun v hversion => by
      obtain ⟨value, -, hvalue⟩ := optional_eq_ok hv.promptVersion v hversion
      exact isVersion_of_eq_ok hvalue
    taskFamily := validateTaskFamily_mem hv.taskFamily
    requestedBy := hrequestedBy
    serviceId := by
      refine ⟨_, rfl, ?_⟩
      rcases hservice : validated.serviceId with _ | s
      · exact hrequestedBy
      · have hname := isName_of_optional hv.serviceId s hservice
        exact ⟨hname.stripped, hname.nonempty, hname.short.trans (by decide)⟩
    customerId := isName_of_optional hv.customerId
    requestedProvider := isName_of_optional hv.requestedProvider
    requestedModel := isName_of_optional hv.requestedModel
    queue := queueSettled_normalizeIdentityFields (QueueIntent.reason_of_modelValidate hv.queue)
    jobName := isName_of_optional hv.jobName
    timeoutS := validateTimeoutS_eq_ok hv.timeoutS
    traceId := (normalizedName_eq_ok hv.traceId).2
    leaseId := isName_of_optional hv.leaseId }

end TaskExecutionRequest

end Execution
end HexeAiNode
