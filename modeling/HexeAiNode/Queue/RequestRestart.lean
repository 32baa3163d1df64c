import HexeAiNode.Execution.RequestRecovery
import HexeAiNode.Queue.Retention
import HexeAiNode.Queue.Wakeup

/-!
# Requests that survive a restart

`SurvivesRestart` is what a start promises about the request of a queued job: it is validated as an equal
request, the runner is rebuilt for that request, and a job whose boundary is over ends as
`expired_wait_budget`, or is moved to the cloud queue where its intent allows that, in the pass with which
the start goes on.

`survives_restart_iff` says for which requests this holds: for the `Recoverable` ones.
-/

namespace HexeAiNode
namespace Queue

open Py Execution StoreAction TaskExecutionRequest

variable {cfg : Config} {now : ℤ} {s : Service} {id : JobId} {job : Job}

/-! ## A pass over a late job -/

/-- What a pass makes of a late job: its end, or its move to the cloud queue. -/
def Overdue (now : ℤ) (job job' : Job) : Prop :=
  (job'.status = .expiredWaitBudget ∧ now < job'.expiresAt) ∨
    (job'.status = .queued ∧ job'.queue = .cloud ∧ job.queue = .localNode ∧ job.allowsCloudSpillover = true)

/-- The record of a job satisfies `P`. -/
def RecordIs (id : JobId) (P : Job → Prop) (s : Service) : Prop := ∃ job, s.jobs.get? id = some job ∧ P job

/-- A record is kept beyond the time at which its job ends. -/
theorem lt_of_retention {expiresAt : ℤ} (h : addSeconds now cfg.jobTtl = .ok expiresAt) : now < expiresAt := by
  have hpos := cfg.retention_pos
  rw [addSeconds_jobTtl_eq_ok h]
  omega

/-- A property of a record that the changes of a pass keep is kept by the pass. -/
theorem passRules_record {P : Job → Prop} (hdue : ∀ job, P job → job.isDue now = false)
    (hmove : ∀ job, P job → job.status = .queued → job.queue = .localNode →
      job.allowsCloudSpillover = true → P (movedJob job))
    (hexpire : ∀ job expiresAt error, P job → job.status = .queued → now < expiresAt →
      P (closedJob expiresAt error (endedJob now .expiredWaitBudget job))) :
    PassRules cfg now (RecordIs id P) fun _ => True where
  persist := triple_persistJobs' (fun _ hs => hs) (fun _ hs => hs) fun _ _ => trivial
  drop := by
    rintro s ids ⟨job, hjob, hP⟩ hids
    refine ⟨job, ?_, hP⟩
    rw [Service.get?_dropJobs, if_neg, hjob]
    intro hmem
    obtain ⟨job', hjob', hisDue⟩ := hids id hmem
    obtain rfl := Option.some.inj (hjob.symm.trans hjob')
    rw [hdue job hP] at hisDue
    cases hisDue
  boundary := fun _ _ _ _ _ _ _ _ => trivial
  reroute := by
    rintro s id' job' d key ⟨job, hjob, hP⟩ hjob' hqueued hlocal hspill - - -
    refine ⟨if id = id' then movedJob job' else job, ?_, ?_⟩
    · rw [Service.enterCloud_jobs, Service.get?_takeOut]
      split
      · rfl
      · exact hjob
    · split
      · next heq =>
        subst heq
        obtain rfl := Option.some.inj (hjob.symm.trans hjob')
        exact hmove job hP hqueued hlocal hspill
      · exact hP
  orphan := fun _ _ _ _ _ _ _ _ _ _ _ _ _ => trivial
  expire := by
    rintro s id' job' d expiresAt error ⟨job, hjob, hP⟩ hjob' hqueued - - hadd
    refine ⟨if id = id' then closedJob expiresAt error (endedJob now .expiredWaitBudget job') else job, ?_, ?_⟩
    · rw [Service.get?_takeOut]
      split
      · rfl
      · exact hjob
    · split
      · next heq =>
        subst heq
        obtain rfl := Option.some.inj (hjob.symm.trans hjob')
        exact hexpire job expiresAt error hP hqueued (lt_of_retention hadd)
      · exact hP
  undated := fun _ _ _ _ _ _ _ _ => trivial

/-- What a pass has made of a late job stays so. -/
theorem passRules_overdue : PassRules cfg now (RecordIs id (Overdue now job)) fun _ => True := by
  refine passRules_record (fun job' h => ?_) (fun job' h hqueued hlocal _ => ?_) fun job' t error h hqueued ht => ?_
  · rcases h with ⟨hstatus, hkept⟩ | ⟨hstatus, -⟩
    · simp [Job.isDue, hstatus, Status.terminal, hkept]
    · simp [Job.isDue, hstatus, Status.terminal]
  · rcases h with ⟨hstatus, -⟩ | ⟨-, hcloud, -⟩
    · rw [hstatus] at hqueued
      cases hqueued
    · rw [hcloud] at hlocal
      cases hlocal
  · exact Or.inl ⟨rfl, ht⟩

/-- A late job, or what a pass has made of it. -/
def Late (now : ℤ) (job job' : Job) : Prop := job' = job ∨ Overdue now job job'

theorem passRules_late (hqueued : job.status = .queued) :
    PassRules cfg now (RecordIs id (Late now job)) fun _ => True := by
  refine passRules_record (fun job' h => ?_) (fun job' h hqueued' hlocal hspill => ?_)
    fun job' t error h _ ht => ?_
  · rcases h with rfl | ⟨hstatus, hkept⟩ | ⟨hstatus, -⟩
    · simp [Job.isDue, hqueued, Status.terminal]
    · simp [Job.isDue, hstatus, Status.terminal, hkept]
    · simp [Job.isDue, hstatus, Status.terminal]
  · rcases h with rfl | ⟨hstatus, -⟩ | ⟨-, hcloud, -⟩
    · exact Or.inr (Or.inr ⟨rfl, rfl, hlocal, hspill⟩)
    · rw [hstatus] at hqueued'
      cases hqueued'
    · rw [hcloud] at hlocal
      cases hlocal
  · exact Or.inr (Or.inl ⟨rfl, ht⟩)

/-- **The pass over a late job** ends or moves it. -/
theorem triple_monitorJob_late (hqueued : job.status = .queued) {d : ℤ}
    (hdeadline : job.effectiveDeadline = .ok (some d)) (hd : d < now) :
    Triple (RecordIs id (Late now job)) (monitorJob cfg now id)
      (fun _ => RecordIs id (Overdue now job)) fun _ => True := by
  rintro s ⟨job', hjob, rfl | hover⟩
  swap
  · exact triple_monitorJob passRules_overdue id s ⟨job', hjob, hover⟩
  unfold monitorJob
  rw [exec_bind, exec_read]
  dsimp only
  rw [hjob]
  dsimp only
  rw [if_pos hqueued, exec_bind, exec_ofResult, hdeadline]
  dsimp only
  rw [if_neg (by simpa using hd)]
  split
  · next hspill =>
    unfold rerouteToCloud
    rw [exec_bind, exec_bind, exec_update]
    dsimp only
    rw [exec_bind, exec_ofResult]
    rcases hkey : deadlineSortValue cfg now job'.queueIntent with e | key
    · exact ⟨fun _ _ hexec => (nomatch hexec), fun _ _ _ => trivial⟩
    · refine ⟨fun _ t hexec => ?_, fun _ _ _ => trivial⟩
      obtain ⟨-, rfl⟩ := Prod.mk.inj hexec
      refine ⟨movedJob job', ?_, Or.inr ⟨rfl, rfl, hspill.1, hspill.2⟩⟩
      rw [Service.enterCloud_jobs, Service.get?_takeOut, if_pos rfl]
  · have hend : Triple (fun t => t = s) (expireJob cfg now id job')
        (fun _ => RecordIs id (Overdue now job')) fun _ => True := by
      refine triple_endQueued ?_ fun _ _ _ _ => trivial
      rintro t expiresAt rfl hadd
      have hkept : now < expiresAt := lt_of_retention hadd
      exact ⟨_, (Service.get?_takeOut t id job' _ id).trans (if_pos rfl), Or.inl ⟨rfl, hkept⟩⟩
    have hdone : Triple (fun t => t = s) (do expireJob cfg now id job'; pure true)
        (fun _ => RecordIs id (Overdue now job')) fun _ => True :=
      Triple.bind hend fun _ => Triple.pure fun _ ht => ht
    exact hdone s rfl

theorem triple_monitorJobs_late (hqueued : job.status = .queued) {d : ℤ}
    (hdeadline : job.effectiveDeadline = .ok (some d)) (hd : d < now) {ids : List JobId} (hid : id ∈ ids) :
    Triple (RecordIs id (Late now job)) (monitorJobs cfg now ids)
      (fun _ => RecordIs id (Overdue now job)) fun _ => True := by
  induction ids with
  | nil => cases hid
  | cons id' ids ih =>
    by_cases heq : id' = id
    · subst heq
      refine Triple.bind (triple_monitorJob_late hqueued hdeadline hd) fun _ => ?_
      exact Triple.bind (triple_monitorJobs passRules_overdue ids) fun _ => Triple.pure fun _ ht => ht
    · have hid : id ∈ ids := (List.mem_cons.mp hid).resolve_left (Ne.symm heq)
      refine Triple.bind (triple_monitorJob (passRules_late hqueued) id') fun _ => ?_
      exact Triple.bind (ih hid) fun _ => Triple.pure fun _ ht => ht

/-- **`start_recovered_jobs`** ends or moves each late job. -/
theorem triple_startRecovered_late (hqueued : job.status = .queued) {d : ℤ}
    (hdeadline : job.effectiveDeadline = .ok (some d)) (hd : d < now) :
    Triple (fun s => s.jobs.get? id = some job) (startRecoveredJobs cfg now)
      (fun _ => RecordIs id (Overdue now job)) fun _ => True := by
  unfold startRecoveredJobs
  refine Triple.bind (Q := fun _ => RecordIs id (Overdue now job)) ?_ fun _ => Triple.update fun t ht => ht
  unfold monitorDeadlines
  have hrules : PassRules cfg now (RecordIs id (Late now job)) fun _ => True := passRules_late hqueued
  refine Triple.bind (Q := fun _ => RecordIs id (Late now job)) ?_ fun deleted => ?_
  · refine (triple_prune hrules.drop).mono ?_ (fun _ _ ht => ht) fun _ ht => ht
    exact fun t ht => ⟨job, ht, Or.inl rfl⟩
  refine Triple.bind Triple.read fun s => ?_
  refine Triple.bind (Q := fun _ => RecordIs id (Overdue now job)) ?_ fun changed => ?_
  · rintro t ⟨ht, rfl⟩
    have hmem : id ∈ t.jobs.keys := by
      obtain ⟨job', hjob', -⟩ := ht
      exact Assoc.mem_keys_of_get? hjob'
    exact triple_monitorJobs_late hqueued hdeadline hd hmem t ht
  · exact Triple.ite (fun _ => passRules_overdue.persist) fun _ => Triple.pure fun _ ht => ht

/-! ## Starts -/

/-- A start at `now` of a node whose state file has a queued job of the request, and the pass with which the
start goes on.  The recovery factory makes a runner for the job when it makes one for the request. -/
structure Start (contracts : Contracts) (request : TaskExecutionRequest) (now : ℤ) where
  cfg : Config
  steps : List Step
  records : List Job
  record : Job
  recovers : JobId → Bool
  passAt : ℤ
  path : cfg.statePath = true
  budgets : ∀ step ∈ steps, step.BudgetFits
  file : (run cfg steps).service.stateFile = some records
  mem : record ∈ records
  queued : record.status = .queued
  intent : record.queueIntent = request.queue
  factory : recovers record.jobId = true ↔ request.MakesRunner contracts now
  started : ((run cfg steps).service.restart cfg now recovers).isSome = true
  datesFit : DatesFit cfg (run cfg (steps ++ [.restart now recovers])) (.startRecovered passAt)

namespace Start

variable {contracts : Contracts} {request : TaskExecutionRequest} (start : Start contracts request now)

/-- The node after the start. -/
def node : Node := run start.cfg (start.steps ++ [.restart now start.recovers])

/-- The node after the pass. -/
def nodeAfterPass : Node := fire start.cfg start.node (.startRecovered start.passAt)

theorem node_eq : ∃ s, (run start.cfg start.steps).service.restart start.cfg now start.recovers = some s ∧
    start.node.service = s := by
  obtain ⟨s, hs⟩ := Option.isSome_iff_exists.mp start.started
  refine ⟨s, hs, ?_⟩
  unfold node
  rw [run_append, Run.after_cons, Run.after_nil, fire_restart_of_some hs]

theorem dated : start.node.service.Records Job.Dated := by
  refine dated_run fun step hstep => ?_
  rcases List.mem_append.mp hstep with hstep | hstep
  · exact start.budgets step hstep
  · obtain rfl := List.mem_singleton.mp hstep
    trivial

/-- **The job after the start**, when a runner is made for it. -/
theorem resumed (h : request.MakesRunner contracts now) :
    start.node.service.jobs.get? start.record.jobId =
      some (start.record.recovered now start.recovers) ∧
    (start.record.recovered now start.recovers) =
      { start.record.persisted with
        runner := true, recovery := some ⟨"queued_for_resume", now, .queued⟩ } := by
  have hsound := (nodeSound_false start.cfg start.steps).sound
  have hrecovered : start.record.recovered now start.recovers =
      { start.record.persisted with
        runner := true, recovery := some ⟨"queued_for_resume", now, .queued⟩ } := by
    obtain ⟨d, hd⟩ := (dated_run start.budgets).file start.records start.file start.record start.mem
    unfold Job.recovered
    rw [start.queued]
    dsimp only
    rw [start.factory.mpr h, hd]
    rfl
  obtain ⟨s, hrestart, hs⟩ := start.node_eq
  rw [hs]
  rcases restart_eq_some hsound.known.fileDistinct hrestart with ⟨-, records, hfile, hload⟩ | ⟨hnone, -⟩
  · obtain rfl := Option.some.inj (start.file.symm.trans hfile)
    refine ⟨hload.get?_iff.mpr ⟨start.record, start.mem, rfl, rfl, ?_⟩, hrecovered⟩
    rw [hrecovered]
    simp [Job.isDue, Job.persisted, start.queued, Status.terminal]
  · rcases hnone with hpath | hnone
    · rw [start.path] at hpath
      cases hpath
    · rw [start.file] at hnone
      cases hnone

/-- **A late job after the pass**, when a runner was made for it. -/
theorem expires (h : request.MakesRunner contracts now) {d : ℤ}
    (hdeadline : start.record.effectiveDeadline = .ok (some d)) (hd : d < start.passAt) :
    RecordIs start.record.jobId (Overdue start.passAt start.record) start.nodeAfterPass.service := by
  obtain ⟨hjob, hrecovered⟩ := start.resumed h
  have hfire : start.nodeAfterPass.service =
      start.node.service.fire start.cfg (.startRecovered start.passAt) := by
    unfold nodeAfterPass fire
    simp [Step.drawn]
  rw [hfire]
  have hbudget := start.datesFit.1
  have hclock := start.datesFit.2 fun _ _ h => by cases h
  have hnew : ∀ id ∈ (Step.startRecovered start.passAt).drawn, id ∉ start.node.drawn := by
    intro _ hid
    cases hid
  rcases fire_eq_of_dated (nodeSound_false start.cfg _).sound hnew start.dated.table hbudget hclock trivial with
    ⟨n, -, hstep⟩ | ⟨u, hexec⟩
  · cases hstep
  have hqueued : (start.record.recovered now start.recovers).status = .queued := by
    rw [hrecovered]
    exact start.queued
  have hdeadline' : (start.record.recovered now start.recovers).effectiveDeadline = .ok (some d) := by
    rw [hrecovered]
    exact hdeadline
  obtain ⟨job, hget, hover⟩ :=
    (triple_startRecovered_late hqueued hdeadline' hd start.node.service hjob).1 u _ hexec
  refine ⟨job, hget, ?_⟩
  rw [hrecovered] at hover
  exact hover

end Start

/-! ## The requests that survive -/

/-- A start keeps the promise about the request of a queued job. -/
structure SurvivesRestart (contracts : Contracts) (request : TaskExecutionRequest) (now : ℤ) : Prop where
  validated : ∃ recovered, modelValidate now request.reloadedFields = .ok recovered ∧ recovered.Same request
  rebuilt : request.RebuildsRunner contracts now
  resumed : ∀ start : Start contracts request now, RecordIs start.record.jobId
    (fun job => job.status = .queued ∧ job.runner = true) start.node.service
  expires : ∀ (start : Start contracts request now) (d : ℤ),
    start.record.effectiveDeadline = .ok (some d) → d < start.passAt →
    RecordIs start.record.jobId (Overdue start.passAt start.record) start.nodeAfterPass.service

/-- **A start keeps the promise exactly for the recoverable requests.** -/
theorem survives_restart_iff (contracts : Contracts) {request : TaskExecutionRequest} (h : request.Queued)
    (now : ℤ) : SurvivesRestart contracts request now ↔ request.Recoverable contracts now := by
  refine ⟨fun hsurvives => (rebuildsRunner_iff h).mp hsurvives.rebuilt, fun hrecoverable => ?_⟩
  have hrebuilt := (rebuildsRunner_iff h).mpr hrecoverable
  obtain ⟨runner, hrunner, hsame⟩ := hrebuilt
  have hmakes : request.MakesRunner contracts now := ⟨runner, hrunner⟩
  refine ⟨⟨runner.request, (recoveryRunner_eq_ok hrunner).1, hsame⟩, ⟨runner, hrunner, hsame⟩,
    fun start => ?_, fun start d => start.expires hmakes⟩
  obtain ⟨hjob, hrecovered⟩ := start.resumed hmakes
  refine ⟨_, hjob, ?_⟩
  rw [hrecovered]
  exact ⟨start.queued, rfl⟩

/-- A chat request of a client, as it is queued. -/
def sampleRequest (requestedBy : String) (deadlineAt : Option ℤ) : TaskExecutionRequest where
  taskId := "task-1"
  taskFamily := "task.chat"
  requestedBy := requestedBy
  serviceId := some requestedBy
  queue :=
    { priority := some .normal
      queueClass := some .interactive
      runtimeLane := some .textLlm
      maxWaitSeconds := some 300
      deadlineAt := deadlineAt
      localPreferred := some true
      routingPolicy := some .localPreferred }
  traceId := "trace-1"

/-- The fields of the request that the client sends: all of them but the service id. -/
def sampleFields (requestedBy : String) (deadlineAt : Option ℤ) : TaskExecutionFields :=
  { (sampleRequest requestedBy deadlineAt).reloadedFields with serviceId := none }

/-- The request is queued when its deadline is not over. -/
theorem queued_sampleRequest {requestedBy : String} {deadlineAt : Option ℤ} (hname : IsName 255 requestedBy)
    (hdeadline : ∀ d ∈ deadlineAt, 0 < d) : (sampleRequest requestedBy deadlineAt).Queued := by
  have htask : normalizedName "task_id" 128 "task-1" = .ok "task-1" := by decide +kernel
  have htrace : normalizedName "trace_id" 128 "trace-1" = .ok "trace-1" := by decide +kernel
  have hfamily : "task.chat" ∈ canonicalTaskFamilies := by decide
  have hreason : ∀ s ∈ (sampleRequest requestedBy deadlineAt).queue.reason, IsReason s := by
    intro s hs
    have hs : s ∈ (none : Option String) := hs
    cases hs
  have hqueue : QueueIntent.modelValidate 0 (sampleRequest requestedBy deadlineAt).queue.modelDump =
      .ok (sampleRequest requestedBy deadlineAt).queue :=
    (QueueIntent.modelValidate_modelDump_iff hreason).mpr hdeadline
  have hfields : (sampleFields requestedBy deadlineAt).Validated 0
      { sampleRequest requestedBy deadlineAt with serviceId := none } := {
    taskId := htask
    idempotencyKey := rfl
    promptId := rfl
    promptVersion := rfl
    taskFamily := validateTaskFamily_self hfamily
    requestedBy := normalizedName_self_iff.mpr hname
    serviceId := rfl
    customerId := rfl
    requestedProvider := rfl
    requestedModel := rfl
    queue := hqueue
    jobName := rfl
    timeoutS := rfl
    traceId := htrace
    leaseId := rfl
    inputs := rfl
    constraints := rfl
    priority := rfl
    responseMode := rfl }
  have hsettled : QueueSettled { sampleRequest requestedBy deadlineAt with serviceId := none } :=
    ⟨fun _ => rfl, rfl, rfl, rfl, rfl, rfl, rfl, hreason⟩
  have haccepted : modelValidate 0 (sampleFields requestedBy deadlineAt) =
      .ok (sampleRequest requestedBy deadlineAt) := by
    refine modelValidate_eq_ok_iff.mpr ⟨_, hfields, ?_⟩
    unfold normalizeIdentityFields
    rw [normalizedQueue_of_settled hsettled]
    rfl
  have hlocal : visualLane (stripLower "local") = none := by decide +kernel
  refine ⟨⟨0, _, _, [], [], ⟨"local", none, none⟩, haccepted, ?_⟩, ⟨List.nodup_nil, trivial⟩,
    ⟨List.nodup_nil, trivial⟩⟩
  unfold executionRequestForQueueContext
  rw [hlocal]
  rfl

/-- Packages that read no contract: the request carries none. -/
def sampleContracts : Contracts := ⟨fun _ => .error ⟨.validationError, "request_id"⟩, fun _ => none⟩

/-- The request survives a start before its deadline. -/
theorem survives_restart_iff_sampleRequest :
    SurvivesRestart sampleContracts (sampleRequest "client" (some 10)) 5 := by
  have hname : IsName 255 "client" := ⟨by decide, by decide, by decide⟩
  have hqueued : (sampleRequest "client" (some 10)).Queued := queued_sampleRequest hname fun d hd => by
    obtain rfl := Option.some.inj hd
    decide
  refine (survives_restart_iff sampleContracts hqueued 5).mpr ⟨⟨?_, ?_, fun _ h => (nomatch h)⟩, trivial, trivial,
    fun _ h => (nomatch h)⟩
  · intro d hd
    obtain rfl := Option.some.inj hd
    decide
  · intro s hs
    obtain rfl := Option.some.inj hs
    decide

/-- A name of `n` letters. -/
def nameOfLength (n : ℕ) : String := String.ofList (List.replicate n 'c')

theorem length_nameOfLength (n : ℕ) : (nameOfLength n).length = n := by
  rw [nameOfLength, String.length_ofList, List.length_replicate]

theorem isName_nameOfLength {n m : ℕ} (hpos : 0 < n) (hle : n ≤ m) : IsName m (nameOfLength n) := by
  have hletters : ∀ c ∈ (nameOfLength n).toList, c = 'c' := by
    rw [nameOfLength, String.toList_ofList]
    exact fun c hc => List.eq_of_mem_replicate hc
  refine ⟨strip_eq_self ⟨fun c hc => ?_, fun c hc => ?_⟩, fun hempty => ?_, ?_⟩
  · rw [hletters c (List.mem_of_mem_head? hc)]
    decide
  · rw [hletters c (List.mem_of_getLast? hc)]
    decide
  · have hlength := length_nameOfLength n
    rw [hempty] at hlength
    exact hpos.ne hlength
  · rwa [length_nameOfLength]

/-- **Two requests that do not survive**: after the deadline the job is failed and does not end as
`expired_wait_budget`, and a client with a long name has a service id that is refused. -/
theorem not_survives_sampleRequest :
    ((sampleRequest "client" (some 10)).Queued ∧
      ¬SurvivesRestart sampleContracts (sampleRequest "client" (some 10)) 20) ∧
    (sampleRequest (nameOfLength 129) none).Queued ∧
      ¬SurvivesRestart sampleContracts (sampleRequest (nameOfLength 129) none) 20 := by
  have hfirst : (sampleRequest "client" (some 10)).Queued := by
    refine queued_sampleRequest ⟨by decide, by decide, by decide⟩ fun d hd => ?_
    obtain rfl := Option.some.inj hd
    decide
  have hsecond : (sampleRequest (nameOfLength 129) none).Queued :=
    queued_sampleRequest (isName_nameOfLength (by decide) (by decide)) fun _ h => (nomatch h)
  refine ⟨⟨hfirst, fun h => ?_⟩, hsecond, fun h => ?_⟩
  · obtain ⟨recovered, hvalid, -⟩ := h.validated
    have hstays := staysValid_of_modelValidate hfirst.wellFormed hvalid
    exact absurd (hstays.deadline 10 rfl) (by decide)
  · obtain ⟨recovered, hvalid, -⟩ := h.validated
    have hstays := staysValid_of_modelValidate hsecond.wellFormed hvalid
    have hshort := hstays.serviceId (nameOfLength 129) rfl
    rw [length_nameOfLength] at hshort
    exact absurd hshort (by decide)

end Queue
end HexeAiNode
