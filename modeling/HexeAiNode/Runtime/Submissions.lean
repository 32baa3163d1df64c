import HexeAiNode.Idempotency.Vacancy
import HexeAiNode.Queue.Machine
import HexeAiNode.Runtime.DirectExecution

/-!
# Keyed submissions

`execute_direct` as a system: the idempotency store with the calls that go on side by side, and the queue they
submit to.  The operation of a call is `executeDirectOnce`; everything else that happens to the queue may happen
at any time, and so may a restart of the process.

`RetainedOnlyForWork` says about a submission that its response is kept only if it created work, and that
otherwise a later submission with the same caller, key and payload runs the operation again.
`retained_only_for_work_iff` says when: in every state, for each submission that the queue does not refuse.  What
the queue answers when it refuses a job is a response like any other, and it is kept.
-/

namespace HexeAiNode
namespace Runtime

open Py Execution StoreAction

/-! ## The system -/

/-- The submissions, numbered, and the settings of the store and the queue. -/
structure System extends DirectConfig where
  requests : ℕ → TaskExecutionRequest
  retentionSeconds : ℤ := 86400
  sha256 : String → String
  copyError : Response → Option Exc := fun _ => none
  dumpsError : Response → Option Exc := fun _ => none

/-- The calls `execute_direct` makes: without an `idempotency_key` the operation runs as it is. -/
def System.calls (sys : System) : Idempotency.Config Response where
  retentionSeconds := sys.retentionSeconds
  sha256 := sys.sha256
  copyError := sys.copyError
  dumpsError := sys.dumpsError
  args i := {
    callerId := (sys.requests i).requestedBy
    idempotencyKey := (sys.requests i).idempotencyKey.getD ""
    requestPayload := .dict (sys.modelDump (sys.requests i)) }

/-- The store and the queue. -/
structure Node where
  store : Idempotency.Store Response := {}
  queue : Queue.Service := {}

/-- The steps.  `operate` is the operation of a call to its end, `interrupt` its cancellation. -/
inductive Step where
  | call (i : ℕ) (now : ℤ) (write : Option Exc)
  | operate (i : ℕ) (env : DirectEnv)
  | interrupt (i : ℕ)
  | store (i : ℕ) (now : ℤ) (write : Option Exc)
  | abandon (i : ℕ)
  | wake (i : ℕ)
  | cancel (i : ℕ)
  | queue (step : Queue.Step)
  /-- A crash of the process and a start from what the store has written. -/
  | restart (step : Queue.Step)

/-- The operation of a call in a state of the queue. -/
def System.operation (sys : System) (i : ℕ) (env : DirectEnv) (queue : Queue.Service) :
    Except Exc Response × Queue.Service :=
  (executeDirectOnce sys.toDirectConfig env (sys.requests i)).exec queue

/-- A step of the store. -/
def Node.onStore (sys : System) (step : Idempotency.Step Response) (n : Node) : Node :=
  { n with store := Idempotency.fire sys.calls n.store step }

/-- The operation of a call. -/
def Node.operate (sys : System) (i : ℕ) (env : DirectEnv) (n : Node) : Node :=
  match n.store.calls i with
  | .detached | .running =>
    let (outcome, queue) := sys.operation i env n.queue
    { n.onStore sys (.finish i outcome) with queue := queue }
  | _ => n

/-- A step of the system. -/
def fire (sys : System) (n : Node) : Step → Node
  | .call i now write => n.onStore sys (.call i now write)
  | .operate i env => n.operate sys i env
  | .interrupt i => n.onStore sys (.finish i (.error Idempotency.cancelledError))
  | .store i now write => n.onStore sys (.store i now write)
  | .abandon i => n.onStore sys (.abandon i)
  | .wake i => n.onStore sys (.wake i)
  | .cancel i => n.onStore sys (.cancel i)
  | .queue step => { n with queue := n.queue.fire sys.queue step }
  | .restart step =>
    { store := Idempotency.Store.loaded n.store.file, queue := n.queue.fire sys.queue step }

/-- The node after a run, from the records that were loaded. -/
def run (sys : System) (records : Py.OrderedDict String (Idempotency.Record Response)) (steps : List Step) : Node :=
  Run.after (fire sys) { store := Idempotency.Store.loaded records } steps

variable {sys : System} {n : Node} {i : ℕ} {env : DirectEnv} {rest : List Step}

/-! ## What the system keeps of the store -/

/-- What a step does to the store, except a restart: one of its steps, and a call only if it is that call. -/
theorem store_fire (sys : System) (n : Node) (step : Step) (hrestart : ∀ step', step ≠ .restart step') :
    (fire sys n step).store = n.store ∨ ∃ step', (fire sys n step).store = Idempotency.fire sys.calls n.store step' ∧
      ∀ j now write, step' = .call j now write → step = .call j now write := by
  cases step with
  | call j now write => exact Or.inr ⟨.call j now write, rfl, fun _ _ _ h => by cases h; rfl⟩
  | operate j env =>
    show (n.operate sys j env).store = n.store ∨ ∃ step', (n.operate sys j env).store = _ ∧ _
    have hfinish : ∀ outcome (queue : Queue.Service),
        ∃ step', ({ n.onStore sys (.finish j outcome) with queue := queue } : Node).store =
          Idempotency.fire sys.calls n.store step' ∧
        ∀ j' now write, step' = .call j' now write → Step.operate j env = .call j' now write :=
      fun outcome _ => ⟨.finish j outcome, rfl, fun _ _ _ h => (nomatch h)⟩
    unfold Node.operate
    split
    · exact Or.inr (hfinish _ _)
    · exact Or.inr (hfinish _ _)
    · exact Or.inl rfl
  | interrupt j =>
    exact Or.inr ⟨.finish j (.error Idempotency.cancelledError), rfl, fun _ _ _ h => (nomatch h)⟩
  | store j now write => exact Or.inr ⟨.store j now write, rfl, fun _ _ _ h => (nomatch h)⟩
  | abandon j => exact Or.inr ⟨.abandon j, rfl, fun _ _ _ h => (nomatch h)⟩
  | wake j => exact Or.inr ⟨.wake j, rfl, fun _ _ _ h => (nomatch h)⟩
  | cancel j => exact Or.inr ⟨.cancel j, rfl, fun _ _ _ h => (nomatch h)⟩
  | queue step => exact Or.inl rfl
  | restart step => exact absurd rfl (hrestart step)

/-- The tables and the calls of the store agree. -/
structure Node.Sound (sys : System) (n : Node) : Prop where
  sound : n.store.Sound sys.calls
  fresh : n.store.Fresh sys.calls

theorem sound_loaded (sys : System) (records : Py.OrderedDict String (Idempotency.Record Response))
    (queue : Queue.Service) : Node.Sound sys { store := .loaded records, queue := queue } where
  sound := Idempotency.sound_loaded sys.calls records
  fresh := Idempotency.fresh_run sys.calls records []

theorem Node.Sound.fire (h : n.Sound sys) (step : Step) : (fire sys n step).Sound sys := by
  by_cases hrestart : ∃ step', step = .restart step'
  · obtain ⟨step', rfl⟩ := hrestart
    exact sound_loaded sys n.store.file _
  rcases store_fire sys n step fun step' h => hrestart ⟨step', h⟩ with hsame | ⟨step', hstep, -⟩
  · exact ⟨hsame ▸ h.sound, hsame ▸ h.fresh⟩
  · refine ⟨?_, ?_⟩
    · rw [hstep]
      exact h.sound.fire step'
    · rw [hstep]
      exact h.fresh.fire h.sound step'

/-- **In every run the tables and the calls agree.** -/
theorem sound_run (sys : System) (records : Py.OrderedDict String (Idempotency.Record Response)) (steps : List Step) :
    (run sys records steps).Sound sys :=
  Run.after_keeps steps (sound_loaded sys records _) fun _ step h => h.fire step

/-! ## Submissions -/

/-- The step submits nothing with the key of the call and restarts nothing. -/
def Step.Quiet (sys : System) (i : ℕ) : Step → Prop
  | .call j _ _ => sys.calls.scopeKey j ≠ sys.calls.scopeKey i
  | .restart _ => False
  | _ => True

/-- The node after the operation of a call and some more steps. -/
def Node.after (sys : System) (i : ℕ) (env : DirectEnv) (rest : List Step) (n : Node) : Node :=
  Run.after (fire sys) (fire sys n (.operate i env)) rest

/-- The operation of the call creates work. -/
def Node.CreatesWork (sys : System) (i : ℕ) (env : DirectEnv) (n : Node) : Prop :=
  ∃ response, (sys.operation i env n.queue).1 = .ok response ∧
    response.CreatedWork (sys.operation i env n.queue).2

/-- The call has ended. -/
def Node.Ended (i : ℕ) (n : Node) : Prop := ∃ part result, n.store.calls i = .ended part result

/-- **The response of a submission is kept for work only.** -/
structure RetainedOnlyForWork (sys : System) (i : ℕ) (env : DirectEnv) (n : Node) : Prop where
  /-- A record that the submission leaves is that of work it created. -/
  kept : ∀ rest, (∀ step ∈ rest, step.Quiet sys i) →
    ((n.after sys i env rest).store.records.get? (sys.calls.scopeKey i)).isSome → n.CreatesWork sys i env
  /-- A submission that created no work leaves nothing behind. -/
  vacated : ∀ rest, (∀ step ∈ rest, step.Quiet sys i) → (n.after sys i env rest).Ended i →
    ¬n.CreatesWork sys i env → (n.after sys i env rest).store.Vacant (sys.calls.scopeKey i)
  /-- The same submission made later runs the operation again, unless the store cannot be read. -/
  reruns : ∀ rest j now write, (∀ step ∈ rest, step.Quiet sys i) → (n.after sys i env rest).Ended i →
    ¬n.CreatesWork sys i env → (n.after sys i env rest).store.calls j = .idle →
    sys.calls.Matches i j → ¬sys.calls.Blank j →
    (fire sys (n.after sys i env rest) (.call j now write)).store.calls j = .running ∨
      ¬Idempotency.PruneFits sys.calls (n.after sys i env rest).store now write

/-- The operation of a running call. -/
theorem store_operate (hrunning : n.store.calls i = .running) :
    (fire sys n (.operate i env)).store =
      n.store.setCall i (match (sys.operation i env n.queue).1 with
        | .ok response => .storing response
        | .error e => .abandoning e) := by
  show (n.operate sys i env).store = _
  unfold Node.operate
  rw [hrunning]
  dsimp only
  show Idempotency.fire sys.calls n.store (.finish i _) = _
  show n.store.finish i _ = _
  unfold Idempotency.Store.finish
  rw [hrunning]
  rcases (sys.operation i env n.queue).1 with e | response
  · rfl
  · rfl

/-- **An operation that raised leaves nothing behind.** -/
theorem abandons_after (hsound : n.Sound sys) (hrunning : n.store.calls i = .running) {e : Exc}
    (hraises : (sys.operation i env n.queue).1 = .error e) (hquiet : ∀ step ∈ rest, step.Quiet sys i) :
    (n.after sys i env rest).Sound sys ∧ (n.after sys i env rest).store.Abandons sys.calls i := by
  refine Run.keeps_of_forall (I := fun m : Node => m.Sound sys ∧ m.store.Abandons sys.calls i) hquiet
    ⟨hsound.fire _, Or.inl ⟨e, ?_⟩⟩ fun m step hm hstep => ⟨hm.1.fire step, ?_⟩
  · rw [store_operate hrunning, Idempotency.calls_setCall, if_pos rfl, hraises]
  · rcases store_fire sys m step (by rintro step' rfl; exact hstep) with hsame | ⟨step', hstore, hcall⟩
    · rw [hsame]
      exact hm.2
    · rw [hstore]
      refine hm.2.fire hm.1.sound hm.1.fresh fun j now write h => ?_
      obtain rfl := hcall j now write h
      exact hstep

/-- **A refusal of the queue is kept**, or the key stays taken. -/
theorem not_retained_of_refused (hsound : n.Sound sys) (hrunning : n.store.calls i = .running)
    (hrefused : RefusedByQueue sys.toDirectConfig env (sys.requests i) n.queue) :
    ¬RetainedOnlyForWork sys i env n := by
  intro hretained
  rcases outcome_cases sys.toDirectConfig env (sys.requests i) n.queue with
    ⟨-, response, hok, hwork⟩ | ⟨hnot, -⟩
  swap
  · exact hnot hrefused
  have hnone : ¬n.CreatesWork sys i env := by
    rintro ⟨response', hok', hwork'⟩
    obtain rfl := Except.ok.inj (hok.symm.trans hok')
    exact hwork _ hwork'
  have hoperation : (sys.operation i env n.queue).1 = .ok response := hok
  have hstoring : (fire sys n (.operate i env)).store.calls i = .storing response := by
    rw [store_operate hrunning, Idempotency.calls_setCall, if_pos rfl, hoperation]
  have hquiet : ∀ step ∈ [Step.store i 0 none], step.Quiet sys i := by
    intro step hstep
    obtain rfl := List.mem_singleton.mp hstep
    trivial
  obtain ⟨⟨result, hend⟩, hkept | hvacant⟩ :=
    Idempotency.not_vacant_of_storing (hsound.fire (.operate i env)).sound hstoring 0 none
  · exact hnone (hretained.kept _ hquiet hkept)
  · exact hvacant (hretained.vacated _ hquiet ⟨_, _, hend⟩ hnone)

/-- A submission that raises leaves its key to the next one. -/
theorem retained_of_raises (hsound : n.Sound sys) (hrunning : n.store.calls i = .running) {e : Exc}
    (hraises : (sys.operation i env n.queue).1 = .error e) : RetainedOnlyForWork sys i env n := by
  have hvacated : ∀ rest, (∀ step ∈ rest, step.Quiet sys i) → (n.after sys i env rest).Ended i →
      (n.after sys i env rest).store.Vacant (sys.calls.scopeKey i) := by
    rintro rest hquiet ⟨part, result, hend⟩
    rcases (abandons_after hsound hrunning hraises hquiet).2 with ⟨e', hstate⟩ | ⟨-, hvacant⟩
    · rw [hend] at hstate
      cases hstate
    · exact hvacant
  refine ⟨fun rest hquiet hkept => ?_, fun rest hquiet hend _ => hvacated rest hquiet hend, ?_⟩
  · obtain ⟨hlater, hstate⟩ := abandons_after hsound hrunning hraises hquiet
    have hnone : (n.after sys i env rest).store.records.get? (sys.calls.scopeKey i) = none := by
      rcases hstate with ⟨e', hstate⟩ | ⟨-, hvacant⟩
      · exact hlater.fresh.unrecorded i (by rw [hstate]; rfl)
      · exact hvacant.record
    rw [hnone] at hkept
    cases hkept
  · intro rest j now write hquiet hend _ hidle hmatches hblank
    have hvacant := hvacated rest hquiet hend
    rw [← hmatches.1] at hvacant
    rcases hvacant.call hidle hblank with hruns | ⟨hfits, -⟩
    · exact Or.inl hruns
    · exact Or.inr hfits

/-- **The responses of submissions are kept for work only, except where the queue refuses the job.** -/
theorem retained_only_for_work_iff (sys : System)
    (records : Py.OrderedDict String (Idempotency.Record Response)) (steps : List Step) (i : ℕ) (env : DirectEnv)
    (hrunning : (run sys records steps).store.calls i = .running) :
    RetainedOnlyForWork sys i env (run sys records steps) ↔
      ¬RefusedByQueue sys.toDirectConfig env (sys.requests i) (run sys records steps).queue := by
  have hsound := sound_run sys records steps
  refine ⟨fun hretained hrefused => not_retained_of_refused hsound hrunning hrefused hretained, fun hnot => ?_⟩
  rcases outcome_cases sys.toDirectConfig env (sys.requests i) (run sys records steps).queue with
    ⟨hrefused, -⟩ | ⟨-, ⟨e, hraises⟩ | hcreated⟩
  · exact absurd hrefused hnot
  · exact retained_of_raises hsound hrunning hraises
  · have hwork : (run sys records steps).CreatesWork sys i env := hcreated
    exact ⟨fun _ _ _ => hwork, fun _ _ _ h => absurd hwork h, fun _ _ _ _ _ _ h => absurd hwork h⟩

/-- A client with the pending limit one, whose submissions all have one key. -/
def limitedSystem (responseMode : ResponseMode) : System where
  queue := { maxPendingPerClient := 1 }
  modelDump request := [("task_id", .str request.taskId)]
  requests i :=
    { taskId := if i = 0 then "task-0" else "task-1"
      taskFamily := "task.chat"
      requestedBy := "client"
      idempotencyKey := some "key"
      responseMode := responseMode
      traceId := "trace-1" }
  sha256 := id

/-- An environment in which requests go to the cloud queue, on a node that admits no execution. -/
def fullEnv : DirectEnv where
  queueContext _ := .ok { queue := "cloud", routingMode := none, executionRoutingMode := none, importance := .normal }
  admission := { inFlight := 1 }
  service := budgetedEnv
  adapter _ := .error ⟨.other "RuntimeError", "unreachable"⟩

/-- A job of the client is queued, and then a submission with the key begins. -/
def limitedSteps : List Step :=
  [.queue (.enqueue 0 1 { queue := "cloud", importance := "normal", clientId := some "client" }), .call 0 0 none]

/-- The operation of the submission is in progress. -/
theorem running_limitedSteps (mode : ResponseMode) :
    (run (limitedSystem mode) .empty limitedSteps).store.calls 0 = .running := by
  have hblank : ¬(limitedSystem mode).calls.Blank 0 := by
    have hclient : strip "client" ≠ "" := by decide +kernel
    have hkey : strip "key" ≠ "" := by decide +kernel
    rintro (h | h)
    · exact hclient h
    · exact hkey h
  have hvacant : (Idempotency.Store.loaded .empty : Idempotency.Store Response).Vacant
      ((limitedSystem mode).calls.scopeKey 0) := ⟨rfl, rfl⟩
  have hcall : (Idempotency.fire _ _ (.call 0 0 none)).calls 0 = .running ∨ _ := hvacant.call rfl hblank
  rcases hcall with hruns | ⟨hfits, -⟩
  · exact hruns
  · exact absurd (Or.inl rfl) hfits

/-- A submission that meets a full node leaves nothing behind. -/
theorem retained_only_for_work_iff_full :
    RetainedOnlyForWork (limitedSystem .sync) 0 fullEnv (run (limitedSystem .sync) .empty limitedSteps) := by
  refine (retained_only_for_work_iff (limitedSystem .sync) .empty limitedSteps 0 fullEnv
    (running_limitedSteps .sync)).mpr ?_
  rintro ⟨checked, submitted, hchecked, hasync, -⟩
  obtain rfl := Except.ok.inj hchecked
  cases hasync

/-- **The refusal of a job over the pending limit is kept.** -/
theorem refusal_over_limit_retained :
    ¬RetainedOnlyForWork (limitedSystem .asyncIfQueued) 0 fullEnv
      (run (limitedSystem .asyncIfQueued) .empty limitedSteps) := by
  refine not_retained_of_refused (sound_run _ _ _) (running_limitedSteps _) ?_
  have hrefused : (match enqueueRequest (limitedSystem .asyncIfQueued).toDirectConfig fullEnv
      ((limitedSystem .asyncIfQueued).requests 0) with
    | .ok submitted => (queueRefusal (limitedSystem .asyncIfQueued).queue fullEnv.now fullEnv.jobId submitted
        (run (limitedSystem .asyncIfQueued) .empty limitedSteps).queue).isSome
    | .error _ => false) = true := by decide +kernel
  rcases hsubmitted : enqueueRequest (limitedSystem .asyncIfQueued).toDirectConfig fullEnv
      ((limitedSystem .asyncIfQueued).requests 0) with e | submitted
  · rw [hsubmitted] at hrefused
    cases hrefused
  · rw [hsubmitted] at hrefused
    exact ⟨_, submitted, rfl, rfl, hsubmitted, hrefused⟩

end Runtime
end HexeAiNode
