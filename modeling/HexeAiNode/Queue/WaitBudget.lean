import HexeAiNode.Queue.PopOrder

/-!
# Admission by wait budget

`enqueue` refuses a job when the estimate for the last place of its queue is over its wait budget; `_queue_eta` reports
the estimate for the place that the job gets, which comes before the jobs that it overtakes.  So no job is admitted
with a reported wait over its budget (`shown_le_of_admitted`), and a job is refused for the jobs it overtakes exactly
if its budget lies between the two estimates (`wait_budget_admission_iff`).
-/

namespace HexeAiNode
namespace Queue

open Py Execution StoreAction

variable {cfg : Config} {now : ℤ} {s : Service} {id : JobId} {job : Job} {e : Entry} {q : QueueKey}
  {key : WithTop ℚ} {request : EnqueueRequest}

/-! ## The place of a new job -/

/-- The service right after the insertion of a job. -/
def Service.inserted (job : Job) (key : WithTop ℚ) (s : Service) : Service :=
  (s.setJob job.jobId job).pushEntry job.queue (job.entry key)

/-- The entries that come before the entry of a new job. -/
def Service.ahead (job : Job) (key : WithTop ℚ) (s : Service) : ℕ :=
  (s.queues job.queue).countP fun e => decide (e < job.entry key)

/-- In a sorted list the place of an entry is the number of the smaller ones. -/
theorem idxOf_eq_countP {l : List Entry} (hsorted : l.Pairwise (· ≤ ·)) (he : e ∈ l)
    (honly : ∀ e' ∈ l, e'.jobId = e.jobId → e' = e) :
    (l.map Entry.jobId).idxOf e.jobId = l.countP fun e' => decide (e' < e) := by
  induction l with
  | nil => cases he
  | cons first l ih =>
    obtain ⟨hfirst, hsorted⟩ := List.pairwise_cons.mp hsorted
    rw [List.map_cons, List.countP_cons]
    by_cases hid : first.jobId = e.jobId
    · obtain rfl := honly first List.mem_cons_self hid
      have hnone : (l.countP fun e' => decide (e' < first)) = 0 :=
        List.countP_eq_zero.mpr fun e' he' => by simpa using hfirst e' he'
      rw [List.idxOf_cons_self, hnone]
      simp
    · have hmem : e ∈ l := (List.mem_cons.mp he).resolve_left fun heq => hid (congrArg Entry.jobId heq.symm)
      have hlt : first < e := lt_of_le_of_ne (hfirst e hmem) fun heq => hid (congrArg Entry.jobId heq)
      rw [List.idxOf_cons_ne _ hid, ih hsorted hmem fun e' he' => honly e' (List.mem_cons_of_mem _ he')]
      simp [hlt]

/-- **The place of a new job** is behind the entries that are smaller than its own. -/
theorem queuePosition_inserted (hnew : ∀ e ∈ s.queues job.queue, e.jobId ≠ job.jobId) :
    (s.inserted job key).queuePosition job.jobId = some (s.ahead job key + 1) := by
  have hqueue : (s.inserted job key).queues job.queue = Heapq.push (s.queues job.queue) (job.entry key) := by
    rw [Service.inserted, queues_pushEntry, if_pos rfl, Service.setJob_queues]
  have hget : (s.inserted job key).jobs.get? job.jobId = some job := OrderedDict.get?_set_self _ _ _
  have hperm := (List.perm_insertionSort (· ≤ ·) (Heapq.push (s.queues job.queue) (job.entry key))).trans
    (Heapq.push_perm (s.queues job.queue) (job.entry key))
  have hmem : job.entry key ∈ (Heapq.push (s.queues job.queue) (job.entry key)).insertionSort (· ≤ ·) :=
    hperm.mem_iff.mpr List.mem_cons_self
  have hin : job.jobId ∈ ((Heapq.push (s.queues job.queue) (job.entry key)).insertionSort (· ≤ ·)).map Entry.jobId :=
    List.mem_map.mpr ⟨_, hmem, rfl⟩
  unfold Service.queuePosition
  rw [hget]
  dsimp only
  rw [hqueue, if_pos hin]
  have hplace := idxOf_eq_countP (List.pairwise_insertionSort (· ≤ ·) _) hmem fun e' he' hid => by
    rcases List.mem_cons.mp (hperm.mem_iff.mp he') with heq | hold
    · exact heq
    · exact absurd hid (hnew e' hold)
  have hcount : ((Heapq.push (s.queues job.queue) (job.entry key)).insertionSort (· ≤ ·)).countP
      (fun e' => decide (e' < job.entry key)) = s.ahead job key := by
    rw [hperm.countP_eq, List.countP_cons]
    simp [Service.ahead]
  rw [hcount] at hplace
  exact congrArg (fun n => some (n + 1)) hplace

theorem ahead_le_length : s.ahead job key ≤ (s.queues job.queue).length := List.countP_le_length

/-- The estimate behind the jobs ahead is at most the one behind the whole queue. -/
theorem estimatedStart_ahead_le_length :
    s.estimatedStartSeconds cfg job.queue (s.ahead job key + 1) ≤
      s.estimatedStartSeconds cfg job.queue ((s.queues job.queue).length + 1) :=
  Service.estimatedStartSeconds_mono
    (Nat.add_le_add_left (max_le_max_right 1 (Nat.add_le_add_right ahead_le_length 1)) _)

/-- **The report** of `_queue_eta` on a job that was just inserted, where its date can be computed. -/
theorem queueEta_inserted (hnew : ∀ e ∈ s.queues job.queue, e.jobId ≠ job.jobId) (hqueued : job.status = .queued) :
    queueEta cfg now (s.inserted job key) job.jobId = (fun t => some
      ⟨s.estimatedStartSeconds cfg job.queue (s.ahead job key + 1), some t, "queue_position", "rough"⟩) <$>
        addSeconds now (s.estimatedStartSeconds cfg job.queue (s.ahead job key + 1)) := by
  have hget : (s.inserted job key).jobs.get? job.jobId = some job := OrderedDict.get?_set_self _ _ _
  unfold queueEta
  rw [hget]
  dsimp only
  rw [hqueued]
  dsimp only
  rw [queuePosition_inserted hnew]
  rfl

/-! ## The admission of a job -/

/-- What `enqueue` does before it decides. -/
def prepareAndPass (cfg : Config) (now : ℤ) (id : JobId) (request : EnqueueRequest) : Block (Job × WithTop ℚ) := do
  let prepared ← prepareJob cfg now id request
  monitorDeadlines cfg now
  pure prepared

/-- The job is refused for its wait budget. -/
def RefusedForWait (cfg : Config) (now : ℤ) (id : JobId) (request : EnqueueRequest) (s : Service) : Prop :=
  ∃ estimated maxWait, ((enqueue cfg now id request).exec s).1 = .ok (.deadlineUnreachable estimated maxWait)

/-- The estimate that `_queue_eta` computes for a job right after its insertion. -/
def Service.shownStart (cfg : Config) (job : Job) (key : WithTop ℚ) (s : Service) : ℕ :=
  (s.inserted job key).estimatedStartSeconds cfg job.queue (((s.inserted job key).queuePosition job.jobId).getD 0)

/-- The client of the job has as many pending jobs as it may have. -/
def Service.AtLimit (cfg : Config) (job : Job) (s : Service) : Prop :=
  job.clientId.isSome ∧ 0 < cfg.maxPending ∧ cfg.maxPending ≤ job.clientId.elim 0 s.clientPendingCount

/-- The budget does not lie between the estimates for the jobs ahead of the new one and for all jobs of its queue; and
a client at its limit, which is refused for that, asks for no more than the estimate. -/
def BudgetDecides (cfg : Config) (job : Job) (key : WithTop ℚ) (budget : ℕ) (s : Service) : Prop :=
  (s.AtLimit cfg job → s.estimatedStartSeconds cfg job.queue (s.ahead job key + 1) ≤ budget) ∧
    (¬s.AtLimit cfg job → budget < s.estimatedStartSeconds cfg job.queue (s.ahead job key + 1) ∨
      s.estimatedStartSeconds cfg job.queue ((s.queues job.queue).length + 1) ≤ budget)

theorem shownStart_eq (hnew : ∀ e ∈ s.queues job.queue, e.jobId ≠ job.jobId) :
    s.shownStart cfg job key = s.estimatedStartSeconds cfg job.queue (s.ahead job key + 1) := by
  unfold Service.shownStart
  rw [queuePosition_inserted hnew]
  rfl

theorem refusal_eq (hlimit : s.AtLimit cfg job) : ∃ n, s.refusal cfg job = some (.clientLimitExceeded n) :=
  ⟨_, if_pos hlimit⟩

theorem refusal_of_budget {budget : ℕ} (hlimit : ¬s.AtLimit cfg job)
    (hbudget : job.queueIntent.maxWaitSeconds = some budget) :
    s.refusal cfg job = if budget < s.estimatedStartSeconds cfg job.queue ((s.queues job.queue).length + 1) then
      some (.deadlineUnreachable (s.estimatedStartSeconds cfg job.queue ((s.queues job.queue).length + 1)) budget)
    else none := by
  unfold Service.AtLimit at hlimit
  unfold Service.refusal
  dsimp only
  rw [if_neg hlimit, hbudget]

/-- `enqueue` from its decision on. -/
theorem exec_enqueue {s₀ : Service} (h : (prepareAndPass cfg now id request).exec s₀ = (.ok (job, key), s)) :
    (enqueue cfg now id request).exec s₀ = match s.refusal cfg job with
      | some response => (.ok response, s)
      | none => (do
          insertJob cfg now job key
          let s ← read
          ofResult (queuedResponse cfg now s job) : Block EnqueueResponse).exec s := by
  unfold prepareAndPass at h
  unfold enqueue
  rw [exec_bind] at h ⊢
  rcases hprepare : (prepareJob cfg now id request).exec s₀ with ⟨e | ⟨job', key'⟩, s₁⟩ <;> rw [hprepare] at h
  · cases h
  dsimp only at h ⊢
  rw [exec_bind] at h ⊢
  rcases hpass : (monitorDeadlines cfg now).exec s₁ with ⟨e | u, s₂⟩ <;> rw [hpass] at h
  · cases h
  obtain ⟨hresult, rfl⟩ := Prod.mk.inj h
  obtain ⟨rfl, rfl⟩ := Prod.mk.inj (Except.ok.inj hresult)
  dsimp only
  rw [exec_bind, exec_read]
  dsimp only
  rcases s₂.refusal cfg job' with _ | response <;> rfl

/-- A job that is not refused is answered as queued, if at all. -/
theorem not_refused_of_inserted {t : Service} {response : EnqueueResponse}
    (h : ((do
      insertJob cfg now job key
      let s ← read
      ofResult (queuedResponse cfg now s job) : Block EnqueueResponse).exec t).1 = .ok response) :
    response = .queued job.jobId := by
  rw [exec_bind] at h
  rcases hinsert : (insertJob cfg now job key).exec t with ⟨e | u, t'⟩ <;> rw [hinsert] at h
  · cases h
  dsimp only at h
  rw [exec_bind, exec_read] at h
  dsimp only at h
  rw [exec_ofResult] at h
  unfold queuedResponse at h
  obtain ⟨eta, -, h⟩ := bind_eq_ok.mp h
  obtain ⟨deadline, -, h⟩ := bind_eq_ok.mp h
  exact (pure_eq_ok.mp h).symm

/-- **The refusal** is the decision of the service before the insertion. -/
theorem refusedForWait_iff {s₀ : Service} {budget : ℕ}
    (h : (prepareAndPass cfg now id request).exec s₀ = (.ok (job, key), s))
    (hbudget : job.queueIntent.maxWaitSeconds = some budget) :
    RefusedForWait cfg now id request s₀ ↔ ¬s.AtLimit cfg job ∧
      budget < s.estimatedStartSeconds cfg job.queue ((s.queues job.queue).length + 1) := by
  unfold RefusedForWait
  rw [exec_enqueue h]
  by_cases hlimit : s.AtLimit cfg job
  · obtain ⟨n, hn⟩ := refusal_eq hlimit
    rw [hn]
    exact iff_of_false (fun ⟨_, _, heq⟩ => by cases heq) fun hboth => hboth.1 hlimit
  · rw [refusal_of_budget hlimit hbudget]
    by_cases hover : budget < s.estimatedStartSeconds cfg job.queue ((s.queues job.queue).length + 1)
    · rw [if_pos hover]
      exact iff_of_true ⟨_, _, rfl⟩ ⟨hlimit, hover⟩
    · rw [if_neg hover]
      refine iff_of_false (fun ⟨_, _, heq⟩ => ?_) fun hboth => hover hboth.2
      cases not_refused_of_inserted heq

/-- A new id is in no heap when `enqueue` decides. -/
theorem new_id_of_prepared {n : Node} (hsound : NodeSound False n) (hnew : id ∉ n.drawn)
    (h : (prepareAndPass cfg now id request).exec n.service = (.ok (job, key), s)) :
    job.jobId = id ∧ ∀ q, ∀ e ∈ s.queues q, e.jobId ≠ id := by
  unfold prepareAndPass prepareJob at h
  rw [exec_bind, exec_bind, exec_read] at h
  dsimp only at h
  rw [exec_bind, exec_update] at h
  dsimp only at h
  generalize hnumbered : ({ n.service with nextSequence := n.service.nextSequence + 1 } : Service) = s₁ at h
  rw [exec_bind, exec_ofResult] at h
  rcases hkey : deadlineSortValue cfg now request.queueIntent with e | key' <;> rw [hkey] at h
  · cases h
  dsimp only at h
  rw [exec_bind, exec_ofResult] at h
  rcases hexpires : addSeconds now cfg.jobTtl with e | expiresAt <;> rw [hexpires] at h
  · cases h
  dsimp only at h
  rw [exec_pure] at h
  dsimp only at h
  rw [exec_bind] at h
  rcases hpass : (monitorDeadlines cfg now).exec s₁ with ⟨e | u, s₂⟩ <;> rw [hpass] at h
  · cases h
  obtain ⟨hresult, rfl⟩ := Prod.mk.inj h
  obtain ⟨rfl, rfl⟩ := Prod.mk.inj (Except.ok.inj hresult)
  have hs₁ : Sound False n.drawn n.started s₁ := by
    subst hnumbered
    exact hsound.sound.congr_tasks rfl rfl rfl rfl
  have hedited := ((@triple_pass_edited cfg now s₁ (.poll now) rfl s₁
    ⟨Edited.refl cfg False s₁ _, Service.Passed.refl s₁⟩).1 u s₂ hpass).1
  have hs₂ := hs₁.edited hedited False.elim (fun _ hid => (by cases hid)) fun _ => (by simp)
  refine ⟨rfl, fun q e he heq => ?_⟩
  obtain ⟨job', hjob', -⟩ := hs₂.agrees.listed q e he
  exact hnew (heq ▸ hs₂.known.jobs _ _ hjob')

/-- **No job is admitted with a reported wait over its budget**: the estimate of the refusal is the larger one. -/
theorem shown_le_of_admitted {s₀ : Service} {budget : ℕ}
    (h : (prepareAndPass cfg now id request).exec s₀ = (.ok (job, key), s))
    (hnew : ∀ e ∈ s.queues job.queue, e.jobId ≠ job.jobId)
    (hbudget : job.queueIntent.maxWaitSeconds = some budget) (hlimit : ¬s.AtLimit cfg job)
    (hadmitted : ¬RefusedForWait cfg now id request s₀) : s.shownStart cfg job key ≤ budget := by
  rw [refusedForWait_iff h hbudget, not_and] at hadmitted
  rw [shownStart_eq hnew]
  exact estimatedStart_ahead_le_length.trans (not_lt.mp (hadmitted hlimit))

/-- **Admission agrees with the estimate** shown afterwards exactly if the budget decides alike for the jobs ahead and
for all jobs of the queue. -/
theorem wait_budget_admission_iff (cfg : Config) (steps : List Step) (now : ℤ) (id : JobId) (request : EnqueueRequest)
    (job : Job) (key : WithTop ℚ) (s : Service) (budget : ℕ) (hnew : id ∉ (run cfg steps).drawn)
    (hprepared : (prepareAndPass cfg now id request).exec (run cfg steps).service = (.ok (job, key), s))
    (hbudget : job.queueIntent.maxWaitSeconds = some budget) :
    (RefusedForWait cfg now id request (run cfg steps).service ↔ budget < s.shownStart cfg job key) ↔
      BudgetDecides cfg job key budget s := by
  obtain ⟨hid, hfresh⟩ := new_id_of_prepared (nodeSound_false cfg steps) hnew hprepared
  have hle : s.estimatedStartSeconds cfg job.queue (s.ahead job key + 1) ≤
      s.estimatedStartSeconds cfg job.queue ((s.queues job.queue).length + 1) :=
    estimatedStart_ahead_le_length
  rw [refusedForWait_iff hprepared hbudget, shownStart_eq (hid ▸ hfresh job.queue)]
  unfold BudgetDecides
  by_cases hlimit : s.AtLimit cfg job
  · simp [hlimit]
  · simp only [hlimit, not_false_eq_true, true_and, false_imp_iff, forall_const]
    omega

/-- Two jobs of the background. -/
def twoBackground : List Step := [
  .enqueue 1767225600000000 1 { queue := "local", importance := "background" },
  .enqueue 1767225600000000 2 { queue := "local", importance := "background" }]

/-- A critical job that cannot wait. -/
def criticalRequest : EnqueueRequest :=
  { queue := "local", importance := "critical", queueIntent := { maxWaitSeconds := some 0 } }

/-- What `enqueue` has prepared when it decides. -/
theorem exists_prepared_of_isOk {s₀ : Service} (h : ((prepareAndPass cfg now id request).exec s₀).1.isOk = true) :
    ∃ job key s, (prepareAndPass cfg now id request).exec s₀ = (.ok (job, key), s) := by
  rcases hexec : (prepareAndPass cfg now id request).exec s₀ with ⟨e | ⟨job, key⟩, s⟩
  · rw [hexec] at h
    cases h
  · exact ⟨job, key, s, rfl⟩

/-- The critical job is prepared with a place ahead of both others. -/
theorem prepared_critical : ∃ job key s,
    (prepareAndPass {} 1767225601000000 3 criticalRequest).exec (run {} twoBackground).service = (.ok (job, key), s) ∧
      job.queueIntent.maxWaitSeconds = some 0 ∧ ¬s.AtLimit {} job ∧
      s.estimatedStartSeconds {} job.queue ((s.queues job.queue).length + 1) = 10 ∧ s.shownStart {} job key = 0 := by
  have hfacts : (match (prepareAndPass {} 1767225601000000 3 criticalRequest).exec (run {} twoBackground).service with
      | (.ok (job, key), s) => decide (job.queueIntent.maxWaitSeconds = some 0) && job.clientId.isNone &&
          decide (s.estimatedStartSeconds {} job.queue ((s.queues job.queue).length + 1) = 10) &&
          decide (s.shownStart {} job key = 0)
      | (.error _, _) => false) = true := by
    decide +kernel
  obtain ⟨job, key, s, hexec⟩ := @exists_prepared_of_isOk {} 1767225601000000 3 criticalRequest
    (run {} twoBackground).service (by decide +kernel)
  rw [hexec] at hfacts
  simp only [Bool.and_eq_true, decide_eq_true_eq] at hfacts
  obtain ⟨⟨⟨hbudget, hclient⟩, hlast⟩, hshown⟩ := hfacts
  refine ⟨job, key, s, hexec, hbudget, fun hlimit => ?_, hlast, hshown⟩
  have hnone := hlimit.1
  rw [Option.isNone_iff_eq_none.mp hclient] at hnone
  cases hnone

theorem wait_budget_admission_iff_critical : ∃ job key s,
    (prepareAndPass {} 1767225601000000 3 criticalRequest).exec (run {} twoBackground).service = (.ok (job, key), s) ∧
      ((RefusedForWait {} 1767225601000000 3 criticalRequest (run {} twoBackground).service ↔
        0 < s.shownStart {} job key) ↔ BudgetDecides {} job key 0 s) := by
  obtain ⟨job, key, s, hexec, hbudget, -⟩ := prepared_critical
  exact ⟨job, key, s, hexec, wait_budget_admission_iff {} twoBackground 1767225601000000 3 criticalRequest job key s 0
    (by decide +kernel) hexec hbudget⟩

/-- The critical job would be first, and is refused for the two background jobs that it would overtake. -/
theorem refused_for_overtaken : ¬∀ (cfg : Config) (steps : List Step) (now : ℤ) (id : JobId) (request : EnqueueRequest)
    (job : Job) (key : WithTop ℚ) (s : Service) (budget : ℕ), id ∉ (run cfg steps).drawn →
      (prepareAndPass cfg now id request).exec (run cfg steps).service = (.ok (job, key), s) →
      job.queueIntent.maxWaitSeconds = some budget →
      (RefusedForWait cfg now id request (run cfg steps).service ↔ budget < s.shownStart cfg job key) := by
  intro h
  obtain ⟨job, key, s, hexec, hbudget, hlimit, hlast, hshown⟩ := prepared_critical
  have hrefused := (refusedForWait_iff hexec hbudget).mpr ⟨hlimit, by rw [hlast]; decide⟩
  have hover := (h {} twoBackground 1767225601000000 3 criticalRequest job key s 0 (by decide +kernel) hexec hbudget).mp
    hrefused
  rw [hshown] at hover
  exact absurd hover (lt_irrefl 0)

end Queue
end HexeAiNode
