import HexeAiNode.Queue.Machine

/-!
# What the blocks do

One rule for each block: an assertion goes through it when it goes through its parts.  The rules say under
which circumstances the code gets to a part, so that an invariant of the queue is proved by asking one
question about each change of the state.

`PassRules` are the questions a deadline pass asks, `triple_enqueue` to `triple_settleRunner` those of the
other blocks; `Job.EndedAt` and `Job.Amends` are all that the rules tell about the records that a
block writes.
-/

namespace HexeAiNode
namespace Queue

open Py Execution StoreAction

variable {cfg : Config} {now : ℤ} {P I E : Service → Prop}

/-! ## What an edit leaves alone -/

namespace Service

variable (s : Service) (q : QueueKey) (id : JobId) (job : Job)

@[simp] theorem setJob_queues : (s.setJob id job).queues = s.queues := rfl
@[simp] theorem setJob_runners : (s.setJob id job).runners = s.runners := rfl
@[simp] theorem setJob_jobs : (s.setJob id job).jobs = s.jobs.set id job := rfl
@[simp] theorem setQueue_jobs (entries : List Entry) : (s.setQueue q entries).jobs = s.jobs := rfl
@[simp] theorem setQueue_runners (entries : List Entry) :
    (s.setQueue q entries).runners = s.runners := rfl
@[simp] theorem setQueue_queues (entries : List Entry) :
    (s.setQueue q entries).queues = Function.update s.queues q entries := rfl
@[simp] theorem setDispatcher_jobs (d : Option Dispatcher) : (s.setDispatcher q d).jobs = s.jobs := rfl
@[simp] theorem setDispatcher_queues (d : Option Dispatcher) :
    (s.setDispatcher q d).queues = s.queues := rfl
@[simp] theorem setDispatcher_runners (d : Option Dispatcher) :
    (s.setDispatcher q d).runners = s.runners := rfl
@[simp] theorem dropJobs_queues (ids : List JobId) : (s.dropJobs ids).queues = s.queues := rfl
@[simp] theorem dropJobs_runners (ids : List JobId) : (s.dropJobs ids).runners = s.runners := rfl
@[simp] theorem dropJobs_jobs (ids : List JobId) : (s.dropJobs ids).jobs = s.jobs.eraseAll ids := rfl

/-- Making sure of a dispatcher sets one or nothing. -/
theorem ensureDispatcher_eq :
    s.ensureDispatcher q = s ∨ s.ensureDispatcher q = s.setDispatcher q (some .attempt) := by
  unfold ensureDispatcher
  split
  · exact Or.inl rfl
  · exact Or.inr rfl

@[simp] theorem ensureDispatcher_jobs : (s.ensureDispatcher q).jobs = s.jobs := by
  rcases s.ensureDispatcher_eq q with h | h <;> simp [h]

@[simp] theorem ensureDispatcher_queues : (s.ensureDispatcher q).queues = s.queues := by
  rcases s.ensureDispatcher_eq q with h | h <;> simp [h]

@[simp] theorem ensureDispatcher_runners : (s.ensureDispatcher q).runners = s.runners := by
  rcases s.ensureDispatcher_eq q with h | h <;> simp [h]

@[simp] theorem ensureDispatcher_stateFile : (s.ensureDispatcher q).stateFile = s.stateFile := by
  rcases s.ensureDispatcher_eq q with h | h <;> simp [h, setDispatcher]

@[simp] theorem ensureDispatcher_activeCounts : (s.ensureDispatcher q).activeCounts = s.activeCounts := by
  rcases s.ensureDispatcher_eq q with h | h <;> simp [h, setDispatcher]

@[simp] theorem ensureDispatcher_retries : (s.ensureDispatcher q).retries = s.retries := by
  rcases s.ensureDispatcher_eq q with h | h <;> simp [h, setDispatcher]

@[simp] theorem takeOut_jobs (job' : Job) : (s.takeOut id job job').jobs = s.jobs.set id job' := rfl
@[simp] theorem takeOut_runners (job' : Job) : (s.takeOut id job job').runners = s.runners := rfl
@[simp] theorem takeOut_stateFile (job' : Job) : (s.takeOut id job job').stateFile = s.stateFile := rfl

@[simp] theorem enterCloud_jobs (key : WithTop ℚ) : (s.enterCloud job key).jobs = s.jobs :=
  ensureDispatcher_jobs _ _

@[simp] theorem enterCloud_runners (key : WithTop ℚ) : (s.enterCloud job key).runners = s.runners :=
  ensureDispatcher_runners _ _

@[simp] theorem enterCloud_stateFile (key : WithTop ℚ) :
    (s.enterCloud job key).stateFile = s.stateFile :=
  ensureDispatcher_stateFile _ _

theorem get?_setJob (id' : JobId) :
    (s.setJob id job).jobs.get? id' = if id' = id then some job else s.jobs.get? id' :=
  OrderedDict.get?_set s.jobs id id' job

theorem get?_takeOut (job' : Job) (id' : JobId) :
    (s.takeOut id job job').jobs.get? id' = if id' = id then some job' else s.jobs.get? id' :=
  OrderedDict.get?_set s.jobs id id' job'

theorem get?_dropJobs (ids : List JobId) (id' : JobId) :
    (s.dropJobs ids).jobs.get? id' = if id' ∈ ids then none else s.jobs.get? id' :=
  OrderedDict.get?_eraseAll s.jobs ids id'

@[simp] theorem setJob_takeOut (a b : Job) : (s.takeOut id job a).setJob id b = s.takeOut id job b := by
  simp [takeOut, setJob]

end Service

/-! ## Runner tasks -/

/-- A change of one task leaves the jobs of the tasks alone. -/
theorem map_jobId_modify {f : Runner → Runner} (hf : ∀ r, (f r).jobId = r.jobId)
    (runners : List Runner) (task : ℕ) :
    (runners.modify task f).map Runner.jobId = runners.map Runner.jobId := by
  induction runners generalizing task with
  | nil => simp
  | cons r runners ih => cases task <;> simp [hf, ih]

theorem mem_modify {f : Runner → Runner} {runners : List Runner} {r : Runner} (h : r ∈ runners)
    (task : ℕ) : r ∈ runners.modify task f ∨ f r ∈ runners.modify task f := by
  induction runners generalizing task with
  | nil => cases h
  | cons r' runners ih =>
    rcases List.mem_cons.mp h with rfl | hmem
    · cases task with
      | zero => exact Or.inr (by simp)
      | succ task => exact Or.inl (by simp)
    · cases task with
      | zero => exact Or.inl (by simp [hmem])
      | succ task => exact (ih hmem task).imp (by simp +contextual) (by simp +contextual)

theorem Service.enterRunner_eq (task : ℕ) (s : Service) :
    ∃ runners, s.enterRunner task = { s with runners := runners } := by
  unfold enterRunner
  split
  · exact ⟨s.runners, rfl⟩
  · split
    · exact ⟨_, rfl⟩
    · exact ⟨_, rfl⟩
    · exact ⟨s.runners, rfl⟩

theorem Service.endRunner_eq (task : ℕ) (ending : Outcome) (s : Service) :
    ∃ runners, s.endRunner task ending = { s with runners := runners } := by
  unfold endRunner
  split
  · exact ⟨s.runners, rfl⟩
  · split
    · exact ⟨_, rfl⟩
    · exact ⟨s.runners, rfl⟩

/-- What an attempt does: it gives up, asks for the admission of the head, or removes a stale head. -/
theorem dispatchAttempt_cases (cfg : Config) (q : QueueKey) (s : Service) :
    (dispatchAttempt cfg q s = s.setDispatcher q none ∧
      (cfg.concurrency q ≤ s.activeCounts q ∨ s.queues q = [])) ∨
    (∃ id, dispatchAttempt cfg q s = s.setDispatcher q (some (.admission id)) ∧
      s.activeCounts q < cfg.concurrency q) ∨
    ∃ e, dispatchAttempt cfg q s = s.popEntry q ∧ (s.queues q).head? = some e ∧
      ∀ job, s.jobs.get? e.jobId = some job → job.status ≠ .queued := by
  unfold dispatchAttempt
  split
  · next hfull => exact Or.inl ⟨rfl, Or.inl hfull⟩
  next hfree =>
  split
  · next hempty => exact Or.inl ⟨rfl, Or.inr (List.head?_eq_none_iff.mp hempty)⟩
  next e hhead =>
  split
  · next hnone =>
    refine Or.inr (Or.inr ⟨e, rfl, hhead, fun job hjob => ?_⟩)
    rw [hnone] at hjob
    cases hjob
  · next job hjob =>
    split
    · exact Or.inr (Or.inl ⟨_, rfl, not_le.mp hfree⟩)
    · next hstale =>
      refine Or.inr (Or.inr ⟨e, rfl, hhead, fun job' hjob' => ?_⟩)
      obtain rfl := Option.some.inj (hjob.symm.trans hjob')
      exact hstale

/-! ## Rules -/

/-- The records a service writes. -/
def Service.snapshot (s : Service) : List Job := bySequence (s.jobs.values.map Job.persisted)

/-- The service after it wrote its records. -/
def Service.saved (s : Service) : Service := { s with stateFile := some s.snapshot }

theorem publicJobPayload_eq_ok {s : Service} {job record : Job}
    (h : publicJobPayload cfg now s job = .ok record) : record = job.persisted := by
  unfold publicJobPayload at h
  obtain ⟨_, -, h⟩ := bind_eq_ok.mp h
  obtain ⟨_, -, h⟩ := bind_eq_ok.mp h
  exact (pure_eq_ok.mp h).symm

theorem mapM_publicJobPayload {s : Service} {jobs records : List Job}
    (h : jobs.mapM (publicJobPayload cfg now s) = .ok records) :
    records = jobs.map Job.persisted := by
  induction jobs generalizing records with
  | nil => exact (pure_eq_ok.mp h).symm
  | cons job jobs ih =>
    rw [List.mapM_cons] at h
    obtain ⟨record, hrecord, h⟩ := bind_eq_ok.mp h
    obtain ⟨records', hrecords, h⟩ := bind_eq_ok.mp h
    rw [← pure_eq_ok.mp h, publicJobPayload_eq_ok hrecord, ih hrecords, List.map_cons]

/-- Records that can all be built and serialised are written. -/
theorem exec_persistJobs {s : Service} (hpath : cfg.statePath = true)
    (hok : (s.jobs.values.mapM (publicJobPayload cfg now s)).isOk = true)
    (hsafe : s.jobs.values.all Job.jsonSafe = true) :
    (persistJobs cfg now).exec s = (.ok (), s.saved) := by
  unfold persistJobs
  rw [if_pos hpath, exec_bind, exec_read]
  dsimp only
  rw [exec_bind, exec_ofResult]
  rcases hrecords : s.jobs.values.mapM (publicJobPayload cfg now s) with e | records
  · rw [hrecords] at hok
    cases hok
  · dsimp only
    rw [exec_update, mapM_publicJobPayload hrecords, if_pos]
    · rfl
    · rw [List.all_map]
      exact hsafe

/-- Persisting writes the records, unless one of them cannot be serialised or no file is configured; it
raises, before it writes, when a payload cannot be built. -/
theorem triple_persistJobs_safe {Q : Service → Prop} (hskip : cfg.statePath = false → ∀ s, P s → Q s)
    (hrefused : ∀ s, P s → ∀ job ∈ s.jobs.values, job.jsonSafe = false → Q s)
    (hsave : ∀ s, P s → Q s.saved)
    (herror : cfg.statePath = true → ∀ s e, P s →
      s.jobs.values.mapM (publicJobPayload cfg now s) = .error e → E s) :
    Triple P (persistJobs cfg now) (fun _ => Q) E := by
  unfold persistJobs
  refine Triple.ite (fun hpath => ?_) fun hpath => Triple.pure (hskip (Bool.not_eq_true _ ▸ hpath))
  refine Triple.bind Triple.read fun s => ?_
  refine Triple.bind (Triple.ofResult
    (Q := fun records t => P t ∧ records = t.jobs.values.map Job.persisted) ?_ ?_)
    fun records => Triple.update ?_
  · rintro t records ⟨ht, rfl⟩ hrecords
    exact ⟨ht, mapM_publicJobPayload hrecords⟩
  · rintro t e ⟨ht, rfl⟩ he
    exact herror hpath t e ht he
  · rintro t ⟨ht, rfl⟩
    split
    · exact hsave t ht
    · next hsafe =>
      obtain ⟨record, hrecord, hrefused'⟩ : ∃ record ∈ t.jobs.values.map Job.persisted,
          record.jsonSafe = false := by simpa using hsafe
      obtain ⟨job, hjob, rfl⟩ := List.mem_map.mp hrecord
      exact hrefused t ht job hjob hrefused'

/-- Persisting writes the records or leaves the file alone. -/
theorem triple_persistJobs' {Q : Service → Prop} (hkeep : ∀ s, P s → Q s)
    (hsave : ∀ s, P s → Q s.saved) (herror : ∀ s, P s → E s) :
    Triple P (persistJobs cfg now) (fun _ => Q) E :=
  triple_persistJobs_safe (fun _ => hkeep) (fun s hs _ _ _ => hkeep s hs) hsave fun _ s _ hs _ => herror s hs

/-- What a deadline pass asks of an invariant `I`, and of an assertion `E` for the service it leaves when
it raises. -/
structure PassRules (cfg : Config) (now : ℤ) (I E : Service → Prop) : Prop where
  persist : Triple I (persistJobs cfg now) (fun _ => I) E
  drop : ∀ s ids, I s → (∀ id ∈ ids, ∃ job, s.jobs.get? id = some job ∧ job.isDue now = true) →
    I (s.dropJobs ids)
  boundary : ∀ s id job e, I s → s.jobs.get? id = some job → job.status = .queued →
    job.effectiveDeadline = .error e → E s
  reroute : ∀ s id job d key, I s → s.jobs.get? id = some job → job.status = .queued →
    job.queue = .localNode → job.allowsCloudSpillover = true →
    job.effectiveDeadline = .ok (some d) → d < now →
    deadlineSortValue cfg now job.queueIntent = .ok key →
    I ((s.takeOut id job (movedJob job)).enterCloud (movedJob job) key)
  orphan : ∀ s id job d e, I s → s.jobs.get? id = some job → job.status = .queued →
    job.queue = .localNode → job.allowsCloudSpillover = true →
    job.effectiveDeadline = .ok (some d) → d < now →
    deadlineSortValue cfg now job.queueIntent = .error e →
    E (s.takeOut id job (movedJob job))
  expire : ∀ s id job d expiresAt error, I s → s.jobs.get? id = some job → job.status = .queued →
    job.effectiveDeadline = .ok (some d) → d < now →
    addSeconds now cfg.jobTtl = .ok expiresAt →
    I (s.takeOut id job (closedJob expiresAt error (endedJob now .expiredWaitBudget job)))
  undated : ∀ s id job e, I s → s.jobs.get? id = some job → job.status = .queued →
    addSeconds now cfg.jobTtl = .error e →
    E (s.takeOut id job (endedJob now .expiredWaitBudget job))

/-- The record `job'` ends `job` at `now`.  Here and below, `safe` says that what comes from outside can
be serialised. -/
structure Job.EndedAt (now : ℤ) (safe : Bool) (job job' : Job) : Prop where
  submission : job'.toSubmission = job.toSubmission
  queue : job'.queue = job.queue
  terminal : job'.status.terminal = true
  completedAt : job'.completedAt = some now
  jsonSafe : safe = true → job.jsonSafe = true → job'.jsonSafe = true

/-- The record `job'` amends `job` without changing where the job stands. -/
structure Job.Amends (safe : Bool) (job job' : Job) : Prop where
  submission : job'.toSubmission = job.toSubmission
  queue : job'.queue = job.queue
  status : job'.status = job.status
  completedAt : job'.completedAt = job.completedAt
  expiresAt : job'.expiresAt = job.expiresAt
  jsonSafe : safe = true → job.jsonSafe = true → job'.jsonSafe = true

theorem Job.EndedAt.ne_queued {safe : Bool} {job job' : Job} (h : job.EndedAt now safe job') :
    job'.status ≠ .queued := by
  intro hq
  have hterminal := h.terminal
  rw [hq] at hterminal
  cases hterminal

theorem endedAt_endedJob {status : Status} (h : status.terminal = true) (job : Job) :
    job.EndedAt now true (endedJob now status job) := ⟨rfl, rfl, h, rfl, fun _ hsafe => hsafe⟩

theorem endedAt_closedJob {status : Status} (h : status.terminal = true) (t : ℤ) (error : JobError)
    (job : Job) : job.EndedAt now true (closedJob t error (endedJob now status job)) :=
  ⟨rfl, rfl, h, rfl, fun _ hsafe => hsafe⟩

/-- The states in which `_run_job` leaves a job. -/
def Status.ofRunner : Status → Bool
  | .completed | .failed | .cancelled => true
  | .queued | .running | .expiredWaitBudget => false

/-- The task has left its runner and is before the block that ends its job. -/
def RunnerState.leaving : RunnerState → Bool
  | .completing _ | .failing _ | .cancelling => true
  | _ => false

/-- What a runner hands over can be serialised. -/
def RunnerState.safe : RunnerState → Bool
  | .completing result => result.all Payload.jsonSafe
  | _ => true

/-- The end of a queued job: either its record is complete, or the retention time is no date. -/
theorem triple_endQueued {id : JobId} {job : Job} {status : Status} {error : JobError}
    {Q : Unit → Service → Prop}
    (hok : ∀ s expiresAt, P s → addSeconds now cfg.jobTtl = .ok expiresAt →
      Q () (s.takeOut id job (closedJob expiresAt error (endedJob now status job))))
    (herror : ∀ s e, P s → addSeconds now cfg.jobTtl = .error e →
      E (s.takeOut id job (endedJob now status job))) :
    Triple P (endQueued cfg now id job status error) Q E := by
  intro s hs
  unfold endQueued
  rw [exec_bind, exec_update]
  dsimp only
  rw [exec_bind, exec_ofResult]
  rcases hadd : addSeconds now cfg.jobTtl with e | expiresAt
  · refine ⟨fun _ _ h => (by cases h), fun e' s' h => ?_⟩
    obtain ⟨-, rfl⟩ := Prod.mk.inj h
    exact herror s e hs hadd
  · refine ⟨fun _ s' h => ?_, fun _ _ h => (by cases h)⟩
    obtain ⟨-, rfl⟩ := Prod.mk.inj h
    rw [Service.setJob_takeOut]
    exact hok s expiresAt hs hadd

theorem triple_monitorJob (h : PassRules cfg now I E) (id : JobId) :
    Triple I (monitorJob cfg now id) (fun _ => I) E := by
  unfold monitorJob
  refine Triple.bind Triple.read fun s => ?_
  split
  · exact Triple.pure fun t ht => ht.1
  next job hjob =>
  refine Triple.ite (fun hqueued => ?_) fun _ => Triple.pure fun t ht => ht.1
  refine Triple.bind (Triple.ofResult (Q := fun d t => (I t ∧ t = s) ∧ job.effectiveDeadline = .ok d)
    (fun t d ht hd => ⟨ht, hd⟩) ?_) fun deadline => ?_
  · rintro t e ⟨ht, rfl⟩ hd
    exact h.boundary t id job e ht hjob hqueued hd
  refine Triple.ite (fun _ => Triple.pure fun t ht => ht.1.1) fun hover => ?_
  obtain ⟨d, rfl, hd⟩ : ∃ d, deadline = some d ∧ d < now := by
    rcases deadline with _ | d
    · simp at hover
    · exact ⟨d, rfl, by simpa using hover⟩
  refine Triple.ite (fun hspill => ?_) fun _ => ?_
  · refine Triple.bind (R := fun _ => I) ?_ fun _ => Triple.pure fun t ht => ht
    rintro t ⟨⟨ht, rfl⟩, hdeadline⟩
    unfold rerouteToCloud
    rw [exec_bind, exec_update]
    dsimp only
    rw [exec_bind, exec_ofResult]
    rcases hkey : deadlineSortValue cfg now job.queueIntent with e | key
    · refine ⟨fun _ _ hexec => (by cases hexec), fun e' t' hexec => ?_⟩
      obtain ⟨-, rfl⟩ := Prod.mk.inj hexec
      exact h.orphan t id job d e ht hjob hqueued hspill.1 hspill.2 hdeadline hd hkey
    · refine ⟨fun _ t' hexec => ?_, fun _ _ hexec => (by cases hexec)⟩
      obtain ⟨-, rfl⟩ := Prod.mk.inj hexec
      exact h.reroute t id job d key ht hjob hqueued hspill.1 hspill.2 hdeadline hd hkey
  · refine Triple.bind (R := fun _ => I) (triple_endQueued ?_ ?_) fun _ => Triple.pure fun t ht => ht
    · rintro t expiresAt ⟨⟨ht, rfl⟩, hdeadline⟩ hadd
      exact h.expire t id job d expiresAt _ ht hjob hqueued hdeadline hd hadd
    · rintro t e ⟨⟨ht, rfl⟩, -⟩ hadd
      exact h.undated t id job e ht hjob hqueued hadd

theorem triple_monitorJobs (h : PassRules cfg now I E) (ids : List JobId) :
    Triple I (monitorJobs cfg now ids) (fun _ => I) E := by
  induction ids with
  | nil => exact Triple.pure fun s hs => hs
  | cons id ids ih =>
    refine Triple.bind (triple_monitorJob h id) fun _ => ?_
    exact Triple.bind ih fun _ => Triple.pure fun s hs => hs

/-- The records that a pass deletes are due. -/
theorem due_of_mem_dueIds {s : Service} {id : JobId} (h : id ∈ s.dueIds now) :
    ∃ job, s.jobs.get? id = some job ∧ job.isDue now = true := by
  obtain ⟨⟨id', job⟩, hmem, rfl⟩ := List.mem_map.mp h
  obtain ⟨hentry, hdue⟩ := List.mem_filter.mp hmem
  exact ⟨job, OrderedDict.get?_of_mem_entries hentry, hdue⟩

theorem triple_prune
    (h : ∀ s ids, I s → (∀ id ∈ ids, ∃ job, s.jobs.get? id = some job ∧ job.isDue now = true) →
      I (s.dropJobs ids)) :
    Triple I (pruneExpiredTerminalJobs now) (fun _ => I) E := by
  unfold pruneExpiredTerminalJobs
  refine Triple.bind Triple.read fun s => ?_
  refine Triple.bind (R := fun _ => I) (Triple.update ?_) fun _ => Triple.pure fun t ht => ht
  rintro t ⟨ht, rfl⟩
  exact h t _ ht fun id hid => due_of_mem_dueIds hid

/-- **A deadline pass** keeps what each of its changes keeps. -/
theorem triple_monitorDeadlines (h : PassRules cfg now I E) :
    Triple I (monitorDeadlines cfg now) (fun _ => I) E := by
  unfold monitorDeadlines
  refine Triple.bind (triple_prune h.drop) fun deleted => ?_
  refine Triple.bind (Triple.read.mono (fun s hs => hs) (fun _ _ hs => hs.1) fun _ hs => hs) fun s => ?_
  refine Triple.bind (triple_monitorJobs h _) fun changed => ?_
  exact Triple.ite (fun _ => h.persist) fun _ => Triple.pure fun t ht => ht

/-- A pass over one job that does not move or end it does nothing. -/
theorem exec_monitorJob_false {id : JobId} {s s' : Service}
    (h : (monitorJob cfg now id).exec s = (.ok false, s')) : s' = s := by
  unfold monitorJob at h
  rw [exec_bind, exec_read] at h
  dsimp only at h
  split at h
  · exact (Prod.mk.inj h).2.symm
  next job hjob =>
  split at h
  · rw [exec_bind, exec_ofResult] at h
    rcases hd : job.effectiveDeadline with e | deadline
    · rw [hd] at h
      cases h
    rw [hd] at h
    dsimp only at h
    split at h
    · exact (Prod.mk.inj h).2.symm
    · split at h
      · rw [exec_bind] at h
        rcases hmove : (rerouteToCloud cfg now id job).exec s with ⟨e | u, t⟩ <;> rw [hmove] at h <;> cases h
      · rw [exec_bind] at h
        rcases hend : (expireJob cfg now id job).exec s with ⟨e | u, t⟩ <;> rw [hend] at h <;> cases h
  · exact (Prod.mk.inj h).2.symm

theorem exec_monitorJobs_false {ids : List JobId} {s s' : Service}
    (h : (monitorJobs cfg now ids).exec s = (.ok false, s')) : s' = s := by
  induction ids generalizing s with
  | nil => exact (Prod.mk.inj h).2.symm
  | cons id ids ih =>
    unfold monitorJobs at h
    rw [exec_bind] at h
    rcases hjob : (monitorJob cfg now id).exec s with ⟨e | changed, t⟩
    · rw [hjob] at h
      cases h
    rw [hjob] at h
    dsimp only at h
    rw [exec_bind] at h
    rcases hjobs : (monitorJobs cfg now ids).exec t with ⟨e | changed', t'⟩
    · rw [hjobs] at h
      cases h
    rw [hjobs] at h
    obtain ⟨hor, rfl⟩ := Prod.mk.inj h
    obtain ⟨rfl, rfl⟩ : changed = false ∧ changed' = false := by
      simpa using Except.ok.inj hor
    rw [ih hjobs, exec_monitorJob_false hjob]

/-- A pass that changes nothing does not persist; so it keeps what a persist establishes. -/
theorem triple_monitorDeadlines_persisted {C : Service → Prop} (h : PassRules cfg now I E)
    (hpersist : Triple I (persistJobs cfg now) (fun _ s => I s ∧ C s) E) :
    Triple (fun s => I s ∧ C s) (monitorDeadlines cfg now) (fun _ s => I s ∧ C s) E := by
  unfold monitorDeadlines
  have hprune : Triple (fun s => I s ∧ C s) (pruneExpiredTerminalJobs now : Block Bool)
      (fun deleted s => I s ∧ (deleted = false → C s)) E := by
    unfold pruneExpiredTerminalJobs
    refine Triple.bind Triple.read fun s => ?_
    refine Triple.bind (Q := fun _ t => I t ∧ (s.dueIds now = [] → C t)) (Triple.update ?_)
      fun _ => Triple.pure fun t ht => ⟨ht.1, fun hempty => ht.2 (by simpa using hempty)⟩
    rintro t ⟨⟨ht, hC⟩, rfl⟩
    refine ⟨h.drop t _ ht fun id hid => due_of_mem_dueIds hid, fun hnone => ?_⟩
    rw [hnone]
    exact hC
  refine Triple.bind hprune fun deleted => ?_
  refine Triple.bind (Triple.read.mono (fun s hs => hs) (fun _ _ hs => hs.1) fun _ hs => hs) fun s => ?_
  have hjobs : Triple (fun t => I t ∧ (deleted = false → C t)) (monitorJobs cfg now s.jobs.keys)
      (fun changed t => I t ∧ ((deleted || changed) = false → C t)) E := by
    intro t ht
    have htriple := triple_monitorJobs h s.jobs.keys t ht.1
    refine ⟨fun changed t' hexec => ⟨htriple.1 changed t' hexec, fun hfalse => ?_⟩, htriple.2⟩
    rw [Bool.or_eq_false_iff] at hfalse
    obtain ⟨hdeleted, rfl⟩ := hfalse
    rw [exec_monitorJobs_false hexec]
    exact ht.2 hdeleted
  refine Triple.bind hjobs fun changed => Triple.ite (fun _ => ?_) fun hfalse => Triple.pure ?_
  · exact hpersist.mono (fun _ ht => ht.1) (fun _ _ ht => ht) fun _ ht => ht
  · exact fun t ht => ⟨ht.1, ht.2 (Bool.not_eq_true _ ▸ hfalse)⟩

/-! ## `enqueue` and `cancel_job` -/

/-- What `enqueue` has computed before it takes the lock. -/
structure Prepared (cfg : Config) (now : ℤ) (id : JobId) (request : EnqueueRequest) (job : Job)
    (key : WithTop ℚ) : Prop where
  job : ∃ n expiresAt, addSeconds now cfg.jobTtl = .ok expiresAt ∧
    job = newJob now expiresAt id n request
  key : deadlineSortValue cfg now request.queueIntent = .ok key

variable {J : Service → Prop}

theorem triple_prepareJob {id : JobId} {request : EnqueueRequest}
    (hsequence : ∀ s n, P s → P { s with nextSequence := n }) (hraise : ∀ s, P s → E s) :
    Triple P (prepareJob cfg now id request)
      (fun p s => Prepared cfg now id request p.1 p.2 ∧ P s) E := by
  unfold prepareJob
  refine Triple.bind Triple.read fun s => ?_
  refine Triple.bind (Triple.update (Q := fun _ => P) fun t ht => hsequence t _ ht.1) fun _ => ?_
  refine Triple.bind (Triple.ofResult
    (Q := fun key t => deadlineSortValue cfg now request.queueIntent = .ok key ∧ P t)
    (fun _ _ ht hkey => ⟨hkey, ht⟩) fun t _ ht _ => hraise t ht) fun key => ?_
  refine Triple.of_imp fun hkey => ?_
  refine Triple.bind (Triple.ofResult
    (Q := fun expiresAt t => addSeconds now cfg.jobTtl = .ok expiresAt ∧ P t)
    (fun _ _ ht hadd => ⟨hadd, ht⟩) fun t _ ht _ => hraise t ht) fun expiresAt => ?_
  refine Triple.of_imp fun hadd => ?_
  exact Triple.pure fun t ht => ⟨⟨⟨_, _, hadd, rfl⟩, hkey⟩, ht⟩

theorem triple_enqueue {id : JobId} {request : EnqueueRequest}
    (hsequence : ∀ s n, P s → P { s with nextSequence := n }) (hraise : ∀ s, P s → E s)
    (hpass : Triple P (monitorDeadlines cfg now) (fun _ => I) E) (hrefuse : ∀ s, I s → J s)
    (hinsert : ∀ job key, Prepared cfg now id request job key →
      Triple I (insertJob cfg now job key) (fun _ => J) E)
    (hrespond : ∀ s job key e, Prepared cfg now id request job key → J s →
      queuedResponse cfg now s job = .error e → E s) :
    Triple P (enqueue cfg now id request) (fun _ => J) E := by
  unfold enqueue
  refine Triple.bind (triple_prepareJob hsequence hraise) ?_
  rintro ⟨job, key⟩
  refine Triple.of_imp fun hprepared => ?_
  refine Triple.bind hpass fun _ => ?_
  refine Triple.bind (Triple.read.mono (fun _ hs => hs) (fun _ _ hs => hs.1) fun _ hs => hs)
    fun s => ?_
  split
  · exact Triple.pure hrefuse
  · refine Triple.bind (hinsert job key hprepared) fun _ => ?_
    refine Triple.bind Triple.read fun s => ?_
    refine Triple.ofResult (fun _ _ ht _ => ht.1) ?_
    rintro t e ⟨ht, rfl⟩ he
    exact hrespond t job key e hprepared ht he

theorem triple_cancelQueued {id : JobId} {job : Job} {reason : Option String} {Q : Service → Prop}
    (hok : ∀ s expiresAt error, P s → addSeconds now cfg.jobTtl = .ok expiresAt →
      Q (s.takeOut id job (closedJob expiresAt error (endedJob now .cancelled job))))
    (herror : ∀ s e, P s → addSeconds now cfg.jobTtl = .error e →
      E (s.takeOut id job (endedJob now .cancelled job)))
    (hpersist : Triple Q (persistJobs cfg now) (fun _ => I) E) :
    Triple P (cancelQueued cfg now id job reason) (fun _ => I) E := by
  unfold cancelQueued
  refine Triple.bind (triple_endQueued (Q := fun _ => Q) ?_ herror) fun _ => hpersist
  exact fun s expiresAt hs hadd => hok s expiresAt _ hs hadd

theorem triple_cancelRunning {id : JobId} {job : Job} {task : ℕ} {reason : Option String}
    {Q R : Service → Prop}
    (hamend : ∀ s job', P s → job.Amends true job' → Q (s.setJob id job'))
    (hpersist : Triple Q (persistJobs cfg now) (fun _ => R) E)
    (hcancel : ∀ s, R s → I (s.cancelRunner task)) :
    Triple P (cancelRunning cfg now id job task reason) (fun _ => I) E := by
  unfold cancelRunning
  refine Triple.bind (Q := fun _ => Q) (Triple.update fun s hs => ?_) fun _ => ?_
  · exact hamend s _ hs ⟨rfl, rfl, rfl, rfl, rfl, fun _ hsafe => hsafe⟩
  · exact Triple.bind hpersist fun _ => Triple.update hcancel

theorem triple_cancelJob {id : JobId} {reason : Option String}
    (hpass : Triple P (monitorDeadlines cfg now) (fun _ => I) E) (hkeep : ∀ s, I s → J s)
    (hqueued : ∀ job, job.status = .queued →
      Triple (fun s => I s ∧ s.jobs.get? id = some job) (cancelQueued cfg now id job reason)
        (fun _ => J) E)
    (hrunning : ∀ job task, job.status = .running → job.runningCancellationSupported = true →
      Triple (fun s => I s ∧ s.jobs.get? id = some job ∧ s.liveTask id = some task)
        (cancelRunning cfg now id job task reason) (fun _ => J) E) :
    Triple P (cancelJob cfg now id reason) (fun _ => J) E := by
  unfold cancelJob
  refine Triple.bind hpass fun _ => ?_
  refine Triple.bind Triple.read fun s => ?_
  split
  · exact Triple.pure fun t ht => hkeep t ht.1
  next job hjob =>
  split
  · next hstatus =>
    refine Triple.bind (Q := fun _ => J) ?_ fun _ => Triple.pure fun t ht => ht
    refine (hqueued job hstatus).mono ?_ (fun _ _ ht => ht) fun _ ht => ht
    rintro t ⟨ht, rfl⟩
    exact ⟨ht, hjob⟩
  · next hstatus =>
    refine Triple.ite (fun hsupported => ?_) fun _ => Triple.pure fun t ht => hkeep t ht.1
    split
    · exact Triple.pure fun t ht => hkeep t ht.1
    next task htask =>
    refine Triple.bind (Q := fun _ => J) ?_ fun _ => Triple.pure fun t ht => ht
    refine (hrunning job task hstatus hsupported).mono ?_ (fun _ _ ht => ht) fun _ ht => ht
    rintro t ⟨ht, rfl⟩
    exact ⟨ht, hjob, htask⟩
  · exact Triple.pure fun t ht => hkeep t ht.1

theorem triple_acknowledgeArtifacts {id : JobId} {acknowledgement : Payload} {Q : Service → Prop}
    (hkeep : ∀ s, P s → I s)
    (hamend : ∀ s job job', P s → s.jobs.get? id = some job → job.status = .completed →
      job.Amends acknowledgement.jsonSafe job' → Q (s.setJob id job'))
    (hpersist : Triple Q (persistJobs cfg now) (fun _ => I) E) :
    Triple P (acknowledgeArtifacts cfg now id acknowledgement) (fun _ => I) E := by
  unfold acknowledgeArtifacts
  refine Triple.bind Triple.read fun s => ?_
  split
  · exact Triple.pure fun t ht => hkeep t ht.1
  next job hjob =>
  refine Triple.ite (fun hstatus => ?_) fun _ => Triple.pure fun t ht => hkeep t ht.1
  refine Triple.bind (Q := fun _ => Q) (Triple.update ?_) fun _ => hpersist
  rintro t ⟨ht, rfl⟩
  refine hamend t job _ ht hjob hstatus.1 ⟨rfl, rfl, rfl, rfl, rfl, fun hsafe hjob => ?_⟩
  unfold Job.jsonSafe at hjob ⊢
  simp only [Bool.and_eq_true] at hjob ⊢
  exact ⟨hjob.1, hsafe⟩

/-! ## Dispatch -/

theorem triple_scheduleBlockedRetry {q : QueueKey} {v : Value}
    (hkeep : ∀ s d, I s → s.retries q = some d → J s)
    (hset : ∀ s d, I s → s.retries q = none → retryDelay cfg v = .ok d →
      J { s with retries := Function.update s.retries q (some d) })
    (herror : ∀ s e, I s → s.retries q = none → retryDelay cfg v = .error e → E s) :
    Triple I (scheduleBlockedRetry cfg q v) (fun _ => J) E := by
  unfold scheduleBlockedRetry
  refine Triple.bind Triple.read fun s => ?_
  split
  · next d hd =>
    refine Triple.pure ?_
    rintro t ⟨ht, rfl⟩
    exact hkeep t d ht hd
  · next hnone =>
    refine Triple.bind (Q := fun d t => (I t ∧ t = s) ∧ retryDelay cfg v = .ok d)
      (Triple.ofResult (fun _ _ ht hd => ⟨ht, hd⟩) ?_) fun d => Triple.update ?_
    · rintro t e ⟨ht, rfl⟩ he
      exact herror t e ht hnone he
    · rintro t ⟨⟨ht, rfl⟩, hd⟩
      exact hset t d ht hnone hd

theorem triple_dispatchDecision {q : QueueKey} {id : JobId} {admission : Payload}
    (hattempt : ∀ s, I s → J (s.setDispatcher q (some .attempt)))
    (hstale : ∀ s e, I s → (s.queues q).head? = some e → e.jobId = id →
      (∀ job, s.jobs.get? id = some job → job.status ≠ .queued) →
      J ((s.popEntry q).setDispatcher q (some .attempt)))
    (hstart : ∀ e job, e.jobId = id → job.status = .queued →
      (admission.content.get "allowed").truthy = true →
      Triple (fun s => I s ∧ (s.queues q).head? = some e ∧ s.jobs.get? id = some job)
        (startHead cfg now q id job) (fun _ => J) E)
    (hblock : ∀ e job, e.jobId = id → job.status = .queued →
      (admission.content.get "allowed").truthy = false →
      Triple (fun s => I s ∧ (s.queues q).head? = some e ∧ s.jobs.get? id = some job)
        (blockHead cfg now q id job admission) (fun _ => J) E) :
    Triple I (dispatchDecision cfg now q id admission) (fun _ => J) E := by
  unfold dispatchDecision
  refine Triple.bind Triple.read fun s => ?_
  split
  · exact Triple.update fun t ht => hattempt t ht.1
  next e hhead =>
  refine Triple.ite (fun _ => Triple.update fun t ht => hattempt t ht.1) fun heid => ?_
  have heid : e.jobId = id := not_not.mp heid
  split
  · next hnone =>
    refine Triple.update ?_
    rintro t ⟨ht, rfl⟩
    refine hstale t e ht hhead heid fun job hjob => ?_
    rw [hnone] at hjob
    cases hjob
  next job hjob =>
  refine Triple.ite (fun hqueued => ?_) fun hqueued => Triple.update ?_
  · have hmono : ∀ {m : Block Unit},
        Triple (fun s => I s ∧ (s.queues q).head? = some e ∧ s.jobs.get? id = some job) m
          (fun _ => J) E → Triple (fun t => I t ∧ t = s) m (fun _ => J) E := by
      intro m hm
      refine hm.mono ?_ (fun _ _ ht => ht) fun _ ht => ht
      rintro t ⟨ht, rfl⟩
      exact ⟨ht, hhead, hjob⟩
    refine Triple.ite (fun hallowed => hmono (hstart e job heid hqueued hallowed)) fun hallowed => ?_
    exact hmono (hblock e job heid hqueued (Bool.not_eq_true _ ▸ hallowed))
  · rintro t ⟨ht, rfl⟩
    refine hstale t e ht hhead heid fun job' hjob' => ?_
    obtain rfl := Option.some.inj (hjob.symm.trans hjob')
    exact hqueued

theorem triple_startHead {q : QueueKey} {id : JobId} {job : Job} {Q R : Service → Prop}
    (htake : ∀ s, P s → Q (s.takeHead now q id job))
    (hpersist : Triple Q (persistJobs cfg now) (fun _ => R) E)
    (hcreate : ∀ s, R s → I (s.createRunner q id job)) :
    Triple P (startHead cfg now q id job) (fun _ => I) E := by
  unfold startHead
  refine Triple.bind (Q := fun _ => Q) (Triple.update htake) fun _ => ?_
  exact Triple.bind hpersist fun _ => Triple.update hcreate

theorem triple_blockHead {q : QueueKey} {id : JobId} {job : Job} {admission : Payload}
    {Q R S : Service → Prop}
    (hamend : ∀ s job', P s → job.Amends admission.jsonSafe job' → Q (s.setJob id job'))
    (hpersist : Triple Q (persistJobs cfg now) (fun _ => R) E)
    (hretry : Triple R
      (scheduleBlockedRetry cfg q (admission.content.get "retry_after_seconds")) (fun _ => S) E)
    (hend : ∀ s, S s → I (s.setDispatcher q none)) :
    Triple P (blockHead cfg now q id job admission) (fun _ => I) E := by
  unfold blockHead
  refine Triple.bind (Q := fun _ => Q) (Triple.update fun s hs => ?_) fun _ => ?_
  · refine hamend s _ hs ⟨rfl, rfl, rfl, rfl, rfl, fun hsafe hjob => ?_⟩
    unfold Job.jsonSafe at hjob ⊢
    simp only [Bool.and_eq_true] at hjob ⊢
    exact ⟨⟨hjob.1.1, hsafe⟩, hjob.2⟩
  · exact Triple.bind hpersist fun _ => Triple.bind hretry fun _ => Triple.update hend

/-! ## Runner tasks -/

/-- The end of a running job: either its record is complete, or the retention time is no date. -/
theorem triple_endRunning {id : JobId} {ended : Job} {close : ℤ → Job} {Q : Service → Prop}
    (hok : ∀ s expiresAt, P s → addSeconds now cfg.jobTtl = .ok expiresAt →
      Q (s.setJob id (close expiresAt)))
    (herror : ∀ s e, P s → addSeconds now cfg.jobTtl = .error e → E (s.setJob id ended))
    (hpersist : Triple Q (persistJobs cfg now) (fun _ => I) E) :
    Triple P (endRunning cfg now id ended close) (fun _ => I) E := by
  have hset : Triple P (do
      update (Service.setJob id ended)
      let expiresAt ← ofResult (addSeconds now cfg.jobTtl)
      update (Service.setJob id (close expiresAt)) : Block Unit) (fun _ => Q) E := by
    intro s hs
    rw [exec_bind, exec_update]
    dsimp only
    rw [exec_bind, exec_ofResult]
    rcases hadd : addSeconds now cfg.jobTtl with e | expiresAt
    · refine ⟨fun _ _ h => (by cases h), fun e' s' h => ?_⟩
      obtain ⟨-, rfl⟩ := Prod.mk.inj h
      exact herror s e hs hadd
    · refine ⟨fun _ s' h => ?_, fun _ _ h => (by cases h)⟩
      obtain ⟨-, rfl⟩ := Prod.mk.inj h
      have hok := hok s expiresAt hs hadd
      rwa [show (s.setJob id ended).setJob id (close expiresAt) = s.setJob id (close expiresAt) by
        simp [Service.setJob]]
  have hassoc : endRunning cfg now id ended close = (do
      (do
        update (Service.setJob id ended)
        let expiresAt ← ofResult (addSeconds now cfg.jobTtl)
        update (Service.setJob id (close expiresAt)) : Block Unit)
      persistJobs cfg now) := by
    unfold endRunning
    simp only [bind_assoc]
  rw [hassoc]
  exact Triple.bind hset fun _ => hpersist

theorem triple_settleRunner {task : ℕ} {r : Runner} {Q : Service → Prop}
    (hother : ∀ s, I s → J s)
    (habsent : ∀ s, r.state.leaving = true → I s → s.jobs.get? r.jobId = none →
      J (s.setRunner task .finishing))
    (hend : ∀ job ended close, r.state.leaving = true → job.EndedAt now r.state.safe ended →
      (∀ t, job.EndedAt now r.state.safe (close t)) → ended.expiresAt = job.expiresAt →
      (∀ t, (close t).expiresAt = t) → ended.status.ofRunner = true →
      (∀ t, (close t).status.ofRunner = true) →
      Triple (fun s => I s ∧ s.jobs.get? r.jobId = some job)
        (endRunning cfg now r.jobId ended close) (fun _ => Q) E)
    (hfinish : ∀ s, r.state.leaving = true → Q s → J (s.setRunner task .finishing)) :
    Triple I (settleRunner cfg now task r) (fun _ => J) E := by
  have hsettle : ∀ body : Job → Block Unit, r.state.leaving = true →
      (∀ job, Triple (fun s => I s ∧ s.jobs.get? r.jobId = some job) (body job) (fun _ => Q) E) →
      Triple I (settle r.jobId task body) (fun _ => J) E := by
    intro body hleaving hbody
    unfold settle
    refine Triple.bind Triple.read fun s => ?_
    split
    · next hnone =>
      refine Triple.update ?_
      rintro t ⟨ht, rfl⟩
      exact habsent t hleaving ht hnone
    next job hjob =>
    refine Triple.bind (Q := fun _ => Q) ((hbody job).mono ?_ (fun _ _ ht => ht) fun _ ht => ht)
      fun _ => Triple.update fun t ht => hfinish t hleaving ht
    rintro t ⟨ht, rfl⟩
    exact ⟨ht, hjob⟩
  unfold settleRunner
  split
  · next result hstate =>
    have hleaving : r.state.leaving = true := by rw [hstate]; rfl
    refine hsettle _ hleaving fun job => ?_
    have hsafe : r.state.safe = true → job.jsonSafe = true →
        Job.jsonSafe { endedJob now .completed job with result := some (result.getD {}) } = true := by
      intro hresult hjob
      rw [hstate] at hresult
      unfold Job.jsonSafe at hjob ⊢
      simp only [Bool.and_eq_true] at hjob ⊢
      refine ⟨⟨⟨hjob.1.1.1, ?_⟩, hjob.1.2⟩, hjob.2⟩
      cases result with
      | none => rfl
      | some result => exact hresult
    exact hend job _ _ hleaving ⟨rfl, rfl, rfl, rfl, hsafe⟩ (fun _ => ⟨rfl, rfl, rfl, rfl, hsafe⟩)
      rfl (fun _ => rfl) rfl fun _ => rfl
  · next code hstate =>
    have hleaving : r.state.leaving = true := by rw [hstate]; rfl
    refine hsettle _ hleaving fun job => ?_
    exact hend job _ _ hleaving ⟨rfl, rfl, rfl, rfl, fun _ hjob => hjob⟩
      (fun _ => ⟨rfl, rfl, rfl, rfl, fun _ hjob => hjob⟩) rfl (fun _ => rfl) rfl fun _ => rfl
  · next hstate =>
    have hleaving : r.state.leaving = true := by rw [hstate]; rfl
    refine hsettle _ hleaving fun job => ?_
    have hsafe : ∀ job' : Job, job'.request = job.request → job'.blockedDetail = job.blockedDetail →
        job'.result = none → (job'.artifactAcknowledgement = job.artifactAcknowledgement ∨
          job'.artifactAcknowledgement = none) → job.jsonSafe = true → job'.jsonSafe = true := by
      rintro job' hrequest hblocked hresult hack hjob
      unfold Job.jsonSafe at hjob ⊢
      rw [hrequest, hblocked, hresult]
      simp only [Bool.and_eq_true] at hjob ⊢
      refine ⟨⟨⟨hjob.1.1.1, rfl⟩, hjob.1.2⟩, ?_⟩
      rcases hack with hack | hack <;> rw [hack]
      · exact hjob.2
      · rfl
    exact hend job _ _ hleaving ⟨rfl, rfl, rfl, rfl, fun _ => hsafe _ rfl rfl rfl (Or.inl rfl)⟩
      (fun _ => ⟨rfl, rfl, rfl, rfl, fun _ => hsafe _ rfl rfl rfl (Or.inr rfl)⟩) rfl (fun _ => rfl)
      rfl fun _ => rfl
  · exact Triple.pure hother

end Queue
end HexeAiNode
