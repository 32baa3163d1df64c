import HexeAiNode.Queue.Agreement
import HexeAiNode.Queue.Edits

/-!
# A queued job lies in one heap, once

The agreement of `Queue.Agreement` along the runs of the node, restarts included (`nodeSound_run`): in
full as long as every overdue job that goes to the cloud queue gets a key there (`StepMovesFit`), and but
for `entered` in any run.  With it goes what the node has to know of ids: a drawn id is new, so no job is
overwritten and no runner is called twice.
-/

namespace HexeAiNode
namespace Queue

open Py Execution StoreAction

/-! ## Ids -/

/-- The task has entered its coroutine. -/
def RunnerState.entered : RunnerState → Bool
  | .created | .doomed => false
  | _ => true

/-- The ids in the service were drawn, the records of the file have distinct ids, and the jobs whose
runner was called have a task that was entered. -/
structure Known (drawn started : List JobId) (s : Service) : Prop where
  jobs : ∀ id job, s.jobs.get? id = some job → id ∈ drawn
  runners : ∀ r ∈ s.runners, r.jobId ∈ drawn
  fileDistinct : ∀ records ∈ s.stateFile, (records.map fun job => job.jobId).Nodup
  file : ∀ records ∈ s.stateFile, ∀ record ∈ records, record.jobId ∈ drawn
  called : ∀ id ∈ started, ∃ r ∈ s.runners, r.jobId = id ∧ r.state.entered = true

/-- The two invariants of a service together. -/
structure Sound (fit : Prop) (drawn started : List JobId) (s : Service) : Prop where
  agrees : Agrees fit s
  known : Known drawn started s

variable {cfg : Config} {now : ℤ} {s s' : Service} {id : JobId} {job job' : Job}
  {drawn started : List JobId} {fit : Prop}

theorem Known.congr (h : Known drawn started s)
    (hjobs : ∀ id job, s'.jobs.get? id = some job → id ∈ drawn) (hrunners : s'.runners = s.runners)
    (hfile : s'.stateFile = s.stateFile) : Known drawn started s' where
  jobs := hjobs
  runners := by rw [hrunners]; exact h.runners
  fileDistinct := by rw [hfile]; exact h.fileDistinct
  file := by rw [hfile]; exact h.file
  called := by rw [hrunners]; exact h.called

theorem Known.mono {drawn' : List JobId} (h : Known drawn started s) (hsub : drawn ⊆ drawn') :
    Known drawn' started s where
  jobs := fun id job hget => hsub (h.jobs id job hget)
  runners := fun r hr => hsub (h.runners r hr)
  fileDistinct := h.fileDistinct
  file := fun records hrecords record hrecord => hsub (h.file records hrecords record hrecord)
  called := h.called

/-- A record of a known job may change. -/
theorem Known.setJob (h : Known drawn started s) (hid : id ∈ drawn) :
    Known drawn started (s.setJob id job) := by
  refine h.congr ?_ rfl rfl
  intro id' j hget
  rw [Service.get?_setJob] at hget
  split at hget
  · next heq => rwa [heq]
  · exact h.jobs id' j hget

/-- The ids of the persisted records are the keys of the table. -/
theorem map_jobId_values (h : Agrees fit s) :
    (s.jobs.values.map fun job => job.jobId) = s.jobs.keys := by
  show (s.jobs.entries.map Prod.snd).map _ = s.jobs.entries.map Prod.fst
  rw [List.map_map]
  refine List.map_congr_left ?_
  rintro ⟨k, job⟩ hmem
  exact h.keyed k job (OrderedDict.get?_of_mem_entries hmem)

theorem map_jobId_snapshot (h : Agrees fit s) :
    (s.snapshot.map fun job => job.jobId).Perm s.jobs.keys := by
  have hperm := (List.perm_insertionSort (fun a b : Job => a.sequence ≤ b.sequence)
    (s.jobs.values.map Job.persisted)).map fun job => job.jobId
  rw [List.map_map] at hperm
  rw [← map_jobId_values h]
  exact hperm

theorem mem_keys (h : Known drawn started s) {k : JobId} (hk : k ∈ s.jobs.keys) : k ∈ drawn := by
  obtain ⟨⟨k', job⟩, hmem, rfl⟩ := List.mem_map.mp hk
  exact h.jobs _ job (OrderedDict.get?_of_mem_entries hmem)

/-- Saving keeps both invariants. -/
theorem Sound.saved (h : Sound fit drawn started s) : Sound fit drawn started s.saved where
  agrees := h.agrees.congr rfl rfl rfl
  known :=
    { jobs := h.known.jobs
      runners := h.known.runners
      fileDistinct := by
        rintro records hrecords
        obtain rfl := Option.some.inj hrecords
        rw [(map_jobId_snapshot h.agrees).nodup_iff]
        exact s.jobs.distinct
      file := by
        rintro records hrecords record hrecord
        obtain rfl := Option.some.inj hrecords
        refine mem_keys h.known ((map_jobId_snapshot h.agrees).mem_iff.mp ?_)
        exact List.mem_map.mpr ⟨record, hrecord, rfl⟩
      called := h.known.called }

theorem triple_persist_sound :
    Triple (Sound fit drawn started) (persistJobs cfg now) (fun _ => Sound fit drawn started)
      (Sound fit drawn started) :=
  triple_persistJobs' (fun _ hs => hs) (fun _ hs => hs.saved) fun _ hs => hs

/-! ## Edits -/

/-- The invariants look at the tasks only for their jobs and for whether they were entered. -/
theorem Sound.congr (h : Sound fit drawn started s) (hjobs : s'.jobs = s.jobs)
    (hqueues : s'.queues = s.queues) (hfile : s'.stateFile = s.stateFile)
    (hids : s'.runners.map Runner.jobId = s.runners.map Runner.jobId)
    (hentered : ∀ r ∈ s.runners, r.state.entered = true →
      ∃ r' ∈ s'.runners, r'.jobId = r.jobId ∧ r'.state.entered = true) :
    Sound fit drawn started s' where
  agrees := h.agrees.congr hjobs hqueues hids
  known :=
    { jobs := by rw [hjobs]; exact h.known.jobs
      runners := by
        intro r hr
        have hmem : r.jobId ∈ s.runners.map Runner.jobId := by
          rw [← hids]
          exact List.mem_map_of_mem hr
        obtain ⟨r', hr', hid⟩ := List.mem_map.mp hmem
        rw [← hid]
        exact h.known.runners r' hr'
      fileDistinct := by rw [hfile]; exact h.known.fileDistinct
      file := by rw [hfile]; exact h.known.file
      called := by
        intro id hid
        obtain ⟨r, hr, rfl, hentry⟩ := h.known.called id hid
        exact hentered r hr hentry }

/-- The same with the tasks unchanged. -/
theorem Sound.congr_tasks (h : Sound fit drawn started s) (hjobs : s'.jobs = s.jobs)
    (hqueues : s'.queues = s.queues) (hfile : s'.stateFile = s.stateFile)
    (hrunners : s'.runners = s.runners) : Sound fit drawn started s' :=
  h.congr hjobs hqueues hfile (by rw [hrunners]) fun r hr hentry => ⟨r, by rwa [hrunners], rfl, hentry⟩

theorem Sound.setDispatcher (h : Sound fit drawn started s) (q : QueueKey) (d : Option Dispatcher) :
    Sound fit drawn started (s.setDispatcher q d) :=
  h.congr_tasks rfl rfl rfl rfl

theorem Sound.ensureDispatcher (h : Sound fit drawn started s) (q : QueueKey) :
    Sound fit drawn started (s.ensureDispatcher q) :=
  h.congr_tasks (by simp) (by simp) (by simp) (by simp)

/-- A change of one task that does not take it back before its first step. -/
theorem Sound.modify (h : Sound fit drawn started s) {f : Runner → Runner}
    (hid : ∀ r, (f r).jobId = r.jobId)
    (hentered : ∀ r, r.state.entered = true → (f r).state.entered = true) (task : ℕ) :
    Sound fit drawn started { s with runners := s.runners.modify task f } := by
  refine h.congr rfl rfl rfl (map_jobId_modify hid _ task) fun r hr hentry => ?_
  rcases mem_modify hr task with hmem | hmem
  · exact ⟨r, hmem, rfl, hentry⟩
  · exact ⟨f r, hmem, hid r, hentered r hentry⟩

theorem Sound.setRunner (h : Sound fit drawn started s) {state : RunnerState}
    (hstate : state.entered = true) (task : ℕ) : Sound fit drawn started (s.setRunner task state) :=
  @Sound.modify s drawn started fit h (fun r => { r with state := state }) (fun _ => rfl)
    (fun _ _ => hstate) task

/-- A cancelled task has been entered if it was before. -/
theorem RunnerState.entered_cancel (state : RunnerState) (h : state.entered = true) :
    state.cancel.entered = true := by
  cases state <;> exact h

theorem Sound.cancelRunner (h : Sound fit drawn started s) (task : ℕ) :
    Sound fit drawn started (s.cancelRunner task) :=
  @Sound.modify s drawn started fit h (fun r => { r with state := r.state.cancel })
    (fun _ => rfl) (fun r => r.state.entered_cancel) task

/-- The record of a job changes, but not whether and where it is queued. -/
theorem Sound.setJob (h : Sound fit drawn started s) (hjob : s.jobs.get? id = some job)
    (hsubmission : job'.toSubmission = job.toSubmission)
    (hstatus : job'.status = .queued ↔ job.status = .queued)
    (hqueue : job.status = .queued → job'.queue = job.queue) :
    Sound fit drawn started (s.setJob id job') :=
  ⟨h.agrees.setJob hjob hsubmission hstatus hqueue, h.known.setJob (h.known.jobs id job hjob)⟩

theorem Sound.amend (h : Sound fit drawn started s) (hjob : s.jobs.get? id = some job) {safe : Bool}
    (hamends : job.Amends safe job') : Sound fit drawn started (s.setJob id job') :=
  h.setJob hjob hamends.submission (by rw [hamends.status]) fun _ => hamends.queue

theorem Sound.dropJobs (h : Sound fit drawn started s) {ids : List JobId}
    (hids : ∀ id ∈ ids, ∃ job, s.jobs.get? id = some job ∧ job.isDue now = true) :
    Sound fit drawn started (s.dropJobs ids) := by
  refine ⟨h.agrees.dropJobs hids, h.known.congr ?_ rfl rfl⟩
  intro id job hget
  rw [Service.get?_dropJobs] at hget
  split at hget
  · cases hget
  · exact h.known.jobs id job hget

/-- A queued job that ends. -/
theorem Sound.endQueued (h : Sound fit drawn started s) (hjob : s.jobs.get? id = some job)
    {safe : Bool} (hended : job.EndedAt now safe job') : Sound fit drawn started (s.takeOut id job job') := by
  have hid : job'.jobId = id :=
    (congrArg Submission.jobId hended.submission).trans (h.agrees.keyed id job hjob)
  have hknown : Known drawn started (s.setJob id job') := h.known.setJob (h.known.jobs id job hjob)
  exact ⟨h.agrees.takeOut hjob hid (fun _ => hended.ne_queued)
    fun hqueued => absurd hqueued hended.ne_queued, hknown.congr hknown.jobs rfl rfl⟩

/-- A running job that ends. -/
theorem Sound.endRunning (h : Sound fit drawn started s) (hjob : s.jobs.get? id = some job)
    (hrunning : job.status ≠ .queued) {safe : Bool} (hended : job.EndedAt now safe job') :
    Sound fit drawn started (s.setJob id job') :=
  h.setJob hjob hended.submission (by simp [hrunning, hended.ne_queued])
    fun hqueued => absurd hqueued hrunning

/-- A job that left the local heap and did not reach the cloud heap. -/
theorem Sound.orphan (h : Sound fit drawn started s) (hfit : ¬fit)
    (hjob : s.jobs.get? id = some job) (hqueued : job.status = .queued) :
    Sound fit drawn started (s.takeOut id job (movedJob job)) := by
  have hknown : Known drawn started (s.setJob id (movedJob job)) :=
    h.known.setJob (h.known.jobs id job hjob)
  exact ⟨h.agrees.takeOut hjob (h.agrees.keyed id job hjob) (fun hf => absurd hf hfit)
    fun _ => h.agrees.no_runner hjob hqueued, hknown.congr hknown.jobs rfl rfl⟩

/-- The move to the cloud queue, seen as a whole. -/
theorem Sound.reroute (h : Sound fit drawn started s) (hjob : s.jobs.get? id = some job)
    (hqueued : job.status = .queued) (key : WithTop ℚ) :
    Sound fit drawn started ((s.takeOut id job (movedJob job)).enterCloud (movedJob job) key) := by
  have hid := h.agrees.keyed id job hjob
  -- between the two heaps the job counts as one that is not queued
  have hout : Sound fit drawn started (s.takeOut id job (endedJob job.queuedAt .failed job)) :=
    h.endQueued hjob (endedAt_endedJob rfl job)
  have habsent : ∀ j, (s.takeOut id job (endedJob job.queuedAt .failed job)).jobs.get? id = some j →
      j.status ≠ .queued := by
    intro j hget
    rw [Service.get?_takeOut, if_pos rfl] at hget
    obtain rfl := Option.some.inj hget
    simp [endedJob]
  have henter : Agrees fit (((s.takeOut id job (endedJob job.queuedAt .failed job)).setJob id
      (movedJob job)).pushEntry .cloud ((movedJob job).entry key)) :=
    hout.agrees.enter key habsent (h.agrees.no_runner hjob hqueued) hid rfl rfl
  rw [Service.setJob_takeOut] at henter
  refine ⟨henter.congr (Service.ensureDispatcher_jobs _ _) (Service.ensureDispatcher_queues _ _) ?_, ?_⟩
  · exact congrArg _ (Service.ensureDispatcher_runners _ _)
  · refine h.known.congr ?_ (by simp) (by simp)
    rw [Service.enterCloud_jobs]
    have hknown : Known drawn started (s.setJob id (movedJob job)) :=
      h.known.setJob (h.known.jobs id job hjob)
    exact hknown.jobs

/-- A new job. -/
theorem Sound.insert (h : Sound fit drawn started s) (hdrawn : job.jobId ∈ drawn)
    (habsent : s.jobs.get? job.jobId = none) (hrunner : ∀ r ∈ s.runners, r.jobId ≠ job.jobId)
    (hqueued : job.status = .queued) (key : WithTop ℚ) :
    Sound fit drawn started ((s.setJob job.jobId job).pushEntry job.queue (job.entry key)) := by
  have habsent : ∀ j, s.jobs.get? job.jobId = some j → j.status ≠ .queued := by
    intro j hget
    rw [habsent] at hget
    cases hget
  have hknown : Known drawn started (s.setJob job.jobId job) := h.known.setJob hdrawn
  exact ⟨h.agrees.enter key habsent hrunner rfl hqueued rfl, hknown.congr hknown.jobs rfl rfl⟩

/-- The head of a heap is taken and runs. -/
theorem Sound.takeHead (h : Sound fit drawn started s) {q : QueueKey} {e : Entry}
    (hhead : (s.queues q).head? = some e) (heid : e.jobId = id) (hjob : s.jobs.get? id = some job) :
    Sound fit drawn started (s.takeHead now q id job) := by
  have hpop : Agrees fit ((s.popEntry q).setJob id (startedJob now job)) :=
    h.agrees.popEntry hhead heid (h.agrees.keyed id job hjob) (by simp [startedJob])
  have hknown : Known drawn started (s.setJob id (startedJob now job)) :=
    h.known.setJob (h.known.jobs id job hjob)
  exact ⟨hpop.congr rfl rfl rfl, hknown.congr hknown.jobs rfl rfl⟩

/-- The first runner task of a job that is not queued. -/
theorem Sound.createRunner (h : Sound fit drawn started s) {q : QueueKey} (hid : id ∈ drawn)
    (hrunner : ∀ r ∈ s.runners, r.jobId ≠ id)
    (hjob : ∀ j, s.jobs.get? id = some j → j.status ≠ .queued) :
    Sound fit drawn started (s.createRunner q id job) where
  agrees :=
    { keyed := h.agrees.keyed
      ordered := h.agrees.ordered
      distinct := h.agrees.distinct
      listed := h.agrees.listed
      entered := h.agrees.entered
      single := by
        show ((s.runners ++ [(⟨q, id, job.runner, .created⟩ : Runner)]).map Runner.jobId).Nodup
        rw [List.map_append, List.nodup_append]
        refine ⟨h.agrees.single, by simp, ?_⟩
        rintro a ha b hb rfl
        obtain ⟨r, hr, rfl⟩ := List.mem_map.mp ha
        rw [List.map_singleton, List.mem_singleton] at hb
        exact hrunner r hr hb
      dispatched := by
        intro r hr
        rcases List.mem_append.mp hr with hr | hr
        · exact h.agrees.dispatched r hr
        · obtain rfl := List.mem_singleton.mp hr
          exact hjob }
  known :=
    { jobs := h.known.jobs
      runners := by
        intro r hr
        rcases List.mem_append.mp hr with hr | hr
        · exact h.known.runners r hr
        · obtain rfl := List.mem_singleton.mp hr
          exact hid
      fileDistinct := h.known.fileDistinct
      file := h.known.file
      called := by
        intro id' hid'
        obtain ⟨r, hr, hrest⟩ := h.known.called id' hid'
        exact ⟨r, List.mem_append_left _ hr, hrest⟩ }

/-- No head of a heap is stale. -/
theorem Agrees.head (h : Agrees fit s) {q : QueueKey} {e : Entry}
    (hhead : (s.queues q).head? = some e) :
    ∃ job, s.jobs.get? e.jobId = some job ∧ job.status = .queued ∧ job.queue = q := by
  obtain ⟨job, hjob, hqueued, hq, -⟩ := h.listed q e (List.mem_of_head? hhead)
  exact ⟨job, hjob, hqueued, hq⟩

theorem Sound.dispatchAttempt (h : Sound fit drawn started s) (q : QueueKey) :
    Sound fit drawn started (dispatchAttempt cfg q s) := by
  unfold Queue.dispatchAttempt
  split
  · exact h.setDispatcher q none
  split
  · exact h.setDispatcher q none
  next e hhead =>
  obtain ⟨job, hjob, hqueued, -⟩ := h.agrees.head hhead
  rw [hjob]
  dsimp only
  rw [if_pos hqueued]
  exact h.setDispatcher q _

theorem Sound.releaseSlot (h : Sound fit drawn started s) (task : ℕ) (r : Runner) :
    Sound fit drawn started (releaseSlot task r s) := by
  have hensure : Sound fit drawn started s.ensureDispatchers := h.congr_tasks rfl rfl rfl rfl
  have hset : Sound fit drawn started (s.ensureDispatchers.setRunner task .finished) :=
    hensure.setRunner rfl task
  exact hset.congr_tasks rfl rfl rfl rfl

theorem Outcome.entered_next (outcome : Outcome) : outcome.next.entered = true := by
  cases outcome <;> rfl

theorem Sound.endRunner (h : Sound fit drawn started s) (task : ℕ) (outcome : Outcome) :
    Sound fit drawn started (s.endRunner task outcome) := by
  unfold Service.endRunner
  split
  · exact h
  split
  · exact h.setRunner outcome.entered_next task
  · exact h

/-! ## Edits as a whole -/

theorem RunnerState.entered_afterError (state : RunnerState) (e : Exc) :
    (state.afterError e).entered = true := by
  cases state <;> rfl

/-- The first task of a job that is taken from its heap. -/
theorem Sound.start (h : Sound fit drawn started s) {q : QueueKey} {e : Entry}
    (hhead : (s.queues q).head? = some e) (heid : e.jobId = id) (hjob : s.jobs.get? id = some job)
    (hqueued : job.status = .queued)
    (hpersist : s' = s.takeHead now q id job ∨ s' = (s.takeHead now q id job).saved) :
    Sound fit drawn started (s'.createRunner q id job) := by
  have htaken : Sound fit drawn started (s.takeHead now q id job) := h.takeHead hhead heid hjob
  have hrunner := h.agrees.no_runner hjob hqueued
  have hrunning : ∀ j, (s.takeHead now q id job).jobs.get? id = some j → j.status ≠ .queued := by
    intro j hget
    have hget : ((s.popEntry q).setJob id (startedJob now job)).jobs.get? id = some j := hget
    rw [Service.get?_setJob, if_pos rfl] at hget
    obtain rfl := Option.some.inj hget
    simp [startedJob]
  have hdrawn := h.known.jobs id job hjob
  rcases hpersist with rfl | rfl
  · exact htaken.createRunner hdrawn hrunner hrunning
  · exact htaken.saved.createRunner hdrawn hrunner hrunning

/-- Every change of a step, other than the first step of a task, keeps both invariants; an overdue job
without a key for the cloud heap is the exception that `fit` excludes. -/
theorem Sound.edit {a b : Service} {step : Step} (hs : Sound fit drawn started s)
    (hmoves : fit → ∀ now ∈ step.pass, MovesFit cfg now s) (hnew : ∀ id ∈ step.drawn, id ∉ drawn)
    (henter : ∀ task, step ≠ .enter task) (h : Sound fit (step.drawn.toList ++ drawn) started a)
    {faulty : Prop} (hedit : Edit cfg faulty s step a b) : Sound fit (step.drawn.toList ++ drawn) started b := by
  cases hedit with
  | save => exact h.saved
  | drop hnow hdue => exact h.dropJobs hdue
  | reroute hnow hjob hqueued => exact h.reroute hjob hqueued _
  | orphan _ hnow hjob hjob₀ hqueued hlocal hspill hd hover hkey =>
    refine h.orphan (fun hfit => ?_) hjob hqueued
    exact hmoves hfit _ hnow _ _ _ hjob₀ hqueued hlocal hspill hd hover _ hkey
  | endQueued error hnow hjob hqueued hterminal =>
    exact h.endQueued hjob (endedAt_closedJob hterminal _ error _)
  | undatedQueued _ hnow hjob hqueued hterminal =>
    exact h.endQueued hjob (endedAt_endedJob hterminal _)
  | number => exact h.congr_tasks rfl rfl rfl rfl
  | @insert now id request _ job key hprepared hpassed =>
    obtain ⟨n, expiresAt, -, rfl⟩ := hprepared.job
    have hfresh : id ∉ drawn := hnew id rfl
    refine h.insert List.mem_cons_self ?_ ?_ rfl key
    · refine hpassed.known id ?_
      rcases hget : s.jobs.get? id with _ | job
      · rfl
      · exact absurd (hs.known.jobs id job hget) hfresh
    · rw [hpassed.runners]
      intro r hr heq
      have heq : r.jobId = id := heq
      rw [← heq] at hfresh
      exact hfresh (hs.known.runners r hr)
  | ensure => exact h.ensureDispatcher _
  | amend hjob hamends => exact h.amend hjob hamends
  | cancelTask => exact h.cancelRunner _
  | ensureBusy => exact h.congr_tasks rfl rfl rfl rfl
  | attempt => exact h.dispatchAttempt _
  | again => exact h.setDispatcher _ _
  | stale hhead hstale =>
    obtain ⟨job, hjob, hqueued, -⟩ := h.agrees.head hhead
    exact absurd hqueued (hstale job hjob)
  | start _ hhead heid hjob hqueued hpersist =>
    exact h.start hhead heid hjob hqueued (hpersist.imp_left And.left)
  | strand _ _ hhead heid hjob => exact h.takeHead hhead heid hjob
  | defer => exact h.congr_tasks rfl rfl rfl rfl
  | rest => exact h.setDispatcher _ _
  | crash => exact h.setDispatcher _ _
  | register => exact h.congr_tasks rfl rfl rfl rfl
  | timer => exact h.congr_tasks rfl rfl rfl rfl
  | wake =>
    split
    · exact h
    · exact h.ensureDispatcher _
  | enter task => exact absurd rfl (henter task)
  | outcome => exact h.endRunner _ _
  | finish hr hjob hended =>
    exact h.endRunning hjob (hs.agrees.dispatched _ (List.mem_of_getElem? hr) _ hjob) hended
  | undated _ hr hjob hended =>
    exact h.endRunning hjob (hs.agrees.dispatched _ (List.mem_of_getElem? hr) _ hjob) hended
  | settled => exact h.setRunner rfl _
  | @handled _ _ r _ e => exact h.setRunner (r.state.entered_afterError e) _
  | release => exact h.releaseSlot _ _

/-! ## Calls -/

/-- A runner is called in the first step of its task, and not before. -/
theorem Sound.enterRunner (h : Sound fit drawn started s) (hnodup : started.Nodup) (task : ℕ) :
    Sound fit drawn ((s.calledBy task).toList ++ started) (s.enterRunner task) ∧
      ((s.calledBy task).toList ++ started).Nodup := by
  unfold Service.enterRunner Service.calledBy
  rcases hr : s.runners[task]? with _ | ⟨q, id, callable, state⟩
  · exact ⟨h, hnodup⟩
  have hmem : (⟨q, id, callable, state⟩ : Runner) ∈ s.runners := List.mem_of_getElem? hr
  cases state with
  | created =>
    cases callable with
    | false => exact ⟨h.setRunner rfl task, hnodup⟩
    | true =>
      have hnew : id ∉ started := by
        intro hid
        obtain ⟨r, hr', hrid, hentered⟩ := h.known.called id hid
        have heq := List.inj_on_of_nodup_map h.agrees.single hr' hmem hrid
        rw [heq] at hentered
        cases hentered
      have hset : Sound fit drawn started (s.setRunner task .awaiting) := h.setRunner rfl task
      refine ⟨⟨hset.agrees, { hset.known with called := ?_ }⟩, List.nodup_cons.mpr ⟨hnew, hnodup⟩⟩
      intro id' hid'
      rcases List.mem_cons.mp hid' with rfl | hid'
      · refine ⟨⟨q, id', true, .awaiting⟩, @List.mem_of_getElem? _ _ task _ ?_, rfl, rfl⟩
        show (s.runners.modify task _)[task]? = _
        rw [List.getElem?_modify_eq, hr]
        rfl
      · exact hset.known.called id' hid'
  | doomed => exact ⟨h.setRunner rfl task, hnodup⟩
  | _ => exact ⟨h, hnodup⟩

/-! ## Recovery -/

/-- None of the records is loaded yet. -/
def Absent (records : List Job) (s : Service) : Prop :=
  ∀ record ∈ records, s.jobs.get? record.jobId = none

theorem Absent.setJob {records : List Job} (h : Absent records s)
    (hid : ∀ record ∈ records, record.jobId ≠ id) : Absent records (s.setJob id job) := by
  intro record hmem
  rw [Service.get?_setJob, if_neg (hid record hmem)]
  exact h record hmem

/-- A record under a new id, not queued. -/
theorem Sound.setJob_new (h : Sound fit drawn started s) (hid : job.jobId = id)
    (habsent : s.jobs.get? id = none) (hdrawn : id ∈ drawn) (hstatus : job.status ≠ .queued) :
    Sound fit drawn started (s.setJob id job) := by
  have hget : ∀ {id' j}, (s.setJob id job).jobs.get? id' = some j →
      (id' = id ∧ j = job) ∨ s.jobs.get? id' = some j := by
    intro id' j hget
    rw [Service.get?_setJob] at hget
    split at hget
    · next heq => exact Or.inl ⟨heq, (Option.some.inj hget).symm⟩
    · exact Or.inr hget
  refine ⟨⟨?_, h.agrees.ordered, h.agrees.distinct, ?_, ?_, h.agrees.single, ?_⟩,
    h.known.setJob hdrawn⟩
  · intro id' j hj
    rcases hget hj with ⟨rfl, rfl⟩ | hj
    · exact hid
    · exact h.agrees.keyed id' j hj
  · intro q e he
    obtain ⟨j, hj, hrest⟩ := h.agrees.listed q e he
    refine ⟨j, ?_, hrest⟩
    rw [Service.get?_setJob, if_neg]
    · exact hj
    · intro heq
      rw [heq, habsent] at hj
      cases hj
  · intro hfit id' j hj hqueued
    rcases hget hj with ⟨rfl, rfl⟩ | hj
    · exact absurd hqueued hstatus
    · exact h.agrees.entered hfit id' j hj hqueued
  · intro r hr j hj
    rcases hget hj with ⟨-, rfl⟩ | hj
    · exact hstatus
    · exact h.agrees.dispatched r hr j hj

/-- A service on its way up: no task runs, and the records still to come are not in the table. -/
def Loading (fit : Prop) (drawn : List JobId) (records : List Job) (s : Service) : Prop :=
  Sound fit drawn [] s ∧ s.runners = [] ∧ Absent records s

theorem triple_loadJob {recovers : JobId → Bool} {record : Job} {records : List Job}
    (hdrawn : record.jobId ∈ drawn) (hnew : ∀ r ∈ records, r.jobId ≠ record.jobId) :
    Triple (Loading fit drawn (record :: records)) (loadJob cfg now recovers record)
      (fun _ => Loading fit drawn records) fun _ => True := by
  have hended : ∀ (s : Service) (job : Job), Loading fit drawn (record :: records) s →
      job.jobId = record.jobId → job.status ≠ .queued →
      Loading fit drawn records (s.setJob record.jobId job) := by
    rintro s job ⟨hs, hrunners, habsent⟩ hid hstatus
    refine ⟨hs.setJob_new hid (habsent record List.mem_cons_self) hdrawn hstatus, hrunners, ?_⟩
    exact Absent.setJob (fun r hr => habsent r (List.mem_cons_of_mem _ hr)) hnew
  unfold loadJob
  refine Triple.bind Triple.read fun s => ?_
  dsimp only
  split
  · next hqueued =>
    refine Triple.ite (fun _ => ?_) fun _ => Triple.update fun t ht => ?_
    · unfold resumeJob
      refine Triple.bind (Q := fun _ => Loading fit drawn (record :: records))
        (Triple.ofResult (fun _ _ ht _ => ht.1) fun _ _ _ _ => trivial) fun key => ?_
      refine Triple.update ?_
      rintro t ⟨ht, hrunners, habsent⟩
      have hgone : t.jobs.get? record.persisted.jobId = none := habsent record List.mem_cons_self
      refine ⟨⟨ht.agrees.enter key ?_ ?_ rfl hqueued rfl, ?_⟩, hrunners, ?_⟩
      · intro j hj
        rw [hgone] at hj
        cases hj
      · intro r hr
        rw [hrunners] at hr
        cases hr
      · have hknown : Known drawn [] (t.setJob record.jobId { record.persisted with
            runner := true, recovery := some ⟨"queued_for_resume", now, .queued⟩ }) :=
          ht.known.setJob hdrawn
        exact hknown.congr hknown.jobs rfl rfl
      · exact Absent.setJob (fun r hr => habsent r (List.mem_cons_of_mem _ hr)) hnew
    · exact hended t _ ht.1 rfl (by simp [failedAtLoad])
  · exact Triple.update fun t ht => hended t _ ht.1 rfl (by simp [failedAtLoad])
  · next hqueued _ => exact Triple.update fun t ht => hended t _ ht.1 rfl hqueued

theorem triple_loadJobs {recovers : JobId → Bool} {records : List Job}
    (hdistinct : (records.map fun job => job.jobId).Nodup)
    (hdrawn : ∀ record ∈ records, record.jobId ∈ drawn) :
    Triple (Loading fit drawn records) (loadJobs cfg now recovers records)
      (fun _ => Loading fit drawn []) fun _ => True := by
  induction records with
  | nil => exact Triple.pure fun s hs => hs
  | cons record records ih =>
    rw [List.map_cons, List.nodup_cons] at hdistinct
    refine Triple.bind (triple_loadJob (hdrawn record List.mem_cons_self) ?_) fun _ => ?_
    · intro r hr heq
      exact hdistinct.1 (List.mem_map.mpr ⟨r, hr, heq⟩)
    · exact ih hdistinct.2 fun r hr => hdrawn r (List.mem_cons_of_mem _ hr)

/-- A process without jobs. -/
theorem agrees_initial (stateFile : Option (List Job)) : Agrees fit (.initial stateFile) where
  keyed := fun _ _ hget => nomatch hget
  ordered := fun _ _ _ _ _ _ ha => nomatch ha
  distinct := fun _ => List.nodup_nil
  listed := fun _ _ he => nomatch he
  entered := fun _ _ _ hget => nomatch hget
  single := List.nodup_nil
  dispatched := fun _ hr => nomatch hr

/-- A process without jobs, with a known file. -/
theorem sound_initial {stateFile : Option (List Job)}
    (hdistinct : ∀ records ∈ stateFile, (records.map fun job => job.jobId).Nodup)
    (hfile : ∀ records ∈ stateFile, ∀ record ∈ records, record.jobId ∈ drawn) :
    Sound fit drawn [] (.initial stateFile) where
  agrees := agrees_initial stateFile
  known :=
    { jobs := fun _ _ hget => nomatch hget
      runners := fun _ hr => nomatch hr
      fileDistinct := hdistinct
      file := hfile
      called := fun _ hid => nomatch hid }

/-- A start makes the agreement whole. -/
theorem Sound.restart (h : Sound fit drawn started s) {recovers : JobId → Bool} (fit' : Prop)
    (hrestart : s.restart cfg now recovers = some s') : Sound fit' drawn [] s' := by
  have hinitial : Sound fit' drawn [] (.initial s.stateFile) :=
    sound_initial h.known.fileDistinct h.known.file
  have hload : Triple (fun t => t = .initial s.stateFile) (loadPersistedJobs cfg now recovers)
      (fun _ => Sound fit' drawn []) fun _ => True := by
    unfold loadPersistedJobs
    refine Triple.bind Triple.read fun t => ?_
    split
    · rintro t' ⟨rfl, -⟩
      exact Triple.pure (fun _ hs => hs) _ hinitial
    next records hrecords =>
    refine Triple.ite (fun _ => ?_) fun _ => ?_
    · refine Triple.bind (Q := fun _ => Sound fit' drawn []) ?_ fun _ => ?_
      · rintro t' ⟨rfl, rfl⟩
        have hmem : records ∈ s.stateFile := hrecords
        refine ((triple_loadJobs (h.known.fileDistinct records hmem)
          (h.known.file records hmem)).mono (fun _ ht => ht) (fun _ _ ht => ht.1)
            fun _ _ => trivial) _ ⟨hinitial, rfl, ?_⟩
        exact fun record _ => rfl
      · refine Triple.bind (Q := fun _ => Sound fit' drawn [])
          (Triple.update fun t ht => ht.congr_tasks rfl rfl rfl rfl) fun _ => ?_
        refine Triple.bind (triple_prune fun t ids ht hids => ht.dropJobs hids) fun _ => ?_
        refine Triple.ite (fun _ => ?_) fun _ => Triple.pure fun _ ht => ht
        exact triple_persist_sound.mono (fun _ ht => ht) (fun _ _ ht => ht) fun _ _ => trivial
    · rintro t' ⟨rfl, -⟩
      exact Triple.pure (fun _ hs => hs) _ hinitial
  unfold Service.restart at hrestart
  rcases hexec : (loadPersistedJobs cfg now recovers).exec (.initial s.stateFile) with ⟨e | u, t⟩
  · rw [hexec] at hrestart
    cases hrestart
  · rw [hexec] at hrestart
    obtain rfl := Option.some.inj hrestart
    exact (hload _ rfl).1 u t hexec

/-! ## Runs -/

/-- The invariants hold on the way through a step that is not the first of a task. -/
theorem Sound.edited {s₀ : Service} {faulty : Prop} {step : Step} (h : Sound fit drawn started s₀)
    (hs : Edited cfg faulty s₀ step s) (hmoves : fit → ∀ now ∈ step.pass, MovesFit cfg now s₀)
    (hnew : ∀ id ∈ step.drawn, id ∉ drawn) (henter : ∀ task, step ≠ .enter task) :
    Sound fit (step.drawn.toList ++ drawn) started s := by
  refine hs.keeps ?_ fun a b ha hedit => h.edit hmoves hnew henter ha hedit
  exact ⟨h.agrees, h.known.mono fun _ hmem => List.mem_append_right _ hmem⟩

/-- A step of the process, other than the first step of a task, keeps the invariants. -/
theorem Sound.fire (h : Sound fit drawn started s) {step : Step}
    (hmoves : fit → ∀ now ∈ step.pass, MovesFit cfg now s) (hnew : ∀ id ∈ step.drawn, id ∉ drawn)
    (henter : ∀ task, step ≠ .enter task) :
    Sound fit (step.drawn.toList ++ drawn) started (s.fire cfg step) :=
  h.edited (fire_edited cfg s step) hmoves hnew henter

/-- The invariants of a node. -/
structure NodeSound (fit : Prop) (n : Node) : Prop where
  sound : Sound fit n.drawn n.started n.service
  once : n.started.Nodup

/-- Every overdue job that a step moves to the cloud queue gets a key there. -/
def StepMovesFit (cfg : Config) (n : Node) (step : Step) : Prop :=
  ∀ now ∈ step.pass, MovesFit cfg now n.service

theorem NodeSound.fire {n : Node} (h : NodeSound fit n) {step : Step}
    (hmoves : fit → StepMovesFit cfg n step) : NodeSound fit (fire cfg n step) := by
  have hstep : (∀ id ∈ step.drawn, id ∉ n.drawn) → (∀ task, step ≠ .enter task) →
      Sound fit (step.drawn.toList ++ n.drawn) n.started (n.service.fire cfg step) :=
    fun hnew henter => h.sound.fire hmoves hnew henter
  unfold Queue.fire
  split
  · next now recovers =>
    split
    · exact h
    · next s hs => exact ⟨h.sound.restart fit hs, List.nodup_nil⟩
  · next hrestart =>
    split
    · exact h
    · next hnew =>
      have hnew : ∀ id ∈ step.drawn, id ∉ n.drawn := fun id hid hmem => hnew ⟨id, hid, hmem⟩
      by_cases henter : ∃ task, step = .enter task
      · obtain ⟨task, rfl⟩ := henter
        exact ⟨(h.sound.enterRunner h.once task).1, (h.sound.enterRunner h.once task).2⟩
      · have henter : ∀ task, step ≠ .enter task := fun task heq => henter ⟨task, heq⟩
        have hcalls : step.calls n.service = none := by
          cases step with
          | enter task => exact absurd rfl (henter task)
          | _ => rfl
        refine ⟨?_, ?_⟩
        · rw [hcalls]
          exact hstep hnew henter
        · rw [hcalls]
          exact h.once

theorem nodeSound_initial : NodeSound fit {} where
  sound := @sound_initial [] fit none (fun _ hfile => nomatch hfile) fun _ hfile => nomatch hfile
  once := List.nodup_nil

/-- The invariants along a run whose moves fit. -/
theorem nodeSound_run {steps : List Step}
    (h : fit → Run.Along (fire cfg) (StepMovesFit cfg) {} steps) : NodeSound fit (run cfg steps) := by
  have hkeep : ∀ (n : Node) (steps : List Step), NodeSound fit n →
      (fit → Run.Along (fire cfg) (StepMovesFit cfg) n steps) →
      NodeSound fit (Run.after (fire cfg) n steps) := by
    intro n steps hn h
    induction steps generalizing n with
    | nil => exact hn
    | cons step steps ih => exact ih _ (hn.fire fun hfit => (h hfit).1) fun hfit => (h hfit).2
  exact hkeep {} steps nodeSound_initial h

theorem nodeSound_false (cfg : Config) (steps : List Step) : NodeSound False (run cfg steps) :=
  nodeSound_run False.elim

/-! ## The agreement -/

/-- The job is queued in the queue. -/
def Service.queuedIn (id : JobId) (q : QueueKey) (s : Service) : Bool :=
  match s.jobs.get? id with
  | some job => decide (job.status = .queued) && decide (job.queue = q)
  | none => false

/-- Each queued job has one entry, in the heap of its queue; no other job has an entry; the heaps are in
order; no job gets a second runner task, and no runner is called twice. -/
structure HeapsAgree (n : Node) : Prop where
  entries : ∀ id q, ((n.service.queues q).countP fun e => e.jobId = id) =
    if n.service.queuedIn id q then 1 else 0
  ordered : ∀ q, Heapq.Ordered (n.service.queues q)
  oneTask : (n.service.runners.map Runner.jobId).Nodup
  oneCall : n.started.Nodup

theorem Agrees.count_entries (h : Agrees True s) (id : JobId) (q : QueueKey) :
    ((s.queues q).countP fun e => e.jobId = id) = if s.queuedIn id q then 1 else 0 := by
  have hcount : ((s.queues q).countP fun e => e.jobId = id) =
      ((s.queues q).map Entry.jobId).count id := by
    rw [List.count, List.countP_map]
    rfl
  rw [hcount]
  split
  · next hqueued =>
    refine List.count_eq_one_of_mem (h.distinct q) ?_
    unfold Service.queuedIn at hqueued
    split at hqueued
    · next job hjob =>
      rw [Bool.and_eq_true, decide_eq_true_iff, decide_eq_true_iff] at hqueued
      obtain ⟨hstatus, rfl⟩ := hqueued
      obtain ⟨e, he, heid⟩ := h.entered trivial id job hjob hstatus
      exact List.mem_map.mpr ⟨e, he, heid⟩
    · cases hqueued
  · next hqueued =>
    refine List.count_eq_zero.mpr fun hmem => hqueued ?_
    obtain ⟨e, he, rfl⟩ := List.mem_map.mp hmem
    obtain ⟨job, hjob, hstatus, hq⟩ := h.listed q e he
    unfold Service.queuedIn
    rw [hjob]
    simp [hstatus, hq]

/-- **The agreement of jobs and heaps**: it holds in every run in which each overdue local job that goes
to the cloud queue gets a key there. -/
theorem heaps_agree_of_moves_fit (cfg : Config) (steps : List Step)
    (h : Run.Along (fire cfg) (StepMovesFit cfg) {} steps) : HeapsAgree (run cfg steps) := by
  have hsound : NodeSound True (run cfg steps) := nodeSound_run fun _ => h
  exact ⟨hsound.sound.agrees.count_entries, hsound.sound.agrees.ordered, hsound.sound.agrees.single,
    hsound.once⟩

/-- A job that is dispatched from the cloud queue. -/
def dispatchedRun : List Step := [
  .enqueue 1767225600000000 1 { queue := "cloud", importance := "high" },
  .attempt .cloud,
  .decide 1767225600000000 .cloud { content := [("allowed", .bool true)] },
  .register .cloud,
  .enter 0]

theorem heaps_agree_dispatchedRun : HeapsAgree (run {} dispatchedRun) := by
  refine heaps_agree_of_moves_fit {} dispatchedRun ⟨?_, ?_, ?_, ?_, ?_, trivial⟩
  · exact fun _ _ _ _ _ hget => nomatch hget
  all_goals exact fun _ hnow => nomatch hnow

/-- A job with a wait budget of 126000000000 seconds and no deadline, overdue in the year 6018. -/
def overdueRun : List Step := [
  .enqueue 1767225600000000 1 { queue := "local", importance := "normal", queueIntent :=
    { maxWaitSeconds := some 126000000000, allowCloudSpillover := some true } },
  .poll 127767225601000000]

/-- The overdue job has left the local heap, and its key for the cloud heap is no date: it stays queued
without an entry. -/
theorem overdueRun_loses_entry : ¬HeapsAgree (run {} overdueRun) := by
  intro h
  have hcount := h.entries 1 .cloud
  revert hcount
  decide +kernel

end Queue
end HexeAiNode
