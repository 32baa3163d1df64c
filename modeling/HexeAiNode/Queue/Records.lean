import HexeAiNode.Queue.Recovery

/-!
# What becomes of a record

`JobEdit` lists what a step can do to the record of a job, `RecordEdit` adds that records are inserted and
deleted.  `Edit.record` reads every change of the service as one of the record of a given job; so a
property of records that these changes keep holds of all records, in the table and in the file
(`Records.fire`, `Records.restart`).
-/

namespace HexeAiNode
namespace Queue

open Py Execution StoreAction

variable {cfg : Config} {now : ℤ} {faulty : Prop} {s₀ s s' a b : Service} {step : Step}
  {id : JobId} {job job' : Job}

/-- What a step can do to a record. -/
inductive JobEdit (cfg : Config) (faulty : Prop) (s₀ : Service) (step : Step) : Job → Job → Prop where
  | amend {job job' : Job} (hamends : job.Amends step.safe job') : JobEdit cfg faulty s₀ step job job'
  | move {now d : ℤ} {job : Job} (hnow : now ∈ step.pass) (hqueued : job.status = .queued)
      (hlocal : job.queue = .localNode) (hspill : job.allowsCloudSpillover = true)
      (hd : job.effectiveDeadline = .ok (some d)) (hover : d < now) :
      JobEdit cfg faulty s₀ step job (movedJob job)
  | start {now : ℤ} {q : QueueKey} {admission : Payload} {job : Job}
      (hstep : step = .decide now q admission) (hqueued : job.status = .queued)
      (htakes : ∃ id, s₀.Takes q admission id job) :
      JobEdit cfg faulty s₀ step job (startedJob now job)
  | endQueued {now expiresAt : ℤ} {job : Job} {status : Status} (error : JobError)
      (hnow : now ∈ step.pass) (hqueued : job.status = .queued) (hterminal : status.terminal = true)
      (hexpires : addSeconds now cfg.jobTtl = .ok expiresAt) (hstatus : status.ofQueue = true) :
      JobEdit cfg faulty s₀ step job (closedJob expiresAt error (endedJob now status job))
  | undatedQueued {now : ℤ} {job : Job} {status : Status} {e : Exc} (hfaulty : faulty)
      (hnow : now ∈ step.pass) (hqueued : job.status = .queued) (hterminal : status.terminal = true)
      (hexpires : addSeconds now cfg.jobTtl = .error e) (hstatus : status.ofQueue = true) :
      JobEdit cfg faulty s₀ step job (endedJob now status job)
  | finish {now expiresAt : ℤ} {task : ℕ} {r : Runner} {job job' : Job}
      (hstep : step = .settle now task) (hr : s₀.runners[task]? = some r)
      (hjob : s₀.jobs.get? r.jobId = some job) (hended : job.EndedAt now r.state.safe job')
      (hexpires : addSeconds now cfg.jobTtl = .ok expiresAt) (hjob' : job'.expiresAt = expiresAt)
      (hstatus : job'.status.ofRunner = true) :
      JobEdit cfg faulty s₀ step job job'
  | undated {now : ℤ} {task : ℕ} {r : Runner} {job job' : Job} {e : Exc} (hfaulty : faulty)
      (hstep : step = .settle now task) (hr : s₀.runners[task]? = some r)
      (hjob : s₀.jobs.get? r.jobId = some job) (hended : job.EndedAt now r.state.safe job')
      (hjob' : job'.expiresAt = job.expiresAt) (hexpires : addSeconds now cfg.jobTtl = .error e)
      (hstatus : job'.status.ofRunner = true) :
      JobEdit cfg faulty s₀ step job job'

/-- A record keeps what the submission settled. -/
theorem JobEdit.submission (h : JobEdit cfg faulty s₀ step job job') :
    job'.toSubmission = job.toSubmission := by
  cases h with
  | amend hamends => exact hamends.submission
  | finish _ _ _ hended => exact hended.submission
  | undated _ _ _ _ hended => exact hended.submission
  | _ => rfl

/-- What a step can do to the place of a job in the table. -/
inductive RecordEdit (cfg : Config) (faulty : Prop) (s₀ : Service) (step : Step) (id : JobId) :
    Option Job → Option Job → Prop where
  | same (o : Option Job) : RecordEdit cfg faulty s₀ step id o o
  | edit {job job' : Job} (hedit : JobEdit cfg faulty s₀ step job job') :
      RecordEdit cfg faulty s₀ step id (some job) (some job')
  | drop {now : ℤ} {job : Job} (hnow : now ∈ step.pass) (hdue : job.isDue now = true) :
      RecordEdit cfg faulty s₀ step id (some job) none
  | insert {now : ℤ} {request : EnqueueRequest} {o : Option Job} {job : Job} {key : WithTop ℚ}
      (hstep : step = .enqueue now id request) (hprepared : Prepared cfg now id request job key)
      (hnew : s₀.jobs.get? id = none → o = none) : RecordEdit cfg faulty s₀ step id o (some job)

/-- A change of one record. -/
theorem recordEdit_setJob (id' : JobId) (hjob : a.jobs.get? id = some job)
    (hedit : JobEdit cfg faulty s₀ step job job') :
    RecordEdit cfg faulty s₀ step id' (a.jobs.get? id') ((a.jobs.set id job').get? id') := by
  rw [OrderedDict.get?_set]
  split
  · next heq =>
    rw [heq, hjob]
    exact .edit hedit
  · exact .same _

theorem jobs_dispatchAttempt (q : QueueKey) (s : Service) : (dispatchAttempt cfg q s).jobs = s.jobs := by
  rcases dispatchAttempt_cases cfg q s with ⟨h, -⟩ | ⟨id, h, -⟩ | ⟨e, h, -⟩ <;> rw [h] <;> rfl

theorem stateFile_dispatchAttempt (q : QueueKey) (s : Service) :
    (dispatchAttempt cfg q s).stateFile = s.stateFile := by
  rcases dispatchAttempt_cases cfg q s with ⟨h, -⟩ | ⟨id, h, -⟩ | ⟨e, h, -⟩ <;> rw [h] <;> rfl

/-- **Every change of the service, seen from the record of one job.** -/
theorem Edit.record (h : Edit cfg faulty s₀ step a b) (id : JobId) :
    RecordEdit cfg faulty s₀ step id (a.jobs.get? id) (b.jobs.get? id) := by
  have hsame : b.jobs = a.jobs → RecordEdit cfg faulty s₀ step id (a.jobs.get? id) (b.jobs.get? id) := by
    intro heq
    rw [heq]
    exact .same _
  cases h with
  | @drop _ now _ ids hnow hdue =>
    rw [Service.get?_dropJobs]
    split
    · next hmem =>
      obtain ⟨job, hjob, hdue⟩ := hdue id hmem
      rw [hjob]
      exact .drop hnow hdue
    · exact .same _
  | reroute hnow hjob hqueued hlocal hspill hd hover =>
    rw [Service.enterCloud_jobs]
    exact recordEdit_setJob id hjob (.move hnow hqueued hlocal hspill hd hover)
  | orphan _ hnow hjob _ hqueued hlocal hspill hd hover =>
    exact recordEdit_setJob id hjob (.move hnow hqueued hlocal hspill hd hover)
  | endQueued error hnow hjob hqueued hterminal hexpires hstatus =>
    exact recordEdit_setJob id hjob (.endQueued error hnow hqueued hterminal hexpires hstatus)
  | undatedQueued hfaulty hnow hjob hqueued hterminal hexpires hstatus =>
    exact recordEdit_setJob id hjob (.undatedQueued hfaulty hnow hqueued hterminal hexpires hstatus)
  | @insert now id' request _ job key hprepared hpassed =>
    show RecordEdit cfg faulty s₀ _ id (a.jobs.get? id) ((a.jobs.set job.jobId job).get? id)
    have hid : job.jobId = id' := by
      obtain ⟨n, expiresAt, -, rfl⟩ := hprepared.job
      rfl
    rw [OrderedDict.get?_set, hid]
    split
    · next heq =>
      subst heq
      exact .insert rfl hprepared (hpassed.known id)
    · exact .same _
  | amend hjob hamends => exact recordEdit_setJob id hjob (.amend hamends)
  | attempt => exact hsame (jobs_dispatchAttempt _ _)
  | @start now q admission id' e job t hdispatcher hhead heid hjob hqueued hpersist hallowed =>
    have hjobs : (t.createRunner q id' job).jobs = s₀.jobs.set id' (startedJob now job) := by
      rcases hpersist with ⟨rfl, -⟩ | rfl <;> rfl
    rw [hjobs]
    refine recordEdit_setJob id hjob (.start rfl hqueued ?_)
    exact ⟨id', hdispatcher, ⟨e, hhead, heid⟩, hjob, hqueued, hallowed⟩
  | @strand now q admission id' e job _ _ hdispatcher hhead heid hjob hqueued _ _ hallowed =>
    refine recordEdit_setJob id hjob (.start rfl hqueued ?_)
    exact ⟨id', hdispatcher, ⟨e, hhead, heid⟩, hjob, hqueued, hallowed⟩
  | finish hr hjob hended hexpires hjob' hstatus =>
    exact recordEdit_setJob id hjob (.finish rfl hr hjob hended hexpires hjob' hstatus)
  | undated hfaulty hr hjob hended hjob' hexpires hstatus =>
    exact recordEdit_setJob id hjob (.undated hfaulty rfl hr hjob hended hjob' hexpires hstatus)
  | enter task =>
    obtain ⟨runners, heq⟩ := s₀.enterRunner_eq task
    exact hsame (by rw [heq])
  | outcome task ending =>
    obtain ⟨runners, heq⟩ := s₀.endRunner_eq task ending
    exact hsame (by rw [heq])
  | ensure => exact hsame (Service.ensureDispatcher_jobs _ _)
  | wake =>
    refine hsame ?_
    split
    · rfl
    · exact Service.ensureDispatcher_jobs _ _
  | _ => exact hsame rfl

/-- The place of a job in the table keeps what its changes keep. -/
theorem record_fire {I : Option Job → Prop} (h : I (s.jobs.get? id))
    (hedit : ∀ o o', I o → RecordEdit cfg True s step id o o' → I o') :
    I ((s.fire cfg step).jobs.get? id) :=
  (fire_edited cfg s step).keeps (I := fun s => I (s.jobs.get? id)) h
    fun _ _ ha hab => hedit _ _ ha (hab.record id)

/-! ## Properties of records -/

/-- Every record, in the table and in the file, has the property. -/
structure Service.Records (R : Job → Prop) (s : Service) : Prop where
  table : ∀ id job, s.jobs.get? id = some job → R job
  file : ∀ records ∈ s.stateFile, ∀ record ∈ records, R record

variable {R : Job → Prop}

theorem mem_snapshot {record : Job} (h : record ∈ s.snapshot) :
    ∃ id job, s.jobs.get? id = some job ∧ record = job.persisted := by
  obtain ⟨job, hjob, rfl⟩ := List.mem_map.mp ((List.mem_insertionSort _).mp h)
  obtain ⟨⟨id, job'⟩, hmem, rfl⟩ := List.mem_map.mp hjob
  exact ⟨id, job', OrderedDict.get?_of_mem_entries hmem, rfl⟩

theorem persisted_mem_snapshot (h : s.jobs.get? id = some job) : job.persisted ∈ s.snapshot :=
  (List.mem_insertionSort _).mpr (List.mem_map_of_mem (OrderedDict.mem_values_of_get? h))

/-- The record of the file under an id is that of the table. -/
theorem get?_of_mem_snapshot {n : Node} {record : Job} (hsound : NodeSound False n)
    (h : record ∈ n.service.snapshot) :
    ∃ job, n.service.jobs.get? record.jobId = some job ∧ record = job.persisted := by
  obtain ⟨id, job, hget, rfl⟩ := mem_snapshot h
  have hid : job.jobId = id := hsound.sound.agrees.keyed id job hget
  refine ⟨job, ?_, rfl⟩
  show n.service.jobs.get? job.jobId = some job
  rw [hid]
  exact hget

/-- The file changes by a save only. -/
theorem Edit.stateFile (h : Edit cfg faulty s₀ step a b) :
    b.stateFile = a.stateFile ∨ b.stateFile = some b.snapshot := by
  cases h with
  | save => exact Or.inr rfl
  | start _ hhead heid hjob hqueued hpersist =>
    rcases hpersist with ⟨rfl, -⟩ | rfl
    · exact Or.inl rfl
    · exact Or.inr rfl
  | attempt => exact Or.inl (stateFile_dispatchAttempt _ _)
  | enter task =>
    obtain ⟨runners, heq⟩ := s₀.enterRunner_eq task
    exact Or.inl (by rw [heq])
  | outcome task ending =>
    obtain ⟨runners, heq⟩ := s₀.endRunner_eq task ending
    exact Or.inl (by rw [heq])
  | ensure => exact Or.inl (Service.ensureDispatcher_stateFile _ _)
  | reroute => exact Or.inl (Service.enterCloud_stateFile _ _ _)
  | wake =>
    left
    split
    · rfl
    · exact Service.ensureDispatcher_stateFile _ _
  | _ => exact Or.inl rfl

/-- A change of the service keeps what the changes of records keep. -/
theorem Service.Records.edit (ha : a.Records R) (h : Edit cfg faulty s₀ step a b)
    (hpersisted : ∀ job, R job → R job.persisted)
    (hedit : ∀ job job', R job → JobEdit cfg faulty s₀ step job job' → R job')
    (hnew : ∀ now id request job key, step = .enqueue now id request →
      Prepared cfg now id request job key → R job) : b.Records R := by
  have htable : ∀ id job, b.jobs.get? id = some job → R job := by
    intro id job hget
    have hrecord := h.record id
    rw [hget] at hrecord
    generalize ho : a.jobs.get? id = o at hrecord
    cases hrecord with
    | same => exact ha.table id job ho
    | @edit job₀ _ hjob => exact hedit job₀ job (ha.table id job₀ ho) hjob
    | insert hstep hprepared => exact hnew _ _ _ _ _ hstep hprepared
  refine ⟨htable, fun records hrecords record hrecord => ?_⟩
  rcases h.stateFile with hfile | hfile
  · rw [hfile] at hrecords
    exact ha.file records hrecords record hrecord
  · rw [hfile] at hrecords
    obtain rfl := Option.some.inj hrecords
    obtain ⟨id, job, hget, rfl⟩ := mem_snapshot hrecord
    exact hpersisted job (htable id job hget)

/-- So does a step. -/
theorem Service.Records.fire (h : s.Records R) (hpersisted : ∀ job, R job → R job.persisted)
    (hedit : ∀ job job', R job → JobEdit cfg True s step job job' → R job')
    (hnew : ∀ now id request job key, step = .enqueue now id request →
      Prepared cfg now id request job key → R job) : (s.fire cfg step).Records R :=
  (fire_edited cfg s step).keeps h fun _ _ ha hab => ha.edit hab hpersisted hedit hnew

/-- And a start. -/
theorem Service.Records.restart {recovers : JobId → Bool} (h : s.Records R)
    (hpersisted : ∀ job, R job → R job.persisted)
    (hdistinct : ∀ records ∈ s.stateFile, (records.map fun r => r.jobId).Nodup)
    (hrecovered : ∀ records ∈ s.stateFile, ∀ record ∈ records, R record →
      R (record.recovered now recovers))
    (hrestart : s.restart cfg now recovers = some s') : s'.Records R := by
  rcases restart_eq_some hdistinct hrestart with ⟨-, records, hfile, hs'⟩ | ⟨-, rfl⟩
  · have htable : ∀ id job, s'.jobs.get? id = some job → R job := by
      intro id job hget
      obtain ⟨record, hrecord, -, rfl, -⟩ := hs'.get?_iff.mp hget
      exact hrecovered records hfile record hrecord (h.file records hfile record hrecord)
    refine ⟨htable, fun records' hrecords' record hrecord => ?_⟩
    rcases hs'.file with hsaved | ⟨hold, -⟩
    · rw [hsaved] at hrecords'
      obtain rfl := Option.some.inj hrecords'
      obtain ⟨id, job, hget, rfl⟩ := mem_snapshot hrecord
      exact hpersisted job (htable id job hget)
    · rw [hold] at hrecords'
      obtain rfl := Option.some.inj hrecords'
      exact h.file records hfile record hrecord
  · exact ⟨fun _ _ hget => (nomatch hget), h.file⟩

end Queue
end HexeAiNode
