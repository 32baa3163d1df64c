import HexeAiNode.Queue.PoisonJobs

/-!
# No second start across restarts

The record of a job says `running` in the state file before its runner is called, because the dispatcher
persists between the two; and a start from the file never puts a running record back.  `Ahead` is the
invariant behind this: no queued record of the file belongs to a job that has a runner task or was called
by an earlier process.

It needs every save to succeed: `json.dumps` refuses all records when it refuses one, and the older file
stays.  `InFile` is the converse, that no queued job is missing in the file.
-/

namespace HexeAiNode
namespace Queue

open Py Execution StoreAction

variable {cfg : Config} {now : ℤ} {faulty : Prop} {s₀ s s' a b : Service} {step : Step}
  {id : JobId} {job job' : Job} {drawn started : List JobId}

/-! ## Payloads -/

/-- The records can be serialised, and so can what the runners hand over. -/
structure Service.Serialisable (s : Service) : Prop where
  records : s.Records fun job => job.jsonSafe = true
  runners : ∀ r ∈ s.runners, r.state.safe = true

theorem Job.jsonSafe_startedJob (h : job.jsonSafe = true) : (startedJob now job).jsonSafe = true := by
  unfold Job.jsonSafe at h ⊢
  simp only [Bool.and_eq_true] at h ⊢
  exact ⟨⟨h.1.1, rfl⟩, h.2⟩

theorem JobEdit.jsonSafe (h : JobEdit cfg faulty s₀ step job job') (hstep : step.safe = true)
    (hs₀ : s₀.Serialisable) (hjob : job.jsonSafe = true) : job'.jsonSafe = true := by
  cases h with
  | amend hamends => exact hamends.jsonSafe hstep hjob
  | start => exact Job.jsonSafe_startedJob hjob
  | finish _ hr _ hended => exact hended.jsonSafe (hs₀.runners _ (List.mem_of_getElem? hr)) hjob
  | undated _ _ hr _ hended => exact hended.jsonSafe (hs₀.runners _ (List.mem_of_getElem? hr)) hjob
  | _ => exact hjob

theorem Prepared.jsonSafe {request : EnqueueRequest} {key : WithTop ℚ}
    (h : Prepared cfg now id request job key) (hsafe : request.requestPayload.jsonSafe = true) :
    job.jsonSafe = true := by
  obtain ⟨n, expiresAt, -, rfl⟩ := h.job
  unfold Job.jsonSafe newJob
  simp [hsafe]

/-- The states of the tasks under a change of one of them. -/
theorem safe_modify {f : Runner → Runner} {runners : List Runner} {task : ℕ}
    (h : ∀ r ∈ runners, r.state.safe = true)
    (hf : ∀ r, runners[task]? = some r → (f r).state.safe = true) :
    ∀ r ∈ runners.modify task f, r.state.safe = true := by
  intro r hr
  obtain ⟨i, hi, rfl⟩ := List.getElem_of_mem hr
  rw [List.getElem_modify]
  rw [List.length_modify] at hi
  split
  · next heq =>
    subst heq
    exact hf _ (List.getElem?_eq_getElem hi)
  · exact h _ (List.getElem_mem hi)

theorem RunnerState.safe_cancel (state : RunnerState) : state.cancel.safe = true := by
  cases state <;> rfl

theorem RunnerState.safe_afterError (state : RunnerState) (e : Exc) :
    (state.afterError e).safe = true := by
  cases state <;> rfl

/-- Every change keeps the payloads serialisable. -/
theorem Service.Serialisable.edit (hs₀ : s₀.Serialisable) (hstep : step.safe = true)
    (ha : a.Serialisable) (hedit : Edit cfg faulty s₀ step a b) : b.Serialisable := by
  constructor
  · refine ha.records.edit hedit (fun job hjob => hjob)
      (fun job job' hjob hjobEdit => hjobEdit.jsonSafe hstep hs₀ hjob) ?_
    rintro now id request job key rfl hprepared
    exact hprepared.jsonSafe hstep
  · have hsame : b.runners = a.runners → ∀ r ∈ b.runners, r.state.safe = true := by
      intro heq
      rw [heq]
      exact ha.runners
    cases hedit with
    | reroute => exact hsame (by simp)
    | ensure => exact hsame (by simp)
    | cancelTask => exact safe_modify ha.runners fun r _ => r.state.safe_cancel
    | attempt =>
      refine hsame ?_
      rcases dispatchAttempt_cases cfg _ s₀ with ⟨h, -⟩ | ⟨id, h, -⟩ | ⟨e, h, -⟩ <;> rw [h] <;> rfl
    | @start now q admission id e job t _ hhead heid hjob hqueued hpersist =>
      intro r hr
      have hrunners : t.runners = s₀.runners := by
        rcases hpersist with ⟨rfl, -⟩ | rfl <;> rfl
      have hr : r ∈ t.runners ++ [⟨q, id, job.runner, .created⟩] := hr
      rw [hrunners] at hr
      rcases List.mem_append.mp hr with hr | hr
      · exact ha.runners r hr
      · obtain rfl := List.mem_singleton.mp hr
        rfl
    | wake =>
      refine hsame ?_
      split
      · rfl
      · simp
    | enter task =>
      unfold Service.enterRunner
      split
      · exact ha.runners
      · split
        · refine safe_modify ha.runners fun r _ => ?_
          dsimp only
          split <;> rfl
        · exact safe_modify ha.runners fun _ _ => rfl
        · exact ha.runners
    | outcome task ending =>
      unfold Service.endRunner
      split
      · exact ha.runners
      · split
        · refine safe_modify ha.runners fun r _ => ?_
          cases ending with
          | returned result => exact hstep
          | _ => rfl
        · exact ha.runners
    | settled => exact safe_modify ha.runners fun _ _ => rfl
    | @handled _ _ r _ e => exact safe_modify ha.runners fun _ _ => r.state.safe_afterError e
    | release => exact safe_modify ha.runners fun _ _ => rfl
    | _ => exact hsame rfl

theorem Service.Serialisable.edited (hs₀ : s₀.Serialisable) (hstep : step.safe = true)
    (h : Edited cfg faulty s₀ step s) : s.Serialisable :=
  h.keeps hs₀ fun _ _ ha hedit => hs₀.edit hstep ha hedit

/-! ## The file is ahead of every start -/

/-- No queued job was called by an earlier process, whose calls are `before`, or has a task, as far as the
table and the file know. -/
structure Ahead (before : List JobId) (s : Service) : Prop where
  table : ∀ id ∈ before, ∀ job, s.jobs.get? id = some job → job.status ≠ .queued
  tasks : ∀ r ∈ s.runners, r.jobId ∉ before
  fileBefore : ∀ records ∈ s.stateFile, ∀ record ∈ records, record.status = .queued →
    record.jobId ∉ before
  fileTasks : ∀ records ∈ s.stateFile, ∀ record ∈ records, record.status = .queued →
    ∀ r ∈ s.runners, r.jobId ≠ record.jobId

variable {before : List JobId}

/-- A record is queued after a change only if it was before, at the same or at the cloud queue, or is
new. -/
theorem RecordEdit.queued {o : Option Job} (h : RecordEdit cfg faulty s₀ step id o (some job))
    (hqueued : job.status = .queued) :
    (∃ job₀, o = some job₀ ∧ job₀.status = .queued ∧ job.toSubmission = job₀.toSubmission ∧
      job.expiresAt = job₀.expiresAt ∧ (job.queue = job₀.queue ∨ step.pass ≠ none)) ∨
      id ∈ step.drawn := by
  cases h with
  | same => exact Or.inl ⟨job, rfl, hqueued, rfl, rfl, Or.inl rfl⟩
  | @edit job₀ _ hedit =>
    refine Or.inl ⟨job₀, rfl, ?_, hedit.submission, ?_, ?_⟩
    · cases hedit with
      | amend hamends => rwa [← hamends.status]
      | move _ hbefore => exact hbefore
      | start => simp [startedJob] at hqueued
      | endQueued _ _ hbefore => exact hbefore
      | undatedQueued _ _ hbefore => exact hbefore
      | finish _ _ _ hended => exact absurd hqueued hended.ne_queued
      | undated _ _ _ _ hended => exact absurd hqueued hended.ne_queued
    · cases hedit with
      | amend hamends => exact hamends.expiresAt
      | @endQueued _ _ _ status _ _ _ hterminal =>
        have hstatus : status = .queued := hqueued
        rw [hstatus] at hterminal
        cases hterminal
      | finish _ _ _ hended => exact absurd hqueued hended.ne_queued
      | undated _ _ _ _ hended => exact absurd hqueued hended.ne_queued
      | _ => rfl
    · cases hedit with
      | amend hamends => exact Or.inl hamends.queue
      | move hnow => exact Or.inr fun hnone => by simp [hnone] at hnow
      | finish _ _ _ hended => exact Or.inl hended.queue
      | undated _ _ _ _ hended => exact Or.inl hended.queue
      | _ => exact Or.inl rfl
  | insert hstep =>
    right
    rw [hstep]
    rfl

theorem map_jobId_setRunner (task : ℕ) (state : RunnerState) (s : Service) :
    (s.setRunner task state).runners.map Runner.jobId = s.runners.map Runner.jobId :=
  map_jobId_modify (f := fun r => { r with state := state }) (fun _ => rfl) s.runners task

/-- The tasks change their jobs by a start only. -/
theorem Edit.taskJobs (h : Edit cfg faulty s₀ step a b) :
    b.runners.map Runner.jobId = a.runners.map Runner.jobId ∨
      ∃ now q admission id job t, step = .decide now q admission ∧ a = s₀ ∧
        s₀.Takes q admission id job ∧ b = t.createRunner q id job ∧
        ((t = s₀.takeHead now q id job ∧ (cfg.statePath = false ∨
          ∃ record ∈ t.jobs.values, record.jsonSafe = false)) ∨ t = (s₀.takeHead now q id job).saved) := by
  have hsame : b.runners = a.runners → b.runners.map Runner.jobId = a.runners.map Runner.jobId :=
    fun heq => by rw [heq]
  cases h with
  | reroute => exact Or.inl (hsame (by simp))
  | ensure => exact Or.inl (hsame (by simp))
  | cancelTask =>
    exact Or.inl (map_jobId_modify (f := fun r => { r with state := r.state.cancel }) (fun _ => rfl) _ _)
  | attempt =>
    refine Or.inl (hsame ?_)
    rcases dispatchAttempt_cases cfg _ s₀ with ⟨h, -⟩ | ⟨id, h, -⟩ | ⟨e, h, -⟩ <;> rw [h] <;> rfl
  | start hdispatcher hhead heid hjob hqueued hpersist hallowed =>
    exact Or.inr ⟨_, _, _, _, _, _, rfl, rfl, ⟨hdispatcher, ⟨_, hhead, heid⟩, hjob, hqueued, hallowed⟩,
      rfl, hpersist⟩
  | wake =>
    refine Or.inl (hsame ?_)
    split
    · rfl
    · simp
  | enter task =>
    left
    unfold Service.enterRunner
    split
    · rfl
    · split
      · exact map_jobId_setRunner _ _ _
      · exact map_jobId_setRunner _ _ _
      · rfl
  | outcome task ending =>
    left
    unfold Service.endRunner
    split
    · rfl
    · split
      · exact map_jobId_setRunner _ _ _
      · rfl
  | settled => exact Or.inl (map_jobId_setRunner _ _ _)
  | handled => exact Or.inl (map_jobId_setRunner _ _ _)
  | release => exact Or.inl (map_jobId_setRunner _ _ _)
  | _ => exact Or.inl (hsame rfl)

/-- When the file changes, or a task is created, the file holds the records of the table. -/
theorem Edit.stateFile_of_start (hpath : cfg.statePath = true) (h : Edit cfg faulty s₀ step a b)
    (hb : b.Serialisable) :
    (b.stateFile = a.stateFile ∧ b.runners.map Runner.jobId = a.runners.map Runner.jobId) ∨
      b.stateFile = some b.snapshot := by
  rcases h.stateFile with hfile | hfile
  · rcases h.taskJobs with hjobs | ⟨now, q, admission, id, job, t, rfl, rfl, -, rfl, ht⟩
    · exact Or.inl ⟨hfile, hjobs⟩
    · right
      rcases ht with ⟨-, hpath' | ⟨record, hrecord, hrefused⟩⟩ | rfl
      · rw [hpath] at hpath'
        cases hpath'
      · obtain ⟨⟨id', record⟩, hentry, rfl⟩ := List.mem_map.mp hrecord
        rw [hb.records.table id' record (OrderedDict.get?_of_mem_entries hentry)] at hrefused
        cases hrefused
      · rfl
  · exact Or.inr hfile

/-- Every change keeps the file ahead. -/
theorem Ahead.edit (hpath : cfg.statePath = true) (hnew : ∀ id ∈ step.drawn, id ∉ before)
    (ha : Ahead before a) (h : Edit cfg faulty s₀ step a b) (hb : b.Serialisable)
    (hagrees : Agrees False b) : Ahead before b := by
  have htable : ∀ id ∈ before, ∀ job, b.jobs.get? id = some job → job.status ≠ .queued := by
    intro id hid job hjob hqueued
    have hrecord := h.record id
    rw [hjob] at hrecord
    rcases hrecord.queued hqueued with ⟨job₀, hjob₀, hqueued₀, -⟩ | hdrawn
    · exact ha.table id hid job₀ hjob₀ hqueued₀
    · exact hnew id hdrawn hid
  have htasks : ∀ r ∈ b.runners, r.jobId ∉ before := by
    intro r hr hbefore
    have hmem : r.jobId ∈ b.runners.map Runner.jobId := List.mem_map_of_mem hr
    have hold : r.jobId ∉ a.runners.map Runner.jobId := by
      intro hmem'
      obtain ⟨r', hr', heq⟩ := List.mem_map.mp hmem'
      exact ha.tasks r' hr' (heq ▸ hbefore)
    rcases h.taskJobs with heq | ⟨now, q, admission, id, job, t, -, rfl, htakes, rfl, ht⟩
    · rw [heq] at hmem
      exact hold hmem
    · -- the job of the new task was queued
      have hrunners : t.runners = a.runners := by
        rcases ht with ⟨rfl, -⟩ | rfl <;> rfl
      have hmem : r.jobId ∈ (t.runners ++ [(⟨q, id, job.runner, .created⟩ : Runner)]).map
          Runner.jobId := hmem
      rw [hrunners, List.map_append, List.mem_append] at hmem
      rcases hmem with hmem | hmem
      · exact hold hmem
      · rw [List.mem_singleton.mp hmem] at hbefore
        exact ha.table id hbefore job htakes.record htakes.queued
  rcases h.stateFile_of_start hpath hb with ⟨hfile, hjobs⟩ | hfile
  · refine ⟨htable, htasks, by rw [hfile]; exact ha.fileBefore, ?_⟩
    rw [hfile]
    intro records hrecords record hrecord hqueued r hr heq
    have hmem : r.jobId ∈ b.runners.map Runner.jobId := List.mem_map_of_mem hr
    rw [hjobs] at hmem
    obtain ⟨r', hr', heq'⟩ := List.mem_map.mp hmem
    exact ha.fileTasks records hrecords record hrecord hqueued r' hr' (heq'.trans heq)
  · have hsnapshot : ∀ record ∈ b.snapshot, record.status = .queued →
        ∃ job, b.jobs.get? record.jobId = some job ∧ job.status = .queued := by
      intro record hrecord hqueued
      obtain ⟨id, job, hjob, rfl⟩ := mem_snapshot hrecord
      have hid : job.jobId = id := hagrees.keyed id job hjob
      exact ⟨job, (congrArg b.jobs.get? hid).trans hjob, hqueued⟩
    refine ⟨htable, htasks, ?_, ?_⟩
    · intro records hrecords record hrecord hqueued hbefore
      rw [hfile] at hrecords
      obtain rfl := Option.some.inj hrecords
      obtain ⟨job, hjob, hqueued⟩ := hsnapshot record hrecord hqueued
      exact htable _ hbefore job hjob hqueued
    · intro records hrecords record hrecord hqueued r hr heq
      rw [hfile] at hrecords
      obtain rfl := Option.some.inj hrecords
      obtain ⟨job, hjob, hqueued⟩ := hsnapshot record hrecord hqueued
      exact hagrees.dispatched r hr job (heq ▸ hjob) hqueued

/-! ## Nodes -/

/-- What a run whose payloads can be serialised keeps. -/
structure NodeAhead (n : Node) : Prop where
  sound : NodeSound False n
  safe : n.service.Serialisable
  ahead : Ahead n.startedBefore n.service
  drawn : ∀ id ∈ n.startedBefore, id ∈ n.drawn
  before : n.startedBefore.Nodup

theorem Job.jsonSafe_recovered {recovers : JobId → Bool} (h : job.jsonSafe = true) :
    (job.recovered now recovers).jsonSafe = true := by
  unfold Job.recovered
  split
  · split <;> exact h
  · exact h
  · exact h

/-- The calls of this process are those of its tasks. -/
theorem NodeAhead.started_before {n : Node} (h : NodeAhead n) :
    ∀ id ∈ n.started, id ∉ n.startedBefore := by
  intro id hid
  obtain ⟨r, hr, rfl, -⟩ := h.sound.sound.known.called id hid
  exact h.ahead.tasks r hr

/-- **No runner is called twice**, within a process or across starts. -/
theorem NodeAhead.once {n : Node} (h : NodeAhead n) : (n.started ++ n.startedBefore).Nodup :=
  List.nodup_append.mpr ⟨h.sound.once, h.before, fun id hid _ hbefore heq =>
    h.started_before id hid (heq ▸ hbefore)⟩

/-- The calls of this process have no queued record in the file. -/
theorem NodeAhead.not_queued {n : Node} (h : NodeAhead n) {records : List Job}
    (hfile : records ∈ n.service.stateFile) {record : Job} (hrecord : record ∈ records)
    (hqueued : record.status = .queued) : record.jobId ∉ n.started ++ n.startedBefore := by
  intro hmem
  rcases List.mem_append.mp hmem with hstarted | hbefore
  · obtain ⟨r, hr, heq, -⟩ := h.sound.sound.known.called _ hstarted
    exact h.ahead.fileTasks records hfile record hrecord hqueued r hr heq
  · exact h.ahead.fileBefore records hfile record hrecord hqueued hbefore

/-- A start keeps the file ahead of the calls that are now those of earlier processes. -/
theorem NodeAhead.restart {n : Node} {recovers : JobId → Bool} (hpath : cfg.statePath = true)
    (h : NodeAhead n) (hrestart : n.service.restart cfg now recovers = some s') :
    s'.Serialisable ∧ Ahead (n.started ++ n.startedBefore) s' := by
  have hdistinct := h.sound.sound.known.fileDistinct
  have hrecords : s'.Records fun job => job.jsonSafe = true :=
    h.safe.records.restart (fun job hjob => hjob) hdistinct
      (fun records _ record _ hsafe => Job.jsonSafe_recovered hsafe) hrestart
  rcases restart_eq_some hdistinct hrestart with ⟨-, records, hfile, hs'⟩ | ⟨hnone, rfl⟩
  · have hqueued : ∀ id job, s'.jobs.get? id = some job → job.status = .queued →
        id ∉ n.started ++ n.startedBefore := by
      intro id job hjob hqueued
      obtain ⟨record, hrecord, rfl, rfl, -⟩ := hs'.get?_iff.mp hjob
      exact h.not_queued hfile hrecord (Job.queued_of_recovered hqueued)
    have hnone : ∀ r ∈ s'.runners, False := by
      rw [hs'.idle.runners]
      exact fun _ hr => nomatch hr
    refine ⟨⟨hrecords, fun r hr => (hnone r hr).elim⟩,
      fun id hid job hjob hstatus => hqueued id job hjob hstatus hid, fun r hr => (hnone r hr).elim, ?_,
      fun _ _ _ _ _ r hr => (hnone r hr).elim⟩
    intro records' hrecords' record hrecord hstatus
    rcases hs'.file with hsaved | ⟨hold, -⟩
    · rw [hsaved] at hrecords'
      obtain rfl := Option.some.inj hrecords'
      obtain ⟨id, job, hjob, rfl⟩ := mem_snapshot hrecord
      have hid : job.jobId = id := (h.sound.sound.restart False hrestart).agrees.keyed id job hjob
      exact fun hmem => hqueued id job hjob hstatus (hid ▸ hmem)
    · rw [hold] at hrecords'
      obtain rfl := Option.some.inj hrecords'
      exact h.not_queued hfile hrecord hstatus
  · have hfile : n.service.stateFile = none := by
      rcases hnone with hpath' | hfile
      · rw [hpath] at hpath'
        cases hpath'
      · exact hfile
    rw [hfile]
    exact ⟨⟨⟨fun _ _ hget => (nomatch hget), fun _ hnone => (nomatch hnone)⟩, fun _ hr => (nomatch hr)⟩,
      fun _ _ _ hget => (nomatch hget), fun _ hr => (nomatch hr), fun _ hnone => (nomatch hnone),
      fun _ hnone => (nomatch hnone)⟩

/-- A step of the process. -/
theorem NodeAhead.service_fire {n : Node} (hpath : cfg.statePath = true) (h : NodeAhead n)
    (hsafe : step.safe = true) (hnew : ∀ id ∈ step.drawn, id ∉ n.drawn)
    (hagrees : Agrees False (n.service.fire cfg step)) :
    (n.service.fire cfg step).Serialisable ∧ Ahead n.startedBefore (n.service.fire cfg step) := by
  have hbefore : ∀ id ∈ step.drawn, id ∉ n.startedBefore :=
    fun id hid hmem => hnew id hid (h.drawn id hmem)
  by_cases henter : ∃ task, step = .enter task
  · obtain ⟨task, rfl⟩ := henter
    have hedit : Edit cfg False n.service (.enter task) n.service (n.service.fire cfg (.enter task)) :=
      .enter task
    have hserialisable := h.safe.edit hsafe h.safe hedit
    exact ⟨hserialisable, h.ahead.edit hpath hbefore hedit hserialisable hagrees⟩
  · have henter : ∀ task, step ≠ .enter task := fun task heq => henter ⟨task, heq⟩
    have hkeep : ∀ t, Edited cfg True n.service step t → t.Serialisable ∧ Ahead n.startedBefore t := by
      intro t ht
      unfold Edited at ht
      induction ht with
      | refl => exact ⟨h.safe, h.ahead⟩
      | tail hbegin hedit ih =>
        have hserialisable := h.safe.edit hsafe ih.1 hedit
        refine ⟨hserialisable, ih.2.edit hpath hbefore hedit hserialisable ?_⟩
        exact (h.sound.sound.edited (Relation.ReflTransGen.tail hbegin hedit) False.elim hnew henter).agrees
    exact hkeep _ (fire_edited cfg n.service step)

theorem NodeAhead.fire {n : Node} (hpath : cfg.statePath = true) (h : NodeAhead n)
    (hsafe : step.safe = true) : NodeAhead (fire cfg n step) := by
  have hsound : NodeSound False (Queue.fire cfg n step) := h.sound.fire False.elim
  rcases fire_cases cfg n step with heq | ⟨now, recovers, s', -, hs', heq⟩ | ⟨hnew, heq⟩
  · rw [heq]
    exact h
  · rw [heq] at hsound ⊢
    obtain ⟨hserialisable, hahead⟩ := h.restart hpath hs'
    refine ⟨hsound, hserialisable, hahead, fun id hid => ?_, h.once⟩
    rcases List.mem_append.mp hid with hstarted | hbefore
    · obtain ⟨r, hr, rfl, -⟩ := h.sound.sound.known.called id hstarted
      exact h.sound.sound.known.runners r hr
    · exact h.drawn id hbefore
  · rw [heq] at hsound ⊢
    obtain ⟨hserialisable, hahead⟩ := h.service_fire hpath hsafe hnew hsound.sound.agrees
    exact ⟨hsound, hserialisable, hahead, fun id hid => List.mem_append_right _ (h.drawn id hid),
      h.before⟩

/-- The invariant along a run. -/
theorem nodeAhead_run (hpath : cfg.statePath = true) {steps : List Step}
    (h : ∀ step ∈ steps, step.safe = true) : NodeAhead (run cfg steps) := by
  have hinitial : NodeAhead {} :=
    ⟨nodeSound_initial, ⟨⟨fun _ _ hget => (nomatch hget), fun _ hnone => (nomatch hnone)⟩,
      fun _ hr => (nomatch hr)⟩, ⟨fun _ hid => (nomatch hid), fun _ hr => (nomatch hr),
      fun _ hnone => (nomatch hnone), fun _ hnone => (nomatch hnone)⟩, fun _ hid => (nomatch hid),
      List.nodup_nil⟩
  exact Run.keeps_of_forall h hinitial fun n step hn hsafe => hn.fire hpath hsafe

/-! ## No queued job is missing in the file -/

/-- Every queued job has a queued record in the file, in the same queue and with the same submission and
retention time. -/
def Service.InFile (s : Service) : Prop := ∀ id job, s.jobs.get? id = some job → job.status = .queued →
  ∃ records ∈ s.stateFile, ∃ record ∈ records, record.status = .queued ∧ record.queue = job.queue ∧
    record.toSubmission = job.toSubmission ∧ record.expiresAt = job.expiresAt

theorem Service.inFile_of_snapshot (h : s.stateFile = some s.snapshot) : s.InFile := by
  intro id job hjob hqueued
  exact ⟨s.snapshot, h, job.persisted, persisted_mem_snapshot hjob, hqueued, rfl, rfl, rfl⟩

theorem Step.drawn_of_pass (hpass : step.pass = none) : step.drawn = none := by
  cases step <;> first | rfl | cases hpass

/-- Outside a pass every change keeps the queued jobs in the file. -/
theorem Service.InFile.edit (hpass : step.pass = none) (ha : a.InFile)
    (h : Edit cfg faulty s₀ step a b) : b.InFile := by
  rcases h.stateFile with hfile | hfile
  · intro id job hjob hqueued
    have hrecord := h.record id
    rw [hjob] at hrecord
    rw [hfile]
    rcases hrecord.queued hqueued with
      ⟨job₀, hjob₀, hqueued₀, hsubmission, hexpires, hqueue | hsome⟩ | hdrawn
    · rw [hsubmission, hqueue, hexpires]
      exact ha id job₀ hjob₀ hqueued₀
    · exact absurd hpass hsome
    · rw [Step.drawn_of_pass hpass] at hdrawn
      cases hdrawn
  · exact Service.inFile_of_snapshot hfile

section Pass

variable (hpath : cfg.statePath = true)
  (hsafe : ∀ t, Edited cfg False s₀ step t → t.Serialisable)

include hpath hsafe

/-- A persist that does not raise writes the file. -/
theorem triple_persist_inFile {I : Service → Prop} (hnow : now ∈ step.pass)
    (hsave : ∀ s, I s → I s.saved) :
    Triple (fun s => Edited cfg False s₀ step s ∧ I s) (persistJobs cfg now)
      (fun _ s => (Edited cfg False s₀ step s ∧ I s) ∧ s.InFile) (Fault cfg s₀ step) := by
  refine triple_persistJobs_safe ?_ ?_ ?_ ?_
  · intro hpath'
    rw [hpath] at hpath'
    cases hpath'
  · intro s hs job hjob hrefused
    obtain ⟨⟨id, job⟩, hentry, rfl⟩ := List.mem_map.mp hjob
    rw [(hsafe s hs.1).records.table id job (OrderedDict.get?_of_mem_entries hentry)] at hrefused
    cases hrefused
  · exact fun s hs => ⟨⟨hs.1.edit (.save step s), hsave s hs.2⟩, Service.inFile_of_snapshot rfl⟩
  · exact fun _ s e hs hrecords =>
      .unbuilt (Step.reading_of_pass hnow) hs.1 hrecords (Step.left_of_pass hnow)

theorem triple_pass_inFile (hnow : now ∈ step.pass) :
    Triple (fun s => Passing cfg s₀ step s ∧ s.InFile) (monitorDeadlines cfg now)
      (fun _ s => Passing cfg s₀ step s ∧ s.InFile) (Fault cfg s₀ step) :=
  triple_monitorDeadlines_persisted (passRules_edited hnow)
    (triple_persist_inFile hpath hsafe hnow fun _ hs => hs.saved)

/-- The persist of a block that ends with it. -/
theorem triple_persist_inFile_last (hnow : now ∈ step.pass) :
    Triple (Edited cfg False s₀ step) (persistJobs cfg now) (fun _ => Service.InFile)
      (Fault cfg s₀ step) :=
  (triple_persist_inFile (I := fun _ => True) hpath hsafe hnow fun _ _ => trivial).mono
    (fun _ hs => ⟨hs, trivial⟩) (fun _ _ hs => hs.2) fun _ hs => hs

end Pass

theorem triple_enqueue_inFile {request : EnqueueRequest} (hpath : cfg.statePath = true)
    (hsafe : ∀ t, Edited cfg False s₀ (.enqueue now id request) t → t.Serialisable) (h : s₀.InFile) :
    Triple (fun s => s = s₀) (enqueue cfg now id request) (fun _ => Service.InFile) fun _ => True := by
  refine (triple_enqueue (P := fun s => ∃ n, s = { s₀ with nextSequence := n })
    (I := fun s => Passing cfg s₀ (.enqueue now id request) s ∧ s.InFile) ?_ (fun _ _ => trivial) ?_
    (fun _ hs => hs.2) ?_ fun _ _ _ _ _ _ _ => trivial).mono ?_ (fun _ _ hs => hs) fun _ hs => hs
  · rintro s n ⟨-, rfl⟩
    exact ⟨n, rfl⟩
  · refine (triple_pass_inFile hpath hsafe rfl).mono ?_ (fun _ _ hs => hs) fun _ _ => trivial
    rintro s ⟨n, rfl⟩
    exact ⟨⟨(Edited.refl cfg False s₀ _).edit (.number now id request s₀ n),
      (Service.Passed.refl s₀).number n⟩, h⟩
  · intro job key hprepared
    unfold insertJob
    refine Triple.bind (Q := fun _ => Edited cfg False s₀ (.enqueue now id request))
      (Triple.update fun s hs => hs.1.1.edit (.insert hprepared hs.1.2)) fun _ => ?_
    refine Triple.bind ((triple_persist_inFile_last hpath hsafe rfl).mono (fun _ hs => hs)
      (fun _ _ hs => hs) fun _ _ => trivial) fun _ => Triple.update fun s hs => ?_
    unfold Service.InFile
    rw [Service.ensureDispatcher_jobs, Service.ensureDispatcher_stateFile]
    exact hs
  · rintro s rfl
    exact ⟨s.nextSequence, rfl⟩

theorem triple_cancelJob_inFile {reason : Option String} (hpath : cfg.statePath = true)
    (hsafe : ∀ t, Edited cfg False s₀ (.cancel now id reason) t → t.Serialisable) :
    Triple (fun s => Passing cfg s₀ (.cancel now id reason) s ∧ s.InFile) (cancelJob cfg now id reason)
      (fun _ => Service.InFile) fun _ => True := by
  refine triple_cancelJob ((triple_pass_inFile hpath hsafe rfl).mono (fun _ hs => hs)
    (fun _ _ hs => hs) fun _ _ => trivial) (fun _ hs => hs.2) (fun job hqueued => ?_)
    fun job task hrunning hsupported => ?_
  · refine triple_cancelQueued (Q := Edited cfg False s₀ (.cancel now id reason)) ?_
      (fun _ _ _ _ => trivial) ((triple_persist_inFile_last hpath hsafe rfl).mono (fun _ hs => hs)
        (fun _ _ hs => hs) fun _ _ => trivial)
    intro s expiresAt error hs hexpires
    exact hs.1.1.1.edit (.endQueued error rfl hs.2 hqueued rfl hexpires rfl)
  · refine triple_cancelRunning (Q := Edited cfg False s₀ (.cancel now id reason)) ?_
      ((triple_persist_inFile_last hpath hsafe rfl).mono (fun _ hs => hs)
        (fun _ _ hs => hs) fun _ _ => trivial) fun s hs => hs
    exact fun s job' hs hamends => hs.1.1.1.edit (.amend hs.2.1 hamends)

/-- A step with a pass keeps the queued jobs in the file, unless it raises. -/
theorem triple_body_inFile (hpath : cfg.statePath = true)
    (hsafe : ∀ t, Edited cfg False s₀ step t → t.Serialisable) (hnow : now ∈ step.pass) (h : s₀.InFile) :
    Triple (fun s => s = s₀) (step.body cfg s₀) (fun _ => Service.InFile) fun _ => True := by
  have hstart : ∀ step, Passing cfg s₀ step s₀ ∧ s₀.InFile :=
    fun step => ⟨⟨Edited.refl cfg False s₀ step, Service.Passed.refl s₀⟩, h⟩
  have hpass : ∀ {m : Block Unit} {step} {E : Service → Prop},
      Triple (fun s => Passing cfg s₀ step s ∧ s.InFile) m (fun _ => Service.InFile) E →
      Triple (fun s => s = s₀) m (fun _ => Service.InFile) fun _ => True := by
    intro m step E hm
    refine hm.mono ?_ (fun _ _ hs => hs) fun _ _ => trivial
    rintro s rfl
    exact hstart step
  cases step with
  | enqueue now id request => exact (triple_enqueue_inFile hpath hsafe h).discard
  | cancel now id reason => exact hpass (triple_cancelJob_inFile hpath hsafe).discard
  | poll now =>
    exact hpass ((triple_pass_inFile hpath hsafe rfl).mono (fun _ hs => hs) (fun _ _ hs => hs.2)
      fun _ hs => hs)
  | startRecovered now =>
    exact hpass (Triple.bind (triple_pass_inFile hpath hsafe rfl) fun _ => Triple.update fun s hs => hs.2)
  | retry now q =>
    unfold Step.body
    dsimp only
    split
    · unfold retryBlockedQueue
      refine Triple.bind (Q := fun _ s => Passing cfg s₀ (.retry now q) s ∧ s.InFile)
        (Triple.update ?_) fun _ => ?_
      · rintro s rfl
        have hs := Service.Passed.refl s
        exact ⟨⟨(Edited.refl cfg False s _).edit (.timer now q), hs.activeCounts, hs.runners,
          hs.running, hs.waiting, hs.tasks, hs.known⟩, h⟩
      · refine Triple.bind ((triple_pass_inFile hpath hsafe rfl).mono (fun _ hs => hs)
          (fun _ _ hs => hs) fun _ _ => trivial) fun _ => Triple.update fun s hs => ?_
        split
        · exact hs.2
        · unfold Service.InFile
          rw [Service.ensureDispatcher_jobs, Service.ensureDispatcher_stateFile]
          exact hs.2
    · refine Triple.pure ?_
      rintro s rfl
      exact h
  | _ => cases hnow

/-- A step whose dates can be computed keeps the queued jobs in the file. -/
theorem Service.InFile.fire (h : s.InFile) (hpath : cfg.statePath = true) (hs : s.Serialisable)
    (hsafe : step.safe = true) (hsound : Sound False drawn started s)
    (hnew : ∀ id ∈ step.drawn, id ∉ drawn) (hdated : ∀ id job, s.jobs.get? id = some job → job.Dated)
    (hbudget : step.BudgetFits) (hclock : step.ClockFits cfg s) : (s.fire cfg step).InFile := by
  rcases hpass : step.pass with _ | now
  · exact (fire_edited cfg s step).keeps h fun a b ha hedit => ha.edit hpass hedit
  have hbody := triple_body_inFile hpath (fun t ht => hs.edited hsafe ht) hpass h s rfl
  unfold Service.fire StoreAction.store
  rw [exec_recover]
  rcases hexec : (step.body cfg s).exec s with ⟨e | u, s'⟩
  · -- only `enqueue` before the insertion is left
    have hfault : Fault cfg s step s' := (triple_body_edited step s rfl).2 e s' hexec
    rcases hfault.cases_of_dated hsound hnew hdated hbudget hclock with
      ⟨now', id, request, n, rfl, rfl⟩ | ⟨now', q, admission, e', rfl, -⟩
    · exact h
    · cases hpass
  · exact hbody.1 u s' hexec

/-- A start from the file that succeeds leaves every queued job in the file. -/
theorem Service.InFile.restart {recovers : JobId → Bool}
    (hdistinct : ∀ records ∈ s.stateFile, (records.map fun r => r.jobId).Nodup)
    (hs' : s'.Serialisable) (h : s.restart cfg now recovers = some s') : s'.InFile := by
  rcases restart_eq_some hdistinct h with ⟨-, records, -, hrecovered⟩ | ⟨-, rfl⟩
  · rcases hrecovered.file with hsaved | ⟨-, ⟨job, hjob, hrefused⟩ | hterminal⟩
    · exact Service.inFile_of_snapshot hsaved
    · obtain ⟨⟨id, job⟩, hentry, rfl⟩ := List.mem_map.mp hjob
      rw [hs'.records.table id job (OrderedDict.get?_of_mem_entries hentry)] at hrefused
      cases hrefused
    · intro id job hjob hqueued
      obtain ⟨record, hrecord, -, rfl, -⟩ := hrecovered.get?_iff.mp hjob
      have hstatus := (hterminal record hrecord).1
      rw [Job.queued_of_recovered hqueued] at hstatus
      cases hstatus
  · exact fun _ _ hget => nomatch hget

/-! ## The claim of a run -/

/-- Along a run, no queued job is missing in the file. -/
theorem inFile_run (hpath : cfg.statePath = true) {steps : List Step}
    (hsafe : ∀ step ∈ steps, step.safe = true) (h : Run.Along (fire cfg) (DatesFit cfg) {} steps) :
    (run cfg steps).service.Records Job.Dated ∧ (run cfg steps).service.InFile := by
  have hinitial : NodeAhead {} ∧ ({} : Node).service.Records Job.Dated ∧ ({} : Node).service.InFile :=
    ⟨@nodeAhead_run _ hpath [] fun _ hmem => (nomatch hmem),
      ⟨fun _ _ hget => (nomatch hget), fun _ hnone => (nomatch hnone)⟩, fun _ _ hget => (nomatch hget)⟩
  refine ((h.and hsafe).keeps (I := fun n : Node => NodeAhead n ∧ n.service.Records Job.Dated ∧
    n.service.InFile) hinitial ?_).2
  rintro n step ⟨hn, hdated, hfile⟩ ⟨⟨hbudget, hclock⟩, hsafe⟩
  have hfire : NodeAhead (fire cfg n step) := hn.fire hpath hsafe
  refine ⟨hfire, dated_fire hn.sound hdated hbudget, ?_⟩
  rcases fire_cases cfg n step with heq | ⟨now, recovers, s', -, hs', heq⟩ | ⟨hnew, heq⟩
  · rw [heq]
    exact hfile
  · rw [heq] at hfire ⊢
    exact Service.InFile.restart hn.sound.sound.known.fileDistinct hfire.safe hs'
  · rw [heq]
    by_cases hrestart : ∃ now recovers, step = .restart now recovers
    · obtain ⟨now, recovers, rfl⟩ := hrestart
      exact hfile
    · refine hfile.fire hpath hn.safe hsafe hn.sound.sound hnew hdated.table hbudget (hclock ?_)
      exact fun now recovers heq => hrestart ⟨now, recovers, heq⟩

/-- The start put the job back once, into its queue, with the importance and the sequence number of its
submission. -/
structure PutBack (id : JobId) (job : Job) (s' : Service) : Prop where
  record : ∃ job', s'.jobs.get? id = some job' ∧ job'.status = .queued ∧ job'.queue = job.queue ∧
    job'.toSubmission = job.toSubmission
  entry : ∃ key, job.entry key ∈ s'.queues job.queue
  once : ∀ q, ((s'.queues q).countP fun e => e.jobId = id) = if q = job.queue then 1 else 0

/-- The start ended the job with a recovery record. -/
def FailedAtStart (now : ℤ) (id : JobId) (s' : Service) : Prop :=
  ∃ job', s'.jobs.get? id = some job' ∧ job'.status = .failed ∧
    job'.recovery = some ⟨"failed", now, .queued⟩

/-- Two local jobs.  The runner of the first returns what `json.dumps` refuses, then the second is started,
and the process is started again. -/
def replayRun : List Step := [
  .enqueue 1767225600000000 1 { queue := "local", importance := "normal" },
  .enqueue 1767225600000000 2 { queue := "local", importance := "normal" },
  .attempt .localNode,
  .decide 1767225601000000 .localNode { content := [("allowed", .bool true)] },
  .register .localNode,
  .enter 0,
  .outcome 0 (.returned (some { jsonSafe := false })),
  .settle 1767225602000000 0,
  .release 0,
  .attempt .localNode,
  .decide 1767225603000000 .localNode { content := [("allowed", .bool true)] },
  .register .localNode,
  .enter 1,
  .restart 1767225610000000 fun _ => true,
  .startRecovered 1767225611000000,
  .attempt .localNode,
  .decide 1767225612000000 .localNode { content := [("allowed", .bool true)] },
  .register .localNode,
  .enter 0]

end Queue
end HexeAiNode
