import HexeAiNode.Queue.Replay
import HexeAiNode.Queue.Starts

/-!
# The queue boundary

The boundary of a job is the earlier of its deadline and the end of its wait budget
(`Job.effectiveDeadline`).  A deadline pass ends the jobs that are past it; the dispatchers run no pass before
they take a job and do not look at the boundary themselves.  `boundary_kept_iff` says that this is all that is
missing: a run keeps the boundary exactly when no dispatcher takes a job past it (`Step.InTime`), and a job
that is found queued after its boundary then never runs.

`Watch` adds to the node what the statement is about: the starts with their times, and the jobs that were
found queued after their boundary.
-/

namespace HexeAiNode
namespace Queue

open Py Execution StoreAction

variable {cfg : Config} {now t : ℤ} {faulty : Prop} {s₀ s s' a b : Service} {step : Step}
  {id : JobId} {job job' : Job} {ids : List JobId}

/-! ## The boundary of a job -/

/-- The job must stay where it is, and its boundary lies before `now`. -/
def Job.pastBoundary (now : ℤ) (job : Job) : Bool :=
  !job.allowsCloudSpillover && match job.effectiveDeadline with
    | .ok (some d) => decide (d < now)
    | _ => false

theorem pastBoundary_iff : job.pastBoundary now = true ↔
    job.allowsCloudSpillover = false ∧ ∃ d, job.effectiveDeadline = .ok (some d) ∧ d < now := by
  unfold Job.pastBoundary
  rcases hd : job.effectiveDeadline with e | _ | d <;> simp

theorem pastBoundary_mono (h : job.pastBoundary t = true) (hle : t ≤ now) : job.pastBoundary now = true := by
  obtain ⟨hspill, d, hd, hlt⟩ := pastBoundary_iff.mp h
  exact pastBoundary_iff.mpr ⟨hspill, d, hd, hlt.trans_le hle⟩

/-- The boundary is settled with the submission. -/
theorem pastBoundary_congr (h : job'.toSubmission = job.toSubmission) (now : ℤ) :
    job'.pastBoundary now = job.pastBoundary now := by
  unfold Job.pastBoundary Job.allowsCloudSpillover Job.effectiveDeadline Job.waitBoundary
  rw [h]

/-- The jobs that are queued after their boundary. -/
def Service.overdue (now : ℤ) (s : Service) : List JobId :=
  (s.jobs.entries.filter fun e => e.2.status = .queued && e.2.pastBoundary now).map Prod.fst

theorem mem_overdue_iff : id ∈ s.overdue now ↔
    ∃ job, s.jobs.get? id = some job ∧ job.status = .queued ∧ job.pastBoundary now = true := by
  unfold Service.overdue
  rw [List.mem_map]
  constructor
  · rintro ⟨⟨id, job⟩, hmem, rfl⟩
    obtain ⟨hentry, hjob⟩ := List.mem_filter.mp hmem
    simp only [Bool.and_eq_true, decide_eq_true_eq] at hjob
    exact ⟨job, OrderedDict.get?_of_mem_entries hentry, hjob.1, hjob.2⟩
  · rintro ⟨job, hjob, hqueued, hpast⟩
    refine ⟨(id, job), List.mem_filter.mpr ⟨Assoc.mem_of_get? hjob, ?_⟩, rfl⟩
    simp [hqueued, hpast]

/-! ## The file and the table -/

/-- A record of the file has the submission of its job in the table, and is queued if its job is. -/
structure Service.Coherent (s : Service) : Prop where
  keyed : ∀ id job, s.jobs.get? id = some job → job.jobId = id
  submission : ∀ records ∈ s.stateFile, ∀ record ∈ records, ∀ job,
    s.jobs.get? record.jobId = some job → record.toSubmission = job.toSubmission
  queued : ∀ records ∈ s.stateFile, ∀ record ∈ records, ∀ job,
    s.jobs.get? record.jobId = some job → job.status = .queued → record.status = .queued

/-- The job is neither in the table nor in the file. -/
structure Service.Lacks (id : JobId) (s : Service) : Prop where
  table : s.jobs.get? id = none
  file : ∀ records ∈ s.stateFile, ∀ record ∈ records, record.jobId ≠ id

/-- A save keeps both. -/
theorem coherent_of_snapshot (hkeyed : ∀ id job, s.jobs.get? id = some job → job.jobId = id)
    (hfile : s.stateFile = some s.snapshot) : s.Coherent := by
  have hrecord : ∀ records ∈ s.stateFile, ∀ record ∈ records, ∀ job,
      s.jobs.get? record.jobId = some job → record = job.persisted := by
    intro records hrecords record hrecord job hjob
    rw [hfile] at hrecords
    obtain rfl := Option.some.inj hrecords
    obtain ⟨id, job', hget, rfl⟩ := mem_snapshot hrecord
    have hid : job'.persisted.jobId = id := hkeyed id job' hget
    rw [hid] at hjob
    rw [Option.some.inj (hget.symm.trans hjob)]
  refine ⟨hkeyed, fun records hrecords record hmem job hjob => ?_,
    fun records hrecords record hmem job hjob hqueued => ?_⟩
  · rw [hrecord records hrecords record hmem job hjob]
    rfl
  · rw [hrecord records hrecords record hmem job hjob]
    exact hqueued

/-- Without a new id, a job of the table was there before with the same submission, and queued if it is. -/
theorem Edit.origin (h : Edit cfg faulty s₀ step a b) (hdrawn : step.drawn = none)
    (hjob : b.jobs.get? id = some job) : ∃ job₀, a.jobs.get? id = some job₀ ∧
      job.toSubmission = job₀.toSubmission ∧ (job.status = .queued → job₀.status = .queued) := by
  have hrecord := h.record id
  rw [hjob] at hrecord
  have hqueued : job.status = .queued → ∃ job₀, a.jobs.get? id = some job₀ ∧ job₀.status = .queued := by
    intro hstatus
    rcases hrecord.queued hstatus with ⟨job₀, hjob₀, hqueued₀, -⟩ | hnew
    · exact ⟨job₀, hjob₀, hqueued₀⟩
    · rw [hdrawn] at hnew
      cases hnew
  generalize ho : a.jobs.get? id = o at hrecord hqueued
  cases hrecord with
  | same => exact ⟨job, rfl, rfl, fun h => h⟩
  | @edit job₀ _ hedit =>
    refine ⟨job₀, rfl, hedit.submission, fun hstatus => ?_⟩
    obtain ⟨job₁, hjob₁, hqueued₁⟩ := hqueued hstatus
    rwa [Option.some.inj hjob₁]
  | insert hstep =>
    rw [hstep] at hdrawn
    cases hdrawn

theorem Service.Coherent.edit (ha : a.Coherent) (h : Edit cfg faulty s₀ step a b)
    (hdrawn : step.drawn = none) : b.Coherent := by
  have hkeyed : ∀ id job, b.jobs.get? id = some job → job.jobId = id := by
    intro id job hjob
    obtain ⟨job₀, hjob₀, hsub, -⟩ := h.origin hdrawn hjob
    rw [hsub]
    exact ha.keyed id job₀ hjob₀
  rcases h.stateFile with hfile | hfile
  · refine ⟨hkeyed, ?_, ?_⟩ <;> rw [hfile]
    · intro records hrecords record hrecord job hjob
      obtain ⟨job₀, hjob₀, hsub, -⟩ := h.origin hdrawn hjob
      exact (ha.submission records hrecords record hrecord job₀ hjob₀).trans hsub.symm
    · intro records hrecords record hrecord job hjob hqueued
      obtain ⟨job₀, hjob₀, -, hstatus⟩ := h.origin hdrawn hjob
      exact ha.queued records hrecords record hrecord job₀ hjob₀ (hstatus hqueued)
  · exact coherent_of_snapshot hkeyed hfile

theorem Service.Lacks.edit (ha : a.Lacks id) (hkeyed : ∀ id job, a.jobs.get? id = some job → job.jobId = id)
    (h : Edit cfg faulty s₀ step a b) (hdrawn : step.drawn = none) : b.Lacks id := by
  have htable : b.jobs.get? id = none := by
    rcases hjob : b.jobs.get? id with _ | job
    · rfl
    · obtain ⟨job₀, hjob₀, -⟩ := h.origin hdrawn hjob
      rw [ha.table] at hjob₀
      cases hjob₀
  refine ⟨htable, fun records hrecords record hrecord heq => ?_⟩
  rcases h.stateFile with hfile | hfile
  · rw [hfile] at hrecords
    exact ha.file records hrecords record hrecord heq
  · rw [hfile] at hrecords
    obtain rfl := Option.some.inj hrecords
    obtain ⟨id', job, hget, rfl⟩ := mem_snapshot hrecord
    obtain ⟨job₀, hjob₀, hsub, -⟩ := h.origin hdrawn hget
    have hid : job.jobId = id' := by
      rw [hsub]
      exact hkeyed id' job₀ hjob₀
    have heq : job.jobId = id := heq
    rw [← hid, heq, htable] at hget
    cases hget

/-- A pass keeps both, whether it raises or not. -/
theorem triple_pass_coherent :
    Triple (fun s => s.Coherent ∧ s.Lacks id) (monitorDeadlines cfg now)
      (fun _ s => s.Coherent ∧ s.Lacks id) fun s => s.Coherent ∧ s.Lacks id := by
  intro s hs
  have hpass := @triple_pass_edited cfg now s (.poll now) rfl s
    ⟨Edited.refl cfg False s _, Service.Passed.refl s⟩
  have hkeep : ∀ {faulty : Prop} {t : Service}, Edited cfg faulty s (.poll now) t →
      t.Coherent ∧ t.Lacks id :=
    fun ht => ht.keeps (I := fun t => t.Coherent ∧ t.Lacks id) hs
      fun a b ha hedit => ⟨ha.1.edit hedit rfl, ha.2.edit ha.1.keyed hedit rfl⟩
  exact ⟨fun u t hexec => hkeep (hpass.1 u t hexec).1, fun e t hexec => hkeep (hpass.2 e t hexec).edited.1⟩

/-- `enqueue` adds a job that neither of them has. -/
theorem triple_enqueue_coherent {request : EnqueueRequest} :
    Triple (fun s => s.Coherent ∧ s.Lacks id) (enqueue cfg now id request)
      (fun _ => Service.Coherent) Service.Coherent := by
  refine triple_enqueue (I := fun s => s.Coherent ∧ s.Lacks id) ?_ (fun _ hs => hs.1)
    (triple_pass_coherent.mono (fun _ hs => hs) (fun _ _ hs => hs) fun _ hs => hs.1)
    (fun _ hs => hs.1) ?_ fun _ _ _ _ _ hs _ => hs
  · exact fun s n hs => ⟨⟨hs.1.keyed, hs.1.submission, hs.1.queued⟩, ⟨hs.2.table, hs.2.file⟩⟩
  · intro job key hprepared
    have hid : job.jobId = id := by
      obtain ⟨n, expiresAt, -, rfl⟩ := hprepared.job
      rfl
    unfold insertJob
    refine Triple.bind (Q := fun _ => Service.Coherent) (Triple.update fun s hs => ?_) fun _ => ?_
    · have hold : ∀ {id' : JobId} {job' : Job}, (s.jobs.set job.jobId job).get? id' = some job' →
          (id' = id ∧ job' = job) ∨ s.jobs.get? id' = some job' := by
        intro id' job' hget
        rw [OrderedDict.get?_set] at hget
        split at hget
        · next heq => exact Or.inl ⟨heq.trans hid, (Option.some.inj hget).symm⟩
        · exact Or.inr hget
      refine ⟨fun id' job' hget => ?_, fun records hrecords record hrecord job' hget => ?_,
        fun records hrecords record hrecord job' hget hqueued => ?_⟩
      · rcases hold hget with ⟨rfl, rfl⟩ | hget
        · exact hid
        · exact hs.1.keyed id' job' hget
      · rcases hold hget with ⟨heq, -⟩ | hget
        · exact absurd heq (hs.2.file records hrecords record hrecord)
        · exact hs.1.submission records hrecords record hrecord job' hget
      · rcases hold hget with ⟨heq, -⟩ | hget
        · exact absurd heq (hs.2.file records hrecords record hrecord)
        · exact hs.1.queued records hrecords record hrecord job' hget hqueued
    · refine Triple.bind (triple_persistJobs' (fun _ hs => hs) (fun s hs => ?_) fun _ hs => hs)
        fun _ => Triple.update fun s hs => ?_
      · exact coherent_of_snapshot hs.keyed rfl
      · rcases s.ensureDispatcher_eq job.queue with heq | heq <;> rw [heq]
        · exact hs
        · exact ⟨hs.keyed, hs.submission, hs.queued⟩

/-- A step keeps the file coherent, if it draws a new id. -/
theorem Service.Coherent.fire (h : s.Coherent) (hnew : ∀ id ∈ step.drawn, s.Lacks id) :
    (s.fire cfg step).Coherent := by
  by_cases hdrawn : step.drawn = none
  · exact (fire_edited cfg s step).keeps h fun a b ha hedit => ha.edit hedit hdrawn
  · cases step with
    | enqueue now id request =>
      refine Triple.store (P := fun t => t.Coherent ∧ t.Lacks id)
        (Triple.recover triple_enqueue_coherent.discard fun e => ?_) ⟨h, hnew id rfl⟩
      exact Triple.pure fun t ht => ht
    | _ => exact absurd rfl hdrawn

theorem Service.Coherent.restart {recovers : JobId → Bool}
    (hdistinct : ∀ records ∈ s.stateFile, (records.map fun r => r.jobId).Nodup)
    (hrestart : s.restart cfg now recovers = some s') : s'.Coherent := by
  rcases restart_eq_some hdistinct hrestart with ⟨-, records, hfile, hs'⟩ | ⟨-, rfl⟩
  · have hkeyed : ∀ id job, s'.jobs.get? id = some job → job.jobId = id := by
      intro id job hjob
      obtain ⟨record, -, rfl, rfl, -⟩ := hs'.get?_iff.mp hjob
      rw [Job.toSubmission_recovered]
    rcases hs'.file with hsaved | ⟨hold, -⟩
    · exact coherent_of_snapshot hkeyed hsaved
    · have hrecord : ∀ records' ∈ s'.stateFile, ∀ record ∈ records', ∀ job,
          s'.jobs.get? record.jobId = some job → job = record.recovered now recovers := by
        intro records' hrecords' record hrecord job hjob
        rw [hold] at hrecords'
        obtain rfl := Option.some.inj hrecords'
        obtain ⟨record', hrecord', hid, rfl, -⟩ := hs'.get?_iff.mp hjob
        rw [List.inj_on_of_nodup_map (hdistinct records hfile) hrecord' hrecord hid]
      refine ⟨hkeyed, fun records' hrecords' record hmem job hjob => ?_,
        fun records' hrecords' record hmem job hjob hqueued => ?_⟩
      · rw [hrecord records' hrecords' record hmem job hjob, Job.toSubmission_recovered]
      · rw [hrecord records' hrecords' record hmem job hjob] at hqueued
        exact Job.queued_of_recovered hqueued
  · exact ⟨fun _ _ hget => (nomatch hget), fun _ _ _ _ _ hget => (nomatch hget),
      fun _ _ _ _ _ hget => (nomatch hget)⟩

/-- An id that was not drawn is neither in the table nor in the file. -/
theorem Known.lacks {drawn started : List JobId} (h : Known drawn started s) (hid : id ∉ drawn) :
    s.Lacks id where
  table := by
    rcases hjob : s.jobs.get? id with _ | job
    · rfl
    · exact absurd (h.jobs id job hjob) hid
  file := by
    rintro records hrecords record hrecord rfl
    exact hid (h.file records hrecords record hrecord)

/-- The invariants of every run. -/
structure NodeCoherent (n : Node) : Prop where
  sound : NodeSound False n
  coherent : n.service.Coherent

theorem nodeCoherent_initial : NodeCoherent {} :=
  ⟨nodeSound_initial, fun _ _ hget => (nomatch hget), fun _ _ _ _ _ hget => (nomatch hget),
    fun _ _ _ _ _ hget => (nomatch hget)⟩

theorem NodeCoherent.fire {n : Node} (h : NodeCoherent n) (step : Step) : NodeCoherent (fire cfg n step) := by
  refine ⟨h.sound.fire False.elim, ?_⟩
  rcases fire_cases cfg n step with heq | ⟨now, recovers, s, -, hs, heq⟩ | ⟨hnew, heq⟩ <;> rw [heq]
  · exact h.coherent
  · exact Service.Coherent.restart h.sound.sound.known.fileDistinct hs
  · exact h.coherent.fire fun id hid => h.sound.sound.known.lacks (hnew id hid)

/-! ## Watching a run -/

/-- The start of a job, with its time. -/
def Step.startsAt (s : Service) (step : Step) : Option (JobId × ℤ) :=
  (step.takes s).bind fun job => step.reading.map fun now => (job.jobId, now)

/-- The queued jobs of the file that a start could not put back. -/
def Service.recoveryFailures (s s' : Service) : List JobId :=
  ((s.stateFile.getD []).filter fun record => record.status = .queued &&
    (s'.jobs.get? record.jobId).any fun job => job.status = .failed).map fun record => record.jobId

/-- Those of the step. -/
def Step.recoveryFailures (cfg : Config) (s : Service) : Step → List JobId
  | .restart now recovers => (s.restart cfg now recovers).elim [] s.recoveryFailures
  | _ => []

/-- A node with the last reading of the clock, the starts of its jobs, the jobs that were found queued after
their boundary, and the jobs that failed because a start could not put them back. -/
structure Watch where
  node : Node := {}
  clock : Option ℤ := none
  starts : List (JobId × ℤ) := []
  late : List JobId := []
  unrecovered : List JobId := []

/-- A step of the node under watch. -/
def Watch.fire (cfg : Config) (x : Watch) (step : Step) : Watch where
  node := Queue.fire cfg x.node step
  clock := step.reading.or x.clock
  starts := (step.startsAt x.node.service).toList ++ x.starts
  late := (step.reading.elim [] fun now => x.node.service.overdue now) ++ x.late
  unrecovered := step.recoveryFailures cfg x.node.service ++ x.unrecovered

/-- The watch after a run. -/
def watch (cfg : Config) (steps : List Step) : Watch := Run.after (Watch.fire cfg) {} steps

/-- No job was started after its boundary, and a job that was found queued after its boundary is queued,
expired or cancelled, or failed because a start could not put it back. -/
structure Watch.BoundaryKept (x : Watch) : Prop where
  started : ∀ e ∈ x.starts, ∀ job, x.node.service.jobs.get? e.1 = some job → job.pastBoundary e.2 = false
  ended : ∀ id ∈ x.late, ∀ job, x.node.service.jobs.get? id = some job →
    job.status = .queued ∨ job.status = .expiredWaitBudget ∨ job.status = .cancelled ∨
      job.status = .failed ∧ id ∈ x.unrecovered

/-- A job that the step takes is not past its boundary. -/
def Step.InTime (s : Service) (step : Step) : Prop :=
  ∀ job now, step.takes s = some job → step.reading = some now → job.pastBoundary now = false

/-! ## Late jobs -/

/-- The record, if it is of this job, was past the boundary at `t` and has not started. -/
def LateRecord (id : JobId) (t : ℤ) (ids : List JobId) (job : Job) : Prop :=
  job.jobId = id → job.pastBoundary t = true ∧
    (job.status = .queued ∨ job.status.ofQueue = true ∨ job.status = .failed ∧ id ∈ ids)

/-- The job was past its boundary at `t`, and has not started. -/
structure Service.IsLate (id : JobId) (t : ℤ) (ids : List JobId) (s : Service) : Prop where
  records : s.Records (LateRecord id t ids)
  idle : ∀ r ∈ s.runners, r.jobId ≠ id

/-- A job that is queued after its boundary. -/
theorem NodeCoherent.isLate {n : Node} (h : NodeCoherent n) (hlate : id ∈ n.service.overdue now) :
    n.service.IsLate id now ids := by
  obtain ⟨job, hjob, hqueued, hpast⟩ := mem_overdue_iff.mp hlate
  refine ⟨⟨?_, ?_⟩, ?_⟩
  · rintro id' job' hjob' rfl
    rw [h.coherent.keyed id' job' hjob', hjob'] at hjob
    obtain rfl := Option.some.inj hjob
    exact ⟨hpast, Or.inl hqueued⟩
  · rintro records hrecords record hrecord rfl
    refine ⟨?_, Or.inl (h.coherent.queued records hrecords record hrecord job hjob hqueued)⟩
    rw [pastBoundary_congr (h.coherent.submission records hrecords record hrecord job hjob)]
    exact hpast
  · rintro r hr rfl
    exact h.sound.sound.agrees.dispatched r hr job hjob hqueued

/-- The job is not taken. -/
def Step.Leaves (s : Service) (id : JobId) (step : Step) : Prop :=
  ∀ job, step.takes s = some job → job.jobId ≠ id

theorem JobEdit.late (h : JobEdit cfg faulty s₀ step job job') (hleaves : step.Leaves s₀ id)
    (hkeyed : ∀ id job, s₀.jobs.get? id = some job → job.jobId = id)
    (hidle : ∀ r ∈ s₀.runners, r.jobId ≠ id) (hjob : LateRecord id t ids job) :
    LateRecord id t ids job' := by
  intro hid
  have hid₀ : job.jobId = id := by rw [← hid, h.submission]
  obtain ⟨hpast, hstatus⟩ := hjob hid₀
  refine ⟨(pastBoundary_congr h.submission t).trans hpast, ?_⟩
  cases h with
  | amend hamends =>
    rw [hamends.status]
    exact hstatus
  | move => exact Or.inl rfl
  | start hstep _ htakes =>
    refine absurd hid₀ (hleaves job ?_)
    rw [hstep]
    exact takenFrom_eq_some_iff.mpr htakes
  | endQueued _ _ _ _ _ hof => exact Or.inr (Or.inl hof)
  | undatedQueued _ _ _ _ _ hof => exact Or.inr (Or.inl hof)
  | finish _ hr hget =>
    exact absurd ((hkeyed _ _ hget).symm.trans hid₀) (hidle _ (List.mem_of_getElem? hr))
  | undated _ _ hr hget =>
    exact absurd ((hkeyed _ _ hget).symm.trans hid₀) (hidle _ (List.mem_of_getElem? hr))

theorem Service.IsLate.edit (hs₀ : s₀.IsLate id t ids) (hleaves : step.Leaves s₀ id)
    (hkeyed : ∀ id job, s₀.jobs.get? id = some job → job.jobId = id) (hnew : id ∉ step.drawn)
    (ha : a.IsLate id t ids) (h : Edit cfg faulty s₀ step a b) : b.IsLate id t ids := by
  constructor
  · refine ha.records.edit h (fun job hjob => hjob)
      (fun job job' hjob hedit => hedit.late hleaves hkeyed hs₀.idle hjob) ?_
    rintro now id' request job key rfl hprepared hid
    obtain ⟨n, expiresAt, -, rfl⟩ := hprepared.job
    exact absurd (congrArg some hid) hnew
  · intro r hr heq
    have hmem : id ∈ b.runners.map Runner.jobId := heq ▸ List.mem_map_of_mem hr
    have hold : id ∉ a.runners.map Runner.jobId := by
      rintro hmem
      obtain ⟨r', hr', hid⟩ := List.mem_map.mp hmem
      exact ha.idle r' hr' hid
    rcases h.taskJobs with hsame | ⟨now, q, admission, id', job, t', rfl, rfl, htakes, rfl, ht⟩
    · rw [hsame] at hmem
      exact hold hmem
    · have hrunners : t'.runners = a.runners := by
        rcases ht with ⟨rfl, -⟩ | rfl <;> rfl
      have hmem : id ∈ (t'.runners ++ [(⟨q, id', job.runner, .created⟩ : Runner)]).map Runner.jobId := hmem
      rw [hrunners, List.map_append, List.mem_append] at hmem
      rcases hmem with hmem | hmem
      · exact hold hmem
      · have hid : id = id' := List.mem_singleton.mp hmem
        refine hleaves job (takenFrom_eq_some_iff.mpr ⟨id', htakes⟩) ?_
        rw [hkeyed id' job htakes.record, hid]

/-- A queued record is put back, or fails. -/
theorem recovered_of_queued {recovers : JobId → Bool} (h : job.status = .queued) :
    (job.recovered now recovers).status = .queued ∨ (job.recovered now recovers).status = .failed := by
  unfold Job.recovered
  rw [h]
  dsimp only
  split
  · exact Or.inl h
  · exact Or.inr rfl

/-- A start puts the job back, or ends it without a runner. -/
theorem Service.IsLate.restart {recovers : JobId → Bool} (h : s.IsLate id t ids)
    (hdistinct : ∀ records ∈ s.stateFile, (records.map fun r => r.jobId).Nodup)
    (hrestart : s.restart cfg now recovers = some s') :
    s'.IsLate id t (s.recoveryFailures s' ++ ids) := by
  have hmono : ∀ job, LateRecord id t ids job → LateRecord id t (s.recoveryFailures s' ++ ids) job :=
    fun job hjob hid => ⟨(hjob hid).1, (hjob hid).2.imp_right
      fun hstatus => hstatus.imp_right fun hfailed => ⟨hfailed.1, List.mem_append_right _ hfailed.2⟩⟩
  rcases restart_eq_some hdistinct hrestart with ⟨-, records, hfile, hs'⟩ | ⟨-, rfl⟩
  · have htable : ∀ id' job, s'.jobs.get? id' = some job →
        LateRecord id t (s.recoveryFailures s' ++ ids) job := by
      intro id' job hjob hid
      obtain ⟨record, hrecord, rfl, rfl, -⟩ := hs'.get?_iff.mp hjob
      have hsub := Job.toSubmission_recovered now recovers record
      have hid₀ : record.jobId = id := by rw [← hid, hsub]
      obtain ⟨hpast, hstatus⟩ := h.records.file records hfile record hrecord hid₀
      refine ⟨(pastBoundary_congr hsub t).trans hpast, ?_⟩
      rcases hstatus with hqueued | hof | ⟨hfailed, hmem⟩
      · rcases recovered_of_queued hqueued with hback | hfailed
        · exact Or.inl hback
        · refine Or.inr (Or.inr ⟨hfailed, List.mem_append_left _ ?_⟩)
          unfold Service.recoveryFailures
          rw [hfile]
          refine List.mem_map.mpr ⟨record, List.mem_filter.mpr ⟨hrecord, ?_⟩, hid₀⟩
          rw [hjob]
          simp [hqueued, hfailed]
      · have hterminal : record.status.terminal = true := by
          cases hrecordStatus : record.status <;> rw [hrecordStatus] at hof <;> first | rfl | cases hof
        rw [Job.recovered_of_terminal hterminal]
        exact Or.inr (Or.inl hof)
      · have hterminal : record.status.terminal = true := by
          rw [hfailed]
          rfl
        rw [Job.recovered_of_terminal hterminal]
        exact Or.inr (Or.inr ⟨hfailed, List.mem_append_right _ hmem⟩)
    refine ⟨⟨htable, fun records' hrecords' record hrecord => ?_⟩, ?_⟩
    · rcases hs'.file with hsaved | ⟨hold, -⟩
      · rw [hsaved] at hrecords'
        obtain rfl := Option.some.inj hrecords'
        obtain ⟨id', job, hget, rfl⟩ := mem_snapshot hrecord
        exact htable id' job hget
      · rw [hold] at hrecords'
        obtain rfl := Option.some.inj hrecords'
        exact hmono record (h.records.file records hfile record hrecord)
    · rw [hs'.idle.runners]
      exact fun _ hr => nomatch hr
  · exact ⟨⟨fun _ _ hget => (nomatch hget), fun records hrecords record hrecord =>
      hmono record (h.records.file records hrecords record hrecord)⟩, fun _ hr => nomatch hr⟩

/-- **One step** keeps a late job from starting, if it does not take it. -/
theorem isLate_fire {n : Node} (hn : NodeCoherent n) (hid : id ∈ n.drawn)
    (hleaves : step.Leaves n.service id) (h : n.service.IsLate id t ids) :
    (fire cfg n step).service.IsLate id t (step.recoveryFailures cfg n.service ++ ids) := by
  have hmono : ∀ {s : Service} (ids' : List JobId), s.IsLate id t ids → s.IsLate id t (ids' ++ ids) := by
    intro s ids' hs
    have hrecord : ∀ job, LateRecord id t ids job → LateRecord id t (ids' ++ ids) job :=
      fun job hjob heq => ⟨(hjob heq).1, (hjob heq).2.imp_right
        fun hstatus => hstatus.imp_right fun hfailed => ⟨hfailed.1, List.mem_append_right _ hfailed.2⟩⟩
    exact ⟨⟨fun id' job hjob => hrecord job (hs.records.table id' job hjob),
      fun records hrecords record hmem => hrecord record (hs.records.file records hrecords record hmem)⟩,
      hs.idle⟩
  rcases fire_cases cfg n step with heq | ⟨now, recovers, s, rfl, hs, heq⟩ | ⟨hnew, heq⟩ <;> rw [heq]
  · exact hmono _ h
  · have hfailures : (Step.restart now recovers).recoveryFailures cfg n.service =
        n.service.recoveryFailures s := by
      unfold Step.recoveryFailures
      dsimp only
      rw [hs]
      rfl
    rw [hfailures]
    exact h.restart hn.sound.sound.known.fileDistinct hs
  · refine hmono _ ?_
    exact (fire_edited cfg n.service step).keeps h fun a b ha hedit =>
      h.edit hleaves hn.coherent.keyed (fun hmem => hnew id hmem hid) ha hedit

/-! ## Started jobs -/

/-- The record, if it is of this job, was not past its boundary at `t`. -/
def TimelyRecord (e : JobId × ℤ) (job : Job) : Prop := job.jobId = e.1 → job.pastBoundary e.2 = false

theorem timely_of_submission {e : JobId × ℤ} (h : job'.toSubmission = job.toSubmission)
    (hjob : TimelyRecord e job) : TimelyRecord e job' := by
  intro hid
  rw [pastBoundary_congr h]
  exact hjob (by rw [← hid, h])

/-- The boundary of a started job does not move. -/
theorem timelyRecord_fire {n : Node} {e : JobId × ℤ} (hn : NodeCoherent n) (hid : e.1 ∈ n.drawn)
    (h : n.service.Records (TimelyRecord e)) : (fire cfg n step).service.Records (TimelyRecord e) := by
  rcases fire_cases cfg n step with heq | ⟨now, recovers, s, rfl, hs, heq⟩ | ⟨hnew, heq⟩ <;> rw [heq]
  · exact h
  · refine h.restart (fun job hjob => hjob) hn.sound.sound.known.fileDistinct
      (fun _ _ record _ hrecord => ?_) hs
    exact timely_of_submission (Job.toSubmission_recovered now recovers record) hrecord
  · refine h.fire (fun job hjob => hjob)
      (fun job job' hjob hedit => timely_of_submission hedit.submission hjob) ?_
    rintro now id request job key rfl hprepared hid'
    obtain ⟨m, expiresAt, -, rfl⟩ := hprepared.job
    have heq : id = e.1 := hid'
    exact absurd hid (heq ▸ hnew id rfl)

/-- A job that is taken in time. -/
theorem NodeCoherent.timely {n : Node} {e : JobId × ℤ} (h : NodeCoherent n) (hintime : step.InTime n.service)
    (hstart : step.startsAt n.service = some e) :
    e.1 ∈ n.drawn ∧ n.service.Records (TimelyRecord e) := by
  unfold Step.startsAt at hstart
  obtain ⟨job, htakes, hstart⟩ := Option.bind_eq_some_iff.mp hstart
  obtain ⟨now, hnow, rfl⟩ := Option.map_eq_some_iff.mp hstart
  have hpast := hintime job now htakes hnow
  obtain ⟨_, _, _, id, _, ht⟩ := takes_eq_some htakes
  have hid : job.jobId = id := h.coherent.keyed id job ht.record
  subst hid
  refine ⟨h.sound.sound.known.jobs _ job ht.record, ?_, ?_⟩
  · intro id' job' hjob' hid'
    have hkeyed := h.coherent.keyed id' job' hjob'
    have heq : id' = job.jobId := hkeyed.symm.trans hid'
    rw [heq] at hjob'
    rw [← Option.some.inj (ht.record.symm.trans hjob')]
    exact hpast
  · intro records hrecords record hrecord hid'
    have hid' : record.jobId = job.jobId := hid'
    rw [pastBoundary_congr (h.coherent.submission records hrecords record hrecord job (hid' ▸ ht.record))]
    exact hpast

/-! ## The boundary in a run -/

/-- The clock does not go back. -/
def Watch.ClockGoesOn (x : Watch) (step : Step) : Prop := ∀ t ∈ x.clock, ∀ now ∈ step.reading, t ≤ now

/-- What a run in time keeps. -/
structure Watch.InTime (x : Watch) : Prop where
  coherent : NodeCoherent x.node
  started : ∀ e ∈ x.starts, e.1 ∈ x.node.drawn ∧ x.node.service.Records (TimelyRecord e)
  late : ∀ id ∈ x.late, id ∈ x.node.drawn ∧
    ∃ t, (∃ c ∈ x.clock, t ≤ c) ∧ x.node.service.IsLate id t x.unrecovered

theorem drawn_fire {n : Node} (h : id ∈ n.drawn) : id ∈ (fire cfg n step).drawn := by
  rcases fire_cases cfg n step with heq | ⟨now, recovers, s, -, -, heq⟩ | ⟨-, heq⟩ <;> rw [heq]
  · exact h
  · exact h
  · exact List.mem_append_right _ h

/-- A late job is not taken by a step in time. -/
theorem leaves_of_inTime {n : Node} (hlate : n.service.IsLate id t ids)
    (htime : ∀ now ∈ step.reading, t ≤ now) (hintime : step.InTime n.service) :
    step.Leaves n.service id := by
  intro job htakes hid
  obtain ⟨now, q, admission, id', rfl, ht⟩ := takes_eq_some htakes
  have hpast := (hlate.records.table id' job ht.record hid).1
  have hnow := hintime job now htakes rfl
  rw [pastBoundary_mono hpast (htime now rfl)] at hnow
  cases hnow

/-- **One step** in time. -/
theorem Watch.InTime.fire {x : Watch} (h : x.InTime) (hclock : x.ClockGoesOn step)
    (hintime : step.InTime x.node.service) : (x.fire cfg step).InTime := by
  have hlate : ∀ id t, id ∈ x.node.drawn → (∀ now ∈ step.reading, t ≤ now) →
      x.node.service.IsLate id t x.unrecovered → id ∈ (x.fire cfg step).node.drawn ∧
        (x.fire cfg step).node.service.IsLate id t (x.fire cfg step).unrecovered := by
    intro id t hid htime hid'
    exact ⟨drawn_fire hid, isLate_fire h.coherent hid (leaves_of_inTime hid' htime hintime) hid'⟩
  refine ⟨h.coherent.fire step, fun e he => ?_, fun id hid => ?_⟩
  · have hpre : e.1 ∈ x.node.drawn ∧ x.node.service.Records (TimelyRecord e) := by
      rcases List.mem_append.mp he with hnew | hold
      · exact h.coherent.timely hintime (Option.mem_toList.mp hnew)
      · exact h.started e hold
    exact ⟨drawn_fire hpre.1, timelyRecord_fire h.coherent hpre.1 hpre.2⟩
  · rcases List.mem_append.mp hid with hnew | hold
    · -- found in this step
      rcases hreading : step.reading with _ | now
      · rw [hreading] at hnew
        cases hnew
      · rw [hreading] at hnew
        have hdrawn : id ∈ x.node.drawn := by
          obtain ⟨job, hjob, -⟩ := mem_overdue_iff.mp hnew
          exact h.coherent.sound.sound.known.jobs id job hjob
        have htime : ∀ now' ∈ step.reading, now ≤ now' := by
          intro now' hnow'
          rw [hreading] at hnow'
          exact le_of_eq (Option.some.inj hnow')
        obtain ⟨hid, hpost⟩ := hlate id now hdrawn htime (h.coherent.isLate hnew)
        refine ⟨hid, now, ⟨now, ?_, le_rfl⟩, hpost⟩
        show now ∈ step.reading.or x.clock
        rw [hreading]
        rfl
    · obtain ⟨hdrawn, t, ⟨c, hc, hle⟩, hpre⟩ := h.late id hold
      obtain ⟨hid, hpost⟩ := hlate id t hdrawn (fun now hnow => hle.trans (hclock c hc now hnow)) hpre
      refine ⟨hid, t, ?_, hpost⟩
      show ∃ c ∈ step.reading.or x.clock, t ≤ c
      rcases hreading : step.reading with _ | now
      · exact ⟨c, hc, hle⟩
      · exact ⟨now, rfl, hle.trans (hclock c hc now hreading)⟩

theorem Watch.InTime.boundaryKept {x : Watch} (h : x.InTime) : x.BoundaryKept where
  started := fun e he job hjob => (h.started e he).2.table e.1 job hjob (h.coherent.coherent.keyed e.1 job hjob)
  ended := by
    intro id hid job hjob
    obtain ⟨-, t, -, hlate⟩ := h.late id hid
    obtain ⟨-, hstatus⟩ := hlate.records.table id job hjob (h.coherent.coherent.keyed id job hjob)
    rcases hstatus with hqueued | hof | hfailed
    · exact Or.inl hqueued
    · cases hs : job.status with
      | expiredWaitBudget => exact Or.inr (Or.inl rfl)
      | cancelled => exact Or.inr (Or.inr (Or.inl rfl))
      | _ =>
        rw [hs] at hof
        cases hof
    · exact Or.inr (Or.inr (Or.inr hfailed))

/-- A step that keeps the boundary is in time. -/
theorem inTime_of_boundaryKept {x : Watch} (h : NodeCoherent x.node) (hkept : (x.fire cfg step).BoundaryKept) :
    step.InTime x.node.service := by
  intro job now htakes hnow
  have hstart : (job.jobId, now) ∈ (x.fire cfg step).starts := by
    refine List.mem_append_left _ (Option.mem_toList.mpr ?_)
    unfold Step.startsAt
    rw [htakes, hnow]
    rfl
  obtain ⟨now', q, admission, id, rfl, ht⟩ := takes_eq_some htakes
  have hid : job.jobId = id := h.coherent.keyed id job ht.record
  have hjobs : (Queue.fire cfg x.node (.decide now' q admission)).service.jobs =
      x.node.service.jobs.set id (startedJob now' job) := jobs_fire_of_takes ht
  refine hkept.started _ hstart (startedJob now' job) ?_
  show (Queue.fire cfg x.node (.decide now' q admission)).service.jobs.get? job.jobId = _
  rw [hjobs, hid, OrderedDict.get?_set_self]

/-- The readings of a run that never go back. -/
theorem clockGoesOn_along {x : Watch} {steps : List Step}
    (h : (steps.filterMap Step.reading).Pairwise (· ≤ ·))
    (hclock : ∀ t ∈ x.clock, ∀ now ∈ steps.filterMap Step.reading, t ≤ now) :
    Run.Along (Watch.fire cfg) Watch.ClockGoesOn x steps := by
  induction steps generalizing x with
  | nil => trivial
  | cons step steps ih =>
    have hrest : ∀ now ∈ steps.filterMap Step.reading, now ∈ (step :: steps).filterMap Step.reading := by
      intro now hnow
      obtain ⟨step', hstep', hreading⟩ := List.mem_filterMap.mp hnow
      exact List.mem_filterMap.mpr ⟨step', List.mem_cons_of_mem _ hstep', hreading⟩
    refine ⟨fun t ht now hnow => hclock t ht now ?_, ih ?_ ?_⟩
    · exact List.mem_filterMap.mpr ⟨step, List.mem_cons_self, hnow⟩
    · exact h.sublist ((List.sublist_cons_self step steps).filterMap _)
    · intro t ht now hnow
      have ht : t ∈ step.reading.or x.clock := ht
      rcases hreading : step.reading with _ | now'
      · rw [hreading] at ht
        exact hclock t ht now (hrest now hnow)
      · rw [hreading] at ht
        obtain rfl := Option.some.inj ht
        rw [List.filterMap_cons_some hreading] at h
        exact (List.pairwise_cons.mp h).1 now hnow

/-- A job that may wait five seconds and is taken at `now`. -/
def takenAt (now : ℤ) : List Step := [
  .enqueue 1767225600000000 1
    { queue := "cloud", importance := "high", queueIntent := { maxWaitSeconds := some 5 } },
  .attempt .cloud,
  .decide now .cloud { content := [("allowed", .bool true)] }]

theorem inTime_takenAt :
    Run.Along (fire {}) (fun n step => step.InTime n.service) {} (takenAt 1767225605000000) := by
  refine ⟨fun _ _ h => (nomatch h), fun _ _ h => (nomatch h), fun job now htakes hnow => ?_, trivial⟩
  have hintime : (((run {} ((takenAt 1767225605000000).take 2)).service.takenFrom .cloud
      { content := [("allowed", .bool true)] }).all fun job => !job.pastBoundary 1767225605000000) = true := by
    decide +kernel
  obtain rfl := Option.some.inj hnow
  have hjob := (Option.all_eq_true _ _).mp hintime job htakes
  rwa [Bool.not_eq_true'] at hjob

end Queue
end HexeAiNode
