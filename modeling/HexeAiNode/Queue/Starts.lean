import HexeAiNode.Queue.Records

/-!
# Which step starts a job

A job starts in one kind of step only, the verdict of a dispatcher that lets the head of its heap through:
`Step.takes` is that job.  What such a step does to the table is `jobs_fire_of_takes`; under every other step
a job that runs was running before (`Service.Resumes`).
-/

namespace HexeAiNode
namespace Queue

open Py Execution StoreAction

variable {cfg : Config} {now : ℤ} {faulty : Prop} {s₀ s s' a b : Service} {step : Step}
  {id : JobId} {job job' : Job} {q : QueueKey} {admission : Payload}

/-! ## The job that is taken -/

/-- The job that the dispatcher of a queue takes on a verdict. -/
def Service.takenFrom (q : QueueKey) (admission : Payload) (s : Service) : Option Job :=
  match s.dispatchers q with
  | some (.admission id) =>
    if ∃ e ∈ (s.queues q).head?, e.jobId = id then
      (s.jobs.get? id).filter fun job => job.status = .queued && (admission.content.get "allowed").truthy
    else none
  | _ => none

/-- The job that a step takes. -/
def Step.takes (s : Service) : Step → Option Job
  | .decide _ q admission => s.takenFrom q admission
  | _ => none

theorem takenFrom_eq_some_iff : s.takenFrom q admission = some job ↔ ∃ id, s.Takes q admission id job := by
  unfold Service.takenFrom
  constructor
  · intro h
    split at h
    · next id hasked =>
      split at h
      · next hhead =>
        obtain ⟨e, he, heid⟩ := hhead
        obtain ⟨hrecord, hjob⟩ := Option.filter_eq_some_iff.mp h
        simp only [Bool.and_eq_true, decide_eq_true_eq] at hjob
        exact ⟨id, hasked, ⟨e, he, heid⟩, hrecord, hjob.1, hjob.2⟩
      · cases h
    · cases h
  · rintro ⟨id, h⟩
    rw [h.asked]
    dsimp only
    rw [if_pos h.head, h.record]
    simp [Option.filter, h.queued, h.allowed]

theorem takes_eq_some (h : step.takes s = some job) :
    ∃ now q admission id, step = .decide now q admission ∧ s.Takes q admission id job := by
  cases step with
  | decide now q admission =>
    obtain ⟨id, hid⟩ := takenFrom_eq_some_iff.mp h
    exact ⟨now, q, admission, id, rfl, hid⟩
  | _ => cases h

/-! ## The verdict -/

/-- The table after the step in which a job is taken, whether its block raises or not. -/
theorem jobs_fire_of_takes (h : s.Takes q admission id job) :
    (s.fire cfg (.decide now q admission)).jobs = s.jobs.set id (startedJob now job) := by
  have hstart : Triple (fun t => t = s) (startHead cfg now q id job)
      (fun _ t => t.jobs = s.jobs.set id (startedJob now job))
      (fun t => t.jobs = s.jobs.set id (startedJob now job)) := by
    have hpersist : Triple (fun t => t.jobs = s.jobs.set id (startedJob now job)) (persistJobs cfg now)
        (fun _ t => t.jobs = s.jobs.set id (startedJob now job))
        (fun t => t.jobs = s.jobs.set id (startedJob now job)) :=
      triple_persistJobs' (fun _ ht => ht) (fun _ ht => ht) fun _ ht => ht
    refine triple_startHead ?_ hpersist fun t ht => ht
    rintro t rfl
    rfl
  have hdecision : (dispatchDecision cfg now q id admission).exec s =
      (startHead cfg now q id job).exec s := by
    obtain ⟨e, hhead, heid⟩ := h.head
    unfold dispatchDecision
    rw [exec_bind, exec_read]
    dsimp only
    rw [hhead]
    dsimp only
    rw [if_neg (not_not.mpr heid), h.record]
    dsimp only
    rw [if_pos h.queued, if_pos h.allowed]
  have hbody : Triple (fun t => t = s) ((Step.decide now q admission).body cfg s)
      (fun _ t => t.jobs = s.jobs.set id (startedJob now job))
      (fun t => t.jobs = s.jobs.set id (startedJob now job)) := by
    unfold Step.body
    dsimp only
    rw [h.asked]
    dsimp only
    rintro t rfl
    rw [hdecision]
    exact hstart t rfl
  refine Triple.store (Triple.recover hbody fun e => ?_) rfl
  exact Triple.update fun t ht => ht

/-! ## Running jobs -/

/-- A job that runs in `s` was running in `s₀` under the same record. -/
def Service.Resumes (s₀ s : Service) : Prop := ∀ id job', s.jobs.get? id = some job' →
  job'.status = .running → ∃ job, s₀.jobs.get? id = some job ∧ job'.toSubmission = job.toSubmission ∧
    job'.queue = job.queue ∧ job.status = .running

/-- No change other than the start of a job makes a job run. -/
theorem Edit.resumes (h : Edit cfg faulty s₀ step a b)
    (hstep : step.takes s₀ = none) (ha : s.Resumes a) : s.Resumes b := by
  intro id job' hget hrunning
  have hrecord := h.record id
  rw [hget] at hrecord
  generalize ho : a.jobs.get? id = o at hrecord
  cases hrecord with
  | same => exact ha id job' ho hrunning
  | @edit job _ hedit =>
    have hof : ∀ {j : Job}, j.status.ofRunner = true → j.status ≠ .running := by
      rintro j hj hrun
      rw [hrun] at hj
      cases hj
    have hterminal : ∀ {status : Status}, status.terminal = true → status ≠ .running := by
      rintro status hj rfl
      cases hj
    cases hedit with
    | amend hamends =>
      obtain ⟨job₀, hjob₀, hsub, hqueue, hrun⟩ := ha id job ho (hamends.status ▸ hrunning)
      exact ⟨job₀, hjob₀, hamends.submission.trans hsub, hamends.queue.trans hqueue, hrun⟩
    | move _ hqueued => cases hrunning
    | start heq _ htakes =>
      rw [heq] at hstep
      rw [show (Step.decide _ _ _).takes s₀ = _ from takenFrom_eq_some_iff.mpr htakes] at hstep
      cases hstep
    | endQueued _ _ _ hend => exact absurd hrunning (hterminal hend)
    | undatedQueued _ _ _ hend => exact absurd hrunning (hterminal hend)
    | finish _ _ _ _ _ _ hstatus => exact absurd hrunning (hof hstatus)
    | undated _ _ _ _ _ _ _ hstatus => exact absurd hrunning (hof hstatus)
  | insert _ hprepared =>
    obtain ⟨n, expiresAt, -, rfl⟩ := hprepared.job
    cases hrunning

/-- **A step that takes no job** starts none. -/
theorem resumes_fire_of_not_takes (h : step.takes s = none) : s.Resumes (s.fire cfg step) :=
  (fire_edited cfg s step).keeps (I := s.Resumes) (fun _ job hget hrunning => ⟨job, hget, rfl, rfl, hrunning⟩)
    fun _ _ ha hedit => hedit.resumes h ha

/-- A start makes no job run. -/
theorem Job.recovered_ne_running {recovers : JobId → Bool} :
    (job.recovered now recovers).status ≠ .running := by
  intro hrunning
  unfold Job.recovered at hrunning
  split at hrunning
  · next hstatus =>
    split at hrunning
    · rw [show ({ job.persisted with runner := true, recovery := _ } : Job).status = job.status from rfl,
        hstatus] at hrunning
      cases hrunning
    · cases hrunning
  · cases hrunning
  · next hstatus => exact absurd hrunning (hstatus ·)

end Queue
end HexeAiNode
