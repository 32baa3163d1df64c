import HexeAiNode.Queue.Records

/-!
# Terminal records and their retention time

A job that becomes terminal is given a new `expires_at`, and a deadline pass deletes it from then on.  The
load of the state file is the exception: it ends the jobs that were queued or running without a new
`expires_at`, so their records live as long as `enqueue` foresaw, or are deleted in the same block.

`terminal_record_kept` is about runs in which every reading of the clock leaves room for the retention
time, and in which every start finds the records of the table in its file and enough time left to the
records that it ends.
-/

namespace HexeAiNode
namespace Queue

open Py Execution StoreAction

variable {cfg : Config} {now t : ℤ} {s s' : Service} {step : Step} {id : JobId} {job : Job}

/-- The retention time, in microseconds. -/
def Config.retention (cfg : Config) : ℤ := cfg.jobTtl * 1000000

/-- The configured time, where it is longer than the minimum the service insists on, and never less. -/
theorem Config.jobTtlSeconds_le (cfg : Config) : cfg.jobTtlSeconds * 1000000 ≤ cfg.retention := by
  unfold retention jobTtl
  omega

theorem Config.retention_pos (cfg : Config) : 0 < cfg.retention := by
  unfold retention jobTtl
  omega

/-- The job has a terminal record. -/
def Service.ended (id : JobId) (s : Service) : Bool := (s.jobs.get? id).any fun job => job.status.terminal

/-- The job has a terminal record, which does not expire before `t`. -/
def Service.retains (id : JobId) (t : ℤ) (s : Service) : Bool :=
  (s.jobs.get? id).any fun job => job.status.terminal && decide (t ≤ job.expiresAt)

/-- The records that a start would read. -/
def Service.persistedRecords (cfg : Config) (s : Service) : List Job :=
  if cfg.statePath then s.stateFile.getD [] else []

/-- The step ends the job: it has a terminal record afterwards, or its record is gone. -/
def EndsIn (cfg : Config) (before : List Step) (step : Step) (id : JobId) : Prop :=
  (run cfg before).service.ended id = false ∧
    ((run cfg (before ++ [step])).service.ended id = true ∨
      ((run cfg before).service.jobs.get? id).isSome = true ∧
        (run cfg (before ++ [step])).service.jobs.get? id = none)

/-- A job that the step ends at `t` has a record until `t` plus the retention time. -/
def RecordKept (cfg : Config) (before : List Step) (step : Step) (after : List Step) (id : JobId) :
    Prop :=
  EndsIn cfg before step id → ∃ t ∈ step.reading,
    (∀ step' ∈ after, ∀ now ∈ step'.reading, now < t + cfg.retention) →
      (run cfg (before ++ step :: after)).service.retains id (t + cfg.retention) = true

/-- The clock leaves room for the retention time; a job that has ended is not ended again with an earlier
expiry time; a start finds the records of the table, and those that it ends last long enough. -/
def KeepsRecords (cfg : Config) (n : Node) : Step → Prop
  | .restart now _ => n.service.persistedRecords cfg = n.service.snapshot ∧
      ∀ id job, n.service.jobs.get? id = some job → job.status.terminal = false →
        now + cfg.retention ≤ job.expiresAt
  | .settle now task => Fits now cfg.jobTtl ∧ ∀ r job, n.service.runners[task]? = some r →
      n.service.jobs.get? r.jobId = some job → job.status.terminal = true →
        job.expiresAt ≤ now + cfg.retention
  | step => ∀ now ∈ step.pass, Fits now cfg.jobTtl

theorem addSeconds_jobTtl_eq_ok {expiresAt : ℤ} (h : addSeconds now cfg.jobTtl = .ok expiresAt) :
    expiresAt = now + cfg.retention := (addSeconds_eq_ok_iff.mp h).2

theorem addSeconds_jobTtl_ne_error {e : Exc} (h : Fits now cfg.jobTtl) :
    addSeconds now cfg.jobTtl ≠ .error e := by
  rw [addSeconds_of_fits h]
  exact fun h => nomatch h

/-! ## Steps of the process -/

/-- The place of a job in the table, seen as in `Service.retains`. -/
def Retained (t : ℤ) (o : Option Job) : Prop :=
  ∃ job ∈ o, job.status.terminal = true ∧ t ≤ job.expiresAt

theorem retains_iff : s.retains id t = true ↔ Retained t (s.jobs.get? id) := by
  unfold Service.retains Retained
  rcases s.jobs.get? id with _ | job <;> simp

theorem ended_iff : s.ended id = true ↔ ∃ job ∈ s.jobs.get? id, job.status.terminal = true := by
  unfold Service.ended
  rcases s.jobs.get? id with _ | job <;> simp

/-- A record that has ended in this step has its time from now on. -/
def Timely (cfg : Config) (step : Step) (job : Job) : Prop :=
  job.status.terminal = true → ∃ t ∈ step.reading, t + cfg.retention ≤ job.expiresAt

theorem KeepsRecords.fits_pass {n : Node} (h : KeepsRecords cfg n step) (hnow : now ∈ step.pass) :
    Fits now cfg.jobTtl := by
  cases step with
  | enqueue => exact h now hnow
  | cancel => exact h now hnow
  | poll => exact h now hnow
  | startRecovered => exact h now hnow
  | retry => exact h now hnow
  | _ => cases hnow

theorem JobEdit.timely {n : Node} {job' : Job} (hkeeps : KeepsRecords cfg n step)
    (h : JobEdit cfg True n.service step job job') (hjob : Timely cfg step job) :
    Timely cfg step job' := by
  intro hterminal
  cases h with
  | amend hamends =>
    rw [hamends.status] at hterminal
    rw [hamends.expiresAt]
    exact hjob hterminal
  | move => cases hterminal
  | start => cases hterminal
  | endQueued error hnow _ _ hexpires =>
    refine ⟨_, Step.reading_of_pass hnow, ?_⟩
    rw [← addSeconds_jobTtl_eq_ok hexpires]
    exact le_refl _
  | undatedQueued _ hnow _ _ hexpires =>
    exact absurd hexpires (addSeconds_jobTtl_ne_error (hkeeps.fits_pass hnow))
  | finish hstep _ _ _ hexpires hjob' =>
    subst hstep
    refine ⟨_, rfl, ?_⟩
    rw [hjob', ← addSeconds_jobTtl_eq_ok hexpires]
  | undated _ hstep _ _ _ _ hexpires =>
    subst hstep
    exact absurd hexpires (addSeconds_jobTtl_ne_error hkeeps.1)

/-- A job that a step of the process ends is kept from its reading on. -/
theorem timely_fire {n : Node} (hkeeps : KeepsRecords cfg n step)
    (hbefore : n.service.ended id = false) :
    ∀ job ∈ (n.service.fire cfg step).jobs.get? id, Timely cfg step job := by
  refine record_fire (I := fun o => ∀ job ∈ o, Timely cfg step job) ?_ ?_
  · intro job hjob hterminal
    have hended := ended_iff.mpr ⟨job, hjob, hterminal⟩
    rw [hbefore] at hended
    cases hended
  · intro o o' ho hedit
    cases hedit with
    | same => exact ho
    | edit hedit =>
      intro job hjob
      obtain rfl := Option.some.inj hjob
      exact hedit.timely hkeeps (ho _ rfl)
    | drop => exact fun job hjob => nomatch hjob
    | insert _ hprepared =>
      intro job hjob hterminal
      obtain rfl := Option.some.inj hjob
      obtain ⟨n, expiresAt, -, rfl⟩ := hprepared.job
      cases hterminal

/-- It does not leave the table in the same step. -/
theorem present_fire {n : Node} (hkeeps : KeepsRecords cfg n step)
    (hbefore : n.service.ended id = false) (hpresent : (n.service.jobs.get? id).isSome = true) :
    (n.service.fire cfg step).jobs.get? id ≠ none := by
  have htimely : ∃ job ∈ (n.service.fire cfg step).jobs.get? id, Timely cfg step job := by
    refine record_fire (I := fun o => ∃ job ∈ o, Timely cfg step job) ?_ ?_
    · obtain ⟨job, hjob⟩ := Option.isSome_iff_exists.mp hpresent
      refine ⟨job, hjob, fun hterminal => ?_⟩
      have hended := ended_iff.mpr ⟨job, hjob, hterminal⟩
      rw [hbefore] at hended
      cases hended
    · intro o o' ho hedit
      cases hedit with
      | same => exact ho
      | edit hedit =>
        obtain ⟨job, hmem, hjob⟩ := ho
        obtain rfl := Option.some.inj hmem
        exact ⟨_, rfl, hedit.timely hkeeps hjob⟩
      | drop hnow hdue =>
        -- a record whose time has just begun is not due
        obtain ⟨job, hmem, hjob⟩ := ho
        obtain rfl := Option.some.inj hmem
        rw [Job.isDue, Bool.and_eq_true, decide_eq_true_iff] at hdue
        obtain ⟨t, ht, hexpires⟩ := hjob hdue.1
        rw [Step.reading_of_pass hnow] at ht
        obtain rfl := Option.some.inj ht
        have hpos := cfg.retention_pos
        omega
      | insert _ hprepared =>
        refine ⟨_, rfl, fun hterminal => ?_⟩
        obtain ⟨n, expiresAt, -, rfl⟩ := hprepared.job
        cases hterminal
  obtain ⟨job, hjob, -⟩ := htimely
  rw [hjob]
  exact Option.some_ne_none job

/-- A terminal record stays until its time is over. -/
theorem retained_fire {n : Node} (hkeeps : KeepsRecords cfg n step)
    (hretained : Retained t (n.service.jobs.get? id)) (hearly : ∀ now ∈ step.reading, now < t)
    (hnew : ∀ id' ∈ step.drawn, id' ≠ id) :
    Retained t ((n.service.fire cfg step).jobs.get? id) := by
  refine record_fire hretained ?_
  intro o o' ho hedit
  obtain ⟨job, hmem, hterminal, hexpires⟩ := ho
  obtain rfl : o = some job := hmem
  have hqueued : job.status ≠ .queued := by
    intro hqueued
    rw [hqueued] at hterminal
    cases hterminal
  cases hedit with
  | same => exact ⟨job, rfl, hterminal, hexpires⟩
  | edit hedit =>
    refine ⟨_, rfl, ?_⟩
    cases hedit with
    | amend hamends =>
      rw [hamends.status, hamends.expiresAt]
      exact ⟨hterminal, hexpires⟩
    | move _ h => exact absurd h hqueued
    | start _ h => exact absurd h hqueued
    | endQueued _ _ h => exact absurd h hqueued
    | undatedQueued _ _ h => exact absurd h hqueued
    | finish hstep hr hjob hended hadd hjob' =>
      subst hstep
      have hlater := hkeeps.2 _ _ hr hjob hterminal
      refine ⟨hended.terminal, ?_⟩
      rw [hjob', addSeconds_jobTtl_eq_ok hadd]
      exact hexpires.trans hlater
    | undated _ hstep _ _ _ _ hadd =>
      subst hstep
      exact absurd hadd (addSeconds_jobTtl_ne_error hkeeps.1)
  | drop hnow hdue =>
    rw [Job.isDue, Bool.and_eq_true, decide_eq_true_iff] at hdue
    have hlt := hearly _ (Step.reading_of_pass hnow)
    omega
  | insert hstep =>
    subst hstep
    exact absurd rfl (hnew id rfl)

/-! ## Starts -/

/-- A start that finds the table in its file. -/
theorem restart_cases {n : Node} {recovers : JobId → Bool} (hsound : NodeSound False n)
    (hfile : n.service.persistedRecords cfg = n.service.snapshot)
    (hrestart : n.service.restart cfg now recovers = some s') :
    Recovered cfg now recovers n.service.snapshot s' ∨
      (∀ id, n.service.jobs.get? id = none) ∧ ∀ id, s'.jobs.get? id = none := by
  unfold Service.persistedRecords at hfile
  rcases restart_eq_some hsound.sound.known.fileDistinct hrestart with
    ⟨hpath, records, hrecords, hs'⟩ | ⟨hnone, rfl⟩
  · rw [if_pos hpath, hrecords, Option.getD_some] at hfile
    rw [← hfile]
    exact Or.inl hs'
  · have hempty : n.service.snapshot = [] := by
      rw [← hfile]
      rcases hnone with hpath | hnone
      · rw [if_neg (by simp [hpath])]
      · rw [hnone]
        split <;> rfl
    refine Or.inr ⟨fun id => ?_, fun _ => rfl⟩
    rcases hget : n.service.jobs.get? id with _ | job
    · rfl
    · have hmem := persisted_mem_snapshot hget
      rw [hempty] at hmem
      cases hmem

theorem timely_restart {n : Node} {recovers : JobId → Bool} (hsound : NodeSound False n)
    (hkeeps : KeepsRecords cfg n (.restart now recovers))
    (hrestart : n.service.restart cfg now recovers = some s')
    (hbefore : n.service.ended id = false) :
    ∀ job ∈ s'.jobs.get? id, now + cfg.retention ≤ job.expiresAt := by
  intro job hjob
  rcases restart_cases hsound hkeeps.1 hrestart with hs' | ⟨-, hnone⟩
  · obtain ⟨record, hrecord, rfl, rfl, -⟩ := hs'.get?_iff.mp hjob
    obtain ⟨old, hold, rfl⟩ := get?_of_mem_snapshot hsound hrecord
    rw [Job.expiresAt_recovered]
    refine hkeeps.2 old.jobId old hold ?_
    rcases hterminal : old.status.terminal with _ | _
    · rfl
    · have hended : n.service.ended old.jobId = true := ended_iff.mpr ⟨old, hold, hterminal⟩
      rw [show old.persisted.jobId = old.jobId from rfl, hended] at hbefore
      cases hbefore
  · rw [hnone] at hjob
    cases hjob

/-- A record that lasts longer than the start is still there. -/
theorem present_restart {n : Node} {recovers : JobId → Bool} (hsound : NodeSound False n)
    (hfile : n.service.persistedRecords cfg = n.service.snapshot)
    (hrestart : n.service.restart cfg now recovers = some s')
    (hjob : n.service.jobs.get? id = some job) (hexpires : now < job.expiresAt) :
    s'.jobs.get? id = some (job.persisted.recovered now recovers) := by
  rcases restart_cases hsound hfile hrestart with hs' | ⟨hnone, -⟩
  · refine hs'.get?_iff.mpr ⟨job.persisted, persisted_mem_snapshot hjob,
      hsound.sound.agrees.keyed id job hjob, rfl, ?_⟩
    rw [Job.isDue, Job.expiresAt_recovered, Bool.and_eq_false_iff, decide_eq_false_iff_not]
    exact Or.inr (not_le.mpr hexpires)
  · rw [hnone] at hjob
    cases hjob

/-! ## Steps of the node -/

/-- A job that a step ends is kept from the reading of the step on. -/
theorem retains_of_ends {n : Node} (hsound : NodeSound False n) (hkeeps : KeepsRecords cfg n step)
    (hbefore : n.service.ended id = false)
    (hafter : (fire cfg n step).service.ended id = true ∨
      (n.service.jobs.get? id).isSome = true ∧ (fire cfg n step).service.jobs.get? id = none) :
    ∃ t ∈ step.reading, (fire cfg n step).service.retains id (t + cfg.retention) = true := by
  have hunchanged : fire cfg n step ≠ n := by
    intro heq
    rw [heq, hbefore] at hafter
    rcases hafter with hended | ⟨hsome, hnone⟩
    · cases hended
    · rw [hnone] at hsome
      cases hsome
  by_cases hstep : ∃ now recovers, step = .restart now recovers
  · obtain ⟨now, recovers, rfl⟩ := hstep
    refine ⟨now, rfl, ?_⟩
    rcases hrestart : n.service.restart cfg now recovers with _ | s'
    · exact absurd (fire_restart_of_none hrestart) hunchanged
    rw [fire_restart_of_some hrestart] at hafter ⊢
    rcases hafter with hended | ⟨hsome, hnone⟩
    · obtain ⟨job, hjob, hterminal⟩ := ended_iff.mp hended
      exact retains_iff.mpr ⟨job, hjob, hterminal, timely_restart hsound hkeeps hrestart hbefore job hjob⟩
    · obtain ⟨job, hjob⟩ := Option.isSome_iff_exists.mp hsome
      have hactive : job.status.terminal = false := by
        rcases hterminal : job.status.terminal with _ | _
        · rfl
        · rw [ended_iff.mpr ⟨job, hjob, hterminal⟩] at hbefore
          cases hbefore
      have hlong := hkeeps.2 id job hjob hactive
      have hpos := cfg.retention_pos
      rw [present_restart hsound hkeeps.1 hrestart hjob (by omega)] at hnone
      cases hnone
  · rcases fire_of_not_restart (fun now recovers heq => hstep ⟨now, recovers, heq⟩) with heq | ⟨-, heq⟩
    · exact absurd heq hunchanged
    rw [heq] at hafter ⊢
    rcases hafter with hended | ⟨hsome, hnone⟩
    · obtain ⟨job, hjob, hterminal⟩ := ended_iff.mp hended
      obtain ⟨t, ht, hexpires⟩ := timely_fire hkeeps hbefore job hjob hterminal
      exact ⟨t, ht, retains_iff.mpr ⟨job, hjob, hterminal, hexpires⟩⟩
    · exact absurd hnone (present_fire hkeeps hbefore hsome)

/-- A step before the end of its time does not remove a terminal record. -/
theorem retains_fire {n : Node} (hsound : NodeSound False n) (hkeeps : KeepsRecords cfg n step)
    (h : n.service.retains id t = true) (hearly : ∀ now ∈ step.reading, now < t) :
    (fire cfg n step).service.retains id t = true := by
  have hretained := retains_iff.mp h
  by_cases hstep : ∃ now recovers, step = .restart now recovers
  · obtain ⟨now, recovers, rfl⟩ := hstep
    rcases hrestart : n.service.restart cfg now recovers with _ | s'
    · rwa [fire_restart_of_none hrestart]
    rw [fire_restart_of_some hrestart]
    obtain ⟨job, hjob, hterminal, hexpires⟩ := hretained
    have hnow := hearly now rfl
    have hkept := present_restart hsound hkeeps.1 hrestart hjob (by omega)
    rw [Job.recovered_of_terminal (show job.persisted.status.terminal = true from hterminal)] at hkept
    exact retains_iff.mpr ⟨_, hkept, hterminal, hexpires⟩
  · rcases fire_of_not_restart (fun now recovers heq => hstep ⟨now, recovers, heq⟩) with heq | ⟨hnew, heq⟩
    · rwa [heq]
    rw [heq]
    refine retains_iff.mpr (retained_fire hkeeps hretained hearly ?_)
    rintro id' hid' rfl
    obtain ⟨job, hjob, -⟩ := hretained
    exact hnew id' hid' (hsound.sound.known.jobs id' job hjob)

/-! ## Runs -/

/-- A job of the first of January 2026. -/
def newYearJob : Step :=
  .enqueue 1767225600000000 1 { queue := "local", importance := "normal" }

end Queue
end HexeAiNode
