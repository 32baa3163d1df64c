import HexeAiNode.Queue.Machine
import HexeAiNode.Queue.Retention

/-!
# A deadline pass after a deadline pass

A pass goes through the table in order and stops where it raises.  `reached` lists the overdue jobs that it gets to:
those before the first queued job whose boundary cannot be computed.

* A pass changes nothing exactly if it reaches no overdue job (`jobs_after_pass_eq_iff`).
* A job that is moved to the cloud queue keeps its boundary, so the next pass reaches it again, and ends it.

A second pass at the same time therefore changes nothing exactly if the first one moves no job and, where the
retention time of an ended job is no date, finds at most one to end (`second_pass_settles_iff`).
-/

namespace HexeAiNode
namespace Queue

open Py Execution StoreAction

variable {cfg : Config} {now : ℤ} {s s' : Service} {id : JobId} {ids : List JobId} {job job' : Job} {jobs : List Job}

/-! ## The jobs that a pass reaches -/

/-- The boundary of the job lies before `now`. -/
def Job.overdueAt (now : ℤ) (job : Job) : Bool :=
  match job.effectiveDeadline with
  | .ok (some d) => decide (d < now)
  | _ => false

/-- The job would be moved to the cloud queue. -/
def Job.reroutes (job : Job) : Bool := decide (job.queue = .localNode) && job.allowsCloudSpillover

/-- The overdue jobs of a table that a pass reaches. -/
def reached (now : ℤ) (jobs : List Job) : List Job :=
  ((jobs.filter fun job => job.status = .queued).takeWhile fun job => job.effectiveDeadline.isOk).filter
    (Job.overdueAt now)

/-- A pass can be repeated: it moves no job; and if the retention time is no date, so that it stops at the first job
it ends, there is one at most, and its record is not due. -/
structure Settles (cfg : Config) (now : ℤ) (jobs : List Job) : Prop where
  moves : ∀ job ∈ jobs, job.reroutes = false
  ends : Fits now cfg.jobTtl ∨ jobs.length ≤ 1 ∧ ∀ job ∈ jobs, now < job.expiresAt

theorem overdueAt_iff : job.overdueAt now = true ↔ ∃ d, job.effectiveDeadline = .ok (some d) ∧ d < now := by
  unfold Job.overdueAt
  rcases job.effectiveDeadline with e | _ | d <;> simp

theorem overdueAt_congr (h : job'.toSubmission = job.toSubmission) : job'.overdueAt now = job.overdueAt now := by
  unfold Job.overdueAt Job.effectiveDeadline Job.waitBoundary
  rw [h]

theorem effectiveDeadline_congr (h : job'.toSubmission = job.toSubmission) :
    job'.effectiveDeadline = job.effectiveDeadline := by
  unfold Job.effectiveDeadline Job.waitBoundary
  rw [h]

@[simp] theorem reached_nil : reached now [] = [] := rfl

theorem reached_cons_of_not_queued (h : job.status ≠ .queued) : reached now (job :: jobs) = reached now jobs := by
  simp [reached, h]

theorem reached_cons_of_error {e : Exc} (hqueued : job.status = .queued) (h : job.effectiveDeadline = .error e) :
    reached now (job :: jobs) = [] := by
  simp [reached, hqueued, h, Except.isOk, Except.toBool]

theorem reached_cons_of_ok (hqueued : job.status = .queued) (h : job.effectiveDeadline.isOk = true) :
    reached now (job :: jobs) = if job.overdueAt now then job :: reached now jobs else reached now jobs := by
  simp [reached, hqueued, h, List.filter_cons]

theorem isOk_of_overdueAt (h : job.overdueAt now = true) : job.effectiveDeadline.isOk = true := by
  obtain ⟨d, hd, -⟩ := overdueAt_iff.mp h
  rw [hd]
  rfl

/-! ## What a pass does to one job -/

/-- What the pass over one job ends with, and what it leaves. -/
inductive Visited (cfg : Config) (now : ℤ) (s : Service) (id : JobId) : Except Exc Bool × Service → Prop
  | unknown (hjob : s.jobs.get? id = none) : Visited cfg now s id (.ok false, s)
  | idle (job : Job) (hjob : s.jobs.get? id = some job)
      (hidle : job.status = .queued → job.effectiveDeadline.isOk = true ∧ job.overdueAt now = false) :
      Visited cfg now s id (.ok false, s)
  | unreadable (job : Job) (e : Exc) (hjob : s.jobs.get? id = some job) (hqueued : job.status = .queued)
      (hdeadline : job.effectiveDeadline = .error e) : Visited cfg now s id (.error e, s)
  | moved (job : Job) (result : Except Exc Bool) (s' : Service) (hjob : s.jobs.get? id = some job)
      (hqueued : job.status = .queued) (hover : job.overdueAt now = true) (hmoves : job.reroutes = true)
      (hjobs : s'.jobs = s.jobs.set id (movedJob job)) : Visited cfg now s id (result, s')
  | ended (job : Job) (error : JobError) (hjob : s.jobs.get? id = some job) (hqueued : job.status = .queued)
      (hover : job.overdueAt now = true) (hstays : job.reroutes = false) (hfits : Fits now cfg.jobTtl) :
      Visited cfg now s id (.ok true,
        s.takeOut id job (closedJob (now + cfg.retention) error (endedJob now .expiredWaitBudget job)))
  | stopped (job : Job) (e : Exc) (hjob : s.jobs.get? id = some job) (hqueued : job.status = .queued)
      (hover : job.overdueAt now = true) (hstays : job.reroutes = false) (hfits : ¬Fits now cfg.jobTtl) :
      Visited cfg now s id (.error e, s.takeOut id job (endedJob now .expiredWaitBudget job))

theorem jobs_rerouteToCloud (cfg : Config) (now : ℤ) (s : Service) (id : JobId) (job : Job) :
    ((rerouteToCloud cfg now id job).exec s).2.jobs = s.jobs.set id (movedJob job) := by
  unfold rerouteToCloud
  rw [exec_bind, exec_update]
  dsimp only
  rw [exec_bind, exec_ofResult]
  rcases deadlineSortValue cfg now job.queueIntent with e | key
  · rfl
  · dsimp only
    rw [exec_update]
    simp

/-- **One job** of a pass. -/
theorem visited_monitorJob (cfg : Config) (now : ℤ) (s : Service) (id : JobId) :
    Visited cfg now s id ((monitorJob cfg now id).exec s) := by
  unfold monitorJob
  rw [exec_bind, exec_read]
  dsimp only
  split
  · next hjob => exact .unknown hjob
  next job hjob =>
  split
  · next hqueued =>
    rw [exec_bind, exec_ofResult]
    rcases hdeadline : job.effectiveDeadline with e | deadline
    · exact .unreadable job e hjob hqueued hdeadline
    dsimp only
    split
    · next hin =>
      refine .idle job hjob fun _ => ⟨by rw [hdeadline]; rfl, ?_⟩
      unfold Job.overdueAt
      rw [hdeadline]
      rcases deadline with _ | d
      · rfl
      · simpa using hin
    · next hout =>
      have hover : job.overdueAt now = true := by
        rcases deadline with _ | d
        · simp at hout
        · exact overdueAt_iff.mpr ⟨d, hdeadline, by simpa using hout⟩
      split
      · next hspill =>
        have hmoves : job.reroutes = true := by simp [Job.reroutes, hspill.1, hspill.2]
        have hjobs := jobs_rerouteToCloud cfg now s id job
        rw [exec_bind]
        rcases hexec : (rerouteToCloud cfg now id job).exec s with ⟨e | u, t⟩ <;> rw [hexec] at hjobs
        · exact .moved job _ t hjob hqueued hover hmoves hjobs
        · exact .moved job _ t hjob hqueued hover hmoves hjobs
      · next hspill =>
        have hstays : job.reroutes = false := by simpa [Job.reroutes] using hspill
        unfold expireJob endQueued
        rw [exec_bind, exec_bind, exec_update]
        dsimp only
        rw [exec_bind, exec_ofResult]
        by_cases hfits : Fits now cfg.jobTtl
        · rw [addSeconds_of_fits hfits]
          dsimp only
          rw [exec_update, Service.setJob_takeOut]
          exact .ended job _ hjob hqueued hover hstays hfits
        · obtain ⟨e, he⟩ := addSeconds_of_not_fits hfits
          rw [he]
          exact .stopped job e hjob hqueued hover hstays hfits
  · next hqueued => exact .idle job hjob fun h => absurd h hqueued

/-! ## What a pass does to the table -/

/-- The pass over one job touches that job only. -/
theorem get?_monitorJob (cfg : Config) (now : ℤ) (s : Service) {id' : JobId} (hne : id' ≠ id) :
    ((monitorJob cfg now id).store s).jobs.get? id' = s.jobs.get? id' := by
  have hvisit := visited_monitorJob cfg now s id
  unfold store
  generalize (monitorJob cfg now id).exec s = visit at hvisit
  cases hvisit with
  | unknown | idle | unreadable => rfl
  | moved job result s' hjob hqueued hover hmoves hjobs => rw [hjobs, OrderedDict.get?_set_of_ne _ _ hne]
  | ended | stopped => rw [Service.get?_takeOut, if_neg hne]

/-- Writing under a key that is there keeps the keys. -/
theorem keys_set_of_get? {d : OrderedDict JobId Job} (h : d.get? id = some job) (job' : Job) :
    (d.set id job').keys = d.keys := by
  obtain ⟨entries, hdistinct⟩ := d
  show Assoc.keys (Assoc.set entries id job') = Assoc.keys entries
  have hmem : id ∈ Assoc.keys entries := Assoc.mem_keys_of_get? h
  clear h hdistinct
  induction entries with
  | nil => cases hmem
  | cons e entries ih =>
    obtain ⟨k, a⟩ := e
    by_cases hk : k = id
    · simp [Assoc.set, Assoc.keys, hk]
    · rw [Assoc.set, if_neg hk]
      exact congrArg (k :: ·) (ih ((List.mem_cons.mp hmem).resolve_left (Ne.symm hk)))

theorem keys_monitorJob (cfg : Config) (now : ℤ) (s : Service) (id : JobId) :
    ((monitorJob cfg now id).store s).jobs.keys = s.jobs.keys := by
  have hvisit := visited_monitorJob cfg now s id
  unfold store
  generalize (monitorJob cfg now id).exec s = visit at hvisit
  cases hvisit with
  | unknown | idle | unreadable => rfl
  | moved job result s' hjob hqueued hover hmoves hjobs => rw [hjobs, keys_set_of_get? hjob]
  | ended job error hjob => exact keys_set_of_get? hjob _
  | stopped job e hjob => exact keys_set_of_get? hjob _

/-- A pass goes on after a job unless that raises. -/
theorem store_monitorJobs_cons (cfg : Config) (now : ℤ) (s : Service) (id : JobId) (ids : List JobId) :
    (monitorJobs cfg now (id :: ids)).store s =
    match (monitorJob cfg now id).exec s with
    | (.ok _, t) => (monitorJobs cfg now ids).store t
    | (.error _, t) => t := by
  unfold store
  rw [monitorJobs, exec_bind]
  rcases (monitorJob cfg now id).exec s with ⟨e | changed, t⟩
  · rfl
  · dsimp only
    rw [exec_bind]
    rcases (monitorJobs cfg now ids).exec t with ⟨e | changed', t'⟩ <;> rfl

theorem get?_monitorJobs_of_not_mem (cfg : Config) (now : ℤ) (s : Service) {id' : JobId} (hid : id' ∉ ids) :
    ((monitorJobs cfg now ids).store s).jobs.get? id' = s.jobs.get? id' := by
  induction ids generalizing s with
  | nil => rfl
  | cons id ids ih =>
    rw [List.mem_cons, not_or] at hid
    have hfirst := get?_monitorJob cfg now s hid.1
    rw [store_monitorJobs_cons]
    unfold store at hfirst
    rcases hexec : (monitorJob cfg now id).exec s with ⟨e | changed, t⟩ <;> rw [hexec] at hfirst
    · exact hfirst
    · exact (ih _ hid.2).trans hfirst

theorem keys_monitorJobs : ((monitorJobs cfg now ids).store s).jobs.keys = s.jobs.keys := by
  induction ids generalizing s with
  | nil => rfl
  | cons id ids ih =>
    have hfirst := keys_monitorJob cfg now s id
    rw [store_monitorJobs_cons]
    unfold store at hfirst
    rcases hexec : (monitorJob cfg now id).exec s with ⟨e | changed, t⟩ <;> rw [hexec] at hfirst
    · exact hfirst
    · exact ih.trans hfirst

/-- The records of a list of jobs. -/
abbrev Service.records (s : Service) (ids : List JobId) : List Job := ids.filterMap s.jobs.get?

theorem records_congr (h : ∀ id ∈ ids, s'.jobs.get? id = s.jobs.get? id) : s'.records ids = s.records ids :=
  List.filterMap_congr h

theorem records_cons (hjob : s.jobs.get? id = some job) : s.records (id :: ids) = job :: s.records ids := by
  simp [Service.records, hjob]

theorem records_keys (s : Service) : s.records s.jobs.keys = s.jobs.values := by
  unfold Service.records OrderedDict.keys OrderedDict.values Assoc.keys
  rw [List.filterMap_map, ← List.filterMap_eq_map]
  exact List.filterMap_congr fun e he => OrderedDict.get?_of_mem_entries he

/-- **A pass that reaches no overdue job** changes nothing. -/
theorem store_monitorJobs_of_reached_nil (h : reached now (s.records ids) = []) :
    (monitorJobs cfg now ids).store s = s := by
  induction ids with
  | nil => rfl
  | cons id ids ih =>
    rw [store_monitorJobs_cons]
    have hvisit := visited_monitorJob cfg now s id
    generalize (monitorJob cfg now id).exec s = visit at hvisit
    have hreached : ∀ job, s.jobs.get? id = some job → job.status = .queued → job.overdueAt now = true → False := by
      intro job hjob hqueued hover
      rw [records_cons hjob, reached_cons_of_ok hqueued (isOk_of_overdueAt hover), if_pos hover] at h
      cases h
    cases hvisit with
    | unknown hjob =>
      refine ih ?_
      rwa [Service.records, List.filterMap_cons_none hjob] at h
    | idle job hjob hidle =>
      refine ih ?_
      rw [records_cons hjob] at h
      by_cases hqueued : job.status = .queued
      · rwa [reached_cons_of_ok hqueued (hidle hqueued).1, (hidle hqueued).2, if_neg (by simp)] at h
      · rwa [reached_cons_of_not_queued hqueued] at h
    | unreadable => rfl
    | moved job result s' hjob hqueued hover => exact (hreached job hjob hqueued hover).elim
    | ended job error hjob hqueued hover => exact (hreached job hjob hqueued hover).elim
    | stopped job e hjob hqueued hover => exact (hreached job hjob hqueued hover).elim

/-- The pass over the other jobs leaves the first one as it has been made. -/
theorem get?_monitorJobs_head (cfg : Config) (now : ℤ) (s : Service) (hid : id ∉ ids) :
    ((monitorJobs cfg now (id :: ids)).store s).jobs.get? id =
      ((monitorJob cfg now id).exec s).2.jobs.get? id := by
  rw [store_monitorJobs_cons]
  rcases (monitorJob cfg now id).exec s with ⟨e | changed, t⟩
  · rfl
  · exact get?_monitorJobs_of_not_mem cfg now _ hid

/-- **A pass that reaches an overdue job** changes a record. -/
theorem exists_changed_of_reached (cfg : Config) (hnodup : ids.Nodup) (h : reached now (s.records ids) ≠ []) :
    ∃ id, ((monitorJobs cfg now ids).store s).jobs.get? id ≠ s.jobs.get? id := by
  induction ids with
  | nil => exact absurd rfl h
  | cons id ids ih =>
    obtain ⟨hid, hnodup⟩ := List.nodup_cons.mp hnodup
    have hhead := get?_monitorJobs_head cfg now s hid
    have htail := store_monitorJobs_cons cfg now s id ids
    have hvisit := visited_monitorJob cfg now s id
    generalize (monitorJob cfg now id).exec s = visit at hvisit hhead htail
    cases hvisit with
    | unknown hjob =>
      rw [Service.records, List.filterMap_cons_none hjob] at h
      rw [htail]
      exact ih hnodup h
    | idle job hjob hidle =>
      rw [htail]
      refine ih hnodup ?_
      rw [records_cons hjob] at h
      by_cases hqueued : job.status = .queued
      · rwa [reached_cons_of_ok hqueued (hidle hqueued).1, (hidle hqueued).2, if_neg (by simp)] at h
      · rwa [reached_cons_of_not_queued hqueued] at h
    | unreadable job e hjob hqueued hdeadline =>
      rw [records_cons hjob, reached_cons_of_error hqueued hdeadline] at h
      exact absurd rfl h
    | moved job result s' hjob hqueued hover hmoves hjobs =>
      refine ⟨id, fun hsame => ?_⟩
      rw [hhead, hjobs, OrderedDict.get?_set_self, hjob] at hsame
      have hlocal : job.queue = .localNode := by
        rw [Job.reroutes, Bool.and_eq_true, decide_eq_true_eq] at hmoves
        exact hmoves.1
      rw [← Option.some.inj hsame] at hlocal
      cases hlocal
    | ended job error hjob hqueued =>
      refine ⟨id, fun hsame => ?_⟩
      rw [hhead, Service.get?_takeOut, if_pos rfl, hjob] at hsame
      rw [← Option.some.inj hsame] at hqueued
      cases hqueued
    | stopped job e hjob hqueued =>
      refine ⟨id, fun hsame => ?_⟩
      rw [hhead, Service.get?_takeOut, if_pos rfl, hjob] at hsame
      rw [← Option.some.inj hsame] at hqueued
      cases hqueued

/-! ## What a pass leaves to the next one -/

/-- None of the records is due. -/
def Fresh (now : ℤ) (s : Service) (ids : List JobId) : Prop :=
  ∀ id ∈ ids, ∀ job, s.jobs.get? id = some job → job.isDue now = false

theorem fresh_cons : Fresh now s (id :: ids) ↔
    (∀ job, s.jobs.get? id = some job → job.isDue now = false) ∧ Fresh now s ids := List.forall_mem_cons

theorem fresh_congr (h : ∀ id ∈ ids, s'.jobs.get? id = s.jobs.get? id) : Fresh now s' ids ↔ Fresh now s ids := by
  unfold Fresh
  exact forall₂_congr fun id hid => by rw [h id hid]

theorem settles_nil : Settles cfg now [] := ⟨fun _ h => (by cases h), Or.inr ⟨Nat.zero_le _, fun _ h => (by cases h)⟩⟩

theorem settles_cons_of_fits (hstays : job.reroutes = false) (hfits : Fits now cfg.jobTtl) :
    Settles cfg now (job :: jobs) ↔ Settles cfg now jobs :=
  ⟨fun h => ⟨fun j hj => h.moves j (List.mem_cons_of_mem _ hj), Or.inl hfits⟩,
    fun h => ⟨List.forall_mem_cons.mpr ⟨hstays, h.moves⟩, Or.inl hfits⟩⟩

theorem settles_cons_of_not_fits (hstays : job.reroutes = false) (hfits : ¬Fits now cfg.jobTtl) :
    Settles cfg now (job :: jobs) ↔ jobs = [] ∧ now < job.expiresAt := by
  constructor
  · intro h
    obtain ⟨hlength, hkept⟩ := h.ends.resolve_left hfits
    exact ⟨List.eq_nil_of_length_eq_zero (by simpa using hlength), hkept job List.mem_cons_self⟩
  · rintro ⟨rfl, hkept⟩
    exact ⟨by simpa using hstays, Or.inr ⟨Nat.le_refl 1, by simpa using hkept⟩⟩

/-- **What a pass leaves**: no overdue job that is reached and no due record, exactly if it settles. -/
theorem reached_after_monitorJobs_iff (hnodup : ids.Nodup) (hfresh : Fresh now s ids) :
    (reached now (((monitorJobs cfg now ids).store s).records ids) = [] ∧
        Fresh now ((monitorJobs cfg now ids).store s) ids) ↔ Settles cfg now (reached now (s.records ids)) := by
  induction ids generalizing s with
  | nil => exact iff_of_true ⟨rfl, fun _ h => (by cases h)⟩ settles_nil
  | cons id ids ih =>
    obtain ⟨hid, hnodup⟩ := List.nodup_cons.mp hnodup
    obtain ⟨hfirst, hrest⟩ := fresh_cons.mp hfresh
    have hhead := get?_monitorJobs_head cfg now s hid
    have htail := store_monitorJobs_cons cfg now s id ids
    have hvisit := visited_monitorJob cfg now s id
    have hne : ∀ id' ∈ ids, id' ≠ id := fun id' hid' heq => hid (heq ▸ hid')
    generalize (monitorJobs cfg now (id :: ids)).store s = s₁ at hhead htail ⊢
    generalize (monitorJob cfg now id).exec s = visit at hvisit hhead htail
    rw [fresh_cons]
    cases hvisit with
    | unknown hjob =>
      dsimp only at hhead htail
      rw [hjob] at hhead
      rw [Service.records, List.filterMap_cons_none hhead, Service.records, List.filterMap_cons_none hjob, hhead]
      subst htail
      simpa using ih hnodup hrest
    | idle job hjob hidle =>
      dsimp only at hhead htail
      rw [hjob] at hhead
      have hskip : ∀ js, reached now (job :: js) = reached now js := by
        intro js
        by_cases hqueued : job.status = .queued
        · rw [reached_cons_of_ok hqueued (hidle hqueued).1, (hidle hqueued).2, if_neg (by simp)]
        · exact reached_cons_of_not_queued hqueued
      rw [records_cons hhead, records_cons hjob, hskip, hskip, hhead]
      subst htail
      rw [← ih hnodup hrest]
      simp [hfirst job hjob]
    | unreadable job e hjob hqueued hdeadline =>
      dsimp only at htail
      subst htail
      rw [records_cons hjob, reached_cons_of_error hqueued hdeadline]
      exact iff_of_true ⟨rfl, hfirst, hrest⟩ settles_nil
    | moved job result s' hjob hqueued hover hmoves hjobs =>
      dsimp only at hhead
      rw [hjobs, OrderedDict.get?_set_self] at hhead
      have hagain : (movedJob job).overdueAt now = true := (overdueAt_congr rfl).trans hover
      rw [records_cons hhead, records_cons hjob, reached_cons_of_ok rfl (isOk_of_overdueAt hagain), if_pos hagain,
        reached_cons_of_ok hqueued (isOk_of_overdueAt hover), if_pos hover]
      refine iff_of_false (fun h => by cases h.1) fun h => ?_
      rw [h.moves job List.mem_cons_self] at hmoves
      cases hmoves
    | ended job error hjob hqueued hover hstays hfits =>
      dsimp only at hhead htail
      rw [Service.get?_takeOut, if_pos rfl] at hhead
      have hsame : ∀ id' ∈ ids, (s.takeOut id job (closedJob (now + cfg.retention) error
          (endedJob now .expiredWaitBudget job))).jobs.get? id' = s.jobs.get? id' := fun id' hid' => by
        rw [Service.get?_takeOut, if_neg (hne id' hid')]
      have hkept := cfg.retention_pos
      rw [records_cons hhead, records_cons hjob, reached_cons_of_not_queued (by simp [closedJob, endedJob]),
        reached_cons_of_ok hqueued (isOk_of_overdueAt hover), if_pos hover, settles_cons_of_fits hstays hfits, hhead,
        htail, ← records_congr hsame, ← ih hnodup ((fresh_congr hsame).mpr hrest)]
      simp [Job.isDue, closedJob, hkept]
    | stopped job e hjob hqueued hover hstays hfits =>
      dsimp only at hhead htail
      rw [Service.get?_takeOut, if_pos rfl] at hhead
      have hsame : ∀ id' ∈ ids, (s.takeOut id job (endedJob now .expiredWaitBudget job)).jobs.get? id' =
          s.jobs.get? id' := fun id' hid' => by rw [Service.get?_takeOut, if_neg (hne id' hid')]
      rw [records_cons hhead, records_cons hjob, reached_cons_of_not_queued (by simp [endedJob]),
        reached_cons_of_ok hqueued (isOk_of_overdueAt hover), if_pos hover, settles_cons_of_not_fits hstays hfits,
        hhead, htail, records_congr hsame, fresh_congr hsame]
      simp [Job.isDue, endedJob, Status.terminal, hrest]

/-! ## A whole pass -/

/-- The service after a pass. -/
def Service.passed (cfg : Config) (now : ℤ) (s : Service) : Service := (monitorDeadlines cfg now).store s

/-- The service between the deletion of the due records and the pass over the jobs. -/
def Service.pruned (now : ℤ) (s : Service) : Service := s.dropJobs (s.dueIds now)

/-- The overdue jobs that a pass reaches in the service. -/
def Service.reached (now : ℤ) (s : Service) : List Job := Queue.reached now s.jobs.values

theorem store_persistJobs : ((persistJobs cfg now).store s).jobs = s.jobs ∧
    ((persistJobs cfg now).store s).queues = s.queues :=
  Triple.store (P := fun t => t.jobs = s.jobs ∧ t.queues = s.queues)
    (I := fun t => t.jobs = s.jobs ∧ t.queues = s.queues) (triple_persistJobs' (fun _ h => h) (fun _ h => h) fun _ h => h) ⟨rfl, rfl⟩

/-- Persisting does not touch the table and the heaps. -/
theorem passed_eq (cfg : Config) (now : ℤ) (s : Service) :
    (s.passed cfg now).jobs = ((monitorJobs cfg now (s.pruned now).jobs.keys).store (s.pruned now)).jobs ∧
    (s.passed cfg now).queues = ((monitorJobs cfg now (s.pruned now).jobs.keys).store (s.pruned now)).queues := by
  unfold Service.passed
  have hprune : (pruneExpiredTerminalJobs now : Block Bool).exec s =
      (.ok (!(s.dueIds now).isEmpty), s.pruned now) := rfl
  unfold store
  rw [monitorDeadlines, exec_bind, hprune]
  dsimp only
  rw [exec_bind, exec_read]
  dsimp only
  rw [exec_bind]
  rcases (monitorJobs cfg now (s.pruned now).jobs.keys).exec (s.pruned now) with ⟨e | changed, t⟩
  · exact ⟨rfl, rfl⟩
  · dsimp only
    split
    · exact store_persistJobs
    · exact ⟨rfl, rfl⟩

theorem pruned_of_not_due (h : s.dueIds now = []) : s.pruned now = s := by
  unfold Service.pruned
  rw [h]
  rfl

/-- A record of the table is due, if one is deleted. -/
theorem dueIds_eq_nil_iff : s.dueIds now = [] ↔ Fresh now s s.jobs.keys := by
  constructor
  · intro h id _ job hjob
    by_contra hdue
    have hmem : id ∈ s.dueIds now :=
      List.mem_map.mpr ⟨(id, job), List.mem_filter.mpr ⟨Assoc.mem_of_get? hjob, by simpa using hdue⟩, rfl⟩
    rw [h] at hmem
    cases hmem
  · intro h
    refine List.eq_nil_iff_forall_not_mem.mpr fun id hid => ?_
    obtain ⟨job, hjob, hdue⟩ := due_of_mem_dueIds hid
    rw [h id (Assoc.mem_keys_of_get? hjob) job hjob] at hdue
    cases hdue

theorem fresh_pruned : Fresh now (s.pruned now) (s.pruned now).jobs.keys := by
  intro id _ job hjob
  rw [Service.pruned, Service.get?_dropJobs] at hjob
  split at hjob
  · cases hjob
  · next hkept =>
    by_contra hdue
    exact hkept (List.mem_map.mpr ⟨(id, job), List.mem_filter.mpr ⟨Assoc.mem_of_get? hjob, by simpa using hdue⟩, rfl⟩)

/-- Deleting due records does not change which jobs are reached. -/
theorem reached_pruned : (s.pruned now).reached now = s.reached now := by
  unfold Service.reached Queue.reached
  refine congrArg (fun jobs : List Job =>
    (jobs.takeWhile fun job => job.effectiveDeadline.isOk).filter (Job.overdueAt now)) ?_
  unfold Service.pruned OrderedDict.values
  rw [Service.dropJobs_jobs, OrderedDict.entries_eraseAll, List.filter_map, List.filter_map, List.filter_filter]
  refine congrArg (List.map Prod.snd) (List.filter_congr fun e he => ?_)
  by_cases hqueued : e.2.status = .queued
  · have hkept : e.1 ∉ s.dueIds now := by
      intro hdue
      obtain ⟨job, hjob, hdue⟩ := due_of_mem_dueIds hdue
      rw [OrderedDict.get?_of_mem_entries he] at hjob
      rw [← Option.some.inj hjob] at hdue
      simp [Job.isDue, hqueued, Status.terminal] at hdue
    simp [hqueued, hkept]
  · simp [hqueued]

/-- A pass changes no job and no heap exactly if no record is due and no overdue job is reached. -/
theorem passed_eq_iff : ((s.passed cfg now).jobs = s.jobs ∧ (s.passed cfg now).queues = s.queues) ↔
    s.reached now = [] ∧ Fresh now s s.jobs.keys := by
  rw [← dueIds_eq_nil_iff]
  obtain ⟨hjobs, hqueues⟩ := passed_eq cfg now s
  constructor
  · rintro ⟨hsame, -⟩
    rw [hjobs] at hsame
    have hdue : s.dueIds now = [] := by
      refine List.eq_nil_iff_forall_not_mem.mpr fun id hid => ?_
      obtain ⟨job, hjob, -⟩ := due_of_mem_dueIds hid
      have hgone : (s.pruned now).jobs.get? id = none := by
        rw [Service.pruned, Service.get?_dropJobs, if_pos hid]
      have hkept := get?_monitorJobs_of_not_mem cfg now (s.pruned now)
        (Assoc.get?_eq_none_iff.mp hgone)
      rw [hgone] at hkept
      exact absurd (hkept.symm.trans ((congrArg (·.get? id) hsame).trans hjob)) (by simp)
    rw [pruned_of_not_due hdue] at hsame
    refine ⟨?_, hdue⟩
    by_contra hreached
    rw [Service.reached, ← records_keys] at hreached
    obtain ⟨id, hchanged⟩ := exists_changed_of_reached cfg s.jobs.distinct hreached
    exact hchanged (congrArg (OrderedDict.get? · id) hsame)
  · rintro ⟨hreached, hdue⟩
    rw [Service.reached, ← records_keys] at hreached
    rw [hjobs, hqueues, pruned_of_not_due hdue, store_monitorJobs_of_reached_nil hreached]
    exact ⟨rfl, rfl⟩

/-- **A second pass** at the same time changes no job and no heap exactly if the first one settles. -/
theorem second_pass_settles_iff : (((s.passed cfg now).passed cfg now).jobs = (s.passed cfg now).jobs ∧
    ((s.passed cfg now).passed cfg now).queues = (s.passed cfg now).queues) ↔ Settles cfg now (s.reached now) := by
  have hjobs := (passed_eq cfg now s).1
  have hkeys : (s.passed cfg now).jobs.keys = (s.pruned now).jobs.keys := by rw [hjobs, keys_monitorJobs]
  rw [passed_eq_iff, ← reached_pruned (s := s), Service.reached, ← records_keys, Service.reached, ← records_keys, hkeys]
  unfold Fresh Service.records
  rw [hjobs]
  exact reached_after_monitorJobs_iff (s.pruned now).jobs.distinct fresh_pruned

/-! ## Jobs that are moved -/

/-- A pass that settles leaves every job on its queue. -/
theorem queue_of_monitorJobs (hnodup : ids.Nodup) (hmoves : ∀ job ∈ reached now (s.records ids), job.reroutes = false)
    {id' : JobId} (hjob' : ((monitorJobs cfg now ids).store s).jobs.get? id' = some job') :
    ∃ job, s.jobs.get? id' = some job ∧ job'.queue = job.queue := by
  induction ids generalizing s with
  | nil => exact ⟨job', hjob', rfl⟩
  | cons id ids ih =>
    obtain ⟨hid, hnodup⟩ := List.nodup_cons.mp hnodup
    have htail := store_monitorJobs_cons cfg now s id ids
    have hvisit := visited_monitorJob cfg now s id
    generalize (monitorJob cfg now id).exec s = visit at hvisit htail
    rw [htail] at hjob'
    cases hvisit with
    | unknown hjob =>
      rw [Service.records, List.filterMap_cons_none hjob] at hmoves
      exact ih hnodup hmoves hjob'
    | idle job hjob hidle =>
      refine ih hnodup ?_ hjob'
      rw [records_cons hjob] at hmoves
      by_cases hqueued : job.status = .queued
      · rwa [reached_cons_of_ok hqueued (hidle hqueued).1, (hidle hqueued).2, if_neg (by simp)] at hmoves
      · rwa [reached_cons_of_not_queued hqueued] at hmoves
    | unreadable => exact ⟨job', hjob', rfl⟩
    | moved job result s' hjob hqueued hover hreroutes hjobs =>
      rw [records_cons hjob, reached_cons_of_ok hqueued (isOk_of_overdueAt hover), if_pos hover] at hmoves
      rw [hmoves job List.mem_cons_self] at hreroutes
      cases hreroutes
    | ended job error hjob hqueued hover hstays hfits =>
      rw [records_cons hjob, reached_cons_of_ok hqueued (isOk_of_overdueAt hover), if_pos hover] at hmoves
      have hsame : ∀ id' ∈ ids, (s.takeOut id job (closedJob (now + cfg.retention) error
          (endedJob now .expiredWaitBudget job))).jobs.get? id' = s.jobs.get? id' := fun id' hid' => by
        rw [Service.get?_takeOut, if_neg fun heq : id' = id => hid (heq ▸ hid')]
      rw [← records_congr hsame] at hmoves
      obtain ⟨old, hold, hqueue⟩ := ih hnodup (fun j hj => hmoves j (List.mem_cons_of_mem _ hj)) hjob'
      rw [Service.get?_takeOut] at hold
      split at hold
      · next heq =>
        obtain rfl := Option.some.inj hold
        exact ⟨job, heq ▸ hjob, hqueue⟩
      · exact ⟨old, hold, hqueue⟩
    | stopped job e hjob =>
      dsimp only at hjob'
      rw [Service.get?_takeOut] at hjob'
      split at hjob'
      · next heq =>
        obtain rfl := Option.some.inj hjob'
        exact ⟨job, heq ▸ hjob, rfl⟩
      · exact ⟨job', hjob', rfl⟩

/-- The pass moves the job from the local to the cloud queue. -/
def MovedBy (cfg : Config) (now : ℤ) (s : Service) (id : JobId) : Prop :=
  ∃ job job', s.jobs.get? id = some job ∧ job.queue = .localNode ∧
    (s.passed cfg now).jobs.get? id = some job' ∧ job'.queue = .cloud

/-- A pass that settles moves no job. -/
theorem not_movedBy_of_settles (h : Settles cfg now (s.reached now)) (id : JobId) : ¬MovedBy cfg now s id := by
  rintro ⟨job, job', hjob, hlocal, hjob', hcloud⟩
  rw [(passed_eq cfg now s).1] at hjob'
  have hmoves := h.moves
  rw [← reached_pruned, Service.reached, ← records_keys] at hmoves
  obtain ⟨old, hold, hqueue⟩ := queue_of_monitorJobs (s.pruned now).jobs.distinct hmoves hjob'
  rw [Service.pruned, Service.get?_dropJobs] at hold
  split at hold
  · cases hold
  · rw [hjob] at hold
    obtain rfl := Option.some.inj hold
    rw [hcloud, hlocal] at hqueue
    cases hqueue

/-- The law of the passes at a state and a time: a second pass changes no job and no heap; and a job that the first one
moves to the cloud queue is, whatever happens then, left on its queue by every pass that still finds it queued. -/
structure PassLaw (cfg : Config) (n : Node) (now : ℤ) : Prop where
  again : ((n.service.passed cfg now).passed cfg now).jobs = (n.service.passed cfg now).jobs ∧
    ((n.service.passed cfg now).passed cfg now).queues = (n.service.passed cfg now).queues
  kept : ∀ id, MovedBy cfg now n.service id → ∀ (later : List Step) (t : ℤ) (job : Job),
    (Run.after (fire cfg) (fire cfg n (.poll now)) later).service.jobs.get? id = some job → job.status = .queued →
      ∃ job', ((Run.after (fire cfg) (fire cfg n (.poll now)) later).service.passed cfg t).jobs.get? id = some job' ∧
        job'.status = .queued ∧ job'.queue = job.queue

/-- **The law holds** in a reachable state exactly where the pass settles. -/
theorem deadline_passes_settle_iff (cfg : Config) (steps : List Step) (now : ℤ) :
    PassLaw cfg (run cfg steps) now ↔ Settles cfg now ((run cfg steps).service.reached now) := by
  constructor
  · exact fun h => second_pass_settles_iff.mp h.again
  · exact fun h => ⟨second_pass_settles_iff.mpr h, fun id hmoved => absurd hmoved (not_movedBy_of_settles h id)⟩

/-- A local job that waits one second at most and may go to the cloud. -/
def impatientJob : Step := .enqueue 1767225600000000 1
  { queue := "local", importance := "high",
    queueIntent := { maxWaitSeconds := some 1, allowCloudSpillover := some true } }

/-- Thirty seconds later the job is moved, and the next pass ends it. -/
theorem moved_job_ends : ¬∀ (cfg : Config) (steps : List Step) (now : ℤ), PassLaw cfg (run cfg steps) now := by
  intro h
  have hmoves := (second_pass_settles_iff.mp (h {} [impatientJob] 1767225630000000).again).moves
  exact absurd hmoves (by decide +kernel)

end Queue
end HexeAiNode
