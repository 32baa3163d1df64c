import HexeAiNode.Queue.Records

/-!
# The order of dispatch across restarts and moves

The deadline key of a queued job is not persisted.  A start and a move to the cloud queue compute it anew;
for a job without `deadline_at` that has a wait budget the new key is the time of the start or move plus
the budget, so the job is compared as if it had been queued then.  `KeyedAt` says that a key in a heap
was computed at some time.

`pop_order_and_moved_key` says which jobs keep their order at a restart, and which keep their key in a move.
-/

namespace HexeAiNode
namespace Queue

open Py Execution StoreAction

variable {cfg : Config} {now : ℤ} {faulty : Prop} {s₀ s s' a b : Service} {step : Step}
  {id : JobId} {job : Job} {e : Entry} {q : QueueKey}

/-! ## Keys -/

/-- The job is ordered by its wait budget alone. -/
def waitsOnly (intent : QueueIntent) : Bool := intent.deadlineAt.isNone && intent.maxWaitSeconds.isSome

/-- Every other key is the same at all times. -/
theorem deadlineSortValue_of_not_waitsOnly {intent : QueueIntent} (h : waitsOnly intent = false) :
    ∃ key, ∀ now, deadlineSortValue cfg now intent = .ok key := by
  unfold waitsOnly at h
  rcases hdeadline : intent.deadlineAt with _ | deadline
  · rw [hdeadline] at h
    have hwait : intent.maxWaitSeconds = none := by simpa using h
    refine ⟨⊤, fun now => ?_⟩
    unfold deadlineSortValue
    rw [hdeadline, hwait]
    rfl
  · refine ⟨cfg.timestamp deadline, fun now => ?_⟩
    unfold deadlineSortValue
    rw [hdeadline]
    rfl

/-- Every key in a heap was computed for its job at some time. -/
def KeyedAt (cfg : Config) (s : Service) : Prop := ∀ q, ∀ e ∈ s.queues q, ∀ job,
  s.jobs.get? e.jobId = some job → ∃ t, deadlineSortValue cfg t job.queueIntent = .ok e.deadlineSort

theorem mem_of_mem_popEntry {q' : QueueKey} (h : e ∈ (s.popEntry q).queues q') : e ∈ s.queues q' := by
  rw [queues_popEntry] at h
  split at h
  · next hq =>
    subst hq
    rcases hpop : Heapq.pop (s.queues q') with _ | ⟨x, rest⟩
    · rw [hpop] at h
      cases h
    · rw [hpop] at h
      exact (Heapq.pop_perm hpop).mem_iff.mpr (List.mem_cons_of_mem _ h)
  · exact h

theorem mem_of_mem_takeOut {job' : Job} (h : e ∈ (s.takeOut id job job').queues q) : e ∈ s.queues q := by
  have hleft : e ∈ (s.removeFromQueue job.queue id).queues q := h
  rw [queues_removeFromQueue] at hleft
  split at hleft
  · next hq =>
    rw [mem_heapify, List.mem_filter] at hleft
    rw [hq]
    exact hleft.1
  · exact hleft

/-- An entry is an old one, or new and made of its record. -/
theorem Edit.entry (h : Edit cfg faulty s₀ step a b)
    (hkeyed : ∀ id job, a.jobs.get? id = some job → job.jobId = id) (he : e ∈ b.queues q) :
    e ∈ a.queues q ∨ ∃ job t, b.jobs.get? e.jobId = some job ∧
      deadlineSortValue cfg t job.queueIntent = .ok e.deadlineSort := by
  cases h with
  | @reroute _ now _ id job d key hnow hjob hqueued hlocal hspill hd hover hkey =>
    have hmem : e ∈ (((a.takeOut id job (movedJob job)).pushEntry .cloud
        ((movedJob job).entry key)).ensureDispatcher .cloud).queues q := he
    rw [Service.ensureDispatcher_queues, queues_pushEntry] at hmem
    split at hmem
    · next hq =>
      subst hq
      rcases mem_push.mp hmem with rfl | hmem
      · refine Or.inr ⟨movedJob job, now, ?_, hkey⟩
        rw [Service.enterCloud_jobs, show ((movedJob job).entry key).jobId = id from hkeyed id job hjob,
          Service.get?_takeOut, if_pos rfl]
      · exact Or.inl (mem_of_mem_takeOut hmem)
    · exact Or.inl (mem_of_mem_takeOut hmem)
  | orphan => exact Or.inl (mem_of_mem_takeOut he)
  | endQueued => exact Or.inl (mem_of_mem_takeOut he)
  | undatedQueued => exact Or.inl (mem_of_mem_takeOut he)
  | @insert now id' request _ job key hprepared hpassed =>
    rw [queues_pushEntry] at he
    split at he
    · next hq =>
      subst hq
      rcases mem_push.mp he with rfl | he
      · refine Or.inr ⟨job, now, ?_, ?_⟩
        · show (a.setJob job.jobId job).jobs.get? job.jobId = some job
          rw [Service.get?_setJob, if_pos rfl]
        · obtain ⟨n, expiresAt, -, rfl⟩ := hprepared.job
          exact hprepared.key
      · exact Or.inl he
    · exact Or.inl he
  | @attempt q' =>
    left
    rcases dispatchAttempt_cases cfg q' s₀ with ⟨h, -⟩ | ⟨id, h, -⟩ | ⟨e', h, -⟩
    · rw [h] at he
      exact he
    · rw [h] at he
      exact he
    · rw [h] at he
      exact mem_of_mem_popEntry he
  | stale => exact Or.inl (mem_of_mem_popEntry he)
  | @start now q' admission id' e' job t _ hhead heid hjob hqueued hpersist =>
    have hqueues : (t.createRunner q' id' job).queues = (s₀.popEntry q').queues := by
      rcases hpersist with ⟨rfl, -⟩ | rfl <;> rfl
    rw [hqueues] at he
    exact Or.inl (mem_of_mem_popEntry he)
  | strand => exact Or.inl (mem_of_mem_popEntry he)
  | ensure =>
    rw [Service.ensureDispatcher_queues] at he
    exact Or.inl he
  | enter task =>
    obtain ⟨runners, heq⟩ := s₀.enterRunner_eq task
    rw [heq] at he
    exact Or.inl he
  | outcome task ending =>
    obtain ⟨runners, heq⟩ := s₀.endRunner_eq task ending
    rw [heq] at he
    exact Or.inl he
  | wake =>
    split at he
    · exact Or.inl he
    · rw [Service.ensureDispatcher_queues] at he
      exact Or.inl he
  | _ => exact Or.inl he

/-- The change of a step keeps the heaps keyed; a new job has no entry before. -/
theorem KeyedAt.edit {drawn started : List JobId} (hs : Sound False drawn started s₀)
    (hnew : ∀ id ∈ step.drawn, id ∉ drawn) (ha : KeyedAt cfg a) (hagrees : Agrees False a)
    (h : Edit cfg faulty s₀ step a b) : KeyedAt cfg b := by
  intro q e he job' hjob'
  rcases h.entry hagrees.keyed he with hold | ⟨job, t, hjob, hkey⟩
  · obtain ⟨job, hjob, -, -, -⟩ := hagrees.listed q e hold
    have hrecord := h.record e.jobId
    rw [hjob, hjob'] at hrecord
    have hsubmission : job'.toSubmission = job.toSubmission := by
      cases hrecord with
      | same => rfl
      | edit hedit => exact hedit.submission
      | insert hstep _ hfresh =>
        subst hstep
        rcases hget : s₀.jobs.get? e.jobId with _ | old
        · cases hfresh hget
        · exact absurd (hs.known.jobs _ old hget) (hnew _ rfl)
    rw [hsubmission]
    exact ha q e hold job hjob
  · obtain rfl := Option.some.inj (hjob.symm.trans hjob')
    exact ⟨t, hkey⟩

/-- The heaps of a node are keyed. -/
theorem keyedAt_run (cfg : Config) (steps : List Step) : KeyedAt cfg (run cfg steps).service := by
  have hkeep : ∀ (n : Node) (step : Step), NodeSound False n ∧ KeyedAt cfg n.service →
      NodeSound False (fire cfg n step) ∧ KeyedAt cfg (fire cfg n step).service := by
    rintro n step ⟨hn, hkeyed⟩
    refine ⟨hn.fire False.elim, ?_⟩
    by_cases hstep : ∃ now recovers, step = .restart now recovers
    · obtain ⟨now, recovers, rfl⟩ := hstep
      rcases hrestart : n.service.restart cfg now recovers with _ | s'
      · rwa [fire_restart_of_none hrestart]
      rw [fire_restart_of_some hrestart]
      rcases restart_eq_some hn.sound.known.fileDistinct hrestart with
        ⟨-, records, hrecords, hs'⟩ | ⟨-, rfl⟩
      · intro q e he job hjob
        obtain ⟨record, hrecord, hid, hkey⟩ := hs'.keys q e he
        obtain ⟨record', hrecord', hid', rfl, -⟩ := hs'.get?_iff.mp hjob
        have hdistinct := hn.sound.known.fileDistinct records hrecords
        obtain rfl := List.inj_on_of_nodup_map hdistinct hrecord' hrecord (hid'.trans hid.symm)
        rw [Job.toSubmission_recovered]
        exact ⟨now, hkey⟩
      · exact fun q e he => nomatch he
    · rcases fire_of_not_restart (fun now recovers heq => hstep ⟨now, recovers, heq⟩) with
        heq | ⟨hnew, heq⟩
      · rwa [heq]
      rw [heq]
      by_cases henter : ∃ task, step = .enter task
      · obtain ⟨task, rfl⟩ := henter
        obtain ⟨runners, hrunners⟩ := n.service.enterRunner_eq task
        have hfire : n.service.fire cfg (.enter task) = n.service.enterRunner task := rfl
        rw [hfire, hrunners]
        exact hkeyed
      · have hsound : ∀ t, Edited cfg True n.service step t → Sound False (step.drawn.toList ++ n.drawn)
            n.started t ∧ KeyedAt cfg t := by
          intro t ht
          have hbegin : Sound False (step.drawn.toList ++ n.drawn) n.started n.service :=
            ⟨hn.sound.agrees, hn.sound.known.mono fun _ h => List.mem_append_right _ h⟩
          refine ht.keeps (I := fun t => Sound False (step.drawn.toList ++ n.drawn) n.started t ∧
            KeyedAt cfg t) ⟨hbegin, hkeyed⟩ ?_
          rintro a b ⟨ha, hkeyed⟩ hedit
          exact ⟨hn.sound.edit False.elim hnew (fun task heq => henter ⟨task, heq⟩) ha hedit,
            hkeyed.edit hn.sound hnew ha.agrees hedit⟩
        exact (hsound _ (fire_edited cfg n.service step)).2
  have hinitial : NodeSound False ({} : Node) ∧ KeyedAt cfg ({} : Node).service :=
    ⟨nodeSound_initial, fun _ _ he => nomatch he⟩
  exact (Run.after_keeps (I := fun n => NodeSound False n ∧ KeyedAt cfg n.service) steps hinitial hkeep).2

/-! ## Entries under new keys -/

theorem Entry.le_of_rank_lt {a b : Entry} (h : a.rank < b.rank) : a ≤ b := by
  show a.key ≤ b.key
  exact Prod.Lex.toLex_le_toLex.mpr (Or.inl h)

theorem Entry.rank_le_of_le {a b : Entry} (h : a ≤ b) : a.rank ≤ b.rank := by
  have h : a.key ≤ b.key := h
  rcases Prod.Lex.toLex_le_toLex.mp h with hlt | ⟨heq, -⟩
  · exact hlt.le
  · exact heq.le

/-- The key of a job at some time. -/
def Service.keyAt (cfg : Config) (now : ℤ) (id : JobId) (s : Service) : WithTop ℚ :=
  match s.jobs.get? id with
  | none => ⊤
  | some job =>
    match deadlineSortValue cfg now job.queueIntent with
    | .ok key => key
    | .error _ => ⊤

/-- An entry under the key of some time. -/
def Service.rekeyed (cfg : Config) (now : ℤ) (s : Service) (e : Entry) : Entry :=
  { e with deadlineSort := s.keyAt cfg now e.jobId }

/-- The job is ordered by its wait budget alone. -/
def Service.ordersByWait (id : JobId) (s : Service) : Bool :=
  (s.jobs.get? id).any fun job => waitsOnly job.queueIntent

theorem rekeyed_of_not_ordersByWait (hkeyed : KeyedAt cfg s) (hagrees : Agrees False s)
    (he : e ∈ s.queues q) (h : s.ordersByWait e.jobId = false) : s.rekeyed cfg now e = e := by
  obtain ⟨job, hjob, -, -, -⟩ := hagrees.listed q e he
  unfold Service.ordersByWait at h
  rw [hjob] at h
  obtain ⟨key, hkey⟩ := @deadlineSortValue_of_not_waitsOnly cfg _ (by simpa using h)
  obtain ⟨t, ht⟩ := hkeyed q e he job hjob
  rw [hkey t] at ht
  unfold Service.rekeyed Service.keyAt
  rw [hjob]
  dsimp only
  rw [hkey now]
  dsimp only
  rw [Except.ok.inj ht]

/-- Two jobs of one importance, of which one is ordered by its wait budget alone, compare under the keys
of `now` as they do in the heap. -/
def OrderKept (cfg : Config) (now : ℤ) (s : Service) (q : QueueKey) : Prop :=
  ∀ a ∈ s.queues q, ∀ b ∈ s.queues q, a.rank = b.rank →
    (s.ordersByWait a.jobId || s.ordersByWait b.jobId) = true → a ≤ b →
      s.rekeyed cfg now a ≤ s.rekeyed cfg now b

/-- Every other pair of jobs keeps its order anyway. -/
theorem orderKept_iff (hkeyed : KeyedAt cfg s) (hagrees : Agrees False s) :
    OrderKept cfg now s q ↔ ∀ a ∈ s.queues q, ∀ b ∈ s.queues q, a ≤ b →
      s.rekeyed cfg now a ≤ s.rekeyed cfg now b := by
  constructor
  · intro h a ha b hb hab
    rcases (Entry.rank_le_of_le hab).lt_or_eq with hlt | heq
    · exact Entry.le_of_rank_lt hlt
    · by_cases hwait : (s.ordersByWait a.jobId || s.ordersByWait b.jobId) = true
      · exact h a ha b hb heq hwait hab
      · rw [Bool.not_eq_true, Bool.or_eq_false_iff] at hwait
        rw [rekeyed_of_not_ordersByWait hkeyed hagrees ha hwait.1,
          rekeyed_of_not_ordersByWait hkeyed hagrees hb hwait.2]
        exact hab
  · exact fun h a ha b hb _ _ hab => h a ha b hb hab

/-! ## Starts -/

/-- The order in which the jobs of a heap would be popped. -/
def Service.popOrder (q : QueueKey) (s : Service) : List JobId :=
  (Heapq.drain (s.queues q).length (s.queues q)).map Entry.jobId

theorem mem_popOrder : id ∈ s.popOrder q ↔ ∃ e ∈ s.queues q, e.jobId = id := by
  unfold Service.popOrder
  rw [((Heapq.drain_perm (le_refl _)).map Entry.jobId).mem_iff, List.mem_map]

/-- Every queued job lies in the heap of its queue. -/
def Service.AllEntered (s : Service) : Prop := ∀ id job, s.jobs.get? id = some job →
  job.status = .queued → ∃ e ∈ s.queues job.queue, e.jobId = id

/-- After a persist that did not raise, every wait boundary is a date. -/
theorem isOk_effectiveDeadline_of_persist {t : ℤ} (hpath : cfg.statePath = true)
    (h : (persistJobs cfg t).exec s = (.ok (), s')) (hjob : s.jobs.get? id = some job) :
    job.effectiveDeadline.isOk = true := by
  unfold persistJobs at h
  rw [if_pos hpath, exec_bind, exec_read] at h
  dsimp only at h
  rw [exec_bind, exec_ofResult] at h
  rcases hpayloads : s.jobs.values.mapM (publicJobPayload cfg t s) with error | records
  · rw [hpayloads] at h
    cases h
  · obtain ⟨record, hrecord⟩ := exists_of_mapM_eq_ok hpayloads (OrderedDict.mem_values_of_get? hjob)
    unfold publicJobPayload at hrecord
    obtain ⟨_, -, hrecord⟩ := bind_eq_ok.mp hrecord
    obtain ⟨d, hd, -⟩ := bind_eq_ok.mp hrecord
    rw [hd]
    rfl

/-- The records of `s` are persisted at `t`, and a start at `now`, with a recovery runner for every job,
makes `s'` of them. -/
structure Restarts (cfg : Config) (t now : ℤ) (s s' : Service) : Prop where
  path : cfg.statePath = true
  persist : (persistJobs cfg t).exec s = (.ok (), s.saved)
  restart : s.saved.restart cfg now (fun _ => true) = some s'

namespace Restarts

variable {n : Node} {t : ℤ}

theorem recovered (h : Restarts cfg t now n.service s') (hn : NodeSound False n) :
    Recovered cfg now (fun _ => true) n.service.snapshot s' := by
  rcases restart_eq_some hn.sound.saved.known.fileDistinct h.restart with
    ⟨-, records, hrecords, hs'⟩ | ⟨hnone, -⟩
  · obtain rfl := Option.some.inj hrecords
    exact hs'
  · rcases hnone with hpath | hnone
    · rw [h.path] at hpath
      cases hpath
    · cases hnone

theorem agrees (h : Restarts cfg t now n.service s') (hn : NodeSound False n) : Agrees True s' :=
  (hn.sound.saved.restart True h.restart).agrees

/-- A queued job is queued after the start. -/
theorem queued (h : Restarts cfg t now n.service s') (hn : NodeSound False n)
    (hjob : n.service.jobs.get? id = some job) (hqueued : job.status = .queued) :
    ∃ job', s'.jobs.get? id = some job' ∧ job'.status = .queued ∧ job'.queue = job.queue ∧
      job'.toSubmission = job.toSubmission := by
  have hok := isOk_effectiveDeadline_of_persist h.path h.persist hjob
  have hrecovered : (job.persisted.recovered now fun _ => true).status = .queued := by
    unfold Job.recovered
    rw [show job.persisted.status = .queued from hqueued]
    dsimp only
    rw [if_pos]
    · exact hqueued
    · exact hok
  refine ⟨_, (h.recovered hn).get?_iff.mpr ⟨job.persisted, persisted_mem_snapshot hjob,
    hn.sound.agrees.keyed id job hjob, rfl, ?_⟩, hrecovered, Job.queue_recovered _ _ _,
    Job.toSubmission_recovered _ _ _⟩
  rw [Job.isDue, hrecovered]
  rfl

/-- A job that is queued after the start was queued before. -/
theorem queued_before (h : Restarts cfg t now n.service s') (hn : NodeSound False n) {job' : Job}
    (hjob : s'.jobs.get? id = some job') (hqueued : job'.status = .queued) :
    ∃ job, n.service.jobs.get? id = some job ∧ job.status = .queued ∧ job.queue = job'.queue := by
  obtain ⟨record, hrecord, rfl, rfl, -⟩ := (h.recovered hn).get?_iff.mp hjob
  obtain ⟨job, hget, rfl⟩ := get?_of_mem_snapshot hn hrecord
  have hstatus : job.persisted.status = .queued := Job.queued_of_recovered hqueued
  refine ⟨job, hget, hstatus, ?_⟩
  rw [Job.queue_recovered]
  rfl

/-- The entries of a job before and after the start. -/
theorem entry_eq (h : Restarts cfg t now n.service s') (hn : NodeSound False n) {e' : Entry}
    {q' : QueueKey} (he : e ∈ n.service.queues q) (he' : e' ∈ s'.queues q')
    (hid : e'.jobId = e.jobId) : e' = n.service.rekeyed cfg now e := by
  obtain ⟨job, hjob, -, -, hentry⟩ := hn.sound.agrees.listed q e he
  obtain ⟨job', hjob', -, -, hentry'⟩ := (h.agrees hn).listed q' e' he'
  obtain ⟨record, hrecord, hrid, hkey⟩ := (h.recovered hn).keys q' e' he'
  obtain ⟨old, hold, rfl⟩ := get?_of_mem_snapshot hn hrecord
  have hold : n.service.jobs.get? e.jobId = some old := by
    rw [← hid, ← hrid]
    exact hold
  obtain rfl := Option.some.inj (hjob.symm.trans hold)
  have hsubmission : job'.toSubmission = job.toSubmission := by
    obtain ⟨record', hrecord', hrid', rfl, -⟩ := (h.recovered hn).get?_iff.mp hjob'
    obtain ⟨old', hold', rfl⟩ := get?_of_mem_snapshot hn hrecord'
    rw [hrid', hid, hjob] at hold'
    obtain rfl := Option.some.inj hold'
    exact Job.toSubmission_recovered _ _ _
  have hkeyAt : n.service.keyAt cfg now e.jobId = e'.deadlineSort := by
    unfold Service.keyAt
    rw [hjob]
    dsimp only
    rw [show deadlineSortValue cfg now job.queueIntent = .ok e'.deadlineSort from hkey]
  rw [Service.rekeyed, hkeyAt, hentry', hsubmission, hentry]
  rfl

/-- The heap after the start, when every queued job lies in its heap before. -/
theorem perm (h : Restarts cfg t now n.service s') (hn : NodeSound False n)
    (hentered : n.service.AllEntered) (q : QueueKey) :
    ((n.service.queues q).map (n.service.rekeyed cfg now)).Perm (s'.queues q) := by
  have hdistinct : (((n.service.queues q).map (n.service.rekeyed cfg now)).map Entry.jobId).Nodup := by
    rw [List.map_map]
    exact hn.sound.agrees.distinct q
  refine (List.perm_ext_iff_of_nodup (List.Nodup.of_map _ hdistinct)
    (List.Nodup.of_map _ ((h.agrees hn).distinct q))).mpr fun e' => ?_
  rw [List.mem_map]
  constructor
  · rintro ⟨e, he, rfl⟩
    obtain ⟨job, hjob, hqueued, hq, -⟩ := hn.sound.agrees.listed q e he
    obtain ⟨job', hjob', hqueued', hq', -⟩ := h.queued hn hjob hqueued
    obtain ⟨e', he', hid⟩ := (h.agrees hn).entered trivial e.jobId job' hjob' hqueued'
    rw [hq', hq] at he'
    rw [← h.entry_eq hn he he' hid]
    exact he'
  · intro he'
    obtain ⟨job', hjob', hqueued', hq', -⟩ := (h.agrees hn).listed q e' he'
    obtain ⟨job, hjob, hqueued, hq⟩ := h.queued_before hn hjob' hqueued'
    obtain ⟨e, he, hid⟩ := hentered e'.jobId job hjob hqueued
    rw [hq, hq'] at he
    exact ⟨e, he, (h.entry_eq hn he he' hid.symm).symm⟩

/-- **The order of dispatch at a restart.** -/
theorem popOrder_iff (h : Restarts cfg t now n.service s') (hn : NodeSound False n)
    (hkeyed : KeyedAt cfg n.service) :
    (∀ q, s'.popOrder q = n.service.popOrder q) ↔
      n.service.AllEntered ∧ ∀ q, OrderKept cfg now n.service q := by
  have hheap : n.service.AllEntered → ∀ q, (s'.popOrder q = n.service.popOrder q ↔
      OrderKept cfg now n.service q) := by
    intro hentered q
    rw [orderKept_iff hkeyed hn.sound.agrees]
    exact Heapq.drain_map_eq_iff (hn.sound.agrees.ordered q) ((h.agrees hn).ordered q)
      (h.perm hn hentered q) (fun _ => rfl) (hn.sound.agrees.distinct q)
  constructor
  · intro horder
    have hentered : n.service.AllEntered := by
      intro id job hjob hqueued
      obtain ⟨job', hjob', hqueued', hq, -⟩ := h.queued hn hjob hqueued
      have hmem : id ∈ s'.popOrder job'.queue :=
        mem_popOrder.mpr ((h.agrees hn).entered trivial id job' hjob' hqueued')
      rw [horder, hq] at hmem
      exact mem_popOrder.mp hmem
    exact ⟨hentered, fun q => (hheap hentered q).mp (horder q)⟩
  · rintro ⟨hentered, hkept⟩ q
    exact (hheap hentered q).mpr (hkept q)

end Restarts

/-! ## Moves -/

/-- The move gives the job the key it was admitted with. -/
def MoveKeepsKey (cfg : Config) (job : Job) (id : JobId) (s' : Service) : Prop :=
  ∃ e ∈ s'.queues .cloud, e.jobId = id ∧
    deadlineSortValue cfg job.queuedAt job.queueIntent = .ok e.deadlineSort

/-- The job has a deadline, or its wait budget ends, to the precision of a key, at one time. -/
def KeyIsStable (cfg : Config) (now : ℤ) (job : Job) : Prop :=
  waitsOnly job.queueIntent = false ∨ ∃ w : ℕ, job.queueIntent.maxWaitSeconds = some w ∧
    cfg.timestamp (now + w * 1000000) = cfg.timestamp (job.queuedAt + w * 1000000)

/-- What a move leaves. -/
theorem exec_rerouteToCloud (h : (rerouteToCloud cfg now id job).exec s = (.ok (), s')) :
    ∃ key, deadlineSortValue cfg now job.queueIntent = .ok key ∧
      s' = (s.takeOut id job (movedJob job)).enterCloud (movedJob job) key := by
  unfold rerouteToCloud at h
  rw [exec_bind, exec_update] at h
  dsimp only at h
  rw [exec_bind, exec_ofResult] at h
  rcases hkey : deadlineSortValue cfg now job.queueIntent with error | key
  · rw [hkey] at h
    cases h
  · rw [hkey] at h
    obtain ⟨-, rfl⟩ := Prod.mk.inj h
    exact ⟨key, rfl, rfl⟩

/-- The entry of a moved job. -/
theorem deadlineSort_of_moved {key : WithTop ℚ} (hagrees : Agrees False s)
    (hjob : s.jobs.get? id = some job) (hlocal : job.queue = .localNode)
    (he : e ∈ ((s.takeOut id job (movedJob job)).enterCloud (movedJob job) key).queues .cloud)
    (hid : e.jobId = id) : e.deadlineSort = key := by
  have hmem : e ∈ (((s.takeOut id job (movedJob job)).pushEntry .cloud
      ((movedJob job).entry key)).ensureDispatcher .cloud).queues .cloud := he
  rw [Service.ensureDispatcher_queues, queues_pushEntry, if_pos rfl] at hmem
  rcases mem_push.mp hmem with rfl | hold
  · rfl
  · -- the job was in the local heap, and in no other
    obtain ⟨job', hjob', -, hq, -⟩ := hagrees.listed .cloud e (mem_of_mem_takeOut hold)
    rw [hid, hjob] at hjob'
    obtain rfl := Option.some.inj hjob'
    rw [hlocal] at hq
    cases hq

/-- **The key of a moved job** is that of its admission when the key is stable, and only then. -/
theorem moveKeepsKey_iff {d : ℤ} (hagrees : Agrees False s) (hjob : s.jobs.get? id = some job)
    (hlocal : job.queue = .localNode) (hd : job.effectiveDeadline = .ok (some d))
    (hmove : (rerouteToCloud cfg now id job).exec s = (.ok (), s')) :
    MoveKeepsKey cfg job id s' ↔ KeyIsStable cfg now job := by
  obtain ⟨key, hkey, rfl⟩ := exec_rerouteToCloud hmove
  have hentry : MoveKeepsKey cfg job id ((s.takeOut id job (movedJob job)).enterCloud (movedJob job) key) ↔
      deadlineSortValue cfg job.queuedAt job.queueIntent = .ok key := by
    constructor
    · rintro ⟨e, he, hid, hadmitted⟩
      rwa [deadlineSort_of_moved hagrees hjob hlocal he hid] at hadmitted
    · intro hadmitted
      refine ⟨(movedJob job).entry key, ?_, hagrees.keyed id job hjob, hadmitted⟩
      show _ ∈ (((s.takeOut id job (movedJob job)).pushEntry .cloud
        ((movedJob job).entry key)).ensureDispatcher .cloud).queues .cloud
      rw [Service.ensureDispatcher_queues, queues_pushEntry, if_pos rfl]
      exact mem_push.mpr (Or.inl rfl)
  rw [hentry]
  unfold KeyIsStable
  rcases hwaits : waitsOnly job.queueIntent with _ | _
  · obtain ⟨stable, hstable⟩ := @deadlineSortValue_of_not_waitsOnly cfg _ hwaits
    rw [hstable] at hkey ⊢
    simp [hkey]
  · unfold waitsOnly at hwaits
    rw [Bool.and_eq_true, Option.isNone_iff_eq_none, Option.isSome_iff_exists] at hwaits
    obtain ⟨hdeadline, w, hw⟩ := hwaits
    -- both keys are dates plus the budget
    have hvalue : ∀ t, deadlineSortValue cfg t job.queueIntent =
        addSeconds t w >>= fun boundary => .ok ((cfg.timestamp boundary : ℚ) : WithTop ℚ) := by
      intro t
      unfold deadlineSortValue
      rw [hdeadline, hw]
      rfl
    obtain ⟨boundary, hboundary, hkey'⟩ := bind_eq_ok.mp ((hvalue now).symm.trans hkey)
    obtain ⟨admitted, hadmitted⟩ : ∃ b, addSeconds job.queuedAt w = .ok b := by
      unfold Job.effectiveDeadline Job.waitBoundary at hd
      rw [hw] at hd
      obtain ⟨o, ho, -⟩ := bind_eq_ok.mp hd
      obtain ⟨b, hb, -⟩ := bind_eq_ok.mp ho
      exact ⟨b, hb⟩
    rw [hvalue, hadmitted, ← Except.ok.inj hkey']
    obtain rfl := (addSeconds_eq_ok_iff.mp hboundary).2
    obtain rfl := (addSeconds_eq_ok_iff.mp hadmitted).2
    constructor
    · intro h
      have h := WithTop.coe_injective (Except.ok.inj h)
      exact Or.inr ⟨w, hw, h.symm⟩
    · rintro (h | ⟨w', hw', h⟩)
      · cases h
      · obtain rfl := Option.some.inj (hw.symm.trans hw')
        rw [h]
        rfl

/-- **Dispatch order at restarts and keys in moves**, for every node that is reached.  The order is that
from before the restart when every queued job lies in its heap and the jobs that are ordered by their wait
budget alone compare as before; a moved job keeps its key when the key is stable. -/
theorem pop_order_and_moved_key (cfg : Config) (steps : List Step) :
    (∀ t now s', Restarts cfg t now (run cfg steps).service s' →
      ((∀ q, s'.popOrder q = (run cfg steps).service.popOrder q) ↔
        (run cfg steps).service.AllEntered ∧ ∀ q, OrderKept cfg now (run cfg steps).service q)) ∧
    ∀ now id job d s', (run cfg steps).service.jobs.get? id = some job → job.queue = .localNode →
      job.effectiveDeadline = .ok (some d) →
      (rerouteToCloud cfg now id job).exec (run cfg steps).service = (.ok (), s') →
      (MoveKeepsKey cfg job id s' ↔ KeyIsStable cfg now job) := by
  have hn := nodeSound_false cfg steps
  refine ⟨fun t now s' h => h.popOrder_iff hn (keyedAt_run cfg steps), ?_⟩
  intro now id job d s' hjob hlocal hd hmove
  exact moveKeepsKey_iff hn.sound.agrees hjob hlocal hd hmove

/-- Two local jobs of the first of January 2026: the first has a deadline in sixty seconds, the second a
wait budget of fifty. -/
def twoJobs : List Step := [
  .enqueue 1767225600000000 1 { queue := "local", importance := "normal", queueIntent :=
    { deadlineAt := some 1767225660000000, allowCloudSpillover := some true } },
  .enqueue 1767225600000000 2 { queue := "local", importance := "normal", queueIntent :=
    { maxWaitSeconds := some 50 } }]

/-- A start of the node of `twoJobs` and the orders it leaves. -/
theorem exists_restarts_twoJobs {now : ℤ} {order : List JobId}
    (h : ((run {} twoJobs).service.saved.restart {} now (fun _ => true)).any (fun s' =>
      decide (s'.popOrder .localNode = order) &&
        [.cloud, .textLlm, .visionLlm, .visualGpu, .visualCpu, .trainingRuntime].all
          fun q => decide (s'.popOrder q = [])) = true) :
    ∃ s', Restarts {} 1767225600000000 now (run {} twoJobs).service s' ∧
      s'.popOrder .localNode = order ∧ ∀ q, q ≠ .localNode → s'.popOrder q = [] := by
  rcases hrestart : (run {} twoJobs).service.saved.restart {} now (fun _ => true) with _ | s'
  · rw [hrestart] at h
    cases h
  · rw [hrestart] at h
    obtain ⟨hlocal, hothers⟩ := (Bool.and_eq_true _ _).mp h
    refine ⟨s', ⟨rfl, exec_persistJobs rfl (by decide +kernel) (by decide +kernel), hrestart⟩,
      of_decide_eq_true hlocal, fun q hq => ?_⟩
    exact of_decide_eq_true (List.all_eq_true.mp hothers q (by revert hq; cases q <;> decide))

/-- A start at once keeps the order, and the move of a job with a deadline its key. -/
theorem pop_order_and_moved_key_twoJobs :
    ((run {} twoJobs).service.AllEntered ∧
      ∀ q, OrderKept {} 1767225600000000 (run {} twoJobs).service q) ∧
    ∃ job s', (rerouteToCloud {} 1767225660000001 1 job).exec (run {} twoJobs).service = (.ok (), s') ∧
      MoveKeepsKey {} job 1 s' := by
  have hclaim := pop_order_and_moved_key {} twoJobs
  constructor
  · obtain ⟨s', hrestarts, hlocal, hothers⟩ :=
      @exists_restarts_twoJobs 1767225600000000 [2, 1] (by decide +kernel)
    refine (hclaim.1 _ _ s' hrestarts).mp fun q => ?_
    by_cases hq : q = .localNode
    · rw [hq, hlocal]
      decide +kernel
    · rw [hothers q hq]
      revert hq
      cases q <;> decide +kernel
  · have hfirst : ((run {} twoJobs).service.jobs.get? 1).any (fun job => decide
        (job.queue = .localNode ∧ job.effectiveDeadline = .ok (some 1767225660000000) ∧
          deadlineSortValue {} 1767225660000001 job.queueIntent = .ok ((1767225660 : ℚ) : WithTop ℚ) ∧
          waitsOnly job.queueIntent = false)) = true := by
      decide +kernel
    rcases hjob : (run {} twoJobs).service.jobs.get? 1 with _ | job
    · rw [hjob] at hfirst
      cases hfirst
    rw [hjob] at hfirst
    obtain ⟨hlocal, hd, hkey, hstable⟩ := of_decide_eq_true hfirst
    have hmove : (rerouteToCloud {} 1767225660000001 1 job).exec (run {} twoJobs).service = (.ok (),
        ((run {} twoJobs).service.takeOut 1 job (movedJob job)).enterCloud (movedJob job)
          ((1767225660 : ℚ) : WithTop ℚ)) := by
      unfold rerouteToCloud
      rw [hkey]
      rfl
    exact ⟨job, _, hmove, (hclaim.2 _ 1 job _ _ hjob hlocal hd hmove).mpr (Or.inl hstable)⟩

/-- The second job goes first before the start, and last after it. -/
theorem restart_swaps_twoJobs : ∃ s', Restarts {} 1767225600000000 1767225620000000
    (run {} twoJobs).service s' ∧ s'.popOrder .localNode ≠ (run {} twoJobs).service.popOrder .localNode := by
  obtain ⟨s', hrestarts, hlocal, -⟩ := @exists_restarts_twoJobs 1767225620000000 [1, 2] (by decide +kernel)
  refine ⟨s', hrestarts, ?_⟩
  rw [hlocal]
  decide +kernel

end Queue
end HexeAiNode
