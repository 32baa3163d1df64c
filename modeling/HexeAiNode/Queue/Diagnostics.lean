import HexeAiNode.Queue.PopOrder

/-!
# The diagnostics of the queue

`diagnostics` shows the backlog in three views.  The view of a queue and the global view read the heaps; the view of a
lane sorts the job records again, under deadline keys of now, which are not those of the heaps for a job that is
ordered by its wait budget alone.

`diagnostics_agree_iff` says when the views show what the dispatchers do: every queued job has to lie in a heap, and a
job that overtakes another of its lane and queue under the keys of now must not come to the front of its lane.
-/

namespace HexeAiNode
namespace Queue

open Py Execution StoreAction

/-! ## The source functions -/

/-- `RUNTIME_LANES`. -/
def runtimeLanes : List RuntimeLane := [.cloud, .textLlm, .visionLlm, .visualGpu, .visualCpu, .trainingRuntime]

/-- The keys of `_queues`, in the order in which the constructor adds them. -/
def queueKeys : List QueueKey := [.localNode, .cloud, .textLlm, .visionLlm, .visualGpu, .visualCpu, .trainingRuntime]

/-- `_queue_job_summary`: the record, its position and its estimate. -/
structure JobSummary where
  job : Job
  queuePosition : Option ℕ
  eta : Option Eta

/-- `_queue_job_summary`.  The wait boundary is part of the summary, and computing it may raise. -/
def queueJobSummary (cfg : Config) (now : ℤ) (s : Service) (job : Job) : Except Exc JobSummary := do
  let eta ← queueEta cfg now s job.jobId
  let _ ← job.effectiveDeadline
  pure ⟨job.persisted, s.queuePosition job.jobId, eta⟩

/-- The view of a queue. -/
structure QueueDiagnostics where
  queuedCount : ℕ
  activeCount : ℕ
  stagedCount : ℕ
  backlogCount : ℕ
  concurrency : ℕ
  runtimeLane : RuntimeLane
  activeJob : Option Job
  nextJob : Option JobSummary
  perImportance : List (Importance × ℕ)
  perClientPending : List (String × ℕ)

/-- `d[key] = d.get(key, 0) + 1` for each key of a list. -/
def tally {κ : Type} [DecidableEq κ] (keys : List κ) : List (κ × ℕ) :=
  keys.foldl (fun d key => Assoc.set d key ((Assoc.get? d key).getD 0 + 1)) []

/-- An action on a job, if there is one. -/
def ofJob {α : Type} (f : Job → Except Exc α) : Option Job → Except Exc (Option α)
  | none => pure none
  | some job => some <$> f job

/-- The entry of `diagnostics` for one queue.  What it shows of the active job is part of its payload. -/
def queueDiagnostics (cfg : Config) (now : ℤ) (s : Service) (q : QueueKey) : Except Exc QueueDiagnostics := do
  let queuedIds := ((s.queues q).insertionSort (· ≤ ·)).map Entry.jobId
  let queued := queuedIds.map s.jobs.get?
  let running := s.jobs.values.filter fun job => job.queue = q && job.status = .running
  let activeJob ← ofJob (publicJobPayload cfg now s) running.head?
  let next := queued.head?.join
  let nextJob ← ofJob (queueJobSummary cfg now s) next
  let stagedCount := if nextJob.isSome then 1 else 0
  pure {
    queuedCount := queuedIds.length
    activeCount := s.activeCounts q
    stagedCount := stagedCount
    backlogCount := queuedIds.length - stagedCount
    concurrency := cfg.concurrency q
    runtimeLane := match next with
      | some job => job.runtimeLane
      | none => runtimeLaneForJob q {} {}
    activeJob := activeJob
    nextJob := nextJob
    perImportance := tally (queued.map fun job => (job.map fun job => job.importance).getD .normal)
    perClientPending := tally ((queued.filterMap fun job => job.bind fun job => job.clientId) ++
      running.filterMap fun job => job.clientId) }

/-- The view of a lane.  Its capacity and its component are tables. -/
structure LaneDiagnostics where
  queuedCount : ℕ
  activeCount : ℕ
  stagedCount : ℕ
  backlogCount : ℕ
  activeJob : Option Job
  stagedJob : Option JobSummary
  nextJob : Option JobSummary
  blockedReason : Option Value

/-- The jobs of a lane with a status, in the order of the table. -/
def Service.onLane (status : Status) (lane : RuntimeLane) (s : Service) : List Job :=
  s.jobs.values.filter fun job => job.status = status && job.runtimeLane = lane

/-- The sort key of a queued job in the view of its lane: an entry under the deadline key of now. -/
def laneEntry (cfg : Config) (now : ℤ) (job : Job) : Except Exc (Entry × Job) := do
  let key ← deadlineSortValue cfg now job.queueIntent
  pure (job.entry key, job)

/-- The first of the queued jobs of a lane. -/
def nextOnLane (cfg : Config) (now : ℤ) (s : Service) (lane : RuntimeLane) : Except Exc (Option Job) := do
  let keyed ← (s.onLane .queued lane).mapM (laneEntry cfg now)
  pure ((keyed.insertionSort fun a b => a.1 ≤ b.1).head?.map Prod.snd)

/-- `_lane_diagnostics_locked` for one lane. -/
def laneDiagnostics (cfg : Config) (now : ℤ) (s : Service) (lane : RuntimeLane) : Except Exc LaneDiagnostics := do
  let queuedCount := (s.onLane .queued lane).length
  let activeJob ← ofJob (publicJobPayload cfg now s) (s.onLane .running lane).head?
  let next ← nextOnLane cfg now s lane
  let nextJob ← ofJob (queueJobSummary cfg now s) next
  let blockedReason := nextJob.bind fun summary => summary.job.blockedReason
  let blocked := (blockedReason.getD .null).truthy
  let stagedCount := if nextJob.isSome && !blocked then 1 else 0
  pure {
    queuedCount := queuedCount
    activeCount := (s.onLane .running lane).length
    stagedCount := stagedCount
    backlogCount := queuedCount - stagedCount
    activeJob := activeJob
    stagedJob := if blocked then none else nextJob
    nextJob := nextJob
    blockedReason := if blocked then blockedReason else none }

/-- `_lane_diagnostics_locked`. -/
def lanesDiagnostics (cfg : Config) (now : ℤ) (s : Service) : Except Exc (List (RuntimeLane × LaneDiagnostics)) :=
  runtimeLanes.mapM fun lane => do
    let diagnostics ← laneDiagnostics cfg now s lane
    pure (lane, diagnostics)

/-- The global view. -/
structure GlobalQueue where
  queuedCount : ℕ
  activeCount : ℕ
  stagedCount : ℕ
  backlogCount : ℕ
  nextDispatchCandidate : Option JobSummary
  queuedJobs : List JobSummary

/-- The queued job of an entry. -/
def Service.queuedJob (s : Service) (e : Entry) : Option (Entry × Job) :=
  match s.jobs.get? e.jobId with
  | none => none
  | some job => if job.status = .queued then some (e, job) else none

/-- The queued jobs of all heaps, in the order of their entries. -/
def Service.globalOrder (s : Service) : List (Entry × Job) :=
  (queueKeys.flatMap fun q => (s.queues q).filterMap s.queuedJob).insertionSort fun a b => a.1 ≤ b.1

/-- `_global_queue_diagnostics_locked`. -/
def globalQueueDiagnostics (cfg : Config) (now : ℤ) (s : Service) (lanes : List (RuntimeLane × LaneDiagnostics)) :
    Except Exc GlobalQueue := do
  let queuedJobs ← s.globalOrder.mapM fun e => queueJobSummary cfg now s e.2
  let stagedCount := (lanes.map fun lane => lane.2.stagedCount).sum
  pure {
    queuedCount := queuedJobs.length
    activeCount := (lanes.map fun lane => lane.2.activeCount).sum
    stagedCount := stagedCount
    backlogCount := queuedJobs.length - stagedCount
    nextDispatchCandidate := queuedJobs.head?
    queuedJobs := queuedJobs }

/-- The views of `diagnostics`. -/
structure Diagnostics where
  queues : List (QueueKey × QueueDiagnostics)
  lanes : List (RuntimeLane × LaneDiagnostics)
  globalQueue : GlobalQueue
  jobCount : ℕ

/-- The views of a service. -/
def Service.views (cfg : Config) (now : ℤ) (s : Service) : Except Exc Diagnostics := do
  let queues ← queueKeys.mapM fun q => do
    let diagnostics ← queueDiagnostics cfg now s q
    pure (q, diagnostics)
  let lanes ← lanesDiagnostics cfg now s
  let globalQueue ← globalQueueDiagnostics cfg now s lanes
  pure ⟨queues, lanes, globalQueue, s.jobs.entries.length⟩

/-- `diagnostics`. -/
def diagnostics (cfg : Config) (now : ℤ) : Block Diagnostics := do
  monitorDeadlines cfg now
  let s ← read
  ofResult (s.views cfg now)

/-! ## The order of dispatch -/

variable {cfg : Config} {now : ℤ} {s : Service} {id : JobId} {job : Job} {e : Entry} {q : QueueKey} {lane : RuntimeLane}

/-- The job is queued on the lane. -/
def Service.waitsOn (lane : RuntimeLane) (s : Service) (id : JobId) : Bool :=
  (s.jobs.get? id).any fun job => job.status = .queued && job.runtimeLane = lane

/-- The job is queued. -/
def Service.isQueued (s : Service) (id : JobId) : Bool := (s.jobs.get? id).any fun job => job.status = .queued

theorem waitsOn_iff : s.waitsOn lane id = true ↔
    ∃ job, s.jobs.get? id = some job ∧ job.status = .queued ∧ job.runtimeLane = lane := by
  unfold Service.waitsOn
  rcases s.jobs.get? id with _ | job <;> simp

/-- A heap is popped in the order of its entries. -/
theorem popOrder_eq (h : Heapq.Ordered (s.queues q)) :
    s.popOrder q = ((s.queues q).insertionSort (· ≤ ·)).map Entry.jobId := by
  unfold Service.popOrder
  rw [Heapq.drain_eq_of_perm h (List.perm_insertionSort _ _) (List.pairwise_insertionSort _ _)]

/-- The first of some entries of a sorted list is the smallest of them. -/
theorem head_filter_iff {l : List Entry} (hsorted : l.Pairwise (· ≤ ·)) {p : Entry → Bool} (he : e ∈ l)
    (hp : p e = true) : (l.filter p).head? = some e ↔ ∀ e' ∈ l, p e' = true → e ≤ e' := by
  have hmem : e ∈ l.filter p := List.mem_filter.mpr ⟨he, hp⟩
  have hkept : (l.filter p).Pairwise (· ≤ ·) := hsorted.filter p
  rcases hlist : l.filter p with _ | ⟨first, rest⟩
  · rw [hlist] at hmem
    cases hmem
  rw [hlist] at hmem hkept
  have hfirst : ∀ e' ∈ first :: rest, first ≤ e' :=
    List.forall_mem_cons.mpr ⟨le_refl _, (List.pairwise_cons.mp hkept).1⟩
  constructor
  · rintro hhead e' he' hp'
    obtain rfl := Option.some.inj hhead
    exact hfirst e' (hlist ▸ List.mem_filter.mpr ⟨he', hp'⟩)
  · intro hleast
    have hfirstmem : first ∈ l.filter p := hlist ▸ List.mem_cons_self
    have hle := hleast first (List.mem_of_mem_filter hfirstmem) (List.mem_filter.mp hfirstmem).2
    rw [List.head?_cons, le_antisymm (hfirst e hmem) hle]

/-- A queued job is the first of its lane in its queue exactly if no entry of the lane comes before its own. -/
theorem first_on_lane_iff (h : Agrees False s) (he : e ∈ s.queues q) (hlane : s.waitsOn lane e.jobId = true) :
    ((s.popOrder q).filter (s.waitsOn lane)).head? = some e.jobId ↔
      ∀ e' ∈ s.queues q, s.waitsOn lane e'.jobId = true → e ≤ e' := by
  have hsort : ∀ e', e' ∈ (s.queues q).insertionSort (· ≤ ·) ↔ e' ∈ s.queues q := fun _ => List.mem_insertionSort _
  have hhead := head_filter_iff (List.pairwise_insertionSort (· ≤ ·) (s.queues q))
    (p := fun e' => s.waitsOn lane e'.jobId) ((hsort e).mpr he) hlane
  simp only [hsort] at hhead
  rw [popOrder_eq (h.ordered q), List.filter_map, List.head?_map, ← hhead, Option.map_eq_some_iff]
  constructor
  · rintro ⟨first, hfirst, hid⟩
    have hmem := (hsort first).mp (List.mem_of_mem_filter (List.mem_of_mem_head? hfirst))
    rwa [List.inj_on_of_nodup_map (h.distinct q) hmem he hid] at hfirst
  · exact fun hfirst => ⟨e, hfirst, rfl⟩

/-! ## The view of a lane -/

/-- The entry of a job under the deadline key of now. -/
def Service.entryAt (cfg : Config) (now : ℤ) (s : Service) (job : Job) : Entry :=
  job.entry (s.keyAt cfg now job.jobId)

theorem mem_onLane {status : Status} : job ∈ s.onLane status lane ↔
    job ∈ s.jobs.values ∧ job.status = status ∧ job.runtimeLane = lane := by
  simp [Service.onLane]

/-- An entry of a heap under the key of now. -/
theorem rekeyed_eq_entryAt (h : Agrees False s) (he : e ∈ s.queues q) (hjob : s.jobs.get? e.jobId = some job) :
    s.rekeyed cfg now e = s.entryAt cfg now job := by
  obtain ⟨job', hjob', -, -, heq⟩ := h.listed q e he
  rw [hjob] at hjob'
  obtain rfl := Option.some.inj hjob'
  have hid := h.keyed _ _ hjob
  unfold Service.rekeyed Service.entryAt
  rw [hid]
  rw [heq]
  rfl

theorem mem_values_iff (h : Agrees False s) : job ∈ s.jobs.values ↔ s.jobs.get? job.jobId = some job := by
  constructor
  · intro hmem
    obtain ⟨⟨id, job'⟩, hentry, rfl⟩ := List.mem_map.mp hmem
    have hget := OrderedDict.get?_of_mem_entries hentry
    rw [h.keyed id job' hget]
    exact hget
  · exact fun hget => OrderedDict.mem_values_of_get? hget

/-- **The next job of a lane** has the smallest entry of the lane under the keys of now. -/
theorem nextOnLane_eq_some (h : Agrees False s) (hnext : nextOnLane cfg now s lane = .ok (some job)) :
    job ∈ s.onLane .queued lane ∧ ∀ job' ∈ s.onLane .queued lane, s.entryAt cfg now job ≤ s.entryAt cfg now job' := by
  unfold nextOnLane at hnext
  obtain ⟨keyed, hkeyed, hnext⟩ := bind_eq_ok.mp hnext
  obtain ⟨⟨first, job'⟩, hhead, rfl⟩ := Option.map_eq_some_iff.mp (pure_eq_ok.mp hnext)
  have hentry : ∀ job ∈ s.onLane .queued lane, ∀ y, laneEntry cfg now job = .ok y →
      y = (s.entryAt cfg now job, job) := by
    intro job hjob y hy
    unfold laneEntry at hy
    obtain ⟨key, hkey, hy⟩ := bind_eq_ok.mp hy
    rw [← pure_eq_ok.mp hy]
    unfold Service.entryAt Service.keyAt
    rw [(mem_values_iff h).mp (mem_onLane.mp hjob).1]
    dsimp only
    rw [hkey]
  have hsorted := List.pairwise_insertionSort (fun a b : Entry × Job => a.1 ≤ b.1) keyed
  rcases hlist : keyed.insertionSort fun a b => a.1 ≤ b.1 with _ | ⟨x, rest⟩
  · rw [hlist] at hhead
    cases hhead
  rw [hlist] at hhead hsorted
  obtain rfl := Option.some.inj hhead
  have hleast : ∀ y ∈ keyed, first ≤ y.1 := by
    intro y hy
    have hy : y ∈ (first, job') :: rest := hlist ▸ (List.mem_insertionSort _).mpr hy
    rcases List.mem_cons.mp hy with rfl | hy
    · exact le_refl _
    · exact (List.pairwise_cons.mp hsorted).1 y hy
  have hfirst : (first, job') ∈ keyed := (List.mem_insertionSort _).mp (hlist ▸ List.mem_cons_self)
  obtain ⟨job, hjob, heq⟩ := exists_of_mem_mapM_eq_ok hkeyed hfirst
  obtain ⟨rfl, rfl⟩ := Prod.mk.inj (hentry job hjob _ heq)
  refine ⟨hjob, fun other hother => ?_⟩
  obtain ⟨y, hy, hkey⟩ := exists_mem_of_mapM_eq_ok hkeyed hother
  have hle := hleast y hy
  rwa [hentry other hother y hkey] at hle

theorem nextOnLane_eq_none (hnext : nextOnLane cfg now s lane = .ok none) : s.onLane .queued lane = [] := by
  unfold nextOnLane at hnext
  obtain ⟨keyed, hkeyed, hnext⟩ := bind_eq_ok.mp hnext
  have hnone : keyed.insertionSort (fun a b => a.1 ≤ b.1) = [] := by
    simpa using pure_eq_ok.mp hnext
  have hempty : keyed = [] := List.length_eq_zero_iff.mp (by
    rw [← List.length_insertionSort fun a b : Entry × Job => a.1 ≤ b.1, hnone]
    rfl)
  refine List.eq_nil_iff_forall_not_mem.mpr fun job hjob => ?_
  obtain ⟨y, hy, -⟩ := exists_mem_of_mapM_eq_ok hkeyed hjob
  rw [hempty] at hy
  cases hy

/-! ## The global view -/

theorem queuedJob_eq (h : Agrees False s) (he : e ∈ s.queues q) :
    ∃ job, s.queuedJob e = some (e, job) ∧ s.jobs.get? e.jobId = some job ∧ job.queue = q := by
  obtain ⟨job, hjob, hqueued, hq, -⟩ := h.listed q e he
  unfold Service.queuedJob
  rw [hjob]
  exact ⟨job, if_pos hqueued, rfl, hq⟩

/-- Every entry of a heap shows its job. -/
theorem map_fst_queuedJob (h : Agrees False s) (q : QueueKey) :
    ((s.queues q).filterMap s.queuedJob).map Prod.fst = s.queues q := by
  have hsub : ∀ l : List Entry, (∀ e ∈ l, e ∈ s.queues q) → (l.filterMap s.queuedJob).map Prod.fst = l := by
    intro l hl
    induction l with
    | nil => rfl
    | cons e l ih =>
      obtain ⟨job, hjob, -, -⟩ := queuedJob_eq h (hl e List.mem_cons_self)
      rw [List.filterMap_cons_some hjob, List.map_cons, ih fun e' he' => hl e' (List.mem_cons_of_mem _ he')]
  exact hsub _ fun _ he => he

/-- The entries of the global view with the queues of their jobs. -/
theorem mem_globalOrder (h : Agrees False s) {p : Entry × Job} (hp : p ∈ s.globalOrder) :
    p.1 ∈ s.queues p.2.queue ∧ s.jobs.get? p.1.jobId = some p.2 ∧ p.2.jobId = p.1.jobId := by
  obtain ⟨q, -, hp⟩ := List.mem_flatMap.mp ((List.mem_insertionSort _).mp hp)
  obtain ⟨e, he, hjob⟩ := List.mem_filterMap.mp hp
  obtain ⟨job, hshown, hget, rfl⟩ := queuedJob_eq h he
  obtain rfl := Option.some.inj (hshown.symm.trans hjob)
  exact ⟨he, hget, h.keyed _ _ hget⟩

/-- **The global view of a queue** is its pop order. -/
theorem globalOrder_of_queue (h : Agrees False s) (q : QueueKey) :
    (s.globalOrder.filter fun p => p.2.queue = q).map (fun p => p.2.jobId) = s.popOrder q := by
  have hids : ∀ p ∈ s.globalOrder.filter fun p => p.2.queue = q, p.2.jobId = p.1.jobId :=
    fun p hp => (mem_globalOrder h (List.mem_of_mem_filter hp)).2.2
  rw [List.map_congr_left hids]
  unfold Service.popOrder
  rw [show (fun p : Entry × Job => p.1.jobId) = Entry.jobId ∘ Prod.fst from rfl, ← List.map_map]
  refine congrArg (List.map Entry.jobId) (Heapq.drain_eq_of_perm (h.ordered q) ?_ ?_).symm
  · -- the entries of the other queues are filtered out
    have hperm : (s.globalOrder.filter fun p => p.2.queue = q).Perm
        ((queueKeys.flatMap fun q => (s.queues q).filterMap s.queuedJob).filter fun p => p.2.queue = q) :=
      (List.perm_insertionSort _ _).filter _
    refine (hperm.map Prod.fst).trans (List.Perm.of_eq ?_)
    have hpart : ∀ q', (((s.queues q').filterMap s.queuedJob).filter fun p => p.2.queue = q) =
        if q' = q then (s.queues q').filterMap s.queuedJob else [] := by
      intro q'
      have hq : ∀ p ∈ (s.queues q').filterMap s.queuedJob, p.2.queue = q' := by
        intro p hp
        obtain ⟨e, he, hjob⟩ := List.mem_filterMap.mp hp
        obtain ⟨job, hshown, -, hq⟩ := queuedJob_eq h he
        obtain rfl := Option.some.inj (hshown.symm.trans hjob)
        exact hq
      split
      · next heq => exact List.filter_eq_self.mpr fun p hp => by simpa [heq] using hq p hp
      · next hne => exact List.filter_eq_nil_iff.mpr fun p hp => by simpa [hq p hp] using hne
    rw [List.filter_flatMap]
    simp only [hpart]
    have hone : (queueKeys.flatMap fun q' => if q' = q then (s.queues q').filterMap s.queuedJob else []) =
        (s.queues q).filterMap s.queuedJob := by
      cases q <;> simp [queueKeys]
    rw [hone, map_fst_queuedJob h]
  · rw [List.pairwise_map]
    exact (List.pairwise_insertionSort (fun a b : Entry × Job => a.1 ≤ b.1) _).filter _

theorem isQueued_iff : s.isQueued id = true ↔ ∃ job, s.jobs.get? id = some job ∧ job.status = .queued := by
  unfold Service.isQueued
  rcases s.jobs.get? id with _ | job <;> simp

/-- Where every queued job lies in a heap, the global view shows each once. -/
theorem count_globalOrder (h : Agrees True s) (id : JobId) :
    (s.globalOrder.map fun p => p.2.jobId).count id = if s.isQueued id then 1 else 0 := by
  have hweak : Agrees False s := { h with entered := False.elim }
  have hids : ∀ p ∈ s.globalOrder, p.2.jobId = p.1.jobId := fun p hp => (mem_globalOrder hweak hp).2.2
  have hperm : (s.globalOrder.map fun p => p.1.jobId).Perm
      (queueKeys.flatMap fun q => (s.queues q).map Entry.jobId) := by
    refine ((List.perm_insertionSort _ _).map _).trans (List.Perm.of_eq ?_)
    rw [List.map_flatMap]
    refine congrArg (fun f => queueKeys.flatMap f) (funext fun q => ?_)
    rw [show (fun p : Entry × Job => p.1.jobId) = Entry.jobId ∘ Prod.fst from rfl, ← List.map_map,
      map_fst_queuedJob hweak]
  have hcount : ∀ q, ((s.queues q).map Entry.jobId).count id = if s.queuedIn id q then 1 else 0 := by
    intro q
    rw [← h.count_entries id q, List.count, List.countP_map]
    rfl
  rw [List.map_congr_left hids, hperm.count_eq, List.count_flatMap]
  simp only [Function.comp_def, hcount]
  unfold Service.isQueued Service.queuedIn
  rcases s.jobs.get? id with _ | job
  · rfl
  · by_cases hqueued : job.status = .queued
    · simp only [Option.any_some, hqueued, decide_true, Bool.true_and]
      cases job.queue <;> rfl
    · simp [hqueued, queueKeys]

/-! ## What the views show -/

theorem queueJobSummary_eq_ok {summary : JobSummary} (h : queueJobSummary cfg now s job = .ok summary) :
    summary.job = job.persisted ∧ summary.queuePosition = s.queuePosition job.jobId := by
  unfold queueJobSummary at h
  obtain ⟨eta, -, h⟩ := bind_eq_ok.mp h
  obtain ⟨deadline, -, h⟩ := bind_eq_ok.mp h
  obtain rfl := pure_eq_ok.mp h
  exact ⟨rfl, rfl⟩

theorem ofJob_eq_ok {α : Type} {f : Job → Except Exc α} {o : Option Job} {a : Option α} (h : ofJob f o = .ok a) :
    (o = none ∧ a = none) ∨ ∃ job b, o = some job ∧ a = some b ∧ f job = .ok b := by
  rcases o with _ | job
  · exact Or.inl ⟨rfl, (pure_eq_ok.mp h).symm⟩
  · unfold ofJob at h
    dsimp only at h
    rcases hf : f job with e | b
    · rw [hf] at h
      cases h
    · rw [hf] at h
      exact Or.inr ⟨job, b, rfl, (Except.ok.inj h).symm, hf⟩

/-- What the view of a lane shows. -/
structure ShowsLane (cfg : Config) (now : ℤ) (s : Service) (lane : RuntimeLane) (l : LaneDiagnostics) : Prop where
  queued : l.queuedCount = (s.onLane .queued lane).length
  active : l.activeCount = (s.onLane .running lane).length
  next : ∃ next, nextOnLane cfg now s lane = .ok next ∧
    (next = none ∧ l.nextJob = none ∨
      ∃ job summary, next = some job ∧ l.nextJob = some summary ∧ summary.job = job.persisted)

theorem showsLane {l : LaneDiagnostics} (h : laneDiagnostics cfg now s lane = .ok l) : ShowsLane cfg now s lane l := by
  unfold laneDiagnostics at h
  obtain ⟨active, -, h⟩ := bind_eq_ok.mp h
  obtain ⟨next, hnext, h⟩ := bind_eq_ok.mp h
  obtain ⟨summary, hsummary, h⟩ := bind_eq_ok.mp h
  obtain rfl := pure_eq_ok.mp h
  refine ⟨rfl, rfl, next, hnext, ?_⟩
  rcases ofJob_eq_ok hsummary with ⟨rfl, rfl⟩ | ⟨job, shown, rfl, rfl, hshown⟩
  · exact Or.inl ⟨rfl, rfl⟩
  · exact Or.inr ⟨job, shown, rfl, rfl, (queueJobSummary_eq_ok hshown).1⟩

/-- A list of results made one by one. -/
theorem map_eq_of_mapM {α β γ : Type} {f : α → Except Exc β} {g : β → γ} {g' : α → γ} {l : List α} {ys : List β}
    (h : l.mapM f = .ok ys) (hf : ∀ a ∈ l, ∀ b, f a = .ok b → g b = g' a) : ys.map g = l.map g' := by
  induction l generalizing ys with
  | nil =>
    obtain rfl := pure_eq_ok.mp h
    rfl
  | cons a l ih =>
    rw [List.mapM_cons] at h
    obtain ⟨b, hb, h⟩ := bind_eq_ok.mp h
    obtain ⟨bs, hbs, h⟩ := bind_eq_ok.mp h
    obtain rfl := pure_eq_ok.mp h
    rw [List.map_cons, List.map_cons, hf a List.mem_cons_self b hb,
      ih hbs fun a' ha' => hf a' (List.mem_cons_of_mem _ ha')]

/-- Every job has one lane. -/
theorem sum_onLane (status : Status) (s : Service) :
    (runtimeLanes.map fun lane => (s.onLane status lane).length).sum =
      s.jobs.values.countP fun job => job.status = status := by
  unfold Service.onLane
  induction s.jobs.values with
  | nil => rfl
  | cons job jobs ih =>
    rw [List.countP_cons, ← ih]
    by_cases hstatus : job.status = status
    · simp only [List.filter_cons, hstatus, decide_true, Bool.true_and]
      cases job.runtimeLane <;> simp [runtimeLanes] <;> omega
    · simp [hstatus]

/-- The views of lanes. -/
theorem lanes_shown {lanes : List (RuntimeLane × LaneDiagnostics)} (h : lanesDiagnostics cfg now s = .ok lanes) :
    (∀ lane ∈ runtimeLanes, ∃ l, (lane, l) ∈ lanes) ∧ (∀ lane l, (lane, l) ∈ lanes → ShowsLane cfg now s lane l) ∧
      (lanes.map fun p => p.2.queuedCount) = runtimeLanes.map (fun lane => (s.onLane .queued lane).length) ∧
      (lanes.map fun p => p.2.activeCount) = runtimeLanes.map fun lane => (s.onLane .running lane).length := by
  have hone : ∀ lane p, (do
      let diagnostics ← laneDiagnostics cfg now s lane
      pure (lane, diagnostics)) = Except.ok p → p.1 = lane ∧ ShowsLane cfg now s lane p.2 := by
    intro lane p hp
    obtain ⟨l, hl, hp⟩ := bind_eq_ok.mp hp
    obtain rfl := pure_eq_ok.mp hp
    exact ⟨rfl, showsLane hl⟩
  refine ⟨fun lane hlane => ?_, fun lane l hmem => ?_, ?_, ?_⟩
  · obtain ⟨p, hp, heq⟩ := exists_mem_of_mapM_eq_ok h hlane
    obtain ⟨rfl, -⟩ := hone lane p heq
    exact ⟨p.2, hp⟩
  · obtain ⟨lane', -, heq⟩ := exists_of_mem_mapM_eq_ok h hmem
    obtain ⟨rfl, hshows⟩ := hone lane' _ heq
    exact hshows
  · exact map_eq_of_mapM h fun lane _ p hp => (hone lane p hp).2.queued
  · exact map_eq_of_mapM h fun lane _ p hp => (hone lane p hp).2.active

/-! ## When the views agree with the dispatchers -/

/-- The views agree with the dispatchers. -/
structure DiagnosticsAgree (s : Service) (d : Diagnostics) : Prop where
  next : ∀ lane l summary, (lane, l) ∈ d.lanes → l.nextJob = some summary →
    ((s.popOrder summary.job.queue).filter (s.waitsOn lane)).head? = some summary.job.jobId
  listed : ∀ id, (d.globalQueue.queuedJobs.map fun j => j.job.jobId).count id = if s.isQueued id then 1 else 0
  ordered : ∀ q, ((d.globalQueue.queuedJobs.filter fun j => j.job.queue = q).map fun j => j.job.jobId) = s.popOrder q
  position : ∀ j ∈ d.globalQueue.queuedJobs, j.queuePosition = s.queuePosition j.job.jobId ∧
    s.queuePosition j.job.jobId = some ((s.popOrder j.job.queue).idxOf j.job.jobId + 1)
  queued : (d.lanes.map fun p => p.2.queuedCount).sum = s.jobs.values.countP fun job => job.status = .queued
  active : (d.lanes.map fun p => p.2.activeCount).sum = s.jobs.values.countP fun job => job.status = .running

/-- The entry `b` lies after `a`, and before it under the keys of now.  Both have one importance, and one of the jobs
is ordered by its wait budget alone. -/
structure Overtakes (cfg : Config) (now : ℤ) (s : Service) (b a : Entry) : Prop where
  rank : a.rank = b.rank
  waits : (s.ordersByWait a.jobId || s.ordersByWait b.jobId) = true
  after : a < b
  before : s.rekeyed cfg now b < s.rekeyed cfg now a

/-- Every queued job lies in a heap; and a job that overtakes another of its lane and queue has, under the keys of now,
a job of the lane before it. -/
structure KeepsFront (cfg : Config) (now : ℤ) (s : Service) : Prop where
  entered : s.AllEntered
  front : ∀ lane q, ∀ a ∈ s.queues q, ∀ b ∈ s.queues q, s.waitsOn lane a.jobId = true → s.waitsOn lane b.jobId = true →
    Overtakes cfg now s b a →
      ∃ q', ∃ c ∈ s.queues q', s.waitsOn lane c.jobId = true ∧ s.rekeyed cfg now c < s.rekeyed cfg now b

/-- Jobs of which none is ordered by its wait budget alone, or of different importance, do not overtake. -/
theorem overtakes_iff (hkeyed : KeyedAt cfg s) (h : Agrees False s) {a b : Entry} (ha : a ∈ s.queues q)
    (hb : b ∈ s.queues q) : Overtakes cfg now s b a ↔ a < b ∧ s.rekeyed cfg now b < s.rekeyed cfg now a := by
  refine ⟨fun hover => ⟨hover.after, hover.before⟩, fun ⟨hafter, hbefore⟩ => ?_⟩
  have hback : (s.rekeyed cfg now b).rank ≤ (s.rekeyed cfg now a).rank := Entry.rank_le_of_le hbefore.le
  have hrank : a.rank = b.rank := le_antisymm (Entry.rank_le_of_le hafter.le) hback
  refine ⟨hrank, ?_, hafter, hbefore⟩
  by_contra hwait
  rw [Bool.not_eq_true, Bool.or_eq_false_iff] at hwait
  rw [rekeyed_of_not_ordersByWait hkeyed h ha hwait.1, rekeyed_of_not_ordersByWait hkeyed h hb hwait.2] at hbefore
  exact lt_asymm hafter hbefore

/-- **The next job of a lane** is the first of the lane in its queue, for every lane, exactly if overtaking does not
change the front of a lane. -/
theorem next_iff_keepsFront (hkeyed : KeyedAt cfg s) (h : Agrees False s) (hentered : s.AllEntered)
    {lanes : List (RuntimeLane × LaneDiagnostics)} (hlanes : lanesDiagnostics cfg now s = .ok lanes) :
    (∀ lane l summary, (lane, l) ∈ lanes → l.nextJob = some summary →
      ((s.popOrder summary.job.queue).filter (s.waitsOn lane)).head? = some summary.job.jobId) ↔
        KeepsFront cfg now s := by
  obtain ⟨hall, hshows, -, -⟩ := lanes_shown hlanes
  have hwaits : ∀ {lane job}, job ∈ s.onLane .queued lane → s.waitsOn lane job.jobId = true ∧
      ∃ e ∈ s.queues job.queue, e.jobId = job.jobId ∧ s.rekeyed cfg now e = s.entryAt cfg now job := by
    intro lane job hjob
    obtain ⟨hvalue, hstatus, hlane⟩ := mem_onLane.mp hjob
    have hget := (mem_values_iff h).mp hvalue
    obtain ⟨e, he, hid⟩ := hentered _ _ hget hstatus
    exact ⟨waitsOn_iff.mpr ⟨job, hget, hstatus, hlane⟩, e, he, hid, rekeyed_eq_entryAt h he (hid ▸ hget)⟩
  have hjobOf : ∀ {lane q e}, e ∈ s.queues q → s.waitsOn lane e.jobId = true → ∃ job, job ∈ s.onLane .queued lane ∧
      job.jobId = e.jobId ∧ job.queue = q ∧ s.rekeyed cfg now e = s.entryAt cfg now job := by
    intro lane q e he hwait
    obtain ⟨job, hget, hstatus, hlane⟩ := waitsOn_iff.mp hwait
    obtain ⟨job', hget', -, hq, -⟩ := h.listed q e he
    obtain rfl := Option.some.inj (hget.symm.trans hget')
    exact ⟨job, mem_onLane.mpr ⟨OrderedDict.mem_values_of_get? hget, hstatus, hlane⟩, h.keyed _ _ hget, hq,
      rekeyed_eq_entryAt h he hget⟩
  constructor
  · intro hnext
    refine ⟨hentered, fun lane q a ha b hb hwaita hwaitb hover => ?_⟩
    obtain ⟨l, hl⟩ := hall lane (by cases lane <;> decide)
    obtain ⟨next, hnextjob, hshown⟩ := (hshows lane l hl).next
    obtain ⟨jobb, hjobb, hidb, hqb, hkeyb⟩ := hjobOf hb hwaitb
    rcases hshown with ⟨rfl, -⟩ | ⟨job, summary, rfl, hsummary, hpersisted⟩
    · rw [nextOnLane_eq_none hnextjob] at hjobb
      cases hjobb
    obtain ⟨hjob, hleast⟩ := nextOnLane_eq_some h hnextjob
    obtain ⟨hwait, e, he, hid, hkey⟩ := hwaits hjob
    rcases (hleast jobb hjobb).lt_or_eq with hlt | heq
    · exact ⟨job.queue, e, he, hid ▸ hwait, by rw [hkey, hkeyb]; exact hlt⟩
    · -- the next job of the lane is the one that overtakes
      have hsame : job.jobId = jobb.jobId := congrArg Entry.jobId heq
      have hjobs : job = jobb := by
        have hget := (mem_values_iff h).mp (mem_onLane.mp hjob).1
        rw [hsame, (mem_values_iff h).mp (mem_onLane.mp hjobb).1] at hget
        exact (Option.some.inj hget).symm
      have hfirst := hnext lane l summary hl hsummary
      rw [hpersisted] at hfirst
      have hfirst : ((s.popOrder q).filter (s.waitsOn lane)).head? = some b.jobId := by
        rw [← hqb, ← hjobs, ← hidb, ← hjobs]
        exact hfirst
      have hle := (first_on_lane_iff h hb hwaitb).mp hfirst a ha hwaita
      exact absurd hover.after (not_lt.mpr hle)
  · intro hkeeps lane l summary hl hsummary
    obtain ⟨next, hnextjob, hshown⟩ := (hshows lane l hl).next
    rcases hshown with ⟨-, hnone⟩ | ⟨job, summary', rfl, hsummary', hpersisted⟩
    · rw [hnone] at hsummary
      cases hsummary
    obtain rfl := Option.some.inj (hsummary'.symm.trans hsummary)
    obtain ⟨hjob, hleast⟩ := nextOnLane_eq_some h hnextjob
    obtain ⟨hwait, e, he, hid, hkey⟩ := hwaits hjob
    rw [hpersisted]
    show ((s.popOrder job.queue).filter (s.waitsOn lane)).head? = some job.jobId
    rw [← hid]
    refine (first_on_lane_iff h he (hid ▸ hwait)).mpr fun e' he' hwait' => ?_
    by_contra hlt
    obtain ⟨job', hjob', hid', -, hkey'⟩ := hjobOf he' hwait'
    have hle := hleast job' hjob'
    rw [← hkey, ← hkey'] at hle
    have hne : s.rekeyed cfg now e ≠ s.rekeyed cfg now e' := by
      intro heq
      have hids := congrArg Entry.jobId heq
      have hids : e.jobId = e'.jobId := hids
      rw [List.inj_on_of_nodup_map (h.distinct job.queue) he he' hids] at hlt
      exact hlt (le_refl _)
    have hover := (overtakes_iff hkeyed h he' he).mpr ⟨not_le.mp hlt, lt_of_le_of_ne hle hne⟩
    obtain ⟨q', c, hc, hwaitc, hltc⟩ := hkeeps.front lane job.queue e' he' e he hwait' (hid ▸ hwait) hover
    obtain ⟨jobc, hjobc, -, -, hkeyc⟩ := hjobOf hc hwaitc
    have hlec := hleast jobc hjobc
    rw [← hkey, ← hkeyc] at hlec
    exact absurd hltc (not_lt.mpr hlec)

/-- The global view of a service whose views can be computed. -/
theorem queuedJobs_eq {lanes : List (RuntimeLane × LaneDiagnostics)} {g : GlobalQueue}
    (hglobal : globalQueueDiagnostics cfg now s lanes = .ok g) :
    (g.queuedJobs.map fun j => (j.job.jobId, j.job.queue, j.queuePosition)) =
      s.globalOrder.map fun p => (p.2.jobId, p.2.queue, s.queuePosition p.2.jobId) := by
  unfold globalQueueDiagnostics at hglobal
  obtain ⟨summaries, hsummaries, hglobal⟩ := bind_eq_ok.mp hglobal
  obtain rfl := pure_eq_ok.mp hglobal
  refine map_eq_of_mapM hsummaries fun p _ summary hsummary => ?_
  obtain ⟨hjob, hposition⟩ := queueJobSummary_eq_ok hsummary
  rw [hjob, hposition]
  rfl

/-- The diagnostics show a reachable service. -/
theorem diagnostics_eq_ok {n : Node} {d : Diagnostics} {s' : Service}
    (h : (diagnostics cfg now).exec n.service = (.ok d, s')) :
    (fire cfg n (.poll now)).service = s' ∧ s'.views cfg now = .ok d := by
  unfold diagnostics at h
  rw [exec_bind] at h
  rcases hpass : (monitorDeadlines cfg now).exec n.service with ⟨e | u, t⟩ <;> rw [hpass] at h
  · cases h
  dsimp only at h
  rw [exec_bind, exec_read] at h
  dsimp only at h
  rw [exec_ofResult] at h
  obtain ⟨hviews, rfl⟩ := Prod.mk.inj h
  refine ⟨?_, hviews⟩
  have hfire : n.service.fire cfg (.poll now) = t := by
    unfold Service.fire store
    rw [exec_recover, show (Step.poll now).body cfg n.service = monitorDeadlines cfg now from rfl, hpass]
  unfold fire
  dsimp only
  rw [if_neg (by simp [Step.drawn])]
  exact hfire

/-- **The diagnostics agree with the dispatchers** exactly if every queued job lies in a heap and overtaking does not
change the front of a lane. -/
theorem diagnostics_agree_iff (cfg : Config) (steps : List Step) (now : ℤ) (d : Diagnostics) (s : Service)
    (h : (diagnostics cfg now).exec (run cfg steps).service = (.ok d, s)) :
    DiagnosticsAgree s d ↔ KeepsFront cfg now s := by
  obtain ⟨hfire, hviews⟩ := diagnostics_eq_ok h
  have hrun : (run cfg (steps ++ [.poll now])).service = s := by
    rw [run_append]
    exact hfire
  have hweak : Agrees False s := hrun ▸ (nodeSound_false cfg _).sound.agrees
  have hkeyed : KeyedAt cfg s := hrun ▸ keyedAt_run cfg _
  unfold Service.views at hviews
  obtain ⟨queues, -, hviews⟩ := bind_eq_ok.mp hviews
  obtain ⟨lanes, hlanes, hviews⟩ := bind_eq_ok.mp hviews
  obtain ⟨g, hglobal, hviews⟩ := bind_eq_ok.mp hviews
  obtain rfl := pure_eq_ok.mp hviews
  have hjobs := queuedJobs_eq hglobal
  obtain ⟨-, -, hqueued, hactive⟩ := lanes_shown hlanes
  have hids : (g.queuedJobs.map fun j => j.job.jobId) = s.globalOrder.map fun p => p.2.jobId := by
    have hfirst := congrArg (List.map Prod.fst) hjobs
    simpa [List.map_map, Function.comp_def] using hfirst
  constructor
  · intro hagree
    refine (next_iff_keepsFront hkeyed hweak (fun id job hjob hstatus => ?_) hlanes).mp hagree.next
    -- a queued job that is shown lies in a heap
    have hcount := hagree.listed id
    rw [if_pos (isQueued_iff.mpr ⟨job, hjob, hstatus⟩)] at hcount
    have hmem : id ∈ s.globalOrder.map fun p => p.2.jobId := by
      rw [← hids]
      refine List.count_pos_iff.mp ?_
      dsimp only at hcount
      rw [hcount]
      exact Nat.zero_lt_one
    obtain ⟨p, hp, hid⟩ := List.mem_map.mp hmem
    obtain ⟨hentry, hget, hsame⟩ := mem_globalOrder hweak hp
    rw [← hsame, hid, hjob] at hget
    obtain rfl := Option.some.inj hget
    exact ⟨p.1, hentry, hsame ▸ hid⟩
  · intro hkeeps
    have hstrong : Agrees True s := { hweak with entered := fun _ => hkeeps.entered }
    have hcount : ∀ id, (g.queuedJobs.map fun j => j.job.jobId).count id = if s.isQueued id then 1 else 0 := by
      intro id
      rw [hids]
      exact count_globalOrder hstrong id
    have hshown : ∀ j ∈ g.queuedJobs, ∃ p ∈ s.globalOrder, j.job.jobId = p.2.jobId ∧ j.job.queue = p.2.queue ∧
        j.queuePosition = s.queuePosition p.2.jobId := by
      intro j hj
      have hmem := List.mem_map_of_mem (f := fun j : JobSummary => (j.job.jobId, j.job.queue, j.queuePosition)) hj
      rw [hjobs] at hmem
      obtain ⟨p, hp, heq⟩ := List.mem_map.mp hmem
      obtain ⟨hid, hrest⟩ := Prod.mk.inj heq
      obtain ⟨hqueue, hposition⟩ := Prod.mk.inj hrest
      exact ⟨p, hp, hid.symm, hqueue.symm, hposition.symm⟩
    refine ⟨(next_iff_keepsFront hkeyed hweak hkeeps.entered hlanes).mpr hkeeps, hcount, fun q => ?_, fun j hj => ?_,
      ?_, ?_⟩
    · rw [← globalOrder_of_queue hweak q]
      have hpairs := congrArg (fun l : List (JobId × QueueKey × Option ℕ) =>
        (l.filter fun x => x.2.1 = q).map Prod.fst) hjobs
      simpa [List.filter_map, List.map_map, Function.comp_def] using hpairs
    · obtain ⟨p, hp, hid, hqueue, hposition⟩ := hshown j hj
      obtain ⟨hentry, hget, hsame⟩ := mem_globalOrder hweak hp
      rw [hid, hqueue, hposition]
      refine ⟨rfl, ?_⟩
      rw [popOrder_eq (hweak.ordered _)]
      unfold Service.queuePosition
      rw [hsame, hget]
      exact if_pos (List.mem_map.mpr ⟨p.1, (List.mem_insertionSort _).mpr hentry, rfl⟩)
    · rw [hqueued]
      exact sum_onLane .queued s
    · rw [hactive]
      exact sum_onLane .running s

/-- A job that may wait ten seconds, and one that has to start within twelve. -/
def waitAndDeadline : List Step := [
  .enqueue 1767225600000000 1
    { queue := "local", importance := "normal", queueIntent := { maxWaitSeconds := some 10 } },
  .enqueue 1767225600000000 2
    { queue := "local", importance := "normal", queueIntent := { deadlineAt := some 1767225612000000 } }]

/-- The diagnostics of a reachable service. -/
theorem exists_diagnostics_of_isOk (cfg : Config) (steps : List Step) (now : ℤ)
    (h : ((diagnostics cfg now).exec (run cfg steps).service).1.isOk = true) :
    ∃ d s, (diagnostics cfg now).exec (run cfg steps).service = (.ok d, s) := by
  rcases hexec : (diagnostics cfg now).exec (run cfg steps).service with ⟨e | d, s⟩
  · rw [hexec] at h
    cases h
  · exact ⟨d, s, rfl⟩

theorem diagnostics_agree_iff_waitAndDeadline :
    ∃ d s, (diagnostics {} 1767225605000000).exec (run {} waitAndDeadline).service = (.ok d, s) ∧
      (DiagnosticsAgree s d ↔ KeepsFront {} 1767225605000000 s) := by
  obtain ⟨d, s, h⟩ := exists_diagnostics_of_isOk {} waitAndDeadline 1767225605000000 (by decide +kernel)
  exact ⟨d, s, h, diagnostics_agree_iff {} waitAndDeadline 1767225605000000 d s h⟩

/-- Five seconds later the lane shows the second job as the next one, and the dispatcher takes the first. -/
theorem lane_shows_other_job : ¬∀ (cfg : Config) (steps : List Step) (now : ℤ) (d : Diagnostics) (s : Service),
    (diagnostics cfg now).exec (run cfg steps).service = (.ok d, s) → DiagnosticsAgree s d := by
  intro h
  have hfacts : (((diagnostics {} 1767225605000000).exec (run {} waitAndDeadline).service).1.toOption.map fun d =>
      d.lanes.any fun p => p.1 = .textLlm && p.2.nextJob.any fun j => j.job.jobId = 2 && j.job.queue = .localNode) =
        some true ∧
      (((diagnostics {} 1767225605000000).exec (run {} waitAndDeadline).service).2.popOrder .localNode).filter
        (((diagnostics {} 1767225605000000).exec (run {} waitAndDeadline).service).2.waitsOn .textLlm) = [1, 2] := by
    decide +kernel
  obtain ⟨d, s, hexec⟩ := exists_diagnostics_of_isOk {} waitAndDeadline 1767225605000000 (by decide +kernel)
  rw [hexec] at hfacts
  obtain ⟨hlane, horder⟩ := hfacts
  have hlane : (d.lanes.any fun p => p.1 = .textLlm && p.2.nextJob.any fun j =>
      j.job.jobId = 2 && j.job.queue = .localNode) = true := Option.some.inj hlane
  obtain ⟨⟨lane, l⟩, hmem, hshown⟩ := List.any_eq_true.mp hlane
  rw [Bool.and_eq_true, decide_eq_true_eq] at hshown
  obtain ⟨rfl, hnext⟩ := hshown
  obtain ⟨j, hj, hids⟩ := (Option.any_eq_true ..).mp hnext
  rw [Bool.and_eq_true, decide_eq_true_eq, decide_eq_true_eq] at hids
  have hfirst := (h {} waitAndDeadline 1767225605000000 d s hexec).next .textLlm l j hmem hj
  rw [hids.1, hids.2, horder] at hfirst
  exact absurd hfirst (by decide)

end Queue
end HexeAiNode
