import HexeAiNode.Queue.Blocks

/-!
# The job table and the heaps

`Agrees` says that the heaps hold queued jobs only, each in the heap of its own queue and once, that every
queued job is in its heap, and that no job has a second runner task.  Every change the blocks make keeps
it, with one exception: an overdue local job leaves its heap before its key for the cloud queue is
computed, and the key of a job without a deadline is a date that may lie beyond the year 9999.  The
proposition `fit` stands for the absence of such jobs (`MovesFit`); without it the agreement still holds
but for `entered`.
-/

namespace HexeAiNode
namespace Queue

open Py Execution StoreAction

/-- The heaps hold exactly the queued jobs, or only queued jobs when the moves do not fit, each under an
entry made of its record; no job has two runner tasks. -/
structure Agrees (fit : Prop) (s : Service) : Prop where
  keyed : ∀ id job, s.jobs.get? id = some job → job.jobId = id
  ordered : ∀ q, Heapq.Ordered (s.queues q)
  distinct : ∀ q, ((s.queues q).map Entry.jobId).Nodup
  listed : ∀ q, ∀ e ∈ s.queues q,
    ∃ job, s.jobs.get? e.jobId = some job ∧ job.status = .queued ∧ job.queue = q ∧
      e = job.entry e.deadlineSort
  entered : fit → ∀ id job, s.jobs.get? id = some job → job.status = .queued →
    ∃ e ∈ s.queues job.queue, e.jobId = id
  single : (s.runners.map Runner.jobId).Nodup
  dispatched : ∀ r ∈ s.runners, ∀ job, s.jobs.get? r.jobId = some job → job.status ≠ .queued

/-- Every overdue job that goes to the cloud queue gets a key there. -/
def MovesFit (cfg : Config) (now : ℤ) (s : Service) : Prop :=
  ∀ id job d, s.jobs.get? id = some job → job.status = .queued → job.queue = .localNode →
    job.allowsCloudSpillover = true → job.effectiveDeadline = .ok (some d) → d < now →
    ∀ e, deadlineSortValue cfg now job.queueIntent ≠ .error e

/-! ## Heaps -/

theorem mem_heapify {l : List Entry} {e : Entry} : e ∈ Heapq.heapify l ↔ e ∈ l :=
  (Heapq.heapify_perm l).mem_iff

theorem mem_push {l : List Entry} {e x : Entry} : e ∈ Heapq.push l x ↔ e = x ∨ e ∈ l := by
  rw [(Heapq.push_perm l x).mem_iff, List.mem_cons]

/-- The heap after a job is taken out. -/
theorem queues_removeFromQueue (s : Service) (q q' : QueueKey) (id : JobId) :
    (s.removeFromQueue q id).queues q' =
      if q' = q then Heapq.heapify ((s.queues q).filter fun e => e.jobId ≠ id) else s.queues q' := by
  show Function.update s.queues q _ q' = _
  by_cases h : q' = q
  · subst h
    rw [Function.update_self, if_pos rfl]
  · rw [Function.update_of_ne h, if_neg h]

theorem queues_pushEntry (s : Service) (q q' : QueueKey) (e : Entry) :
    (s.pushEntry q e).queues q' = if q' = q then Heapq.push (s.queues q) e else s.queues q' := by
  show Function.update s.queues q _ q' = _
  by_cases h : q' = q
  · subst h
    rw [Function.update_self, if_pos rfl]
  · rw [Function.update_of_ne h, if_neg h]

theorem queues_popEntry (s : Service) (q q' : QueueKey) :
    (s.popEntry q).queues q' =
      if q' = q then (Heapq.pop (s.queues q)).elim [] Prod.snd else s.queues q' := by
  show Function.update s.queues q _ q' = _
  by_cases h : q' = q
  · subst h
    rw [Function.update_self, if_pos rfl]
  · rw [Function.update_of_ne h, if_neg h]

/-- What is left of a heap when its head is taken. -/
theorem perm_of_head {l : List Entry} {e : Entry} (h : l.head? = some e) :
    ∃ rest, (Heapq.pop l).elim [] Prod.snd = rest ∧ l.Perm (e :: rest) ∧
      (Heapq.Ordered l → Heapq.Ordered rest) := by
  rcases hpop : Heapq.pop l with _ | ⟨x, rest⟩
  · rw [Heapq.pop_eq_none.mp hpop] at h
    cases h
  · have hx := Heapq.head_of_pop hpop
    rw [h] at hx
    obtain rfl := Option.some.inj hx
    exact ⟨rest, rfl, Heapq.pop_perm hpop, fun hl => Heapq.pop_ordered hl hpop⟩

namespace Agrees

variable {cfg : Config} {now : ℤ} {s s' : Service} {id : JobId} {job job' : Job} {fit : Prop}

/-- The agreement is about the table, the heaps and the jobs of the runner tasks. -/
theorem congr (h : Agrees fit s) (hjobs : s'.jobs = s.jobs) (hqueues : s'.queues = s.queues)
    (hrunners : s'.runners.map Runner.jobId = s.runners.map Runner.jobId) : Agrees fit s' where
  keyed := by rw [hjobs]; exact h.keyed
  ordered := by rw [hqueues]; exact h.ordered
  distinct := by rw [hqueues]; exact h.distinct
  listed := by rw [hqueues, hjobs]; exact h.listed
  entered := by rw [hqueues, hjobs]; exact h.entered
  single := by rw [hrunners]; exact h.single
  dispatched := by
    intro r hr
    have hmem : r.jobId ∈ s.runners.map Runner.jobId := by
      rw [← hrunners]
      exact List.mem_map_of_mem hr
    obtain ⟨r', hr', hid⟩ := List.mem_map.mp hmem
    rw [hjobs, ← hid]
    exact h.dispatched r' hr'

/-- A queued job has no runner task. -/
theorem no_runner (h : Agrees fit s) (hjob : s.jobs.get? id = some job) (hqueued : job.status = .queued) :
    ∀ r ∈ s.runners, r.jobId ≠ id := by
  rintro r hr rfl
  exact h.dispatched r hr job hjob hqueued

/-- Deleting terminal records. -/
theorem dropJobs (h : Agrees fit s) {ids : List JobId}
    (hids : ∀ id ∈ ids, ∃ job, s.jobs.get? id = some job ∧ job.isDue now = true) :
    Agrees fit (s.dropJobs ids) := by
  have hkept : ∀ id job, (s.dropJobs ids).jobs.get? id = some job → s.jobs.get? id = some job := by
    intro id job hget
    rw [Service.get?_dropJobs] at hget
    split at hget
    · cases hget
    · exact hget
  refine ⟨fun id job hget => h.keyed id job (hkept id job hget), h.ordered, h.distinct, ?_,
    fun hfit id job hget => h.entered hfit id job (hkept id job hget), h.single,
    fun r hr job hget => h.dispatched r hr job (hkept _ job hget)⟩
  intro q e he
  obtain ⟨job, hjob, hqueued, hq⟩ := h.listed q e he
  refine ⟨job, ?_, hqueued, hq⟩
  rw [Service.get?_dropJobs, if_neg]
  · exact hjob
  · intro hmem
    obtain ⟨job', hjob', hdue⟩ := hids _ hmem
    obtain rfl := Option.some.inj (hjob.symm.trans hjob')
    simp [Job.isDue, hqueued, Status.terminal] at hdue

/-- A job leaves its heap.  If it is still queued afterwards, no task may run for it, and the agreement
must not promise an entry. -/
theorem takeOut (h : Agrees fit s) (hjob : s.jobs.get? id = some job) (hid : job'.jobId = id)
    (hstatus : fit → job'.status ≠ .queued)
    (hrunner : job'.status = .queued → ∀ r ∈ s.runners, r.jobId ≠ id) :
    Agrees fit (s.takeOut id job job') where
  keyed := by
    intro id' j hget
    rw [Service.get?_takeOut] at hget
    split at hget
    · next heq =>
      obtain rfl := Option.some.inj hget
      rw [hid, heq]
    · exact h.keyed id' j hget
  ordered := by
    intro q
    show Heapq.Ordered ((s.removeFromQueue job.queue id).queues q)
    rw [queues_removeFromQueue]
    split
    · exact Heapq.heapify_ordered _
    · exact h.ordered q
  distinct := by
    intro q
    show (((s.removeFromQueue job.queue id).queues q).map Entry.jobId).Nodup
    rw [queues_removeFromQueue]
    split
    · rw [((Heapq.heapify_perm _).map Entry.jobId).nodup_iff]
      exact (h.distinct job.queue).sublist (List.filter_sublist.map Entry.jobId)
    · exact h.distinct q
  listed := by
    intro q e he
    have hleft : e ∈ (s.removeFromQueue job.queue id).queues q := he
    rw [queues_removeFromQueue] at hleft
    have hmem : e ∈ s.queues q ∧ e.jobId ≠ id := by
      split at hleft
      · next hq =>
        rw [mem_heapify, List.mem_filter] at hleft
        subst hq
        exact ⟨hleft.1, by simpa using hleft.2⟩
      · next hq =>
        refine ⟨hleft, ?_⟩
        rintro rfl
        obtain ⟨j, hj, -, hjq, -⟩ := h.listed q e hleft
        obtain rfl := Option.some.inj (hjob.symm.trans hj)
        exact hq hjq.symm
    obtain ⟨j, hj, hqueued, hq⟩ := h.listed q e hmem.1
    refine ⟨j, ?_, hqueued, hq⟩
    rw [Service.get?_takeOut, if_neg hmem.2]
    exact hj
  entered := by
    intro hfit id' j hget hqueued
    rw [Service.get?_takeOut] at hget
    split at hget
    · obtain rfl := Option.some.inj hget
      exact absurd hqueued (hstatus hfit)
    · next hne =>
      obtain ⟨e, he, heid⟩ := h.entered hfit id' j hget hqueued
      refine ⟨e, ?_, heid⟩
      show e ∈ (s.removeFromQueue job.queue id).queues j.queue
      rw [queues_removeFromQueue]
      split
      · next hq =>
        rw [mem_heapify, List.mem_filter, ← hq]
        refine ⟨he, ?_⟩
        rw [heid]
        simpa using hne
      · exact he
  single := h.single
  dispatched := by
    intro r hr j hget
    rw [Service.get?_takeOut] at hget
    split at hget
    · next heq =>
      obtain rfl := Option.some.inj hget
      exact fun hqueued => hrunner hqueued r hr heq
    · exact h.dispatched r hr j hget

/-- A new entry and the queued job it stands for. -/
theorem enter (h : Agrees fit s) {q : QueueKey} (key : WithTop ℚ)
    (habsent : ∀ j, s.jobs.get? id = some j → j.status ≠ .queued)
    (hrunner : ∀ r ∈ s.runners, r.jobId ≠ id) (hid : job.jobId = id)
    (hqueued : job.status = .queued) (hq : job.queue = q) :
    Agrees fit ((s.setJob id job).pushEntry q (job.entry key)) where
  keyed := by
    intro id' j hget
    rw [show ((s.setJob id job).pushEntry q (job.entry key)).jobs = (s.setJob id job).jobs from rfl,
      Service.get?_setJob] at hget
    split at hget
    · next heq =>
      obtain rfl := Option.some.inj hget
      rw [hid, heq]
    · exact h.keyed id' j hget
  ordered := by
    intro q'
    rw [queues_pushEntry]
    split
    · exact Heapq.push_ordered (h.ordered q) _
    · exact h.ordered q'
  distinct := by
    intro q'
    rw [queues_pushEntry]
    split
    · show ((Heapq.push (s.queues q) (job.entry key)).map Entry.jobId).Nodup
      rw [((Heapq.push_perm (s.queues q) (job.entry key)).map Entry.jobId).nodup_iff, List.map_cons, List.nodup_cons]
      refine ⟨?_, h.distinct q⟩
      intro hmem
      obtain ⟨e', he', hid'⟩ := List.mem_map.mp hmem
      obtain ⟨j, hj, hj', -⟩ := h.listed q e' he'
      rw [hid', show (job.entry key).jobId = id from hid] at hj
      exact habsent j hj hj'
    · exact h.distinct q'
  listed := by
    intro q' e' he'
    rw [queues_pushEntry] at he'
    have hold : e' ∈ s.queues q' →
        ∃ j, ((s.setJob id job).pushEntry q (job.entry key)).jobs.get? e'.jobId = some j ∧
          j.status = .queued ∧ j.queue = q' ∧ e' = j.entry e'.deadlineSort := by
      intro hmem
      obtain ⟨j, hj, hj', hjq⟩ := h.listed q' e' hmem
      refine ⟨j, ?_, hj', hjq⟩
      show (s.setJob id job).jobs.get? e'.jobId = some j
      rw [Service.get?_setJob, if_neg]
      · exact hj
      · intro heq
        rw [heq] at hj
        exact habsent j hj hj'
    split at he'
    · next hqq =>
      rcases mem_push.mp he' with rfl | hmem
      · refine ⟨job, ?_, hqueued, by rw [hq, hqq], rfl⟩
        show (s.setJob id job).jobs.get? job.jobId = some job
        rw [Service.get?_setJob, if_pos hid]
      · rw [hqq] at hold ⊢
        exact hold hmem
    · exact hold he'
  entered := by
    intro hfit id' j hget hj
    rw [show ((s.setJob id job).pushEntry q (job.entry key)).jobs = (s.setJob id job).jobs from rfl,
      Service.get?_setJob] at hget
    rw [queues_pushEntry]
    split at hget
    · next heq =>
      obtain rfl := Option.some.inj hget
      rw [if_pos hq]
      exact ⟨job.entry key, mem_push.mpr (Or.inl rfl), by rw [heq]; exact hid⟩
    · obtain ⟨e', he', hid'⟩ := h.entered hfit id' j hget hj
      split
      · next hjq =>
        rw [hjq] at he'
        exact ⟨e', mem_push.mpr (Or.inr he'), hid'⟩
      · exact ⟨e', he', hid'⟩
  single := h.single
  dispatched := by
    intro r hr j hget
    rw [show ((s.setJob id job).pushEntry q (job.entry key)).jobs = (s.setJob id job).jobs from rfl,
      Service.get?_setJob, if_neg (hrunner r hr)] at hget
    exact h.dispatched r hr j hget

/-- A record changes, but not whether and where it is queued. -/
theorem setJob (h : Agrees fit s) (hjob : s.jobs.get? id = some job)
    (hsubmission : job'.toSubmission = job.toSubmission)
    (hstatus : job'.status = .queued ↔ job.status = .queued)
    (hqueue : job.status = .queued → job'.queue = job.queue) :
    Agrees fit (s.setJob id job') where
  keyed := by
    intro id' j hget
    rw [Service.get?_setJob] at hget
    split at hget
    · next heq =>
      obtain rfl := Option.some.inj hget
      rw [hsubmission, heq]
      exact h.keyed id job hjob
    · exact h.keyed id' j hget
  ordered := h.ordered
  distinct := h.distinct
  listed := by
    intro q e he
    obtain ⟨j, hj, hqueued, hq, hentry⟩ := h.listed q e he
    by_cases heq : e.jobId = id
    · rw [heq] at hj
      obtain rfl := Option.some.inj (hjob.symm.trans hj)
      refine ⟨job', ?_, hstatus.mpr hqueued, (hqueue hqueued).trans hq, ?_⟩
      · rw [Service.get?_setJob, if_pos heq]
      · rw [hsubmission]
        exact hentry
    · refine ⟨j, ?_, hqueued, hq, hentry⟩
      rw [Service.get?_setJob, if_neg heq]
      exact hj
  entered := by
    intro hfit id' j hget hqueued
    rw [Service.get?_setJob] at hget
    split at hget
    · next heq =>
      obtain rfl := Option.some.inj hget
      have hold := hstatus.mp hqueued
      show ∃ e ∈ s.queues job'.queue, e.jobId = id'
      rw [hqueue hold, heq]
      exact h.entered hfit id job hjob hold
    · exact h.entered hfit id' j hget hqueued
  single := h.single
  dispatched := by
    intro r hr j hget
    rw [Service.get?_setJob] at hget
    split at hget
    · next heq =>
      obtain rfl := Option.some.inj hget
      have hr := h.dispatched r hr job (by rw [heq]; exact hjob)
      exact fun hq => hr (hstatus.mp hq)
    · exact h.dispatched r hr j hget

/-- The head of a heap is taken and no longer queued. -/
theorem popEntry (h : Agrees fit s) {q : QueueKey} {e : Entry} (hhead : (s.queues q).head? = some e)
    (heid : e.jobId = id) (hid : job'.jobId = id) (hstatus : job'.status ≠ .queued) :
    Agrees fit ((s.popEntry q).setJob id job') := by
  obtain ⟨rest, hrest, hperm, hordered⟩ := perm_of_head hhead
  have hnodup := h.distinct q
  rw [(hperm.map Entry.jobId).nodup_iff, List.map_cons, List.nodup_cons] at hnodup
  have hqueues : ∀ q', ((s.popEntry q).setJob id job').queues q' =
      if q' = q then rest else s.queues q' := by
    intro q'
    rw [Service.setJob_queues, queues_popEntry, hrest]
  have hget : ∀ id', ((s.popEntry q).setJob id job').jobs.get? id' =
      if id' = id then some job' else s.jobs.get? id' := fun id' => Service.get?_setJob _ _ _ _
  have hmem : ∀ e' ∈ rest, e'.jobId ≠ id := by
    rintro e' he' heq
    exact hnodup.1 (List.mem_map.mpr ⟨e', he', heq.trans heid.symm⟩)
  have hehere : e ∈ s.queues q := hperm.mem_iff.mpr List.mem_cons_self
  refine ⟨?_, ?_, ?_, ?_, ?_, h.single, ?_⟩
  · intro id' j hj
    rw [hget] at hj
    split at hj
    · next heq =>
      obtain rfl := Option.some.inj hj
      rw [hid, heq]
    · exact h.keyed id' j hj
  · intro q'
    rw [hqueues]
    split
    · exact hordered (h.ordered q)
    · exact h.ordered q'
  · intro q'
    rw [hqueues]
    split
    · exact hnodup.2
    · exact h.distinct q'
  · intro q' e' he'
    rw [hqueues] at he'
    have hold : e' ∈ s.queues q' ∧ e'.jobId ≠ id := by
      split at he'
      · next hq =>
        rw [hq]
        exact ⟨hperm.mem_iff.mpr (List.mem_cons_of_mem _ he'), hmem e' he'⟩
      · next hq =>
        refine ⟨he', ?_⟩
        intro heq
        obtain ⟨j, hj, -, hjq, -⟩ := h.listed q' e' he'
        obtain ⟨j', hj', -, hjq', -⟩ := h.listed q e hehere
        rw [heq] at hj
        rw [heid] at hj'
        obtain rfl := Option.some.inj (hj.symm.trans hj')
        exact hq (hjq.symm.trans hjq')
    obtain ⟨j, hj, hqueued, hjq⟩ := h.listed q' e' hold.1
    refine ⟨j, ?_, hqueued, hjq⟩
    rw [hget, if_neg hold.2]
    exact hj
  · intro hfit id' j hj hqueued
    rw [hget] at hj
    rw [hqueues]
    split at hj
    · obtain rfl := Option.some.inj hj
      exact absurd hqueued hstatus
    · next hne =>
      obtain ⟨e', he', hid'⟩ := h.entered hfit id' j hj hqueued
      split
      · next hq =>
        rw [hq, hperm.mem_iff] at he'
        rcases List.mem_cons.mp he' with rfl | he'
        · exact absurd (hid'.symm.trans heid) hne
        · exact ⟨e', he', hid'⟩
      · exact ⟨e', he', hid'⟩
  · intro r hr j hj
    rw [hget] at hj
    split at hj
    · obtain rfl := Option.some.inj hj
      exact hstatus
    · exact h.dispatched r hr j hj

end Agrees

end Queue
end HexeAiNode
