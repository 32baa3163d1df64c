import HexeAiNode.Queue.PoisonJobs

/-!
# No lost wakeup

A queue is awake when it has nothing to start, no free slot, or a task that will run another dispatch
attempt: its dispatcher or a retry timer that fires.  A dispatcher ends in three states, when the slots are
taken, when the heap is empty and when a timer is set; whoever frees a slot, fills a heap or removes a timer
makes sure of a dispatcher in the same block.

A queue may be asleep within a block: between the insertion and the call of `_ensure_dispatcher_locked` in
`enqueue`, and between the removal of a timer and the end of its pass.
-/

namespace HexeAiNode
namespace Queue

open Py Execution StoreAction

variable {cfg : Config} {now : ℤ} {faulty : Prop} {s₀ s s' a b : Service} {step : Step}
  {id : JobId} {job job' : Job} {q q' : QueueKey} {drawn started : List JobId}

/-! ## Dispatchers -/

theorem isSome_ensureDispatcher : ((s.ensureDispatcher q).dispatchers q').isSome =
    ((s.dispatchers q').isSome || decide (q' = q)) := by
  unfold Service.ensureDispatcher
  split
  · next d hd =>
    by_cases hq : q' = q
    · simp [hq, hd]
    · simp [hq]
  · show ((Function.update s.dispatchers q _) q').isSome = _
    by_cases hq : q' = q
    · subst hq
      simp
    · simp [hq]

theorem dispatchers_setDispatcher {d : Option Dispatcher} :
    (s.setDispatcher q d).dispatchers q' = if q' = q then d else s.dispatchers q' :=
  Function.update_apply s.dispatchers q d q'

/-! ## Awake queues -/

/-- The queue has nothing to start, no free slot, or a task that will run another dispatch attempt. -/
def Service.Awake (cfg : Config) (q : QueueKey) (s : Service) : Prop :=
  s.queues q ≠ [] → s.activeCounts q < cfg.concurrency q →
    (s.dispatchers q).isSome = true ∨ ∃ x, s.retries q = some (.finite x)

/-- Every queue outside `asleep` is awake. -/
def Service.Wakes (cfg : Config) (asleep : QueueKey → Prop) (s : Service) : Prop :=
  ∀ q, ¬asleep q → s.Awake cfg q

/-- Every timer fires. -/
def Service.TimersFire (s : Service) : Prop := ∀ q d, s.retries q = some d → ∃ x, d = .finite x

/-- A queue stays awake when it gets no job, frees no slot, and keeps its tasks. -/
theorem Service.Awake.mono (h : a.Awake cfg q) (hqueue : b.queues q ≠ [] → a.queues q ≠ [])
    (hactive : a.activeCounts q ≤ b.activeCounts q)
    (hdispatcher : (a.dispatchers q).isSome = true → (b.dispatchers q).isSome = true)
    (hretry : b.retries q = a.retries q) : b.Awake cfg q := by
  intro hne hfree
  rw [hretry]
  exact (h (hqueue hne) (hactive.trans_lt hfree)).imp_left hdispatcher

theorem Service.awake_of_isSome (h : (s.dispatchers q).isSome = true) : s.Awake cfg q :=
  fun _ _ => Or.inl h

theorem Service.awake_ensureBusyDispatchers : s.ensureBusyDispatchers.Awake cfg q := by
  intro hne _
  left
  show (if s.queues q = [] then s.dispatchers q else some ((s.dispatchers q).getD .attempt)).isSome = true
  rw [if_neg (show s.queues q ≠ [] from hne)]
  rfl

/-- A queue that an entry leaves. -/
theorem queues_takeOut_ne_nil (h : (s.takeOut id job job').queues q ≠ []) : s.queues q ≠ [] := by
  have hleft : (s.removeFromQueue job.queue id).queues q ≠ [] := h
  rw [queues_removeFromQueue] at hleft
  split at hleft
  · next hq =>
    subst hq
    intro hnil
    rw [hnil] at hleft
    exact hleft (Heapq.heapify_perm []).eq_nil
  · exact hleft

theorem queues_popEntry_ne_nil (h : (s.popEntry q).queues q' ≠ []) : s.queues q' ≠ [] := by
  rw [queues_popEntry] at h
  split at h
  · next hq =>
    subst hq
    intro hnil
    rw [hnil] at h
    exact h rfl
  · exact h

/-- A blocked verdict of the step has a delay after which its timer fires. -/
def Step.DelayFits (cfg : Config) : Step → Prop
  | .decide _ _ admission => (admission.content.get "allowed").truthy = false →
      ∃ x, retryDelay cfg (admission.content.get "retry_after_seconds") = .ok (.finite x)
  | _ => True

/-- A change of a step that sets a timer sets one that fires. -/
theorem Service.TimersFire.edit (hdelay : step.DelayFits cfg) (ha : a.TimersFire)
    (h : Edit cfg faulty s₀ step a b) : b.TimersFire := by
  have hsame : b.retries = a.retries → b.TimersFire := by
    intro heq q d hd
    rw [heq] at hd
    exact ha q d hd
  have hset : ∀ {q' : QueueKey} {o : Option FloatVal}, b.retries = Function.update a.retries q' o →
      (∀ d, o = some d → ∃ x, d = .finite x) → b.TimersFire := by
    intro q' o heq ho q d hd
    rw [heq, Function.update_apply] at hd
    split at hd
    · exact ho d hd
    · exact ha q d hd
  cases h with
  | reroute => exact hsame (Service.ensureDispatcher_retries _ _)
  | ensure => exact hsame (Service.ensureDispatcher_retries _ _)
  | attempt =>
    refine hsame ?_
    rcases dispatchAttempt_cases cfg _ s₀ with ⟨h, -⟩ | ⟨id, h, -⟩ | ⟨e, h, -⟩ <;> rw [h] <;> rfl
  | start _ hhead heid hjob hqueued hpersist =>
    refine hsame ?_
    rcases hpersist with ⟨rfl, -⟩ | rfl <;> rfl
  | defer hblocked hnone hd =>
    obtain ⟨x, hx⟩ := hdelay hblocked
    refine hset rfl fun d' hd' => ⟨x, ?_⟩
    obtain rfl := Option.some.inj hd'
    exact Except.ok.inj (hd.symm.trans hx)
  | timer => exact hset rfl fun d hd => nomatch hd
  | wake =>
    refine hsame ?_
    split
    · rfl
    · exact Service.ensureDispatcher_retries _ _
  | enter task =>
    obtain ⟨runners, heq⟩ := s₀.enterRunner_eq task
    exact hsame (by rw [heq])
  | outcome task ending =>
    obtain ⟨runners, heq⟩ := s₀.endRunner_eq task ending
    exact hsame (by rw [heq])
  | _ => exact hsame rfl

/-- The changes that keep the queues awake: all of a block that does not raise, except the insertion and the
removal of a timer. -/
theorem Service.Wakes.edit {asleep : QueueKey → Prop} (hdelay : step.DelayFits cfg)
    (htimers : a.TimersFire)
    (hinsert : ∀ now id request, step ≠ .enqueue now id request)
    (htimer : ∀ now q, step ≠ .retry now q) (ha : a.Wakes cfg asleep)
    (h : Edit cfg False s₀ step a b) : b.Wakes cfg asleep := by
  intro q hq
  have ha : a.Awake cfg q := ha q hq
  have hsame : b.queues = a.queues → b.activeCounts = a.activeCounts → b.dispatchers = a.dispatchers →
      b.retries = a.retries → b.Awake cfg q := by
    intro hqueues hactive hdispatchers hretries
    unfold Service.Awake
    rw [hqueues, hactive, hdispatchers, hretries]
    exact ha
  -- a dispatcher that goes on
  have hset : ∀ {t : Service} {q' : QueueKey} {d : Dispatcher}, b = t.setDispatcher q' (some d) →
      (t.queues q ≠ [] → a.queues q ≠ []) → t.activeCounts = a.activeCounts →
      t.dispatchers = a.dispatchers → t.retries = a.retries → b.Awake cfg q := by
    rintro t q' d rfl hqueues hactive hdispatchers hretries
    refine ha.mono hqueues (le_of_eq (congrFun hactive.symm q)) ?_ (congrFun hretries q)
    rw [dispatchers_setDispatcher, hdispatchers]
    split
    · exact fun _ => rfl
    · exact id
  cases h with
  | reroute =>
    by_cases hcloud : q = .cloud
    · refine Service.awake_of_isSome ?_
      rw [Service.enterCloud, isSome_ensureDispatcher, hcloud]
      simp
    · refine ha.mono ?_ (le_of_eq ?_) ?_ (congrFun (Service.ensureDispatcher_retries _ _) q)
      · rw [Service.enterCloud, Service.ensureDispatcher_queues, queues_pushEntry, if_neg hcloud]
        exact queues_takeOut_ne_nil
      · rw [Service.enterCloud, Service.ensureDispatcher_activeCounts]
        rfl
      · rw [Service.enterCloud, isSome_ensureDispatcher]
        intro h
        rw [Bool.or_eq_true]
        exact Or.inl h
  | orphan hfaulty => exact hfaulty.elim
  | endQueued =>
    exact ha.mono queues_takeOut_ne_nil (le_refl _) id rfl
  | undatedQueued hfaulty => exact hfaulty.elim
  | number now id request => exact absurd rfl (hinsert now id request)
  | insert => exact absurd rfl (hinsert _ _ _)
  | ensure now id request => exact absurd rfl (hinsert now id request)
  | ensureBusy => exact Service.awake_ensureBusyDispatchers
  | @attempt q' hdispatcher =>
    rcases dispatchAttempt_cases cfg q' s₀ with ⟨h, hdone⟩ | ⟨id, h, -⟩ | ⟨e, h, -⟩
    · rw [h]
      by_cases hqq : q = q'
      · -- the dispatcher ends with the slots taken or the heap empty
        subst hqq
        intro hne hfree
        rcases hdone with hfull | hempty
        · exact absurd hfree (not_lt.mpr hfull)
        · exact absurd hempty hne
      · refine ha.mono id (le_refl _) ?_ rfl
        rw [dispatchers_setDispatcher, if_neg hqq]
        exact id
    · exact hset h (fun h => h) rfl rfl rfl
    · rw [h]
      exact ha.mono queues_popEntry_ne_nil (le_refl _) id rfl
  | again now q' admission => exact hset rfl id rfl rfl rfl
  | stale => exact hset rfl queues_popEntry_ne_nil rfl rfl rfl
  | @start now q' admission id e job t hdispatcher hhead heid hjob hqueued hpersist =>
    have ht : t.queues = (s₀.popEntry q').queues ∧ t.retries = s₀.retries ∧
        t.dispatchers = s₀.dispatchers ∧
        t.activeCounts = Function.update s₀.activeCounts q' (s₀.activeCounts q' + 1) := by
      rcases hpersist with ⟨rfl, -⟩ | rfl
      · exact ⟨rfl, rfl, rfl, rfl⟩
      · exact ⟨rfl, rfl, rfl, rfl⟩
    by_cases hqq : q = q'
    · refine Service.awake_of_isSome ?_
      show ((t.setDispatcher q' _).dispatchers q).isSome = true
      rw [dispatchers_setDispatcher, if_pos hqq]
      rfl
    · refine ha.mono ?_ ?_ ?_ (congrFun ht.2.1 q)
      · show t.queues q ≠ [] → _
        rw [ht.1]
        exact queues_popEntry_ne_nil
      · show _ ≤ t.activeCounts q
        rw [ht.2.2.2, Function.update_of_ne hqq]
      · show _ → ((t.setDispatcher q' _).dispatchers q).isSome = true
        rw [dispatchers_setDispatcher, if_neg hqq, ht.2.2.1]
        exact fun h => h
  | strand hfaulty => exact hfaulty.elim
  | @defer now q' admission _ d hblocked hnone hd =>
    by_cases hqq : q = q'
    · obtain ⟨x, hx⟩ := hdelay hblocked
      refine fun _ _ => Or.inr ⟨x, ?_⟩
      show Function.update a.retries q' (some d) q = _
      rw [hqq, Function.update_self, Except.ok.inj (hd.symm.trans hx)]
    · exact ha.mono (fun h => h) (le_refl _) (fun h => h) (Function.update_of_ne hqq _ _)
  | @rest now q' admission _ hretry =>
    by_cases hqq : q = q'
    · -- the dispatcher leaves the queue to a timer
      subst hqq
      obtain ⟨d, hd⟩ := Option.ne_none_iff_exists'.mp hretry
      obtain ⟨x, rfl⟩ := htimers q d hd
      exact fun _ _ => Or.inr ⟨x, hd⟩
    · refine ha.mono (fun h => h) (le_refl _) ?_ rfl
      rw [dispatchers_setDispatcher, if_neg hqq]
      exact fun h => h
  | crash _ _ _ _ hfaulty => exact hfaulty.elim
  | @register q' id task hdispatcher =>
    exact hset (t := { s₀ with runningTasks := s₀.runningTasks.set id task }) rfl (fun h => h) rfl rfl rfl
  | timer now q' => exact absurd rfl (htimer now q')
  | wake now q' => exact absurd rfl (htimer now q')
  | enter task =>
    obtain ⟨runners, heq⟩ := s₀.enterRunner_eq task
    exact hsame (by rw [heq]) (by rw [heq]) (by rw [heq]) (by rw [heq])
  | outcome task ending =>
    obtain ⟨runners, heq⟩ := s₀.endRunner_eq task ending
    exact hsame (by rw [heq]) (by rw [heq]) (by rw [heq]) (by rw [heq])
  | undated hfaulty => exact hfaulty.elim
  | handled _ hfaulty => exact hfaulty.elim
  | release => exact Service.awake_of_isSome rfl
  | _ => exact hsame rfl rfl rfl rfl

/-! ## Blocks -/

/-- No queue but these may be asleep, and every timer fires. -/
def Service.AwakeBut (cfg : Config) (asleep : QueueKey → Prop) (s : Service) : Prop :=
  s.TimersFire ∧ s.Wakes cfg asleep

theorem Service.AwakeBut.edit {asleep : QueueKey → Prop} (ha : a.AwakeBut cfg asleep)
    (hdelay : step.DelayFits cfg) (hinsert : ∀ now id request, step ≠ .enqueue now id request)
    (htimer : ∀ now q, step ≠ .retry now q) (h : Edit cfg False s₀ step a b) : b.AwakeBut cfg asleep :=
  ⟨ha.1.edit hdelay h, ha.2.edit hdelay ha.1 hinsert htimer h⟩

theorem triple_pass_awake {asleep : QueueKey → Prop} :
    Triple (Service.AwakeBut cfg asleep) (monitorDeadlines cfg now)
      (fun _ => Service.AwakeBut cfg asleep) fun _ => True := by
  intro s hs
  have hpass := @triple_pass_edited cfg now s (.poll now) rfl s
    ⟨Edited.refl cfg False s _, Service.Passed.refl s⟩
  refine ⟨fun u s' hexec => ?_, fun _ _ _ => trivial⟩
  have hdelay : (Step.poll now).DelayFits cfg := trivial
  refine (hpass.1 u s' hexec).1.keeps hs fun a b ha hedit => ha.edit hdelay ?_ ?_ hedit
  · exact fun _ _ _ h => nomatch h
  · exact fun _ _ h => nomatch h

/-- A dispatcher is made sure of for the one queue that may be asleep. -/
theorem Service.AwakeBut.ensureDispatcher (h : s.AwakeBut cfg fun q' => q' = q) :
    (s.ensureDispatcher q).AwakeBut cfg fun _ => False := by
  constructor
  · intro q' d hd
    rw [Service.ensureDispatcher_retries] at hd
    exact h.1 q' d hd
  · intro q' _
    by_cases hq : q' = q
    · refine Service.awake_of_isSome ?_
      rw [isSome_ensureDispatcher, hq]
      simp
    · refine (h.2 q' hq).mono ?_ (le_of_eq (congrFun (Service.ensureDispatcher_activeCounts _ _).symm q')) ?_
        (congrFun (Service.ensureDispatcher_retries _ _) q')
      · rw [Service.ensureDispatcher_queues]
        exact fun h => h
      · rw [isSome_ensureDispatcher]
        intro hsome
        rw [hsome]
        rfl

theorem triple_enqueue_awake {request : EnqueueRequest} :
    Triple (Service.AwakeBut cfg fun _ => False) (enqueue cfg now id request)
      (fun _ => Service.AwakeBut cfg fun _ => False) fun _ => True := by
  refine triple_enqueue (fun _ _ hs => hs) (fun _ _ => trivial) triple_pass_awake (fun _ hs => hs) ?_
    fun _ _ _ _ _ _ _ => trivial
  intro job key hprepared
  unfold insertJob
  refine Triple.bind (Q := fun _ => Service.AwakeBut cfg fun q' => q' = job.queue)
    (Triple.update fun s hs => ⟨hs.1, fun q' hq => ?_⟩) fun _ => ?_
  · refine (hs.2 q' (fun h => h)).mono ?_ (le_refl _) (fun h => h) rfl
    rw [queues_pushEntry, if_neg hq]
    exact fun h => h
  · refine Triple.bind (triple_persistJobs' (fun _ hs => hs) (fun _ hs => hs) fun _ _ => trivial)
      fun _ => Triple.update fun s hs => hs.ensureDispatcher

theorem triple_retry_awake :
    Triple (Service.AwakeBut cfg fun _ => False) (retryBlockedQueue cfg now q)
      (fun _ => Service.AwakeBut cfg fun _ => False) fun _ => True := by
  unfold retryBlockedQueue
  refine Triple.bind (Q := fun _ => Service.AwakeBut cfg fun q' => q' = q)
    (Triple.update fun s hs => ⟨fun q' d hd => ?_, fun q' hq => ?_⟩) fun _ => ?_
  · have hd : Function.update s.retries q none q' = some d := hd
    rw [Function.update_apply] at hd
    split at hd
    · cases hd
    · exact hs.1 q' d hd
  · exact (hs.2 q' (fun h => h)).mono (fun h => h) (le_refl _) (fun h => h) (Function.update_of_ne hq _ _)
  · refine Triple.bind triple_pass_awake fun _ => Triple.update fun s hs => ?_
    split
    · next hempty =>
      refine ⟨hs.1, fun q' _ => ?_⟩
      by_cases hq : q' = q
      · subst hq
        exact fun hne => absurd hempty hne
      · exact hs.2 q' hq
    · exact hs.ensureDispatcher

/-- After `start_recovered_jobs` every queue is awake. -/
theorem triple_startRecovered_awake :
    Triple (fun _ => True) (startRecoveredJobs cfg now) (fun _ => Service.Wakes cfg fun _ => False)
      fun _ => True := by
  unfold startRecoveredJobs
  refine Triple.bind (Q := fun _ _ => True) (fun _ _ => ⟨fun _ _ _ => trivial, fun _ _ _ => trivial⟩)
    fun _ => Triple.update fun s _ q _ => Service.awake_ensureBusyDispatchers

/-- A block that does not raise keeps every queue awake. -/
theorem triple_body_awake (hdelay : step.DelayFits cfg) (h : s₀.AwakeBut cfg fun _ => False) :
    Triple (fun s => s = s₀) (step.body cfg s₀) (fun _ => Service.AwakeBut cfg fun _ => False)
      fun _ => True := by
  by_cases hinsert : ∃ now id request, step = .enqueue now id request
  · obtain ⟨now, id, request, rfl⟩ := hinsert
    refine triple_enqueue_awake.discard.mono ?_ (fun _ _ hs => hs) fun _ hs => hs
    rintro s rfl
    exact h
  by_cases htimer : ∃ now q, step = .retry now q
  · obtain ⟨now, q, rfl⟩ := htimer
    unfold Step.body
    dsimp only
    split
    · refine triple_retry_awake.mono ?_ (fun _ _ hs => hs) fun _ hs => hs
      rintro s rfl
      exact h
    · refine Triple.pure ?_
      rintro s rfl
      exact h
  · refine (triple_body_edited step).mono (fun _ hs => hs) (fun u s hs => ?_) fun _ _ => trivial
    refine hs.keeps h fun a b ha hedit => ha.edit hdelay ?_ ?_ hedit
    · exact fun now id request heq => hinsert ⟨now, id, request, heq⟩
    · exact fun now q heq => htimer ⟨now, q, heq⟩

/-! ## The claim of a run -/

/-- A step that does not raise, or is `enqueue` and raises before it inserts, ends in one of two ways. -/
theorem fire_eq_of_dated (hsound : Sound False drawn started s) (hnew : ∀ id ∈ step.drawn, id ∉ drawn)
    (hdated : ∀ id job, s.jobs.get? id = some job → job.Dated) (hbudget : step.BudgetFits)
    (hclock : step.ClockFits cfg s) (hdelay : step.DelayFits cfg) :
    (∃ n, s.fire cfg step = { s with nextSequence := n } ∧ step.startsRecovered = false) ∨
      ∃ u, (step.body cfg s).exec s = (.ok u, s.fire cfg step) := by
  unfold Service.fire StoreAction.store
  rw [exec_recover]
  rcases hexec : (step.body cfg s).exec s with ⟨e | u, s'⟩
  · have hfault : Fault cfg s step s' := (triple_body_edited step s rfl).2 e s' hexec
    rcases hfault.cases_of_dated hsound hnew hdated hbudget hclock with
      ⟨now, id, request, n, rfl, rfl⟩ | ⟨now, q, admission, e', rfl, hblocked, hraises⟩
    · exact Or.inl ⟨n, rfl, rfl⟩
    · obtain ⟨x, hx⟩ := hdelay hblocked
      rw [hx] at hraises
      cases hraises
  · exact Or.inr ⟨u, rfl⟩

/-- A local job that is kept back by a verdict with the given `retry_after_seconds`. -/
def blockedRun (retryAfterSeconds : Value) : List Step := [
  .startRecovered 1767225600000000,
  .enqueue 1767225600000000 1 { queue := "local", importance := "normal" },
  .attempt .localNode,
  .decide 1767225601000000 .localNode
    { content := [("allowed", .bool false), ("retry_after_seconds", retryAfterSeconds)] }]

/-- The conditions on the dates of a step, for a service in which no job is moved. -/
theorem datesFit_of_decide {n : Node} (hbudget : step.BudgetFits)
    (hnow : step.reading.all (fun now => decide (Fits now ({} : Config).jobTtl) &&
      [.localNode, .cloud, .textLlm, .visionLlm, .visualGpu, .visualCpu, .trainingRuntime].all fun q =>
        decide (Fits now (n.service.estimatedStartSeconds {} q (n.service.jobs.entries.length + 1)))) = true)
    (hspill : n.service.jobs.values.all (fun job => !job.allowsCloudSpillover) = true) :
    DatesFit {} n step := by
  have hreading : ∀ now, step.reading = some now → Fits now ({} : Config).jobTtl ∧ ∀ q,
      Fits now (n.service.estimatedStartSeconds {} q (n.service.jobs.entries.length + 1)) := by
    intro now hreading
    rw [hreading] at hnow
    obtain ⟨hretention, hestimates⟩ := (Bool.and_eq_true _ _).mp hnow
    refine ⟨of_decide_eq_true hretention, fun q => ?_⟩
    exact of_decide_eq_true (List.all_eq_true.mp hestimates q (by cases q <;> decide))
  refine ⟨hbudget, fun _ => ⟨fun now h => (hreading now h).1, fun now h => (hreading now h).2, ?_⟩⟩
  intro now _ id job d hjob _ _ hmoved
  have hnone := List.all_eq_true.mp hspill job (OrderedDict.mem_values_of_get? hjob)
  rw [hmoved] at hnone
  cases hnone

end Queue
end HexeAiNode
