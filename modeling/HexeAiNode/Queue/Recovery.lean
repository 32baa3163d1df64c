import HexeAiNode.Queue.SingleEntry

/-!
# What a start makes of the state file

`Recovered` describes the service after `_load_persisted_jobs`: the table holds one record for each
persisted one (`Job.recovered`), in the order of the file and without those whose time is over, and the
heaps hold the jobs that are put back, under keys of the time of the start.
-/

namespace HexeAiNode
namespace Queue

open Py Execution StoreAction

variable {cfg : Config} {now : ℤ} {recovers : JobId → Bool} {s s' : Service} {record : Job}
  {records done : List Job}

/-- The record that a start makes of a persisted one.  The payload for the recovery factory can be built
when the wait boundary is a date. -/
def Job.recovered (now : ℤ) (recovers : JobId → Bool) (record : Job) : Job :=
  match record.status with
  | .queued =>
    if recovers record.jobId && record.effectiveDeadline.isOk then
      { record.persisted with runner := true, recovery := some ⟨"queued_for_resume", now, .queued⟩ }
    else
      failedAtLoad now record.persisted
        ⟨"execution_queue_recovery_runner_unavailable",
          "queued job could not be reconstructed safely after restart"⟩ "failed"
  | .running =>
    failedAtLoad now record.persisted
      ⟨"execution_queue_restart_while_running",
        "job was already dispatched before restart and was not replayed to avoid duplicate provider work"⟩
      "not_replayed"
  | _ => record.persisted

@[simp] theorem Job.toSubmission_recovered (now : ℤ) (recovers : JobId → Bool) (record : Job) :
    (record.recovered now recovers).toSubmission = record.toSubmission := by
  unfold Job.recovered
  split
  · split <;> rfl
  · rfl
  · rfl

@[simp] theorem Job.queue_recovered (now : ℤ) (recovers : JobId → Bool) (record : Job) :
    (record.recovered now recovers).queue = record.queue := by
  unfold Job.recovered
  split
  · split <;> rfl
  · rfl
  · rfl

@[simp] theorem Job.expiresAt_recovered (now : ℤ) (recovers : JobId → Bool) (record : Job) :
    (record.recovered now recovers).expiresAt = record.expiresAt := by
  unfold Job.recovered
  split
  · split <;> rfl
  · rfl
  · rfl

/-- Only queued records are put back. -/
theorem Job.queued_of_recovered (h : (record.recovered now recovers).status = .queued) :
    record.status = .queued := by
  unfold Job.recovered at h
  split at h
  · assumption
  · simp [failedAtLoad] at h
  · exact h

/-- The tasks and timers of a process that has just started. -/
structure Service.Idle (s : Service) : Prop where
  activeCounts : s.activeCounts = fun _ => 0
  dispatchers : s.dispatchers = fun _ => none
  runners : s.runners = []
  retries : s.retries = fun _ => none

theorem idle_initial (stateFile : Option (List Job)) : (Service.initial stateFile).Idle :=
  ⟨rfl, rfl, rfl, rfl⟩

/-- The entry a start makes for a record. -/
def Job.recoveredEntry (now : ℤ) (recovers : JobId → Bool) (record : Job) : JobId × Job :=
  (record.jobId, record.recovered now recovers)

/-- The records `done` of the file are loaded. -/
structure Loaded (cfg : Config) (now : ℤ) (recovers : JobId → Bool) (file : Option (List Job))
    (done : List Job) (s : Service) : Prop where
  entries : s.jobs.entries = done.map (Job.recoveredEntry now recovers)
  keys : ∀ q, ∀ e ∈ s.queues q, ∃ record ∈ done, record.jobId = e.jobId ∧
    deadlineSortValue cfg now record.queueIntent = .ok e.deadlineSort
  size : ∀ q, (s.queues q).length ≤ done.length
  idle : s.Idle
  file : s.stateFile = file

theorem map_fst_recoveredEntry (records : List Job) :
    (records.map (Job.recoveredEntry now recovers)).map Prod.fst =
      records.map fun record => record.jobId := by
  rw [List.map_map]
  rfl

/-- A record that is not loaded is not in the table. -/
theorem Loaded.absent {file : Option (List Job)} (h : Loaded cfg now recovers file done s)
    (hnew : record.jobId ∉ done.map fun r => r.jobId) : s.jobs.get? record.jobId = none := by
  refine Assoc.get?_eq_none_iff.mpr ?_
  show record.jobId ∉ s.jobs.entries.map Prod.fst
  rw [h.entries, map_fst_recoveredEntry]
  exact hnew

/-- The next record is loaded without a place in a heap. -/
theorem Loaded.setJob {file : Option (List Job)} (h : Loaded cfg now recovers file done s)
    (hnew : record.jobId ∉ done.map fun r => r.jobId) :
    Loaded cfg now recovers file (done ++ [record])
      (s.setJob record.jobId (record.recovered now recovers)) where
  entries := by
    rw [Service.setJob_jobs, OrderedDict.entries_set_of_none _ (h.absent hnew), h.entries,
      List.map_append]
    rfl
  keys := by
    intro q e he
    obtain ⟨r, hr, hrest⟩ := h.keys q e he
    exact ⟨r, List.mem_append_left _ hr, hrest⟩
  size := by
    intro q
    rw [List.length_append]
    exact (h.size q).trans (Nat.le_add_right _ _)
  idle := ⟨h.idle.activeCounts, h.idle.dispatchers, h.idle.runners, h.idle.retries⟩
  file := h.file

/-- The next record is put back into its heap. -/
theorem Loaded.resume {file : Option (List Job)} (h : Loaded cfg now recovers file done s)
    (hnew : record.jobId ∉ done.map fun r => r.jobId) {key : WithTop ℚ}
    (hkey : deadlineSortValue cfg now record.queueIntent = .ok key) :
    Loaded cfg now recovers file (done ++ [record])
      ((s.setJob record.jobId (record.recovered now recovers)).pushEntry record.queue
        (record.entry key)) where
  entries := (h.setJob hnew).entries
  keys := by
    intro q e he
    rw [queues_pushEntry] at he
    split at he
    · next hq =>
      rcases mem_push.mp he with rfl | he
      · exact ⟨record, List.mem_append_right _ List.mem_cons_self, rfl, hkey⟩
      · exact (h.setJob hnew).keys record.queue e he
    · exact (h.setJob hnew).keys q e he
  size := by
    intro q
    have hsize := h.size q
    rw [queues_pushEntry, List.length_append]
    split
    · next hq =>
      subst hq
      rw [(Heapq.push_perm _ _).length_eq]
      exact Nat.succ_le_succ hsize
    · exact hsize.trans (Nat.le_add_right _ _)
  idle := ⟨h.idle.activeCounts, h.idle.dispatchers, h.idle.runners, h.idle.retries⟩
  file := h.file

/-- The payload for the recovery factory is built before the record is in the table. -/
theorem isOk_publicJobPayload (h : s.jobs.get? record.jobId = none) :
    (publicJobPayload cfg now s record.persisted).isOk = record.effectiveDeadline.isOk := by
  unfold publicJobPayload queueEta
  rw [show s.jobs.get? record.persisted.jobId = none from h]
  show (record.effectiveDeadline >>= _).isOk = _
  rcases hd : record.effectiveDeadline with e | d <;> rfl

theorem triple_loadJob_loaded {file : Option (List Job)}
    (hnew : record.jobId ∉ done.map fun r => r.jobId) {E : Service → Prop}
    (herror : ∀ s e, record.status = .queued → recovers record.jobId = true →
      deadlineSortValue cfg now record.queueIntent = .error e → E s) :
    Triple (Loaded cfg now recovers file done) (loadJob cfg now recovers record)
      (fun _ => Loaded cfg now recovers file (done ++ [record])) E := by
  unfold loadJob
  refine Triple.bind Triple.read fun s => ?_
  dsimp only
  split
  · next hqueued =>
    refine Triple.ite (fun hrecovers => ?_) fun hrecovers => Triple.update ?_
    · unfold resumeJob
      refine Triple.bind (Triple.ofResult (Q := fun key t =>
        (Loaded cfg now recovers file done t ∧ t = s) ∧
          deadlineSortValue cfg now record.queueIntent = .ok key)
        (fun _ _ ht hkey => ⟨ht, hkey⟩) ?_) fun key => Triple.update ?_
      · rintro t e - hkey
        rw [Bool.and_eq_true] at hrecovers
        exact herror t e hqueued hrecovers.1 hkey
      · rintro t ⟨⟨ht, rfl⟩, hkey⟩
        rw [isOk_publicJobPayload (ht.absent hnew)] at hrecovers
        have hset := ht.resume hnew hkey
        have hrecord : record.recovered now recovers =
            { record.persisted with
              runner := true, recovery := some ⟨"queued_for_resume", now, .queued⟩ } := by
          unfold Job.recovered
          rw [hqueued]
          exact if_pos hrecovers
        rw [hrecord] at hset
        exact hset
    · rintro t ⟨ht, rfl⟩
      rw [isOk_publicJobPayload (ht.absent hnew)] at hrecovers
      have hset := ht.setJob hnew
      have hrecord : record.recovered now recovers = failedAtLoad now record.persisted
          ⟨"execution_queue_recovery_runner_unavailable",
            "queued job could not be reconstructed safely after restart"⟩ "failed" := by
        unfold Job.recovered
        rw [hqueued]
        exact if_neg hrecovers
      rw [hrecord] at hset
      exact hset
  · next hrunning =>
    refine Triple.update ?_
    rintro t ⟨ht, -⟩
    have hset := ht.setJob hnew
    unfold Job.recovered at hset
    rw [hrunning] at hset
    exact hset
  · next hqueued hrunning =>
    refine Triple.update ?_
    rintro t ⟨ht, -⟩
    have hset := ht.setJob hnew
    have hrecord : record.recovered now recovers = record.persisted := by
      unfold Job.recovered
      split
      · next h => exact absurd h hqueued
      · next h => exact absurd h hrunning
      · rfl
    rw [hrecord] at hset
    exact hset

theorem triple_loadJobs_loaded {file : Option (List Job)} {E : Service → Prop}
    (hdistinct : ((done ++ records).map fun r => r.jobId).Nodup)
    (herror : ∀ record ∈ records, ∀ s e, record.status = .queued → recovers record.jobId = true →
      deadlineSortValue cfg now record.queueIntent = .error e → E s) :
    Triple (Loaded cfg now recovers file done) (loadJobs cfg now recovers records)
      (fun _ => Loaded cfg now recovers file (done ++ records)) E := by
  induction records generalizing done with
  | nil =>
    rw [List.append_nil]
    exact Triple.pure fun s hs => hs
  | cons record records ih =>
    have hnew : record.jobId ∉ done.map fun r => r.jobId := by
      rw [List.map_append, List.nodup_append] at hdistinct
      intro hmem
      exact hdistinct.2.2 _ hmem _ List.mem_cons_self rfl
    rw [List.append_cons] at hdistinct ⊢
    refine Triple.bind (triple_loadJob_loaded hnew (herror record List.mem_cons_self)) fun _ => ?_
    exact ih hdistinct fun r hr => herror r (List.mem_cons_of_mem _ hr)

/-! ## The load as a whole -/

/-- A record is deleted when it is due, and only then. -/
theorem mem_dueIds_iff {e : JobId × Job} (he : e ∈ s.jobs.entries) :
    e.1 ∈ s.dueIds now ↔ e.2.isDue now = true := by
  constructor
  · intro hmem
    obtain ⟨job, hjob, hdue⟩ := due_of_mem_dueIds hmem
    rw [OrderedDict.get?_of_mem_entries he] at hjob
    obtain rfl := Option.some.inj hjob
    exact hdue
  · exact fun hdue => List.mem_map.mpr ⟨e, List.mem_filter.mpr ⟨he, hdue⟩, rfl⟩

/-- What is left of the table when the due records are deleted. -/
theorem entries_dropJobs_dueIds (s : Service) (now : ℤ) :
    (s.dropJobs (s.dueIds now)).jobs.entries = s.jobs.entries.filter fun e => !e.2.isDue now := by
  rw [Service.dropJobs_jobs, OrderedDict.entries_eraseAll]
  refine List.filter_congr fun e he => ?_
  rw [Bool.eq_iff_iff, decide_eq_true_iff, mem_dueIds_iff he, Bool.not_eq_true, Bool.not_eq_true']

/-- The service after a start from the records of the file.  The file is written again when a record was
unfinished or deleted. -/
structure Recovered (cfg : Config) (now : ℤ) (recovers : JobId → Bool) (records : List Job)
    (s : Service) : Prop where
  entries : s.jobs.entries =
    (records.map (Job.recoveredEntry now recovers)).filter fun e => !e.2.isDue now
  keys : ∀ q, ∀ e ∈ s.queues q, ∃ record ∈ records, record.jobId = e.jobId ∧
    deadlineSortValue cfg now record.queueIntent = .ok e.deadlineSort
  idle : s.Idle
  file : s.stateFile = some s.snapshot ∨ s.stateFile = some records ∧
    ((∃ job ∈ s.jobs.values, job.jsonSafe = false) ∨
      ∀ record ∈ records, record.status.terminal = true ∧ record.persisted.isDue now = false)

/-- The service after the load, before it writes. -/
def Pruned (cfg : Config) (now : ℤ) (recovers : JobId → Bool) (records : List Job) (s : Service) :
    Prop :=
  s.jobs.entries = (records.map (Job.recoveredEntry now recovers)).filter (fun e => !e.2.isDue now) ∧
    (∀ q, ∀ e ∈ s.queues q, ∃ record ∈ records, record.jobId = e.jobId ∧
      deadlineSortValue cfg now record.queueIntent = .ok e.deadlineSort) ∧
    (∀ q, (s.queues q).length ≤ records.length) ∧ s.Idle ∧ s.stateFile = some records

theorem Job.recovered_of_terminal (h : record.status.terminal = true) :
    record.recovered now recovers = record.persisted := by
  unfold Job.recovered
  split
  · next hqueued => rw [hqueued] at h; cases h
  · next hrunning => rw [hrunning] at h; cases h
  · rfl

theorem triple_loadPersistedJobs {E : Service → Prop} (hpath : cfg.statePath = true)
    (hdistinct : (records.map fun r => r.jobId).Nodup)
    (hkeys : ∀ record ∈ records, ∀ s e, record.status = .queued → recovers record.jobId = true →
      deadlineSortValue cfg now record.queueIntent = .error e → E s)
    (hpersist : ∀ s e, Pruned cfg now recovers records s →
      s.jobs.values.mapM (publicJobPayload cfg now s) = .error e → E s) :
    Triple (fun s => s = .initial (some records)) (loadPersistedJobs cfg now recovers)
      (fun _ => Recovered cfg now recovers records) E := by
  unfold loadPersistedJobs
  refine Triple.bind Triple.read fun s => ?_
  rintro t ⟨rfl, rfl⟩
  dsimp only [Service.initial]
  rw [if_pos hpath]
  have hbegin : Loaded cfg now recovers (some records) [] (.initial (some records)) :=
    ⟨rfl, fun _ _ he => (nomatch he), fun _ => Nat.zero_le _, idle_initial _, rfl⟩
  refine (show Triple (Loaded cfg now recovers (some records) []) _
    (fun _ => Recovered cfg now recovers records) E from ?_) _ hbegin
  refine Triple.bind (Q := fun _ => Loaded cfg now recovers (some records) records)
    (triple_loadJobs_loaded hdistinct hkeys) fun _ => ?_
  refine Triple.bind (Q := fun _ => Loaded cfg now recovers (some records) records)
    (Triple.update fun s hs => ⟨hs.entries, hs.keys, hs.size, ⟨hs.idle.activeCounts, hs.idle.dispatchers,
      hs.idle.runners, hs.idle.retries⟩, hs.file⟩) fun _ => ?_
  have hprune : Triple (Loaded cfg now recovers (some records) records)
      (pruneExpiredTerminalJobs now : Block Bool) (fun deleted s => Pruned cfg now recovers records s ∧
        (deleted = false → ∀ record ∈ records, (record.recovered now recovers).isDue now = false)) E := by
    unfold pruneExpiredTerminalJobs
    refine Triple.bind Triple.read fun s => ?_
    refine Triple.bind (Q := fun _ t => Pruned cfg now recovers records t ∧
      (s.dueIds now = [] → ∀ record ∈ records, (record.recovered now recovers).isDue now = false))
      (Triple.update ?_) fun _ => Triple.pure ?_
    · rintro s' ⟨hs, rfl⟩
      refine ⟨⟨?_, hs.keys, hs.size, ⟨hs.idle.activeCounts, hs.idle.dispatchers, hs.idle.runners,
        hs.idle.retries⟩, hs.file⟩, ?_⟩
      · rw [entries_dropJobs_dueIds, hs.entries]
      · intro hnone record hrecord
        have hmem : record.recoveredEntry now recovers ∈ s'.jobs.entries := by
          rw [hs.entries]
          exact List.mem_map_of_mem hrecord
        rw [← Bool.not_eq_true]
        intro hdue
        have hin := (mem_dueIds_iff hmem).mpr hdue
        rw [hnone] at hin
        cases hin
    · rintro t ⟨ht, hnone⟩
      exact ⟨ht, fun hempty => hnone (by simpa using hempty)⟩
  refine Triple.bind hprune fun deleted => Triple.ite (fun _ => ?_) fun hkept => Triple.pure ?_
  · refine triple_persistJobs_safe ?_ ?_ ?_ fun _ s e hs he => hpersist s e hs.1 he
    · intro hpath'
      rw [hpath] at hpath'
      cases hpath'
    · exact fun s hs job hjob hrefused =>
        ⟨hs.1.1, hs.1.2.1, hs.1.2.2.2.1, Or.inr ⟨hs.1.2.2.2.2, Or.inl ⟨job, hjob, hrefused⟩⟩⟩
    · rintro s ⟨⟨hentries, hkeys, -, hidle, -⟩, -⟩
      exact ⟨hentries, hkeys, ⟨hidle.activeCounts, hidle.dispatchers, hidle.runners, hidle.retries⟩,
        Or.inl rfl⟩
  · rintro s ⟨hs, hnone⟩
    rw [Bool.not_eq_true, Bool.or_eq_false_iff] at hkept
    refine ⟨hs.1, hs.2.1, hs.2.2.2.1, Or.inr ⟨hs.2.2.2.2, Or.inr fun record hrecord => ?_⟩⟩
    have hterminal : record.status.terminal = true := by
      simpa using List.any_eq_false.mp hkept.1 record hrecord
    have hdue := hnone hkept.2 record hrecord
    rw [Job.recovered_of_terminal hterminal] at hdue
    exact ⟨hterminal, hdue⟩

/-- **What a start leaves**: without a file nothing, otherwise what it makes of the records. -/
theorem restart_eq_some (hdistinct : ∀ records ∈ s.stateFile, (records.map fun r => r.jobId).Nodup)
    (hrestart : s.restart cfg now recovers = some s') :
    (cfg.statePath = true ∧ ∃ records, s.stateFile = some records ∧
      Recovered cfg now recovers records s') ∨
      ((cfg.statePath = false ∨ s.stateFile = none) ∧ s' = .initial s.stateFile) := by
  unfold Service.restart at hrestart
  rcases hexec : (loadPersistedJobs cfg now recovers).exec (.initial s.stateFile) with ⟨e | u, t⟩
  · rw [hexec] at hrestart
    cases hrestart
  rw [hexec] at hrestart
  obtain rfl := Option.some.inj hrestart
  rcases hfile : s.stateFile with _ | records
  · rw [hfile] at hexec
    obtain ⟨-, rfl⟩ := Prod.mk.inj hexec
    exact Or.inr ⟨Or.inr rfl, rfl⟩
  rw [hfile] at hexec
  rcases hpath : cfg.statePath with _ | _
  · unfold loadPersistedJobs at hexec
    rw [exec_bind, exec_read] at hexec
    dsimp only [Service.initial] at hexec
    rw [if_neg (by simp [hpath])] at hexec
    obtain ⟨-, rfl⟩ := Prod.mk.inj hexec
    exact Or.inr ⟨Or.inl rfl, rfl⟩
  · refine Or.inl ⟨rfl, records, rfl, ?_⟩
    have hload := @triple_loadPersistedJobs cfg now recovers records (fun _ => True) hpath
      (hdistinct records hfile) (fun _ _ _ _ _ _ _ => trivial) fun _ _ _ _ => trivial
    exact (hload _ rfl).1 u _ hexec

/-- The table after a start. -/
theorem Recovered.get?_iff (h : Recovered cfg now recovers records s) {id : JobId} {job : Job} :
    s.jobs.get? id = some job ↔ ∃ record ∈ records, record.jobId = id ∧
      record.recovered now recovers = job ∧ job.isDue now = false := by
  constructor
  · intro hget
    have hmem : (id, job) ∈ s.jobs.entries := Assoc.mem_of_get? hget
    rw [h.entries, List.mem_filter] at hmem
    obtain ⟨record, hrecord, heq⟩ := List.mem_map.mp hmem.1
    obtain ⟨hid, hjob⟩ := Prod.mk.inj heq
    exact ⟨record, hrecord, hid, hjob, by simpa using hmem.2⟩
  · rintro ⟨record, hrecord, rfl, rfl, hdue⟩
    refine OrderedDict.get?_of_mem_entries ?_
    rw [h.entries, List.mem_filter]
    exact ⟨List.mem_map_of_mem hrecord, by simp [hdue]⟩

end Queue
end HexeAiNode
