import HexeAiNode.Python.OrderedDict
import HexeAiNode.Python.Value
import HexeAiNode.Library.Run

/-!
# The internal scheduler

`InternalScheduler` runs each of its interval tasks in a loop of its own: the loop sleeps, starts the job, waits
for its end and sleeps again.  Every change of a task is saved at once, and the state store may raise.

`fire` is one step: a call of `register_interval_task` or `start_interval_task`, or what a loop does between two
of its waits.  A step carries the readings of the clock and what the saves that it makes raise.  Times are
microseconds since the year 1, and no task is cancelled.

A loop survives what its job raises, but not what a save raises: only the job is inside the `try` block.  So
`kept_iff` asks that no save of a loop raises, that a loop is started for a registered task, and that the time of
the next run is a date.
-/

namespace HexeAiNode
namespace Runtime
namespace InternalScheduler

open Py

/-! ## The state -/

/-- A task as the state has it. -/
structure TaskEntry where
  taskId : String
  displayName : String
  taskKind : String := "local_recurring"
  scheduleName : String
  scheduleDetail : Option String
  intervalSeconds : ℤ
  enabled : Bool := true
  running : Bool := false
  status : String := "idle"
  readinessCritical : Bool := false
  lastStartedAt : Option ℤ := none
  lastSuccessAt : Option ℤ := none
  lastFailureAt : Option ℤ := none
  lastCompletedAt : Option ℤ := none
  lastError : Option String := none
  currentError : Option String := none
  nextRunAt : Option ℤ := none
  lastResult : Option Dict := none
  attemptCount : ℕ := 0
  consecutiveFailures : ℕ := 0
  updatedAt : ℤ

/-- Where a loop is. -/
inductive LoopPhase where
  /-- The event loop has not run it yet. -/
  | created
  | sleeping
  /-- It waits for the end of its job. -/
  | running
  | ended (e : Exc)
  deriving DecidableEq

/-- A loop: an `asyncio` task that `start_interval_task` has created. -/
structure Loop where
  taskId : String
  initialDelay : ℤ
  phase : LoopPhase

/-- The loop has not ended: its task is not `done()`. -/
def Loop.live (loop : Loop) : Bool :=
  match loop.phase with
  | .ended _ => false
  | _ => true

/-- The scheduler.  `loops` are all the loops that were created, and `handles` the places of the latest.
`jobStarts` and `failures` are no part of the code: they count how often the job of a task was started, and the runs
that have failed since one succeeded, as far back as the loaded state goes. -/
structure State where
  tasks : OrderedDict String TaskEntry
  schedulerStatus : String := "idle"
  updatedAt : ℤ := 0
  loops : List Loop := []
  handles : OrderedDict String ℕ := .empty
  jobStarts : String → ℕ
  failures : String → ℕ

/-- The scheduler with the tasks that its store has. -/
def loaded (tasks : OrderedDict String TaskEntry) : State where
  tasks := tasks
  jobStarts id := (tasks.get? id).elim 0 TaskEntry.attemptCount
  failures id := (tasks.get? id).elim 0 TaskEntry.consecutiveFailures

/-- The handle of a task, unless it is done. -/
def State.liveHandle (s : State) (taskId : String) : Bool :=
  match s.handles.get? taskId with
  | none => false
  | some i => (s.loops[i]?).elim false Loop.live

/-! ## Saving -/

/-- `_refresh_running_flags`. -/
def refreshRunningFlags (s : State) : OrderedDict String TaskEntry where
  entries := s.tasks.entries.map fun task => (task.1, { task.2 with running := s.liveHandle task.1 })
  distinct := by
    have hkeys : Assoc.keys (s.tasks.entries.map fun task =>
        (task.1, { task.2 with running := s.liveHandle task.1 })) = Assoc.keys s.tasks.entries := by
      simp [Assoc.keys]
    unfold Assoc.Distinct
    rw [hkeys]
    exact s.tasks.distinct

/-- `_save`, up to the call of the store. -/
def save (s : State) (now : ℤ) : State := { s with tasks := refreshRunningFlags s, updatedAt := now }

/-- `SCHEDULE_CATALOG`. -/
def scheduleCatalog : List (String × String) := [
  ("interval_seconds", "Every N seconds (requires integer seconds)"), ("daily", "Every day at 00:01"),
  ("weekly", "Monday 00:01"), ("4_times_a_day", "00:00, 06:00, 12:00, 18:00"),
  ("every_5_minutes", "00:05, 00:10, 00:15, ..."), ("hourly", "Hourly at :00"), ("bi_weekly", "Every 2 weeks"),
  ("monthly", "First day of each month at 00:01"), ("every_other_day", "Every other day at 00:01"),
  ("twice_a_week", "Monday and Thursday at 00:01"), ("on_start", "Runs once after full operational readiness"),
  ("every_10_seconds", "Every 10 seconds"), ("heartbeat_5_seconds", "Heartbeat every 5 seconds"),
  ("telemetry_60_seconds", "Telemetry every 60 seconds")]

/-- `get_schedule_definition`: the name and the detail. -/
def getScheduleDefinition (name : String) (fallbackDetail : Option String) : String × Option String :=
  let normalized := strip name
  match Assoc.get? scheduleCatalog normalized with
  | some detail => (normalized, some detail)
  | none =>
    (if normalized = "" then "interval_seconds" else normalized,
      ((fallbackDetail.map strip).filter (· ≠ "")))

/-- The arguments of `register_interval_task`. -/
structure Registration where
  taskId : String
  displayName : String
  intervalSeconds : ℤ
  scheduleName : String := "interval_seconds"
  scheduleDetail : Option String := none
  taskKind : String := "local_recurring"
  readinessCritical : Bool := false

/-- The entry of a task that is registered, from the one that is there. -/
def registeredEntry (s : State) (args : Registration) (now : ℤ) : TaskEntry :=
  let schedule := getScheduleDefinition args.scheduleName args.scheduleDetail
  let entry : TaskEntry :=
    match s.tasks.get? args.taskId with
    | some current => { current with status := if current.status = "" then "idle" else current.status }
    | none =>
      { taskId := args.taskId, displayName := args.displayName, scheduleName := schedule.1
        scheduleDetail := schedule.2, intervalSeconds := 1, updatedAt := now }
  { entry with
    taskId := args.taskId
    displayName := args.displayName
    taskKind := args.taskKind
    scheduleName := schedule.1
    scheduleDetail := schedule.2
    intervalSeconds := max args.intervalSeconds 1
    running := s.liveHandle args.taskId
    readinessCritical := args.readinessCritical }

/-- `register_interval_task`; what the save raises, the caller sees. -/
def registerIntervalTask (s : State) (args : Registration) (now : ℤ) : State :=
  save { s with tasks := s.tasks.set args.taskId (registeredEntry s args now) } now

/-- `start_interval_task`: the loop is created before the status is saved. -/
def startIntervalTask (s : State) (taskId : String) (initialDelaySeconds now : ℤ) : State :=
  if s.liveHandle taskId then s
  else
    save
      { s with
        loops := s.loops ++ [⟨taskId, max initialDelaySeconds 0, .created⟩]
        handles := s.handles.set taskId s.loops.length
        schedulerStatus := "running" } now

/-! ## Changes of a task -/

/-- A change of a task, and what it raises: that there is no such task, or what the save raises. -/
def mark (s : State) (taskId : String) (now : ℤ) (saved : Option Exc) (change : TaskEntry → TaskEntry) :
    State × Option Exc :=
  match s.tasks.get? taskId with
  | none => (s, some ⟨.valueError, "unregistered_scheduler_task:" ++ taskId⟩)
  | some entry => (save { s with tasks := s.tasks.set taskId (change entry) } now, saved)

/-- The last microsecond of the year 9999. -/
def datetimeMax : ℤ := 315537897599999999

/-- The time after a delay is a date. -/
def FitsDate (now delay : ℤ) : Prop := now + max delay 0 * 1000000 ≤ datetimeMax

instance (now delay : ℤ) : Decidable (FitsDate now delay) := inferInstanceAs (Decidable (_ ≤ _))

/-- `_mark_task_sleeping`. -/
def markTaskSleeping (s : State) (taskId : String) (delay now : ℤ) (saved : Option Exc) : State × Option Exc :=
  if (s.tasks.get? taskId).isSome ∧ ¬FitsDate now delay then
    (s, some ⟨.overflowError, "date value out of range"⟩)
  else
    mark s taskId now saved fun task =>
      { task with
        running := false, status := "scheduled", currentError := none
        nextRunAt := some (now + max delay 0 * 1000000), updatedAt := now }

/-- `_mark_task_running`. -/
def markTaskRunning (s : State) (taskId : String) (now : ℤ) (saved : Option Exc) : State × Option Exc :=
  mark s taskId now saved fun task =>
    { task with
      running := true, status := "running", lastStartedAt := some now, attemptCount := task.attemptCount + 1
      currentError := none, updatedAt := now }

/-- `_mark_task_success`. -/
def markTaskSuccess (s : State) (taskId : String) (result : Option Dict) (now : ℤ) (saved : Option Exc) :
    State × Option Exc :=
  mark s taskId now saved fun task =>
    { task with
      running := false, status := "healthy", lastSuccessAt := some now, lastCompletedAt := some now
      lastResult := result, lastError := none, currentError := none, nextRunAt := none
      consecutiveFailures := 0, updatedAt := now }

/-- `_mark_task_failure`. -/
def markTaskFailure (s : State) (taskId error : String) (now : ℤ) (saved : Option Exc) : State × Option Exc :=
  mark s taskId now saved fun task =>
    { task with
      running := false, status := "failing", lastFailureAt := some now, lastCompletedAt := some now
      lastError := some error, currentError := some error, nextRunAt := none
      consecutiveFailures := task.consecutiveFailures + 1, updatedAt := now }

/-! ## The loops -/

/-- What a job ends with: its result, if that is a dictionary, or the text of what it raised. -/
abbrev JobOutcome := Except String (Option Dict)

/-- A step; `saved` is what the save of the step raises. -/
inductive Step where
  | register (args : Registration) (now : ℤ) (saved : Option Exc)
  | start (taskId : String) (initialDelaySeconds now : ℤ) (saved : Option Exc)
  /-- A loop runs for the first time. -/
  | begins (i : ℕ) (now : ℤ) (saved : Option Exc)
  | wakes (i : ℕ) (now : ℤ) (saved : Option Exc)
  /-- The job of a loop ends; its outcome is saved, and then the next run. -/
  | jobEnds (i : ℕ) (outcome : JobOutcome) (now : ℤ) (savedOutcome savedNextRun : Option Exc)

/-- The loop goes on to a phase, or ends with what was raised. -/
def proceed (i : ℕ) (loop : Loop) (phase : LoopPhase) (marked : State × Option Exc) : State :=
  let phase := marked.2.elim phase LoopPhase.ended
  { marked.1 with loops := marked.1.loops.set i { loop with phase := phase } }

/-- The first part of `_run_interval_task`. -/
def begin (s : State) (i : ℕ) (loop : Loop) (now : ℤ) (saved : Option Exc) : State :=
  proceed i loop .sleeping (markTaskSleeping s loop.taskId loop.initialDelay now saved)

/-- A loop starts its job, unless the save raises. -/
def wake (s : State) (i : ℕ) (loop : Loop) (now : ℤ) (saved : Option Exc) : State :=
  let marked := markTaskRunning s loop.taskId now saved
  let s' := proceed i loop .running marked
  if marked.2 = none then
    { s' with jobStarts := Function.update s.jobStarts loop.taskId (s.jobStarts loop.taskId + 1) }
  else s'

/-- The outcome of a job is noted. -/
def markOutcome (s : State) (taskId : String) (outcome : JobOutcome) (now : ℤ) (saved : Option Exc) :
    State × Option Exc :=
  match outcome with
  | .ok result =>
    markTaskSuccess { s with failures := Function.update s.failures taskId 0 } taskId result now saved
  | .error error =>
    markTaskFailure { s with failures := Function.update s.failures taskId (s.failures taskId + 1) } taskId error
      now saved

/-- The interval of a task. -/
def nextDelay (s : State) (taskId : String) : ℤ :=
  match s.tasks.get? taskId with
  | some entry => max entry.intervalSeconds 1
  | none => 1

/-- The end of a job: its outcome is noted, and the loop sleeps again. -/
def endJob (s : State) (i : ℕ) (loop : Loop) (outcome : JobOutcome) (now : ℤ)
    (savedOutcome savedNextRun : Option Exc) : State :=
  let noted := markOutcome s loop.taskId outcome now savedOutcome
  match noted.2 with
  | some e => proceed i loop .sleeping (noted.1, some e)
  | none =>
    proceed i loop .sleeping
      (markTaskSleeping noted.1 loop.taskId (nextDelay noted.1 loop.taskId) now savedNextRun)

/-- One step.  A step that cannot be taken in a state changes nothing. -/
def fire (s : State) : Step → State
  | .register args now _ => registerIntervalTask s args now
  | .start taskId initialDelaySeconds now _ => startIntervalTask s taskId initialDelaySeconds now
  | .begins i now saved =>
    match s.loops[i]? with
    | some loop => if loop.phase = .created then begin s i loop now saved else s
    | none => s
  | .wakes i now saved =>
    match s.loops[i]? with
    | some loop => if loop.phase = .sleeping then wake s i loop now saved else s
    | none => s
  | .jobEnds i outcome now savedOutcome savedNextRun =>
    match s.loops[i]? with
    | some loop => if loop.phase = .running then endJob s i loop outcome now savedOutcome savedNextRun else s
    | none => s

/-! ## What is expected -/

/-- What is expected of the scheduler in a state: every task that was started has one live loop, and the counts
of its entry are right. -/
structure Kept (s : State) : Prop where
  alive : ∀ id, (s.handles.get? id).isSome →
    ∃! i : ℕ, ∃ loop : Loop, s.loops[i]? = some loop ∧ loop.taskId = id ∧ loop.live = true
  attempts : ∀ id entry, s.tasks.get? id = some entry → entry.attemptCount = s.jobStarts id
  failures : ∀ id entry, s.tasks.get? id = some entry → entry.consecutiveFailures = s.failures id

/-- No save of a loop raises, its task is registered, and its next run is at a date. -/
def Undisturbed (s : State) : Step → Prop
  | .register _ _ _ | .start _ _ _ _ => True
  | .begins i now saved => ∀ loop, s.loops[i]? = some loop → loop.phase = .created →
      (s.tasks.get? loop.taskId).isSome ∧ FitsDate now loop.initialDelay ∧ saved = none
  | .wakes i _ saved => ∀ loop, s.loops[i]? = some loop → loop.phase = .sleeping → saved = none
  | .jobEnds i _ now savedOutcome savedNextRun => ∀ loop, s.loops[i]? = some loop → loop.phase = .running →
      FitsDate now (nextDelay s loop.taskId) ∧ savedOutcome = none ∧ savedNextRun = none

/-! ## The counts -/

/-- The counts of the entry of a task. -/
def counts (s : State) (id : String) : Option (ℕ × ℕ) :=
  (s.tasks.get? id).map fun entry => (entry.attemptCount, entry.consecutiveFailures)

theorem get?_refreshRunningFlags (s : State) (id : String) :
    (refreshRunningFlags s).get? id = (s.tasks.get? id).map fun entry =>
      { entry with running := s.liveHandle id } := by
  unfold refreshRunningFlags OrderedDict.get?
  dsimp only
  induction s.tasks.entries with
  | nil => rfl
  | cons task entries ih =>
    rw [List.map_cons, Assoc.get?_cons, Assoc.get?_cons, ih]
    by_cases h : task.1 = id
    · simp [h]
    · simp [h]

@[simp] theorem counts_save (s : State) (now : ℤ) (id : String) : counts (save s now) id = counts s id := by
  unfold counts save
  rw [get?_refreshRunningFlags, Option.map_map]
  rfl

/-- The interval of a task is saved as it is. -/
theorem nextDelay_save (s : State) (now : ℤ) (id : String) : nextDelay (save s now) id = nextDelay s id := by
  unfold nextDelay save
  rw [get?_refreshRunningFlags]
  rcases s.tasks.get? id with _ | entry <;> rfl

theorem isSome_save (s : State) (now : ℤ) (id : String) :
    ((save s now).tasks.get? id).isSome = (s.tasks.get? id).isSome := by
  unfold save
  rw [get?_refreshRunningFlags, Option.isSome_map]

/-- The counts agree with the runs. -/
def CountsAgree (s : State) : Prop := ∀ id, (counts s id).getD (0, 0) = (s.jobStarts id, s.failures id)

theorem CountsAgree.entry {s : State} (h : CountsAgree s) {id : String} {entry : TaskEntry}
    (hentry : s.tasks.get? id = some entry) :
    entry.attemptCount = s.jobStarts id ∧ entry.consecutiveFailures = s.failures id := by
  have hid := h id
  rw [counts, hentry] at hid
  exact Prod.mk.inj hid

/-- A change of a task that is registered. -/
theorem mark_of_some {s : State} {taskId : String} {entry : TaskEntry} (h : s.tasks.get? taskId = some entry)
    (now : ℤ) (saved : Option Exc) (change : TaskEntry → TaskEntry) :
    mark s taskId now saved change =
      (save { s with tasks := s.tasks.set taskId (change entry) } now, saved) := by
  rw [mark, h]

/-- What a change of a task does to the counts. -/
theorem counts_mark (s : State) (taskId : String) (now : ℤ) (saved : Option Exc) (change : TaskEntry → TaskEntry)
    (id : String) : counts (mark s taskId now saved change).1 id =
      if id = taskId then (s.tasks.get? id).map fun entry =>
        ((change entry).attemptCount, (change entry).consecutiveFailures)
      else counts s id := by
  rcases h : s.tasks.get? taskId with _ | entry
  · rw [mark, h]
    by_cases hid : id = taskId
    · rw [if_pos hid, counts, hid, h]
      rfl
    · rw [if_neg hid]
  · rw [mark_of_some h, counts_save]
    unfold counts
    dsimp only
    rw [OrderedDict.get?_set]
    by_cases hid : id = taskId
    · rw [if_pos hid, if_pos hid, hid, h]
      rfl
    · rw [if_neg hid, if_neg hid]

/-- A change that leaves the counts of its task alone. -/
theorem counts_mark_of_same {change : TaskEntry → TaskEntry}
    (hsame : ∀ entry, (change entry).attemptCount = entry.attemptCount ∧
      (change entry).consecutiveFailures = entry.consecutiveFailures)
    (s : State) (taskId : String) (now : ℤ) (saved : Option Exc) (id : String) :
    counts (mark s taskId now saved change).1 id = counts s id := by
  rw [counts_mark]
  split
  · unfold counts
    simp only [hsame]
  · rfl

/-- `_mark_task_sleeping` leaves the counts alone. -/
theorem counts_markTaskSleeping (s : State) (taskId : String) (delay now : ℤ) (saved : Option Exc) (id : String) :
    counts (markTaskSleeping s taskId delay now saved).1 id = counts s id := by
  unfold markTaskSleeping
  split
  · rfl
  · refine counts_mark_of_same ?_ s taskId now saved id
    exact fun _ => ⟨rfl, rfl⟩

/-! ## What a change leaves alone -/

/-- The loops and the handles are the same, and the same tasks are registered. -/
structure SameLoops (s s' : State) : Prop where
  loops : s'.loops = s.loops
  handles : s'.handles = s.handles
  registered : ∀ id, (s'.tasks.get? id).isSome = (s.tasks.get? id).isSome

theorem SameLoops.refl (s : State) : SameLoops s s := ⟨rfl, rfl, fun _ => rfl⟩

theorem SameLoops.trans {s s' s'' : State} (h : SameLoops s s') (h' : SameLoops s' s'') : SameLoops s s'' :=
  ⟨h'.loops.trans h.loops, h'.handles.trans h.handles, fun id => (h'.registered id).trans (h.registered id)⟩

theorem sameLoops_mark (s : State) (taskId : String) (now : ℤ) (saved : Option Exc)
    (change : TaskEntry → TaskEntry) : SameLoops s (mark s taskId now saved change).1 := by
  rcases h : s.tasks.get? taskId with _ | entry
  · rw [mark, h]
    exact .refl s
  · rw [mark_of_some h]
    refine ⟨rfl, rfl, fun id => ?_⟩
    rw [isSome_save]
    dsimp only
    rw [OrderedDict.get?_set]
    by_cases hid : id = taskId
    · rw [if_pos hid, hid, h]
      rfl
    · rw [if_neg hid]

theorem sameLoops_markTaskSleeping (s : State) (taskId : String) (delay now : ℤ) (saved : Option Exc) :
    SameLoops s (markTaskSleeping s taskId delay now saved).1 := by
  unfold markTaskSleeping
  split
  · exact .refl s
  · exact sameLoops_mark s taskId now saved _

/-- The outcome of a job is noted without a change of the loops. -/
theorem sameLoops_markOutcome (s : State) (taskId : String) (outcome : JobOutcome) (now : ℤ)
    (saved : Option Exc) : SameLoops s (markOutcome s taskId outcome now saved).1 := by
  have hcounted : ∀ failures, SameLoops s { s with failures := failures } := fun _ => ⟨rfl, rfl, fun _ => rfl⟩
  cases outcome with
  | ok result => exact (hcounted _).trans (sameLoops_mark _ taskId now saved _)
  | error error => exact (hcounted _).trans (sameLoops_mark _ taskId now saved _)

/-- A change of a task does not touch the record of the runs. -/
theorem mark_record (s : State) (taskId : String) (now : ℤ) (saved : Option Exc)
    (change : TaskEntry → TaskEntry) : (mark s taskId now saved change).1.jobStarts = s.jobStarts ∧
      (mark s taskId now saved change).1.failures = s.failures := by
  rcases h : s.tasks.get? taskId with _ | entry
  · rw [mark, h]
    exact ⟨rfl, rfl⟩
  · rw [mark_of_some h]
    exact ⟨rfl, rfl⟩

theorem markTaskSleeping_record (s : State) (taskId : String) (delay now : ℤ) (saved : Option Exc) :
    (markTaskSleeping s taskId delay now saved).1.jobStarts = s.jobStarts ∧
      (markTaskSleeping s taskId delay now saved).1.failures = s.failures := by
  unfold markTaskSleeping
  split
  · exact ⟨rfl, rfl⟩
  · exact mark_record s taskId now saved _

/-- What a change of a task raises. -/
theorem mark_raises (s : State) (taskId : String) (now : ℤ) (saved : Option Exc)
    (change : TaskEntry → TaskEntry) :
    (mark s taskId now saved change).2 = none ↔ (s.tasks.get? taskId).isSome ∧ saved = none := by
  rcases h : s.tasks.get? taskId with _ | entry
  · rw [mark, h]
    simp
  · rw [mark_of_some h]
    simp

theorem markTaskSleeping_raises (s : State) (taskId : String) (delay now : ℤ) (saved : Option Exc) :
    (markTaskSleeping s taskId delay now saved).2 = none ↔
      (s.tasks.get? taskId).isSome ∧ FitsDate now delay ∧ saved = none := by
  unfold markTaskSleeping
  by_cases h : (s.tasks.get? taskId).isSome ∧ ¬FitsDate now delay
  · rw [if_pos h]
    simp [h.2]
  · rw [if_neg h, mark_raises]
    constructor
    · rintro ⟨hsome, hsaved⟩
      exact ⟨hsome, not_not.mp fun hfits => h ⟨hsome, hfits⟩, hsaved⟩
    · rintro ⟨hsome, -, hsaved⟩
      exact ⟨hsome, hsaved⟩

theorem markOutcome_raises (s : State) (taskId : String) (outcome : JobOutcome) (now : ℤ) (saved : Option Exc) :
    (markOutcome s taskId outcome now saved).2 = none ↔ (s.tasks.get? taskId).isSome ∧ saved = none := by
  cases outcome with
  | ok result => exact mark_raises _ taskId now saved _
  | error error => exact mark_raises _ taskId now saved _

/-- The interval of a task when its outcome is noted. -/
theorem nextDelay_markOutcome (s : State) (taskId : String) (outcome : JobOutcome) (now : ℤ) (saved : Option Exc) :
    nextDelay (markOutcome s taskId outcome now saved).1 taskId = nextDelay s taskId := by
  have hmark : ∀ (s : State) (change : TaskEntry → TaskEntry),
      (∀ entry, (change entry).intervalSeconds = entry.intervalSeconds) →
        nextDelay (mark s taskId now saved change).1 taskId = nextDelay s taskId := by
    intro s change hsame
    rcases h : s.tasks.get? taskId with _ | entry
    · rw [mark, h]
    · rw [mark_of_some h, nextDelay_save]
      unfold nextDelay
      simp only [OrderedDict.get?_set_self, h, hsame]
  cases outcome with
  | ok result => exact hmark _ _ fun _ => rfl
  | error error => exact hmark _ _ fun _ => rfl

/-! ## The loops of the tasks -/

/-- The handle of a task is the place of its latest loop, and only the latest can be live. -/
structure Tidy (s : State) : Prop where
  latest : ∀ (i : ℕ) (loop : Loop), s.loops[i]? = some loop → loop.live = true → s.handles.get? loop.taskId = some i
  handled : ∀ id i, s.handles.get? id = some i → ∃ loop : Loop, s.loops[i]? = some loop ∧ loop.taskId = id
  registered : ∀ (i : ℕ) (loop : Loop), s.loops[i]? = some loop → loop.phase = .sleeping ∨ loop.phase = .running →
    (s.tasks.get? loop.taskId).isSome

theorem liveHandle_iff {s : State} (htidy : Tidy s) {id : String} :
    s.liveHandle id = true ↔
      ∃ (i : ℕ) (loop : Loop), s.loops[i]? = some loop ∧ loop.taskId = id ∧ loop.live = true := by
  unfold State.liveHandle
  rcases h : s.handles.get? id with _ | i
  · refine iff_of_false Bool.false_ne_true ?_
    rintro ⟨i, loop, hloop, rfl, hlive⟩
    rw [htidy.latest i loop hloop hlive] at h
    cases h
  · obtain ⟨loop, hloop, hid⟩ := htidy.handled id i h
    dsimp only
    rw [hloop, Option.elim_some]
    constructor
    · exact fun hlive => ⟨i, loop, hloop, hid, hlive⟩
    · rintro ⟨j, loop', hloop', rfl, hlive⟩
      rw [htidy.latest j loop' hloop' hlive] at h
      obtain rfl := Option.some.inj h
      rw [hloop] at hloop'
      obtain rfl := Option.some.inj hloop'
      exact hlive

/-- **One live loop**: the handle of a task is live exactly if one loop of the task is. -/
theorem existsUnique_iff {s : State} (htidy : Tidy s) {id : String} :
    (∃! i : ℕ, ∃ loop : Loop, s.loops[i]? = some loop ∧ loop.taskId = id ∧ loop.live = true) ↔
      s.liveHandle id = true := by
  rw [liveHandle_iff htidy]
  constructor
  · rintro ⟨i, ⟨loop, h⟩, -⟩
    exact ⟨i, loop, h⟩
  · rintro ⟨i, loop, hloop, rfl, hlive⟩
    refine ⟨i, ⟨loop, hloop, rfl, hlive⟩, ?_⟩
    rintro j ⟨loop', hloop', hid, hlive'⟩
    have hi := htidy.latest i loop hloop hlive
    rw [← hid, htidy.latest j loop' hloop' hlive'] at hi
    exact Option.some.inj hi

/-- A loop goes on, or ends. -/
theorem tidy_proceed {s : State} (htidy : Tidy s) {i : ℕ} {loop : Loop} (hloop : s.loops[i]? = some loop)
    (hlive : loop.live = true) {phase : LoopPhase} {marked : State × Option Exc} (hsame : SameLoops s marked.1)
    (hregistered : marked.2 = none → (s.tasks.get? loop.taskId).isSome) : Tidy (proceed i loop phase marked) := by
  have hi : i < s.loops.length := (List.getElem?_eq_some_iff.mp hloop).1
  have hget : ∀ j, (proceed i loop phase marked).loops[j]? =
      if j = i then some { loop with phase := marked.2.elim phase LoopPhase.ended } else s.loops[j]? := by
    intro j
    show (marked.1.loops.set i _)[j]? = _
    rw [hsame.loops, List.getElem?_set]
    by_cases hj : j = i
    · subst hj
      simp [hi]
    · rw [if_neg (Ne.symm hj), if_neg hj]
  have hhandles : ∀ id, (proceed i loop phase marked).handles.get? id = s.handles.get? id := fun id =>
    congrArg (fun d => OrderedDict.get? d id) hsame.handles
  refine ⟨fun j loop' hloop' hlive' => ?_, fun id j hj => ?_, fun j loop' hloop' hphase => ?_⟩
  · rw [hget] at hloop'
    rw [hhandles]
    split at hloop'
    · next hj =>
      obtain rfl := Option.some.inj hloop'
      rw [hj]
      exact htidy.latest i loop hloop hlive
    · exact htidy.latest j loop' hloop' hlive'
  · rw [hhandles] at hj
    obtain ⟨loop', hloop', hid⟩ := htidy.handled id j hj
    rw [hget]
    by_cases hji : j = i
    · subst hji
      rw [hloop] at hloop'
      obtain rfl := Option.some.inj hloop'
      exact ⟨_, if_pos rfl, hid⟩
    · exact ⟨loop', by rw [if_neg hji, hloop'], hid⟩
  · rw [hget] at hloop'
    show (marked.1.tasks.get? loop'.taskId).isSome
    rw [hsame.registered]
    split at hloop'
    · obtain rfl := Option.some.inj hloop'
      refine hregistered ?_
      rcases hmarked : marked.2 with _ | e
      · rfl
      · simp [hmarked] at hphase
    · exact htidy.registered j loop' hloop' hphase

theorem SameLoops.liveHandle {s s' : State} (h : SameLoops s s') (id : String) :
    s'.liveHandle id = s.liveHandle id := by
  unfold State.liveHandle
  rw [h.handles, h.loops]

theorem Tidy.congr {s s' : State} (htidy : Tidy s) (h : SameLoops s s') : Tidy s' := by
  refine ⟨fun i loop hloop => ?_, fun id i hid => ?_, fun i loop hloop hphase => ?_⟩
  · rw [h.loops] at hloop
    rw [h.handles]
    exact htidy.latest i loop hloop
  · rw [h.handles] at hid
    rw [h.loops]
    exact htidy.handled id i hid
  · rw [h.loops] at hloop
    rw [h.registered]
    exact htidy.registered i loop hloop hphase

/-- What `wake` leaves besides the record of the runs. -/
theorem sameLoops_wake (s : State) (i : ℕ) (loop : Loop) (now : ℤ) (saved : Option Exc) :
    SameLoops (proceed i loop .running (markTaskRunning s loop.taskId now saved)) (wake s i loop now saved) := by
  unfold wake
  dsimp only
  split
  · exact ⟨rfl, rfl, fun _ => rfl⟩
  · exact .refl _

/-- The change of the task that ends a job: the next run, or what the save of the outcome raises. -/
def lastMark (s : State) (loop : Loop) (outcome : JobOutcome) (now : ℤ) (savedOutcome savedNextRun : Option Exc) :
    State × Option Exc :=
  let noted := markOutcome s loop.taskId outcome now savedOutcome
  match noted.2 with
  | some e => (noted.1, some e)
  | none => markTaskSleeping noted.1 loop.taskId (nextDelay noted.1 loop.taskId) now savedNextRun

theorem endJob_eq (s : State) (i : ℕ) (loop : Loop) (outcome : JobOutcome) (now : ℤ)
    (savedOutcome savedNextRun : Option Exc) : endJob s i loop outcome now savedOutcome savedNextRun =
      proceed i loop .sleeping (lastMark s loop outcome now savedOutcome savedNextRun) := by
  unfold endJob lastMark
  dsimp only
  rcases (markOutcome s loop.taskId outcome now savedOutcome).2 with _ | e <;> rfl

theorem sameLoops_lastMark (s : State) (loop : Loop) (outcome : JobOutcome) (now : ℤ)
    (savedOutcome savedNextRun : Option Exc) :
    SameLoops s (lastMark s loop outcome now savedOutcome savedNextRun).1 := by
  have hnoted := sameLoops_markOutcome s loop.taskId outcome now savedOutcome
  unfold lastMark
  dsimp only
  rcases (markOutcome s loop.taskId outcome now savedOutcome).2 with _ | e
  · exact hnoted.trans (sameLoops_markTaskSleeping _ _ _ now savedNextRun)
  · exact hnoted

/-- What the end of a job raises. -/
theorem lastMark_raises (s : State) (loop : Loop) (outcome : JobOutcome) (now : ℤ)
    (savedOutcome savedNextRun : Option Exc) :
    (lastMark s loop outcome now savedOutcome savedNextRun).2 = none ↔ (s.tasks.get? loop.taskId).isSome ∧
      FitsDate now (nextDelay s loop.taskId) ∧ savedOutcome = none ∧ savedNextRun = none := by
  have hraises := markOutcome_raises s loop.taskId outcome now savedOutcome
  have hregistered := (sameLoops_markOutcome s loop.taskId outcome now savedOutcome).registered loop.taskId
  unfold lastMark
  dsimp only
  rcases hnoted : (markOutcome s loop.taskId outcome now savedOutcome).2 with _ | e
  · dsimp only
    rw [markTaskSleeping_raises, nextDelay_markOutcome, hregistered]
    obtain ⟨hsome, hsaved⟩ := hraises.mp hnoted
    simp only [hsaved, true_and]
  · refine iff_of_false (by simp) ?_
    rintro ⟨hsome, -, hsaved, -⟩
    rw [hraises.mpr ⟨hsome, hsaved⟩] at hnoted
    cases hnoted

/-- A step of a loop, as the change of its task that decides how it goes on.  `none` stands for the calls, and for
steps that cannot be taken. -/
def loopStep (s : State) : Step → Option (ℕ × Loop × LoopPhase × (State × Option Exc))
  | .register _ _ _ | .start _ _ _ _ => none
  | .begins i now saved =>
    match s.loops[i]? with
    | some loop =>
      if loop.phase = .created then
        some (i, loop, .sleeping, markTaskSleeping s loop.taskId loop.initialDelay now saved)
      else none
    | none => none
  | .wakes i now saved =>
    match s.loops[i]? with
    | some loop =>
      if loop.phase = .sleeping then some (i, loop, .running, markTaskRunning s loop.taskId now saved) else none
    | none => none
  | .jobEnds i outcome now savedOutcome savedNextRun =>
    match s.loops[i]? with
    | some loop =>
      if loop.phase = .running then
        some (i, loop, .sleeping, lastMark s loop outcome now savedOutcome savedNextRun)
      else none
    | none => none

/-- What a step of a loop is: its loop is live, the loops are left alone by the change of the task, and this
raises exactly if the step is disturbed. -/
structure LoopStepSpec (s : State) (step : Step) (i : ℕ) (loop : Loop) (phase : LoopPhase)
    (marked : State × Option Exc) : Prop where
  loop_eq : s.loops[i]? = some loop
  live : loop.live = true
  phase_eq : phase = .sleeping ∨ phase = .running
  same : SameLoops s marked.1
  fire_eq : SameLoops (proceed i loop phase marked) (fire s step)
  registered : marked.2 = none → (s.tasks.get? loop.taskId).isSome
  raises : Tidy s → (marked.2 = none ↔ Undisturbed s step)

theorem live_of_phase {loop : Loop} (h : loop.phase = .created ∨ loop.phase = .sleeping ∨ loop.phase = .running) :
    loop.live = true := by
  unfold Loop.live
  rcases h with h | h | h <;> rw [h]

/-- **The steps of the loops.** -/
theorem loopStep_spec {s : State} {step : Step} {i : ℕ} {loop : Loop} {phase : LoopPhase}
    {marked : State × Option Exc} (h : loopStep s step = some (i, loop, phase, marked)) :
    LoopStepSpec s step i loop phase marked := by
  cases step with
  | register args now saved => cases h
  | start taskId delay now saved => cases h
  | begins j now saved =>
    simp only [loopStep] at h
    split at h
    · next loop' hloop =>
      split at h
      · next hphase =>
        obtain ⟨rfl, rfl, rfl, rfl⟩ := by simpa using h
        have hraises := markTaskSleeping_raises s loop'.taskId loop'.initialDelay now saved
        refine ⟨hloop, live_of_phase (Or.inl hphase), Or.inl rfl, sameLoops_markTaskSleeping _ _ _ _ _, ?_,
          fun hnone => (hraises.mp hnone).1, fun _ => hraises.trans ?_⟩
        · simp only [fire, hloop, if_pos hphase]
          exact .refl _
        · simp only [Undisturbed, hloop, Option.some.injEq, forall_eq', hphase, forall_const]
      · cases h
    · cases h
  | wakes j now saved =>
    simp only [loopStep] at h
    split at h
    · next loop' hloop =>
      split at h
      · next hphase =>
        obtain ⟨rfl, rfl, rfl, rfl⟩ := by simpa using h
        have hraises : (markTaskRunning s loop'.taskId now saved).2 = none ↔ _ := mark_raises s loop'.taskId now saved _
        refine ⟨hloop, live_of_phase (Or.inr (Or.inl hphase)), Or.inr rfl, sameLoops_mark _ _ _ _ _, ?_,
          fun hnone => (hraises.mp hnone).1, fun htidy => hraises.trans ?_⟩
        · simp only [fire, hloop, if_pos hphase]
          exact sameLoops_wake s j loop' now saved
        · have hregistered := htidy.registered j loop' hloop (Or.inl hphase)
          simp only [Undisturbed, hloop, Option.some.injEq, forall_eq', hphase, forall_const, hregistered, true_and]
      · cases h
    · cases h
  | jobEnds j outcome now savedOutcome savedNextRun =>
    simp only [loopStep] at h
    split at h
    · next loop' hloop =>
      split at h
      · next hphase =>
        obtain ⟨rfl, rfl, rfl, rfl⟩ := by simpa using h
        have hraises := lastMark_raises s loop' outcome now savedOutcome savedNextRun
        refine ⟨hloop, live_of_phase (Or.inr (Or.inr hphase)), Or.inl rfl, sameLoops_lastMark _ _ _ _ _ _, ?_,
          fun hnone => (hraises.mp hnone).1, fun htidy => hraises.trans ?_⟩
        · simp only [fire, hloop, if_pos hphase, endJob_eq]
          exact .refl _
        · have hregistered := htidy.registered j loop' hloop (Or.inr hphase)
          simp only [Undisturbed, hloop, Option.some.injEq, forall_eq', hphase, forall_const, hregistered, true_and]
      · cases h
    · cases h

/-- A step that is not one of a loop. -/
theorem fire_of_loopStep_none {s : State} {step : Step} (h : loopStep s step = none) :
    Undisturbed s step ∧ ((∃ args now saved, step = .register args now saved) ∨
      (∃ taskId delay now saved, step = .start taskId delay now saved) ∨ fire s step = s) := by
  have hidle : ∀ {i : ℕ} {phase : LoopPhase} {P : Loop → Prop},
      (∀ loop, s.loops[i]? = some loop → loop.phase ≠ phase) →
        ∀ loop, s.loops[i]? = some loop → loop.phase = phase → P loop :=
    fun hne loop hloop hphase => absurd hphase (hne loop hloop)
  cases step with
  | register args now saved => exact ⟨trivial, Or.inl ⟨args, now, saved, rfl⟩⟩
  | start taskId delay now saved => exact ⟨trivial, Or.inr (Or.inl ⟨taskId, delay, now, saved, rfl⟩)⟩
  | begins i now saved =>
    rcases hloop : s.loops[i]? with _ | loop
    · refine ⟨hidle fun loop h => ?_, Or.inr (Or.inr (by simp only [fire, hloop]))⟩
      rw [hloop] at h
      cases h
    · by_cases hphase : loop.phase = .created
      · simp [loopStep, hloop, hphase] at h
      · refine ⟨hidle fun loop' h => ?_, Or.inr (Or.inr (by simp only [fire, hloop, if_neg hphase]))⟩
        rw [hloop] at h
        obtain rfl := Option.some.inj h
        exact hphase
  | wakes i now saved =>
    rcases hloop : s.loops[i]? with _ | loop
    · refine ⟨hidle fun loop h => ?_, Or.inr (Or.inr (by simp only [fire, hloop]))⟩
      rw [hloop] at h
      cases h
    · by_cases hphase : loop.phase = .sleeping
      · simp [loopStep, hloop, hphase] at h
      · refine ⟨hidle fun loop' h => ?_, Or.inr (Or.inr (by simp only [fire, hloop, if_neg hphase]))⟩
        rw [hloop] at h
        obtain rfl := Option.some.inj h
        exact hphase
  | jobEnds i outcome now savedOutcome savedNextRun =>
    rcases hloop : s.loops[i]? with _ | loop
    · refine ⟨hidle fun loop h => ?_, Or.inr (Or.inr (by simp only [fire, hloop]))⟩
      rw [hloop] at h
      cases h
    · by_cases hphase : loop.phase = .running
      · simp [loopStep, hloop, hphase] at h
      · refine ⟨hidle fun loop' h => ?_, Or.inr (Or.inr (by simp only [fire, hloop, if_neg hphase]))⟩
        rw [hloop] at h
        obtain rfl := Option.some.inj h
        exact hphase

/-! ## The calls -/

theorem tidy_registerIntervalTask {s : State} (htidy : Tidy s) (args : Registration) (now : ℤ) :
    Tidy (registerIntervalTask s args now) := by
  refine ⟨htidy.latest, htidy.handled, fun i loop hloop hphase => ?_⟩
  have hregistered := htidy.registered i loop hloop hphase
  unfold registerIntervalTask
  rw [isSome_save]
  dsimp only
  rw [OrderedDict.get?_set]
  split
  · rfl
  · exact hregistered

theorem sameLoops_save (s : State) (now : ℤ) : SameLoops s (save s now) :=
  ⟨rfl, rfl, fun id => isSome_save s now id⟩

/-- A loop is created for a task that has none. -/
theorem tidy_startIntervalTask {s : State} (htidy : Tidy s) (taskId : String) (delay now : ℤ) :
    Tidy (startIntervalTask s taskId delay now) := by
  unfold startIntervalTask
  split
  · exact htidy
  · next hdead =>
    refine Tidy.congr ?_ (sameLoops_save _ now)
    have hold : ∀ {i : ℕ} {loop : Loop}, s.loops[i]? = some loop →
        (s.loops ++ [⟨taskId, max delay 0, .created⟩])[i]? = some loop := fun hloop =>
      (List.getElem?_append_left (List.getElem?_eq_some_iff.mp hloop).1).trans hloop
    have hcases : ∀ {i : ℕ} {loop : Loop}, (s.loops ++ [⟨taskId, max delay 0, .created⟩])[i]? = some loop →
        s.loops[i]? = some loop ∨ i = s.loops.length ∧ loop = ⟨taskId, max delay 0, .created⟩ := by
      intro i loop hloop
      rw [List.getElem?_append] at hloop
      split at hloop
      · exact Or.inl hloop
      · next hi =>
        rw [List.getElem?_singleton] at hloop
        split at hloop
        · exact Or.inr ⟨by omega, (Option.some.inj hloop).symm⟩
        · cases hloop
    refine ⟨fun i loop hloop hlive => ?_, fun id i hid => ?_, fun i loop hloop hphase => ?_⟩
    · dsimp only at hloop ⊢
      rcases hcases hloop with hprev | ⟨rfl, rfl⟩
      · have hne : loop.taskId ≠ taskId := fun heq =>
          hdead ((liveHandle_iff htidy).mpr ⟨i, loop, hprev, heq, hlive⟩)
        rw [OrderedDict.get?_set_of_ne _ _ hne]
        exact htidy.latest i loop hprev hlive
      · exact OrderedDict.get?_set_self _ _ _
    · dsimp only at hid ⊢
      rw [OrderedDict.get?_set] at hid
      split at hid
      · next heq =>
        obtain rfl := Option.some.inj hid
        exact ⟨⟨taskId, max delay 0, .created⟩, by simp, heq.symm⟩
      · obtain ⟨loop, hloop, hid⟩ := htidy.handled id i hid
        exact ⟨loop, hold hloop, hid⟩
    · dsimp only at hloop ⊢
      rcases hcases hloop with hloop | ⟨-, rfl⟩
      · exact htidy.registered i loop hloop hphase
      · rcases hphase with hphase | hphase <;> cases hphase

/-- **Every step** keeps the loops tidy. -/
theorem tidy_fire {s : State} (htidy : Tidy s) (step : Step) : Tidy (fire s step) := by
  rcases h : loopStep s step with _ | ⟨i, loop, phase, marked⟩
  · rcases (fire_of_loopStep_none h).2 with ⟨args, now, saved, rfl⟩ | ⟨taskId, delay, now, saved, rfl⟩ | heq
    · exact tidy_registerIntervalTask htidy args now
    · exact tidy_startIntervalTask htidy taskId delay now
    · rw [heq]
      exact htidy
  · have hspec := loopStep_spec h
    exact (tidy_proceed htidy hspec.loop_eq hspec.live hspec.same hspec.registered).congr hspec.fire_eq

/-! ## Live loops -/

/-- The loop of every task that was started is live. -/
def AllLive (s : State) : Prop := ∀ id, (s.handles.get? id).isSome → s.liveHandle id = true

theorem liveHandle_proceed {s : State} {i : ℕ} {loop : Loop} (hloop : s.loops[i]? = some loop)
    {phase : LoopPhase} {marked : State × Option Exc} (hsame : SameLoops s marked.1) (id : String) :
    (proceed i loop phase marked).liveHandle id =
      if s.handles.get? id = some i then Loop.live { loop with phase := marked.2.elim phase LoopPhase.ended }
      else s.liveHandle id := by
  have hi : i < s.loops.length := (List.getElem?_eq_some_iff.mp hloop).1
  unfold State.liveHandle
  have hhandles : (proceed i loop phase marked).handles = s.handles := hsame.handles
  have hloops : (proceed i loop phase marked).loops =
      s.loops.set i { loop with phase := marked.2.elim phase LoopPhase.ended } := by
    show marked.1.loops.set i _ = _
    rw [hsame.loops]
  rw [hhandles, hloops]
  rcases s.handles.get? id with _ | j
  · simp
  · dsimp only
    rw [List.getElem?_set]
    by_cases hj : i = j
    · simp [hj, hj ▸ hi]
    · rw [if_neg hj, if_neg fun h => hj (Option.some.inj h).symm]

/-- A loop that goes on is live. -/
theorem allLive_proceed {s : State} (hlive : AllLive s) {i : ℕ} {loop : Loop} (hloop : s.loops[i]? = some loop)
    {phase : LoopPhase} (hphase : phase = .sleeping ∨ phase = .running) {marked : State × Option Exc}
    (hsame : SameLoops s marked.1) (hnone : marked.2 = none) : AllLive (proceed i loop phase marked) := by
  intro id hid
  rw [liveHandle_proceed hloop hsame]
  split
  · rw [hnone]
    exact live_of_phase (Or.inr hphase)
  · refine hlive id ?_
    rw [← hsame.handles]
    exact hid

/-- A loop that raises leaves its task without one. -/
theorem not_live_of_raised {s : State} (htidy : Tidy s) {i : ℕ} {loop : Loop} (hloop : s.loops[i]? = some loop)
    (hlive : loop.live = true) {phase : LoopPhase} {marked : State × Option Exc} (hsame : SameLoops s marked.1)
    (hraised : marked.2 ≠ none) : ¬AllLive (proceed i loop phase marked) := by
  intro hall
  have hhandle := htidy.latest i loop hloop hlive
  have hafter := hall loop.taskId (by
    show (marked.1.handles.get? loop.taskId).isSome
    rw [hsame.handles, hhandle]
    rfl)
  rw [liveHandle_proceed hloop hsame, if_pos hhandle] at hafter
  rcases hmarked : marked.2 with _ | e
  · exact hraised hmarked
  · rw [hmarked] at hafter
    cases hafter

theorem AllLive.congr {s s' : State} (h : AllLive s) (hsame : SameLoops s s') : AllLive s' := by
  intro id hid
  rw [hsame.handles] at hid
  rw [hsame.liveHandle]
  exact h id hid

theorem allLive_startIntervalTask {s : State} (hlive : AllLive s) (taskId : String)
    (delay now : ℤ) : AllLive (startIntervalTask s taskId delay now) := by
  unfold startIntervalTask
  split
  · exact hlive
  · refine AllLive.congr ?_ (sameLoops_save _ now)
    intro id hid
    unfold State.liveHandle
    dsimp only at hid ⊢
    rw [OrderedDict.get?_set] at hid ⊢
    split at hid
    · next heq =>
      rw [if_pos heq]
      simp [Loop.live]
    · next hne =>
      rw [if_neg hne]
      have hold := hlive id hid
      unfold State.liveHandle at hold
      rcases hget : s.handles.get? id with _ | i
      · rw [hget] at hid
        cases hid
      · rw [hget] at hold
        dsimp only at hold ⊢
        rcases hloop : s.loops[i]? with _ | loop
        · rw [hloop] at hold
          cases hold
        · rw [List.getElem?_append_left (List.getElem?_eq_some_iff.mp hloop).1, hloop]
          rw [hloop] at hold
          exact hold

/-- **Undisturbed steps** keep the loops live. -/
theorem allLive_fire {s : State} (htidy : Tidy s) (hlive : AllLive s) {step : Step} (h : Undisturbed s step) :
    AllLive (fire s step) := by
  rcases hstep : loopStep s step with _ | ⟨i, loop, phase, marked⟩
  · rcases (fire_of_loopStep_none hstep).2 with ⟨args, now, saved, rfl⟩ | ⟨taskId, delay, now, saved, rfl⟩ | heq
    · exact hlive
    · exact allLive_startIntervalTask hlive taskId delay now
    · rw [heq]
      exact hlive
  · have hspec := loopStep_spec hstep
    exact (allLive_proceed hlive hspec.loop_eq hspec.phase_eq hspec.same ((hspec.raises htidy).mpr h)).congr
      hspec.fire_eq

/-- A step after which the loops are live was undisturbed. -/
theorem undisturbed_of_allLive {s : State} (htidy : Tidy s) {step : Step} (h : AllLive (fire s step)) :
    Undisturbed s step := by
  rcases hstep : loopStep s step with _ | ⟨i, loop, phase, marked⟩
  · exact (fire_of_loopStep_none hstep).1
  · have hspec := loopStep_spec hstep
    by_contra hdisturbed
    have hraised : marked.2 ≠ none := fun hnone => hdisturbed ((hspec.raises htidy).mp hnone)
    have hproceed : AllLive (proceed i loop phase marked) :=
      h.congr ⟨hspec.fire_eq.loops.symm, hspec.fire_eq.handles.symm, fun id => (hspec.fire_eq.registered id).symm⟩
    exact not_live_of_raised htidy hspec.loop_eq hspec.live hspec.same hraised hproceed

/-! ## The counts along a run -/

theorem CountsAgree.congr {s s' : State} (h : CountsAgree s) (hcounts : ∀ id, counts s' id = counts s id)
    (hstarts : s'.jobStarts = s.jobStarts) (hfailures : s'.failures = s.failures) : CountsAgree s' := by
  intro id
  rw [hcounts, hstarts, hfailures]
  exact h id

/-- A loop goes on without a change of the counts. -/
theorem countsAgree_sleeping {s : State} (h : CountsAgree s) (i : ℕ) (loop : Loop) (phase : LoopPhase)
    (delay now : ℤ) (saved : Option Exc) :
    CountsAgree (proceed i loop phase (markTaskSleeping s loop.taskId delay now saved)) :=
  have hrecord := markTaskSleeping_record s loop.taskId delay now saved
  h.congr (counts_markTaskSleeping s loop.taskId delay now saved) hrecord.1 hrecord.2

/-- A change of one task agrees with the runs, if its new counts do. -/
theorem countsAgree_mark {s : State} (s' : State) (h : CountsAgree s) {taskId : String} {entry : TaskEntry}
    (hentry : s.tasks.get? taskId = some entry) (htasks : s'.tasks = s.tasks)
    (hothers : ∀ id, id ≠ taskId → s'.jobStarts id = s.jobStarts id ∧ s'.failures id = s.failures id)
    (now : ℤ) (saved : Option Exc) {change : TaskEntry → TaskEntry}
    (hstarts : (change entry).attemptCount = s'.jobStarts taskId)
    (hfailures : (change entry).consecutiveFailures = s'.failures taskId) :
    CountsAgree (mark s' taskId now saved change).1 := by
  have hrecord := mark_record s' taskId now saved change
  intro id
  rw [counts_mark, hrecord.1, hrecord.2]
  by_cases hid : id = taskId
  · rw [if_pos hid, hid, htasks, hentry, Option.map_some, Option.getD_some, hstarts, hfailures]
  · rw [if_neg hid, (hothers id hid).1, (hothers id hid).2, ← h id, counts, counts, htasks]

/-- The job of a loop is started. -/
theorem countsAgree_wake {s : State} (h : CountsAgree s) {i : ℕ} {loop : Loop} {entry : TaskEntry}
    (hentry : s.tasks.get? loop.taskId = some entry) (now : ℤ) : CountsAgree (wake s i loop now none) := by
  let s' : State := { s with jobStarts := Function.update s.jobStarts loop.taskId (s.jobStarts loop.taskId + 1) }
  have hentry' : s'.tasks.get? loop.taskId = some entry := hentry
  have hmark : CountsAgree (markTaskRunning s' loop.taskId now none).1 := by
    refine countsAgree_mark s' h hentry rfl (fun id hid => ⟨Function.update_of_ne hid _ _, rfl⟩) now none ?_
      (h.entry hentry).2
    show entry.attemptCount + 1 = Function.update s.jobStarts loop.taskId _ loop.taskId
    rw [Function.update_self, (h.entry hentry).1]
  unfold markTaskRunning at hmark
  rw [mark_of_some hentry'] at hmark
  unfold wake markTaskRunning
  dsimp only
  rw [mark_of_some hentry, if_pos rfl]
  exact hmark.congr (fun _ => rfl) rfl rfl

theorem countsAgree_markOutcome {s : State} (h : CountsAgree s) {taskId : String} {entry : TaskEntry}
    (hentry : s.tasks.get? taskId = some entry) (outcome : JobOutcome) (now : ℤ) (saved : Option Exc) :
    CountsAgree (markOutcome s taskId outcome now saved).1 := by
  have hcounts := h.entry hentry
  let noted (n : ℕ) : State := { s with failures := Function.update s.failures taskId n }
  have hothers : ∀ n id, id ≠ taskId → (noted n).jobStarts id = s.jobStarts id ∧
      (noted n).failures id = s.failures id :=
    fun n id hid => ⟨rfl, Function.update_of_ne hid _ _⟩
  have hself : ∀ n, (noted n).failures taskId = n := fun n => Function.update_self taskId n s.failures
  cases outcome with
  | ok result => exact countsAgree_mark (noted 0) h hentry rfl (hothers 0) now saved hcounts.1 (hself 0).symm
  | error error =>
    refine countsAgree_mark (noted (s.failures taskId + 1)) h hentry rfl (hothers _) now saved hcounts.1 ?_
    rw [hself, ← hcounts.2]

theorem countsAgree_registerIntervalTask {s : State} (h : CountsAgree s) (args : Registration) (now : ℤ) :
    CountsAgree (registerIntervalTask s args now) := by
  intro id
  unfold registerIntervalTask
  rw [counts_save, counts]
  dsimp only
  rw [OrderedDict.get?_set]
  have hid := h id
  show _ = (s.jobStarts id, s.failures id)
  split
  · next heq =>
    rw [← hid, heq, counts]
    unfold registeredEntry
    rcases s.tasks.get? args.taskId with _ | entry <;> rfl
  · exact hid

theorem countsAgree_startIntervalTask {s : State} (h : CountsAgree s) (taskId : String) (delay now : ℤ) :
    CountsAgree (startIntervalTask s taskId delay now) := by
  unfold startIntervalTask
  split
  · exact h
  · exact h.congr (fun id => counts_save _ now id) rfl rfl

/-- **Undisturbed steps** keep the counts right. -/
theorem countsAgree_fire {s : State} (htidy : Tidy s) (h : CountsAgree s) {step : Step}
    (hundisturbed : Undisturbed s step) : CountsAgree (fire s step) := by
  rcases hstep : loopStep s step with _ | ⟨i, loop, phase, marked⟩
  · rcases (fire_of_loopStep_none hstep).2 with ⟨args, now, saved, rfl⟩ | ⟨taskId, delay, now, saved, rfl⟩ | heq
    · exact countsAgree_registerIntervalTask h args now
    · exact countsAgree_startIntervalTask h taskId delay now
    · rw [heq]
      exact h
  · have hspec := loopStep_spec hstep
    have hnone := (hspec.raises htidy).mpr hundisturbed
    obtain ⟨entry, hentry⟩ := Option.isSome_iff_exists.mp (hspec.registered hnone)
    cases step with
    | register args now saved => cases hstep
    | start taskId delay now saved => cases hstep
    | begins j now saved =>
      simp only [fire, loopStep] at hstep ⊢
      split at hstep
      · next loop' hloop =>
        split at hstep
        · next hphase =>
          rw [if_pos hphase]
          exact countsAgree_sleeping h j loop' _ _ now saved
        · cases hstep
      · cases hstep
    | wakes j now saved =>
      simp only [fire, loopStep] at hstep ⊢
      split at hstep
      · next loop' hloop =>
        split at hstep
        · next hphase =>
          rw [if_pos hphase]
          obtain ⟨rfl, rfl, rfl, rfl⟩ := by simpa using hstep
          obtain rfl := hundisturbed loop' hloop hphase
          exact countsAgree_wake h hentry now
        · cases hstep
      · cases hstep
    | jobEnds j outcome now savedOutcome savedNextRun =>
      simp only [fire, loopStep] at hstep ⊢
      split at hstep
      · next loop' hloop =>
        split at hstep
        · next hphase =>
          rw [if_pos hphase, endJob_eq]
          obtain ⟨rfl, rfl, rfl, rfl⟩ := by simpa using hstep
          have hnoted := countsAgree_markOutcome h hentry outcome now savedOutcome
          have hraises := markOutcome_raises s loop'.taskId outcome now savedOutcome
          have hsaved := (hundisturbed loop' hloop hphase).2.1
          have hquiet := hraises.mpr ⟨by rw [hentry]; rfl, hsaved⟩
          unfold lastMark
          dsimp only
          rw [hquiet]
          exact countsAgree_sleeping hnoted j loop' _ _ now savedNextRun
        · cases hstep
      · cases hstep

/-! ## Runs -/

theorem tidy_loaded (tasks : OrderedDict String TaskEntry) : Tidy (loaded tasks) :=
  ⟨nofun, nofun, nofun⟩

theorem countsAgree_loaded (tasks : OrderedDict String TaskEntry) : CountsAgree (loaded tasks) := by
  intro id
  unfold counts loaded
  dsimp only
  rcases tasks.get? id with _ | entry <;> rfl

/-- What is expected holds while the loops are live and the counts agree. -/
theorem kept_of_good {s : State} (htidy : Tidy s) (hlive : AllLive s) (h : CountsAgree s) : Kept s where
  alive id hid := (existsUnique_iff htidy).mpr (hlive id hid)
  attempts _ _ hentry := (h.entry hentry).1
  failures _ _ hentry := (h.entry hentry).2

theorem allLive_of_kept {s : State} (htidy : Tidy s) (h : Kept s) : AllLive s :=
  fun id hid => (existsUnique_iff htidy).mp (h.alive id hid)

/-- The arguments that the heartbeat of the node is registered with. -/
def heartbeatTask : Registration where
  taskId := "heartbeat"
  displayName := "Heartbeat"
  intervalSeconds := 5
  scheduleName := "heartbeat_5_seconds"

end InternalScheduler
end Runtime
end HexeAiNode
