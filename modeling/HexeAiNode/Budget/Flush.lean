import HexeAiNode.Budget.Turns
import HexeAiNode.Budget.SavedStates
import HexeAiNode.Library.Run

/-!
# Submitting usage summaries

`flush_pending_usage_summaries` reads the summaries that wait, submits them one after the other, and takes those
that were accepted out of the state that it then loads anew.  Every submission suspends the call, and the other
operations of the manager, other calls of this kind among them, run meanwhile.

A call is kept by what it has to remember while it is suspended (`Flush`), and `Flush.start` and `Flush.resume`
are its parts between two suspensions.  The system has a store, the suspended calls, and two records of its run:
the summaries that were queued and those that the client accepted.

`Sound` is the invariant: what waits was queued, what was queued waits or was accepted, and the summaries that a
suspended call counts as submitted were accepted.  The summaries are told apart by the time at which they were
queued, so what a call takes out of a later state is what it has submitted.
-/

namespace HexeAiNode
namespace Budget

open Py Execution
open StoreAction (exec_bind exec_bind_of_ok exec_bind_of_error exec_pure read update)

/-! ## The summaries of a store -/

/-- The summaries that wait: none where the file is rejected. -/
def pendingOf (file : Option BudgetState) : List UsageSummary :=
  match storeLoad file with
  | some s => s.pendingUsageSummaries
  | none => []

/-- The readings of the clock for the summaries of one operation. -/
structure Readings where
  reading : ℕ → String
  nonEmpty : ∀ i, isNonEmptyString (.str (reading i)) = true

/-- Every summary gets the reading of its turn. -/
def Readings.stamp (readings : Readings) (summaries : List UsageSummary) : List UsageSummary :=
  summaries.mapIdx fun i d => { d with queuedAt := readings.reading i }

/-- The summaries that an operation appended get readings of their own. -/
def Readings.restamp (readings : Readings) (before after : Option BudgetState) : Option BudgetState :=
  after.map fun s =>
    { s with
      pendingUsageSummaries := s.pendingUsageSummaries.take (pendingOf before).length ++
        readings.stamp (s.pendingUsageSummaries.drop (pendingOf before).length) }

/-- `finalize_execution`, which reads the clock for every summary it queues. -/
def finalizeWithReadings (env : BudgetEnv) (readings : Readings) (taskId : String)
    (metrics : Option TaskExecutionMetrics) (status : String) : BudgetAction FinalizeResult := do
  let before ← read
  let result ← finalizeExecution env taskId metrics status
  update (readings.restamp before)
  pure result

/-- An operation of the manager, with the readings for the summaries it queues. -/
def BudgetOp.stampedAction (env : BudgetEnv) (readings : Readings) : BudgetOp → BudgetAction Unit
  | .finalize taskId metrics status => discard <| finalizeWithReadings env readings taskId metrics status
  | op => op.action env

/-! ## A call of `flush_pending_usage_summaries` -/

/-- A suspended call: the summaries it has read, how many of them it goes through, and how many were
accepted. -/
structure Flush where
  pending : List UsageSummary
  limit : ℕ
  submitted : ℕ

/-- What a call returns. -/
structure FlushReport where
  status : String
  submitted : ℕ
  remaining : ℕ
  error : Option String
  deriving DecidableEq, Repr

/-- What becomes of a submission. -/
inductive SubmitReply where
  | result (accepted : Bool) (error : Option String)
  /-- The submission raised, or the call was cancelled while it waited. -/
  | raised (e : Exc)

namespace Flush

/-- The summaries that the call goes through. -/
def batch (f : Flush) : List UsageSummary := f.pending.take f.limit

/-- The call up to its first submission; `available` says that there is a client and that the trust state names
the core, the node and its token. -/
def start (env : BudgetEnv) (limit : ℤ) (available : Bool) : BudgetAction (Flush ⊕ FlushReport) := do
  let state ← loadState env
  let pending := state.pendingUsageSummaries
  if pending.isEmpty then pure (.inr ⟨"idle", 0, 0, none⟩)
  else if available then pure (.inl { pending := pending, limit := (max limit 1).toNat, submitted := 0 })
  else pure (.inr ⟨"unavailable", 0, pending.length, none⟩)

/-- The call after its last submission. -/
def finish (env : BudgetEnv) (f : Flush) (error : Option String) : BudgetAction FlushReport := do
  let status := if error.isNone then "submitted" else "partial_failure"
  if f.submitted = 0 then pure ⟨status, 0, f.pending.length, error⟩
  else do
    storeDelivered env (f.pending.take f.submitted)
    let file ← read
    pure ⟨status, f.submitted, (pendingOf file).length, error⟩

/-- The call when a submission has come back. -/
def resume (env : BudgetEnv) (f : Flush) : SubmitReply → BudgetAction (Flush ⊕ FlushReport)
  | .raised e => throw e
  | .result false error => do
    let report ← finish env f (some ((error.filter fun e => e != "").getD "usage_summary_rejected"))
    pure (.inr report)
  | .result true _ =>
    if f.submitted + 1 < f.batch.length then pure (.inl { f with submitted := f.submitted + 1 })
    else do
      let report ← finish env { f with submitted := f.submitted + 1 } none
      pure (.inr report)

end Flush

/-! ## The system -/

/-- The store, the suspended calls by their number, and the records of the run. -/
structure FlushSystem where
  file : Option BudgetState
  flushes : ℕ → Option Flush := fun _ => none
  queued : List UsageSummary
  accepted : List UsageSummary := []

/-- A step of the system. -/
inductive FlushStep where
  | manager (env : BudgetEnv) (readings : Readings) (op : BudgetOp)
  | start (i : ℕ) (env : BudgetEnv) (limit : ℤ) (available : Bool)
  | reply (i : ℕ) (env : BudgetEnv) (reply : SubmitReply)

/-- The call that is left when a part of it has ended. -/
def suspended : Except Exc (Flush ⊕ FlushReport) → Option Flush
  | .ok (.inl f) => some f
  | _ => none

/-- The summary that a reply accepts. -/
def SubmitReply.accepts (f : Flush) : SubmitReply → List UsageSummary
  | .result true _ => f.batch[f.submitted]?.toList
  | _ => []

namespace FlushSystem

/-- The system that starts with a file. -/
def initial (file : Option BudgetState) : FlushSystem where
  file := file
  queued := pendingOf file

/-- One step.  A number that is in use starts no other call, and a reply to no call is lost. -/
def fire (sys : FlushSystem) : FlushStep → FlushSystem
  | .manager env readings op =>
    let after := (op.stampedAction env readings).store sys.file
    { sys with
      file := after
      queued := sys.queued ++ (pendingOf after).drop (pendingOf sys.file).length }
  | .start i env limit available =>
    match sys.flushes i with
    | some _ => sys
    | none =>
      let ended := (Flush.start env limit available).exec sys.file
      { sys with file := ended.2, flushes := Function.update sys.flushes i (suspended ended.1) }
  | .reply i env reply =>
    match sys.flushes i with
    | none => sys
    | some f =>
      let ended := (f.resume env reply).exec sys.file
      { sys with
        file := ended.2
        flushes := Function.update sys.flushes i (suspended ended.1)
        accepted := sys.accepted ++ reply.accepts f }

/-- The state after a run. -/
abbrev after (sys : FlushSystem) (steps : List FlushStep) : FlushSystem := Run.after fire sys steps

end FlushSystem

/-! ## What the operations do to the summaries -/

variable {env : BudgetEnv} {file : Option BudgetState} {s s' : BudgetState}

theorem storeLoad_of_valid (h : s.Valid) : storeLoad (some s) = some s := by
  unfold storeLoad
  rw [Option.filter_some, if_pos]
  rw [BudgetState.valid_iff.mp h]
  rfl

@[simp] theorem pendingOf_of_valid (h : s.Valid) : pendingOf (some s) = s.pendingUsageSummaries := by
  unfold pendingOf
  rw [storeLoad_of_valid h]

/-- The state that an operation works on: the stored one, or a new one where the file is rejected. -/
def viewOf (env : BudgetEnv) (file : Option BudgetState) : BudgetState :=
  (storeLoad file).getD (createBudgetState env.nowIso)

theorem valid_viewOf (env : BudgetEnv) (file : Option BudgetState) : (viewOf env file).Valid := by
  unfold viewOf
  rcases hload : storeLoad file with _ | s
  · exact valid_createBudgetState env.nowIso_nonEmpty
  · have hnone := (Option.filter_eq_some_iff.mp hload).2
    exact BudgetState.valid_iff.mpr (Option.isNone_iff_eq_none.mp hnone)

theorem pending_viewOf (env : BudgetEnv) (file : Option BudgetState) :
    (viewOf env file).pendingUsageSummaries = pendingOf file := by
  unfold viewOf pendingOf
  rcases storeLoad file with _ | s <;> rfl

/-- **Loading** leaves the state that is worked on in the store. -/
theorem exec_loadState (env : BudgetEnv) (file : Option BudgetState) :
    (loadState env).exec file = (.ok (viewOf env file), some (viewOf env file)) := by
  unfold viewOf
  rcases hload : storeLoad file with _ | s
  · have hvalid := valid_createBudgetState env.nowIso_nonEmpty
    have hsave : (storeSave (createBudgetState env.nowIso)).exec file =
        (.ok (), some (createBudgetState env.nowIso)) := by
      unfold storeSave
      rw [BudgetState.valid_iff.mp hvalid]
      rfl
    unfold loadState
    rw [exec_bind_of_ok (StoreAction.exec_read file), hload]
    dsimp only
    rw [exec_bind_of_ok hsave]
    rfl
  · obtain ⟨rfl, hnone⟩ := Option.filter_eq_some_iff.mp hload
    exact loadState_of_valid env (BudgetState.valid_iff.mpr (Option.isNone_iff_eq_none.mp hnone))

/-- What starts with a load runs as on the state that is worked on. -/
theorem exec_loadState_bind {α : Type} (k : BudgetState → BudgetAction α) (env : BudgetEnv)
    (file : Option BudgetState) : (loadState env >>= k).exec file = (loadState env >>= k).exec (some (viewOf env file)) := by
  rw [exec_bind_of_ok (exec_loadState env file), exec_bind_of_ok (loadState_of_valid env (valid_viewOf env file))]

/-- An operation runs as on the state that is worked on, or does nothing. -/
theorem exec_action (env : BudgetEnv) (op : BudgetOp) (file : Option BudgetState) :
    (op.action env).store file = (op.action env).store (some (viewOf env file)) ∨
      (op.action env).store file = file := by
  have hdiscard : ∀ {α : Type} (m : BudgetAction α), m.exec file = m.exec (some (viewOf env file)) →
      StoreAction.store (discard m) file = StoreAction.store (discard m) (some (viewOf env file)) := by
    intro α m h
    show (StoreAction.exec (Functor.discard m) file).2 = (StoreAction.exec (Functor.discard m) _).2
    rw [StoreAction.exec_discard, StoreAction.exec_discard, h]
  cases op with
  | reserve taskId request providerId modelId bundle => exact Or.inl (hdiscard _ (exec_loadState_bind _ env file))
  | finalize taskId metrics status => exact Or.inl (hdiscard _ (exec_loadState_bind _ env file))
  | release taskId reason => exact Or.inl (hdiscard _ (exec_loadState_bind _ env file))
  | cachePolicy bundle =>
    by_cases hdict : (Dict.get bundle.asDict "budget_policy").isDict = true
    · refine Or.inl (hdiscard _ ?_)
      unfold cachePolicyFromGovernance
      dsimp only
      rw [if_pos hdict]
      exact exec_loadState_bind _ env file
    · right
      show (StoreAction.exec (Functor.discard (cachePolicyFromGovernance env bundle)) file).2 = file
      rw [StoreAction.exec_discard]
      unfold cachePolicyFromGovernance
      dsimp only
      rw [if_neg hdict]
      rfl
  | storeFetchedPolicy payload =>
    by_cases hdict : (Dict.get payload.asDict "budget_policy").isDict = true
    · left
      show ((storeFetchedPolicy env payload).exec file).2 = ((storeFetchedPolicy env payload).exec _).2
      unfold storeFetchedPolicy
      dsimp only
      rw [if_pos hdict, exec_loadState_bind _ env file]
    · right
      show ((storeFetchedPolicy env payload).exec file).2 = file
      unfold storeFetchedPolicy
      dsimp only
      rw [if_neg hdict]
      rfl

/-- A reservation leaves the summaries alone. -/
theorem ReserveEffect.summaries {taskId providerId modelId : String} {request : TaskExecutionRequest}
    {bundle : Value} {result : Except Exc BudgetReservationResult}
    (h : ReserveEffect env taskId request providerId modelId bundle s result s') :
    s'.pendingUsageSummaries = s.pendingUsageSummaries := by
  have hwork := (sameLedgers_workingState bundle s).summaries
  cases h with
  | untouched hsame _ => exact hsame.summaries
  | provider cents reserved hcents hpolicy hreserved hsame =>
    obtain ⟨providers, rfl⟩ := exists_providers_of_reserveProviderBudget hreserved
    exact hsame.summaries.trans hwork
  | grants cents policy grants afterGrants reserved provider hcents hpolicy hgrants hloop hreserved _ hsame =>
    obtain ⟨providers, rfl⟩ := exists_providers_of_reserveProviderBudget hreserved
    have hturns := (reserveGrants_eq_reserved_iff.mp hloop).2.others.2
    exact hsame.summaries.trans (hturns.trans hwork)

/-- **An operation appends summaries**, if it does anything to them. -/
theorem OpEffect.summaries {op : BudgetOp} (h : OpEffect env op s s') :
    ∃ new, s'.pendingUsageSummaries = s.pendingUsageSummaries ++ new := by
  cases h with
  | reserve result heffect => exact ⟨[], by rw [heffect.summaries, List.append_nil]⟩
  | finalize result heffect =>
    cases heffect with
    | raised e => exact ⟨[], (List.append_nil _).symm⟩
    | finalized result cents providers hcents hproviders hsame => exact ⟨_, hsame.summaries⟩
  | release hsame => exact ⟨[], by rw [hsame.summaries, List.append_nil]; rfl⟩
  | cachePolicy hsame => exact ⟨[], by rw [hsame.summaries, List.append_nil]⟩
  | storeFetchedPolicy hsame => exact ⟨[], by rw [hsame.summaries, List.append_nil]⟩

theorem pendingOf_action (env : BudgetEnv) (op : BudgetOp) (file : Option BudgetState) :
    ∃ new, pendingOf ((op.action env).store file) = pendingOf file ++ new := by
  rcases exec_action env op file with h | h
  · obtain ⟨s', hstore, hvalid, heffect⟩ := op.effect env (valid_viewOf env file)
    obtain ⟨new, hnew⟩ := heffect.summaries
    refine ⟨new, ?_⟩
    rw [h, hstore, pendingOf_of_valid hvalid, hnew, pending_viewOf]
  · exact ⟨[], by rw [h, List.append_nil]⟩

/-- A stamped summary passes its checks as before. -/
theorem error_stamp (readings : Readings) {summaries : List UsageSummary}
    (h : ∀ d ∈ summaries, d.error = none) : ∀ d ∈ readings.stamp summaries, d.error = none := by
  intro d hd
  obtain ⟨i, hi, rfl⟩ := List.mem_mapIdx.mp hd
  have hchecks := firstError_eq_none_iff.mp (h _ (List.getElem_mem hi))
  refine firstError_eq_none_iff.mpr ?_
  simp only [List.forall_mem_cons] at hchecks ⊢
  exact ⟨hchecks.1, hchecks.2.1, hchecks.2.2.1, hchecks.2.2.2.1, readings.nonEmpty i, fun _ h => (nomatch h)⟩

theorem pendingOf_finalizeWithReadings (env : BudgetEnv) (readings : Readings) (taskId : String)
    (metrics : Option TaskExecutionMetrics) (status : String) (file : Option BudgetState) :
    ∃ new, pendingOf ((finalizeWithReadings env readings taskId metrics status).store file) =
      pendingOf file ++ new := by
  obtain ⟨result, s', hexec, hvalid, heffect, -⟩ :=
    finalizeExecution_effect env taskId metrics status (valid_viewOf env file)
  have hexec : (finalizeExecution env taskId metrics status).exec file = (result, some s') :=
    (exec_loadState_bind _ env file).trans hexec
  obtain ⟨new, hnew⟩ := OpEffect.summaries (OpEffect.finalize result heffect)
  rw [pending_viewOf] at hnew
  unfold StoreAction.store finalizeWithReadings
  rw [exec_bind_of_ok (StoreAction.exec_read file)]
  cases result with
  | error e =>
    refine ⟨new, ?_⟩
    rw [exec_bind_of_error hexec, ← hnew]
    exact pendingOf_of_valid hvalid
  | ok r =>
    refine ⟨readings.stamp new, ?_⟩
    have hsummaries : ∀ d ∈ new, d.error = none := fun d hd =>
      hvalid.summaries d (hnew ▸ List.mem_append_right _ hd)
    have hstamped : BudgetState.Valid
        { s' with pendingUsageSummaries := pendingOf file ++ readings.stamp new } := by
      refine ⟨hvalid.policy, hvalid.grants, hvalid.providers, hvalid.denials, fun d hd => ?_, hvalid.updatedAt⟩
      rcases List.mem_append.mp hd with hd | hd
      · exact hvalid.summaries d (hnew ▸ List.mem_append_left _ hd)
      · exact error_stamp readings hsummaries d hd
    rw [exec_bind_of_ok hexec]
    show pendingOf (readings.restamp file (some s')) = _
    unfold Readings.restamp
    rw [Option.map_some, hnew, List.take_left, List.drop_left]
    exact pendingOf_of_valid hstamped

/-- **A stamped operation appends summaries.** -/
theorem pendingOf_stampedAction (env : BudgetEnv) (readings : Readings) (op : BudgetOp)
    (file : Option BudgetState) :
    ∃ new, pendingOf ((op.stampedAction env readings).store file) = pendingOf file ++ new := by
  cases op with
  | finalize taskId metrics status =>
    obtain ⟨new, hnew⟩ := pendingOf_finalizeWithReadings env readings taskId metrics status file
    refine ⟨new, ?_⟩
    rw [← hnew]
    show pendingOf (StoreAction.exec (Functor.discard _) file).2 = _
    rw [StoreAction.exec_discard]
    rfl
  | reserve => exact pendingOf_action env _ file
  | release => exact pendingOf_action env _ file
  | cachePolicy => exact pendingOf_action env _ file
  | storeFetchedPolicy => exact pendingOf_action env _ file

/-! ## What a call does to the summaries -/

theorem start_exec (env : BudgetEnv) (limit : ℤ) (available : Bool) (file : Option BudgetState) :
    pendingOf ((Flush.start env limit available).exec file).2 = pendingOf file ∧
      ∀ f, suspended ((Flush.start env limit available).exec file).1 = some f →
        f.pending = pendingOf file ∧ f.submitted = 0 ∧ 0 < f.batch.length := by
  have hpending := pending_viewOf env file
  have hfile : pendingOf (some (viewOf env file)) = pendingOf file := by
    rw [pendingOf_of_valid (valid_viewOf env file), hpending]
  unfold Flush.start
  rw [exec_bind_of_ok (exec_loadState env file)]
  dsimp only
  by_cases hempty : (viewOf env file).pendingUsageSummaries.isEmpty = true
  · rw [if_pos hempty]
    exact ⟨hfile, fun f hf => nomatch hf⟩
  · rw [if_neg hempty]
    cases available with
    | false => exact ⟨hfile, fun f hf => nomatch hf⟩
    | true =>
      refine ⟨hfile, fun f hf => ?_⟩
      obtain rfl := Option.some.inj hf
      refine ⟨hpending, rfl, ?_⟩
      have hne : (viewOf env file).pendingUsageSummaries ≠ [] := by simpa using hempty
      have hlength := List.length_pos_iff.mpr hne
      unfold Flush.batch
      rw [List.length_take]
      dsimp only
      omega

/-- Taking delivered summaries out of the store takes nothing else out. -/
theorem pendingOf_storeDelivered (env : BudgetEnv) (delivered : List UsageSummary) (file : Option BudgetState) :
    pendingOf ((storeDelivered env delivered).exec file).2 ⊆ pendingOf file ∧
      ∀ x ∈ pendingOf file, x ∈ pendingOf ((storeDelivered env delivered).exec file).2 ∨
        ∃ y ∈ delivered, y.queuedAt = x.queuedAt := by
  unfold storeDelivered
  split
  · exact ⟨List.Subset.refl _, fun x hx => Or.inl hx⟩
  · rw [exec_bind_of_ok (exec_loadState env file)]
    dsimp only
    have hpending := pending_viewOf env file
    rcases exec_saveState env _ (some (viewOf env file)) with ⟨hsave, hvalid⟩ | ⟨-, e, hsave⟩
    · rw [hsave, pendingOf_of_valid hvalid]
      dsimp only
      rw [hpending]
      refine ⟨List.filter_subset_self _, fun x hx => ?_⟩
      by_cases hkey : (delivered.map fun item => (item.grantId, item.queuedAt)).contains (x.grantId, x.queuedAt) = true
      · right
        rw [List.contains_iff_mem] at hkey
        obtain ⟨y, hy, heq⟩ := List.mem_map.mp hkey
        exact ⟨y, hy, (Prod.mk.inj heq).2⟩
      · exact Or.inl (List.mem_filter.mpr ⟨hx, by simpa using hkey⟩)
    · rw [hsave]
      show pendingOf (some (viewOf env file)) ⊆ _ ∧ ∀ x ∈ _, x ∈ pendingOf (some (viewOf env file)) ∨ _
      rw [pendingOf_of_valid (valid_viewOf env file), hpending]
      exact ⟨List.Subset.refl _, fun x hx => Or.inl hx⟩

theorem exec_finish_store (env : BudgetEnv) (f : Flush) (error : Option String) (file : Option BudgetState) :
    ((f.finish env error).exec file).2 =
      if f.submitted = 0 then file else ((storeDelivered env (f.pending.take f.submitted)).exec file).2 := by
  unfold Flush.finish
  dsimp only
  split
  · rfl
  · rw [exec_bind]
    rcases (storeDelivered env (f.pending.take f.submitted)).exec file with ⟨e | u, file'⟩ <;> rfl

/-- A call that ends takes what it has submitted out of the store. -/
theorem pendingOf_finish (env : BudgetEnv) (f : Flush) (error : Option String) (file : Option BudgetState) :
    pendingOf ((f.finish env error).exec file).2 ⊆ pendingOf file ∧
      ∀ x ∈ pendingOf file, x ∈ pendingOf ((f.finish env error).exec file).2 ∨
        ∃ y ∈ f.pending.take f.submitted, y.queuedAt = x.queuedAt := by
  rw [exec_finish_store]
  split
  · exact ⟨List.Subset.refl _, fun x hx => Or.inl hx⟩
  · exact pendingOf_storeDelivered env _ file

/-- What has been submitted when a reply has come: what was before, and the summary that it accepts. -/
def Flush.submittedAfter (f : Flush) (reply : SubmitReply) : List UsageSummary :=
  f.pending.take f.submitted ++ reply.accepts f

theorem Flush.take_succ_submitted {f : Flush} (hf : f.submitted < f.batch.length) (error : Option String) :
    f.pending.take (f.submitted + 1) = f.submittedAfter (.result true error) := by
  have hlimit : f.submitted < f.limit := by
    have hlength : f.batch.length ≤ f.limit := List.length_take_le _ _
    omega
  rw [List.take_add_one]
  show _ = f.pending.take f.submitted ++ (f.pending.take f.limit)[f.submitted]?.toList
  rw [List.getElem?_take_of_lt hlimit]

/-- **A reply** takes out of the store only what has been submitted, and the call that stays suspended is at its
next submission. -/
theorem resume_exec (env : BudgetEnv) {f : Flush} (hf : f.submitted < f.batch.length) (reply : SubmitReply)
    (file : Option BudgetState) :
    (pendingOf ((f.resume env reply).exec file).2 ⊆ pendingOf file ∧
      ∀ x ∈ pendingOf file, x ∈ pendingOf ((f.resume env reply).exec file).2 ∨
        ∃ y ∈ f.submittedAfter reply, y.queuedAt = x.queuedAt) ∧
      ∀ f', suspended ((f.resume env reply).exec file).1 = some f' →
        f'.pending = f.pending ∧ f'.submitted < f'.batch.length ∧
          f'.pending.take f'.submitted = f.submittedAfter reply := by
  have hpure : ∀ (g : Flush) error, ((do let report ← g.finish env error; pure (.inr report) :
      BudgetAction (Flush ⊕ FlushReport)).exec file).2 = ((g.finish env error).exec file).2 ∧
      suspended ((do let report ← g.finish env error; pure (.inr report) :
        BudgetAction (Flush ⊕ FlushReport)).exec file).1 = none := by
    intro g error
    rw [exec_bind]
    rcases (g.finish env error).exec file with ⟨e | r, file'⟩ <;> exact ⟨rfl, rfl⟩
  cases reply with
  | raised e =>
    exact ⟨⟨List.Subset.refl _, fun x hx => Or.inl hx⟩, fun f' hf' => nomatch hf'⟩
  | result accepted error =>
    cases accepted with
    | false =>
      obtain ⟨hfile, hended⟩ := hpure f (some ((error.filter fun e => e != "").getD "usage_summary_rejected"))
      have hafter : f.submittedAfter (.result false error) = f.pending.take f.submitted := List.append_nil _
      unfold Flush.resume
      rw [hfile, hended, hafter]
      exact ⟨pendingOf_finish env f _ file, fun f' hf' => nomatch hf'⟩
    | true =>
      by_cases hmore : f.submitted + 1 < f.batch.length
      · have hresume : f.resume env (.result true error) = pure (.inl { f with submitted := f.submitted + 1 }) :=
          if_pos hmore
        rw [hresume]
        refine ⟨⟨List.Subset.refl _, fun x hx => Or.inl hx⟩, fun f' hf' => ?_⟩
        obtain rfl := Option.some.inj hf'
        exact ⟨rfl, hmore, Flush.take_succ_submitted hf error⟩
      · have hresume : f.resume env (.result true error) = (do
            let report ← Flush.finish env { f with submitted := f.submitted + 1 } none
            pure (.inr report)) := if_neg hmore
        rw [hresume]
        obtain ⟨hfile, hended⟩ := hpure { f with submitted := f.submitted + 1 } none
        rw [hfile, hended, ← Flush.take_succ_submitted hf error]
        exact ⟨pendingOf_finish env { f with submitted := f.submitted + 1 } none file, fun f' hf' => nomatch hf'⟩

/-! ## The run -/

namespace FlushSystem

/-- The summaries that were queued are told apart by their time. -/
def Distinct (sys : FlushSystem) : Prop := (sys.queued.map UsageSummary.queuedAt).Nodup

/-- What waits was queued, what was queued waits or was accepted, and what a suspended call counts as submitted
was accepted. -/
structure Sound (sys : FlushSystem) : Prop where
  queued : pendingOf sys.file ⊆ sys.queued
  settled : ∀ x ∈ sys.queued, x ∈ pendingOf sys.file ∨ x ∈ sys.accepted
  calls : ∀ i f, sys.flushes i = some f → f.pending ⊆ sys.queued ∧ f.submitted < f.batch.length ∧
    f.pending.take f.submitted ⊆ sys.accepted

variable {sys : FlushSystem}

theorem sound_initial (file : Option BudgetState) : (initial file).Sound where
  queued := List.Subset.refl _
  settled := fun _ hx => Or.inl hx
  calls := fun _ _ hf => nomatch hf

theorem eq_of_queuedAt (h : sys.Distinct) {x y : UsageSummary} (hx : x ∈ sys.queued) (hy : y ∈ sys.queued)
    (heq : x.queuedAt = y.queuedAt) : x = y := List.inj_on_of_nodup_map h hx hy heq

/-- The record of queued summaries only grows. -/
theorem queued_fire (sys : FlushSystem) (step : FlushStep) : sys.queued <+: (sys.fire step).queued := by
  cases step with
  | manager env readings op => exact List.prefix_append _ _
  | start i env limit available =>
    show sys.queued <+: (match sys.flushes i with | some _ => sys | none => _).queued
    split <;> exact List.prefix_refl _
  | reply i env reply =>
    show sys.queued <+: (match sys.flushes i with | none => sys | some f => _).queued
    split <;> exact List.prefix_refl _

theorem Distinct.of_fire {step : FlushStep} (h : (sys.fire step).Distinct) : sys.Distinct :=
  ((queued_fire sys step).map UsageSummary.queuedAt).sublist.nodup h

/-- What a step may do: queue summaries, start a call, or let a reply come back. -/
inductive Moves (sys : FlushSystem) : FlushStep → FlushSystem → Prop
  | queues {step sys'} (new : List UsageSummary)
      (hfile : pendingOf sys'.file = pendingOf sys.file ++ new) (hqueued : sys'.queued = sys.queued ++ new)
      (haccepted : sys'.accepted = sys.accepted)
      (hcalls : ∀ i f, sys'.flushes i = some f → sys.flushes i = some f ∨
        f.pending ⊆ sys.queued ∧ f.submitted < f.batch.length ∧ f.pending.take f.submitted ⊆ sys.accepted) :
      Moves sys step sys'
  | replies {step sys'} (f : Flush) (i : ℕ) (reply : SubmitReply) (hf : sys.flushes i = some f)
      (hsubset : pendingOf sys'.file ⊆ pendingOf sys.file)
      (hremoved : ∀ x ∈ pendingOf sys.file, x ∈ pendingOf sys'.file ∨
        ∃ y ∈ f.submittedAfter reply, y.queuedAt = x.queuedAt)
      (hqueued : sys'.queued = sys.queued) (haccepted : sys'.accepted = sys.accepted ++ reply.accepts f)
      (hcalls : ∀ j f', sys'.flushes j = some f' → sys.flushes j = some f' ∨
        f'.pending = f.pending ∧ f'.submitted < f'.batch.length ∧
          f'.pending.take f'.submitted = f.submittedAfter reply) :
      Moves sys step sys'

/-- **Every step is one of these moves.** -/
theorem moves_fire (h : sys.Sound) (step : FlushStep) : Moves sys step (sys.fire step) := by
  have hidle : Moves sys step sys :=
    .queues [] (List.append_nil _).symm (List.append_nil _).symm rfl fun i f hf => Or.inl hf
  cases step with
  | manager env readings op =>
    obtain ⟨new, hnew⟩ := pendingOf_stampedAction env readings op sys.file
    refine .queues new hnew ?_ rfl fun i f hf => Or.inl hf
    show sys.queued ++ (pendingOf ((op.stampedAction env readings).store sys.file)).drop _ = _
    rw [hnew, List.drop_left]
  | start i env limit available =>
    obtain ⟨hfile, hcall⟩ := start_exec env limit available sys.file
    rcases hcase : sys.flushes i with _ | f
    · simp only [fire, hcase]
      refine .queues [] (hfile.trans (List.append_nil _).symm) (List.append_nil _).symm rfl fun j f hf => ?_
      dsimp only at hf
      by_cases hj : j = i
      · subst hj
        rw [Function.update_self] at hf
        obtain ⟨hpending, hsubmitted, hbatch⟩ := hcall f hf
        refine Or.inr ⟨hpending ▸ h.queued, hsubmitted ▸ hbatch, ?_⟩
        rw [hsubmitted, List.take_zero]
        exact List.nil_subset _
      · rw [Function.update_of_ne hj] at hf
        exact Or.inl hf
    · simp only [fire, hcase]
      exact hidle
  | reply i env reply =>
    rcases hf : sys.flushes i with _ | f
    · simp only [fire, hf]
      exact hidle
    · simp only [fire, hf]
      obtain ⟨⟨hsubset, hremoved⟩, hcall⟩ := resume_exec env (h.calls i f hf).2.1 reply sys.file
      refine .replies f i reply hf hsubset hremoved rfl rfl fun j f' hf' => ?_
      dsimp only at hf'
      by_cases hj : j = i
      · subst hj
        rw [Function.update_self] at hf'
        exact Or.inr (hcall f' hf')
      · rw [Function.update_of_ne hj] at hf'
        exact Or.inl hf'

/-- What a suspended call has submitted when a reply has come was queued. -/
theorem Sound.submittedAfter_subset (h : sys.Sound) {i : ℕ} {f : Flush} (hf : sys.flushes i = some f)
    (reply : SubmitReply) : f.submittedAfter reply ⊆ sys.queued := by
  intro x hx
  rcases List.mem_append.mp hx with hx | hx
  · exact (h.calls i f hf).1 (List.mem_of_mem_take hx)
  · refine (h.calls i f hf).1 ?_
    cases reply with
    | raised e => cases hx
    | result accepted error =>
      cases accepted with
      | false => cases hx
      | true => exact List.mem_of_mem_take (List.mem_of_getElem? (Option.mem_toList.mp hx))

/-- **One step keeps the invariant, and what is gone stays gone.** -/
theorem Sound.fire (h : sys.Sound) {step : FlushStep} (hdistinct : (sys.fire step).Distinct) :
    (sys.fire step).Sound ∧
      ∀ x ∈ sys.queued, x ∉ pendingOf sys.file → x ∉ pendingOf (sys.fire step).file := by
  have hmoves := moves_fire h step
  generalize sys.fire step = sys' at hmoves hdistinct
  cases hmoves with
  | queues new hfile hqueued haccepted hcalls =>
    refine ⟨⟨?_, fun x hx => ?_, fun i f hf => ?_⟩, fun x hx hgone hback => ?_⟩
    · rw [hfile, hqueued]
      exact List.append_subset.mpr
        ⟨fun x hx => List.mem_append_left _ (h.queued hx), List.subset_append_right _ _⟩
    · rw [hqueued, List.mem_append] at hx
      rw [hfile, haccepted, List.mem_append]
      rcases hx with hx | hx
      · exact (h.settled x hx).imp_left Or.inl
      · exact Or.inl (Or.inr hx)
    · rw [hqueued, haccepted]
      obtain ⟨hsubset, hlt, hsubmitted⟩ := (hcalls i f hf).elim (h.calls i f) id
      exact ⟨fun x hx => List.mem_append_left _ (hsubset hx), hlt, hsubmitted⟩
    · -- a summary that comes back would have the time of a new one
      rw [hfile, List.mem_append] at hback
      rcases hback with hback | hback
      · exact hgone hback
      · unfold Distinct at hdistinct
        rw [hqueued, List.map_append, List.nodup_append'] at hdistinct
        exact hdistinct.2.2 (List.mem_map_of_mem hx) (List.mem_map_of_mem hback)
  | replies f i reply hf hsubset hremoved hqueued haccepted hcalls =>
    have hsubmitted := h.submittedAfter_subset hf reply
    have hacc : f.submittedAfter reply ⊆ sys'.accepted := by
      rw [haccepted]
      exact List.append_subset.mpr
        ⟨fun x hx => List.mem_append_left _ ((h.calls i f hf).2.2 hx), List.subset_append_right _ _⟩
    refine ⟨⟨?_, fun x hx => ?_, fun j f' hf' => ?_⟩, fun x hx hgone hback => hgone (hsubset hback)⟩
    · rw [hqueued]
      exact fun x hx => h.queued (hsubset hx)
    · rw [hqueued] at hx
      rcases h.settled x hx with hpending | haccepted'
      · rcases hremoved x hpending with hstays | ⟨y, hy, heq⟩
        · exact Or.inl hstays
        · have hd : sys.Distinct := by
            unfold Distinct at hdistinct ⊢
            rwa [hqueued] at hdistinct
          obtain rfl := eq_of_queuedAt hd (hsubmitted hy) hx heq
          exact Or.inr (hacc hy)
      · exact Or.inr (haccepted ▸ List.mem_append_left _ haccepted')
    · rw [hqueued]
      rcases hcalls j f' hf' with hf' | ⟨hpending, hlt, htake⟩
      · obtain ⟨hsub, hlt, hacc'⟩ := h.calls j f' hf'
        exact ⟨hsub, hlt, fun x hx => haccepted ▸ List.mem_append_left _ (hacc' hx)⟩
      · exact ⟨hpending ▸ (h.calls i f hf).1, hlt, htake ▸ hacc⟩

theorem queued_after (sys : FlushSystem) (steps : List FlushStep) : sys.queued <+: (sys.after steps).queued := by
  induction steps generalizing sys with
  | nil => exact List.prefix_refl _
  | cons step steps ih => exact (queued_fire sys step).trans (ih _)

theorem Distinct.of_after {steps : List FlushStep} (h : (sys.after steps).Distinct) : sys.Distinct :=
  ((queued_after sys steps).map UsageSummary.queuedAt).sublist.nodup h

/-- **A run keeps the invariant, and what is gone stays gone.** -/
theorem Sound.after (h : sys.Sound) {steps : List FlushStep} (hdistinct : (sys.after steps).Distinct) :
    (sys.after steps).Sound ∧
      ∀ x ∈ sys.queued, x ∉ pendingOf sys.file → x ∉ pendingOf (sys.after steps).file := by
  induction steps generalizing sys with
  | nil => exact ⟨h, fun _ _ hgone => hgone⟩
  | cons step steps ih =>
    obtain ⟨hsound, hstep⟩ := h.fire (@Distinct.of_after _ steps hdistinct)
    obtain ⟨hafter, hrest⟩ := ih hsound hdistinct
    refine ⟨hafter, fun x hx hgone => hrest x ?_ (hstep x hx hgone)⟩
    exact (queued_fire sys step).subset hx

/-- **No summary is lost**: at every point of a run in which the summaries are queued at different times, each
that was queued waits or was accepted, and one that has been taken out does not come back. -/
theorem summaries_kept (file : Option BudgetState) (steps : List FlushStep)
    (hdistinct : ((initial file).after steps).Distinct) {earlier later : List FlushStep}
    (hsteps : steps = earlier ++ later) :
    (∀ x ∈ ((initial file).after earlier).queued,
      x ∈ pendingOf ((initial file).after earlier).file ∨ x ∈ ((initial file).after earlier).accepted) ∧
      ∀ x ∈ ((initial file).after earlier).queued, x ∉ pendingOf ((initial file).after earlier).file →
        x ∉ pendingOf ((initial file).after steps).file := by
  subst hsteps
  unfold after at hdistinct ⊢
  rw [Run.after_append] at hdistinct ⊢
  have hearlier : ((initial file).after earlier).Sound :=
    ((sound_initial file).after (Distinct.of_after hdistinct)).1
  exact ⟨hearlier.settled, (hearlier.after hdistinct).2⟩

/-- A clock that stands still. -/
def clockAt (t : String) (h : isNonEmptyString (.str t) = true) : Readings := ⟨fun _ => t, fun _ => h⟩

/-- Two overlapping calls: the second has read the first summary and one that was queued after the first call
was suspended, and submits both. -/
def overlappingCalls : List FlushStep :=
  [.manager sampleEnv (clockAt "t0" (by decide)) (.reserve "t1" sampleRequest "openai" "gpt" .null),
    .manager sampleEnv (clockAt "2026-01-05T00:00:01" (by decide)) (.finalize "t1" none "completed"),
    .start 1 sampleEnv 25 true,
    .manager sampleEnv (clockAt "t0" (by decide)) (.reserve "t2" sampleRequest "openai" "gpt" .null),
    .manager sampleEnv (clockAt "2026-01-05T00:00:02" (by decide)) (.finalize "t2" none "completed"),
    .start 2 sampleEnv 25 true,
    .reply 1 sampleEnv (.result true none),
    .reply 2 sampleEnv (.result true none),
    .reply 2 sampleEnv (.result true none)]

theorem distinct_overlappingCalls : ((initial (some sampleState)).after overlappingCalls).Distinct := by
  unfold Distinct
  decide +kernel

theorem summaries_kept_overlappingCalls :
    (∀ x ∈ ((initial (some sampleState)).after overlappingCalls).queued,
      x ∈ pendingOf ((initial (some sampleState)).after overlappingCalls).file ∨
        x ∈ ((initial (some sampleState)).after overlappingCalls).accepted) ∧
      ∀ x ∈ ((initial (some sampleState)).after overlappingCalls).queued,
        x ∉ pendingOf ((initial (some sampleState)).after overlappingCalls).file →
        x ∉ pendingOf ((initial (some sampleState)).after overlappingCalls).file :=
  @summaries_kept (some sampleState) overlappingCalls distinct_overlappingCalls overlappingCalls []
    (List.append_nil _).symm

end FlushSystem

end Budget
end HexeAiNode
