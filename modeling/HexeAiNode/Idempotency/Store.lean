import HexeAiNode.Library.Run
import HexeAiNode.Library.StoreAction
import HexeAiNode.Python.Coercion
import HexeAiNode.Python.Datetime
import HexeAiNode.Python.OrderedDict

/-!
# The idempotency store

`ExecutionIdempotencyStore.execute` with its three sections under the lock, as a system in which any
number of calls go on side by side.

No section awaits anything while it holds the lock, so the lock is free whenever a call asks for it: a
section is one step, and a cancellation never finds a call waiting for the lock.  A cancellation that finds
a call waiting for the future of another cancels that future, which is the rule of `asyncio` for a task
that awaits a future; one that finds the operation of a call working is handed to the operation, and is
one of the ways in which the operation may end.

Responses are of any type `R`.  What the store needs of them is `Config.copyError` and `Config.dumpsError`:
what `copy.deepcopy` and `json.dumps` raise on a response, if they raise.
-/

namespace HexeAiNode
namespace Idempotency

open Py StoreAction

/-! ## Data -/

/-- An entry of `_records`.  `expiresAt` is what `_parse_time` makes of its text. -/
structure Record (R : Type) where
  callerId : String
  requestHash : String
  response : R
  createdAt : ℤ
  expiresAt : Option ℤ

/-- The arguments of a call besides its operation. -/
structure ExecuteArgs where
  callerId : String := ""
  idempotencyKey : String := ""
  requestPayload : Value := .dict []

/-- The arguments of the constructor, the functions of the libraries, and the calls that are made: the
calls are numbered, and `args i` are the arguments of the `i`-th. -/
structure Config (R : Type) where
  retentionSeconds : ℤ := 86400
  sha256 : String → String
  copyError : R → Option Exc := fun _ => none
  dumpsError : R → Option Exc := fun _ => none
  args : ℕ → ExecuteArgs

/-- An `asyncio.Future`. -/
inductive Future (R : Type) where
  | pending
  | result (response : R)
  | exception (exc : Exc)
  | cancelled

/-- How a call that ended took part: without a caller or a key, as one that was answered or refused at
once, as the owner of an operation, or as one that waited for the owner. -/
inductive Part where
  | detached
  | answered
  | owned
  | joined (owner : ℕ) (cancelled : Bool)

/-- Where a call stands.  A waiting call carries whether it was cancelled. -/
inductive CallState (R : Type) where
  | idle
  | detached
  | running
  | storing (response : R)
  | abandoning (exc : Exc)
  | waiting (owner : ℕ) (cancelled : Bool)
  | ended (part : Part) (result : Except Exc R)

/-- The store and its calls.  A future is named by the call that created it. -/
structure Store (R : Type) where
  records : OrderedDict String (Record R) := .empty
  file : OrderedDict String (Record R) := .empty
  pending : OrderedDict String (String × ℕ) := .empty
  futures : ℕ → Future R := fun _ => .pending
  calls : ℕ → CallState R := fun _ => .idle

/-- `IdempotencyConflictError("idempotency_key_conflict")`. -/
def conflict : Exc := ⟨.other "IdempotencyConflictError", "idempotency_key_conflict"⟩

/-- `asyncio.CancelledError()`. -/
def cancelledError : Exc := ⟨.cancelledError, ""⟩

variable {R : Type}

namespace Config

variable (cfg : Config R)

/-- `_retention_seconds`. -/
def retention : ℕ := (max cfg.retentionSeconds 60).toNat

/-- `str(caller_id or "").strip()`. -/
def caller (i : ℕ) : String := strip (cfg.args i).callerId

/-- `str(idempotency_key or "").strip()`. -/
def key (i : ℕ) : String := strip (cfg.args i).idempotencyKey

/-- The call has no caller or no key. -/
def Blank (i : ℕ) : Prop := cfg.caller i = "" ∨ cfg.key i = ""

instance (i : ℕ) : Decidable (cfg.Blank i) := inferInstanceAs (Decidable (_ ∨ _))

/-- The canonical JSON of a payload. -/
def canonical (i : ℕ) : String :=
  dumps { sortKeys := true, ensureAscii := false, itemSep := ",", keySep := ":" }
    (cfg.args i).requestPayload

/-- `request_hash(request_payload)`. -/
def requestHash (i : ℕ) : String := cfg.sha256 (cfg.canonical i)

/-- `_scope_key(caller_id=caller, idempotency_key=key)`. -/
def scopeKey (i : ℕ) : String := cfg.sha256 (cfg.caller i ++ "\x00" ++ cfg.key i)

end Config

/-! ## The sections under the lock -/

/-- A section under the lock. -/
abbrev Section (R : Type) := StoreAction (Store R) Exc

/-- What `json.dumps` raises on the records: they are printed in the order of their keys. -/
def Config.recordsError (cfg : Config R) (records : OrderedDict String (Record R)) : Option Exc :=
  (records.entries.insertionSort fun a b => a.1.toList ≤ b.1.toList).findSome? fun e =>
    cfg.dumpsError e.2.response

/-- `_persist`; `write` is what the file system raises, if it raises. -/
def persist (cfg : Config R) (write : Option Exc) : Section R Unit := do
  let s ← read
  match cfg.recordsError s.records with
  | some e => throw e
  | none =>
    match write with
    | some e => throw e
    | none => StoreAction.write { s with file := s.records }

/-- The keys of the records that have expired; a record without a date has. -/
def Store.expired (now : ℤ) (s : Store R) : List String :=
  (s.records.entries.filter fun e => e.2.expiresAt.getD now ≤ now).map Prod.fst

/-- The store without the records that have expired. -/
def Store.pruned (now : ℤ) (s : Store R) : Store R :=
  { s with records := s.records.eraseAll (s.expired now) }

/-- `_prune`. -/
def prune (cfg : Config R) (now : ℤ) (write : Option Exc) : Section R Unit := do
  let s ← read
  StoreAction.write (s.pruned now)
  if s.expired now ≠ [] then persist cfg write else pure ()

/-- What the first section of a call decides. -/
inductive Entry (R : Type) where
  | answer (response : R)
  | join (owner : ℕ)
  | own

/-- The first section. -/
def enter (cfg : Config R) (i : ℕ) (now : ℤ) (write : Option Exc) : Section R (Entry R) := do
  prune cfg now write
  let s ← read
  match s.records.get? (cfg.scopeKey i) with
  | some record =>
    if record.requestHash ≠ cfg.requestHash i then throw conflict else pure (.answer record.response)
  | none =>
    match s.pending.get? (cfg.scopeKey i) with
    | some (fingerprint, owner) =>
      if fingerprint ≠ cfg.requestHash i then throw conflict else pure (.join owner)
    | none =>
      StoreAction.write { s with pending := s.pending.set (cfg.scopeKey i) (cfg.requestHash i, i) }
      pure .own

/-- The record of a response. -/
def Config.record (cfg : Config R) (i : ℕ) (response : R) (now expiresAt : ℤ) : Record R where
  callerId := cfg.caller i
  requestHash := cfg.requestHash i
  response := response
  createdAt := now
  expiresAt := some expiresAt

/-- `copy.deepcopy(response)`. -/
def Config.deepcopy (cfg : Config R) (response : R) : Except Exc R :=
  match cfg.copyError response with
  | some e => .error e
  | none => .ok response

/-- `if not future.done(): …`. -/
def Future.settle (f value : Future R) : Future R :=
  match f with
  | .pending => value
  | _ => f

/-- The owner leaves the pending table and its future is done. -/
def Store.settle (cfg : Config R) (i : ℕ) (value : Future R) (s : Store R) : Store R :=
  { s with
    pending := s.pending.erase (cfg.scopeKey i)
    futures := Function.update s.futures i ((s.futures i).settle value) }

/-- The section after an operation that returned. -/
def succeed (cfg : Config R) (i : ℕ) (response : R) (now : ℤ) (write : Option Exc) : Section R R := do
  let copy ← ofResult (cfg.deepcopy response)
  let expiresAt ← ofResult (addSeconds now cfg.retention)
  update fun s =>
    { s with records := s.records.set (cfg.scopeKey i) (cfg.record i copy now expiresAt) }
  persist cfg write
  update (Store.settle cfg i (.result response))
  pure response

/-- The section after an operation that raised. -/
def fail (cfg : Config R) (i : ℕ) (e : Exc) : Section R R := do
  update (Store.settle cfg i (.exception e))
  throw e

/-! ## Steps -/

/-- The steps.  `call` is a call up to the end of its first section; `store` and `abandon` are the last
section of an owner. -/
inductive Step (R : Type) where
  | call (i : ℕ) (now : ℤ) (write : Option Exc)
  | finish (i : ℕ) (outcome : Except Exc R)
  | store (i : ℕ) (now : ℤ) (write : Option Exc)
  | abandon (i : ℕ)
  | wake (i : ℕ)
  | cancel (i : ℕ)

/-- A call goes on. -/
def Store.setCall (i : ℕ) (state : CallState R) (s : Store R) : Store R :=
  { s with calls := Function.update s.calls i state }

/-- What the first section makes of a call. -/
def Entry.state : Except Exc (Entry R) → CallState R
  | .ok (.answer response) => .ended .answered (.ok response)
  | .ok (.join owner) => .waiting owner false
  | .ok .own => .running
  | .error e => .ended .answered (.error e)

/-- What `await future` gives, once the future is done. -/
def Future.get : Future R → Option (Except Exc R)
  | .pending => none
  | .result response => some (.ok response)
  | .exception e => some (.error e)
  | .cancelled => some (.error cancelledError)

/-- What a waiting call ends with, once it goes on. -/
def Store.awaited (owner : ℕ) (cancelled : Bool) (s : Store R) : Option (Except Exc R) :=
  if cancelled then some (.error cancelledError) else (s.futures owner).get

/-- A call up to the end of its first section. -/
def Store.call (cfg : Config R) (i : ℕ) (now : ℤ) (write : Option Exc) (s : Store R) : Store R :=
  match s.calls i with
  | .idle =>
    if cfg.Blank i then s.setCall i .detached
    else
      let (entry, s') := (enter cfg i now write).exec s
      s'.setCall i (Entry.state entry)
  | _ => s

/-- The operation of a call ends. -/
def Store.finish (i : ℕ) (outcome : Except Exc R) (s : Store R) : Store R :=
  match s.calls i, outcome with
  | .detached, outcome => s.setCall i (.ended .detached outcome)
  | .running, .ok response => s.setCall i (.storing response)
  | .running, .error e => s.setCall i (.abandoning e)
  | _, _ => s

/-- The last section of an owner whose operation returned. -/
def Store.storeResponse (cfg : Config R) (i : ℕ) (now : ℤ) (write : Option Exc) (s : Store R) : Store R :=
  match s.calls i with
  | .storing response =>
    let (result, s') := (succeed cfg i response now write).exec s
    s'.setCall i (.ended .owned result)
  | _ => s

/-- The last section of an owner whose operation raised. -/
def Store.abandonKey (cfg : Config R) (i : ℕ) (s : Store R) : Store R :=
  match s.calls i with
  | .abandoning e =>
    let (result, s') := (fail cfg i e).exec s
    s'.setCall i (.ended .owned result)
  | _ => s

/-- A waiting call goes on, if it can. -/
def Store.wake (i : ℕ) (s : Store R) : Store R :=
  match s.calls i with
  | .waiting owner cancelled =>
    match s.awaited owner cancelled with
    | some result => s.setCall i (.ended (.joined owner cancelled) result)
    | none => s
  | _ => s

/-- A waiting call is cancelled, and with it the future it waits for. -/
def Store.cancel (i : ℕ) (s : Store R) : Store R :=
  match s.calls i with
  | .waiting owner _ =>
    ({ s with
      futures := Function.update s.futures owner ((s.futures owner).settle .cancelled) }).setCall i
        (.waiting owner true)
  | _ => s

/-- A step of a call. -/
def fire (cfg : Config R) (s : Store R) : Step R → Store R
  | .call i now write => s.call cfg i now write
  | .finish i outcome => s.finish i outcome
  | .store i now write => s.storeResponse cfg i now write
  | .abandon i => s.abandonKey cfg i
  | .wake i => s.wake i
  | .cancel i => s.cancel i

/-- The store of a process that loaded the records. -/
def Store.loaded (records : OrderedDict String (Record R)) : Store R :=
  { records := records, file := records }

/-- The store after a run. -/
def run (cfg : Config R) (records : OrderedDict String (Record R)) (steps : List (Step R)) : Store R :=
  Run.after (fire cfg) (.loaded records) steps

/-- The readings of the clock a step makes. -/
def Step.reading : Step R → Option ℤ
  | .call _ now _ | .store _ now _ => some now
  | _ => none

/-! ## Small facts -/

section Fields

variable (i : ℕ) (state : CallState R) (s : Store R) (now : ℤ)

@[simp] theorem setCall_records : (s.setCall i state).records = s.records := rfl
@[simp] theorem setCall_pending : (s.setCall i state).pending = s.pending := rfl
@[simp] theorem setCall_futures : (s.setCall i state).futures = s.futures := rfl
@[simp] theorem setCall_calls : (s.setCall i state).calls = Function.update s.calls i state := rfl
@[simp] theorem pruned_pending : (s.pruned now).pending = s.pending := rfl
@[simp] theorem pruned_futures : (s.pruned now).futures = s.futures := rfl
@[simp] theorem pruned_calls : (s.pruned now).calls = s.calls := rfl

end Fields

theorem settle_of_ne_pending {f value : Future R} (h : f ≠ .pending) : f.settle value = f := by
  cases f with
  | pending => exact absurd rfl h
  | _ => rfl

/-- A record that has not expired is found after a pruning. -/
theorem get?_pruned {s : Store R} {now t : ℤ} {k : String} {record : Record R}
    (h : s.records.get? k = some record) (hexpires : record.expiresAt = some t) (hnow : now < t) :
    (s.pruned now).records.get? k = some record := by
  show (s.records.eraseAll (s.expired now)).get? k = some record
  rw [OrderedDict.get?_eraseAll, if_neg, h]
  intro hlisted
  obtain ⟨⟨k', record'⟩, hfiltered, rfl⟩ := List.mem_map.mp hlisted
  obtain ⟨hmem, hexpired⟩ := List.mem_filter.mp hfiltered
  have hsame : record' = record := by
    rw [OrderedDict.get?_of_mem_entries hmem] at h
    exact Option.some.inj h
  subst hsame
  rw [decide_eq_true_eq, hexpires, Option.getD_some] at hexpired
  omega

/-- The records of a pruned store are records of the store. -/
theorem get?_of_pruned {s : Store R} {now : ℤ} {k : String} {record : Record R}
    (h : (s.pruned now).records.get? k = some record) : s.records.get? k = some record := by
  have h : (s.records.eraseAll (s.expired now)).get? k = some record := h
  rw [OrderedDict.get?_eraseAll] at h
  split at h
  · cases h
  · exact h

end Idempotency
end HexeAiNode
