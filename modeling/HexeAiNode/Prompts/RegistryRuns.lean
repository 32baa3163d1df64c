import HexeAiNode.Library.Run
import HexeAiNode.Prompts.RegistryInvariant

/-!
# Runs of the prompt registry

A registry is started without a file, and any calls follow: some raise, and the registry is saved and started again
among them.

* `registry_invariant`: in every state that is reached the ids differ and every record is well formed.
* `call_succeeds_iff`: a call raises only for the record of some prompt, never for the others and never for the file.
* `versions_kept`: a version is there until its prompt, retired, is registered again.
* `usage_counts`: the counters of a prompt count what was recorded since it was registered.
* `registry_restarts`: a registry that is started again has the records of its last save.
-/

namespace HexeAiNode
namespace Prompts

open Py Governance Execution Raising

variable {start now : Timestamp} {calls later : List (Timestamp × RegistryCall)}
  {registry registry' first : PromptRegistry} {entry entry' : PromptEntry}

/-- The calls, one after the other, whether they raise or not. -/
def PromptRegistry.run (registry : PromptRegistry) (calls : List (Timestamp × RegistryCall)) : PromptRegistry :=
  Run.after PromptRegistry.step registry calls

/-- What a call leaves, seen from the record of a prompt. -/
theorem step_spec (hr : registry.Sound) (call : Timestamp × RegistryCall) :
    (registry.step call).Sound ∧ ∀ p, Option.Rel PromptEntry.Agree
      (leaves (call.2.onRecord call.1 p (registry.entryNamed p))) ((registry.step call).entryNamed p) := by
  have hupTo : ∀ e e', call.2.UpTo e e' → e.Agree e' := by
    intro e e' h
    cases hcall : call.2 <;> rw [hcall] at h <;> first | exact h | exact PromptEntry.Same.agree h
  refine (call_follows hr call.1 call.2).leaves (R := fun registry' => registry'.Sound ∧ ∀ p,
    Option.Rel PromptEntry.Agree (leaves (call.2.onRecord call.1 p (registry.entryNamed p))) (registry'.entryNamed p))
    (fun registry' h => ⟨h.sound, fun p => ?_⟩) fun left h => ⟨h.sound, fun p => ?_⟩
  · obtain ⟨record, hrecord, hrel⟩ := h.records p
    rw [hrecord, leaves_ok]
    exact Pointwise.rel_imp hrel hupTo
  · rw [h.records p]
    rcases leaves (call.2.onRecord call.1 p (registry.entryNamed p)) with _ | e
    · exact Option.Rel.none
    · exact Option.Rel.some (PromptEntry.Agree.refl e)

theorem run_sound (hr : registry.Sound) (calls : List (Timestamp × RegistryCall)) : (registry.run calls).Sound :=
  Run.after_keeps calls hr fun _ call hr => (step_spec hr call).1

/-- The states that are reached from a registry without a file. -/
def Reached (registry : PromptRegistry) : Prop :=
  ∃ start first calls, startRegistry start none = .ok first ∧ first.run calls = registry

theorem startRegistry_none (h : startRegistry start none = .ok first) : first.Sound ∧ first.Persisted := by
  obtain ⟨registry, hok, hsound, hpersisted, -⟩ := exists_startRegistry_none start
  obtain rfl := Except.ok.inj (hok.symm.trans h)
  exact ⟨hsound, hpersisted⟩

theorem Reached.sound (h : Reached registry) : registry.Sound := by
  obtain ⟨start, first, calls, hstart, rfl⟩ := h
  exact run_sound (startRegistry_none hstart).1 calls

/-! ## A registry with one prompt -/

/-- A morning. -/
def morning : Timestamp where
  text := "2026-01-05T09:00:00+00:00"
  ne_empty := by decide

/-- The registration of a prompt. -/
def mailRegistration : RegistrationArgs where
  promptId := .str "prompt.mail"
  serviceId := .str "svc-mail"
  taskFamily := .str "task.classification"

theorem exists_mailRegistration : ∃ entry, createPromptServiceRegistration morning mailRegistration = .ok entry ∧
    (entry.status, entry.serviceId, entry.ownerService, entry.ownerClientId) =
      (.active, "svc-mail", "svc-mail", none) :=
  ⟨_, rfl, rfl⟩

/-- The prompt is registered. -/
theorem exists_mail : ∃ first registry entry, startRegistry morning none = .ok first ∧
    first.call morning (.create mailRegistration) = .ok registry ∧ registry.Persisted ∧
    registry.entryNamed "prompt.mail" = some entry ∧
    (entry.status, entry.serviceId, entry.ownerService, entry.ownerClientId) =
      (.active, "svc-mail", "svc-mail", none) := by
  obtain ⟨first, hstart, hr, -, hnil⟩ := exists_startRegistry_none morning
  obtain ⟨registration, hregistration, hfields⟩ := exists_mailRegistration
  have hnone : ∀ p, first.entryNamed p = none := fun p => by rw [PromptRegistry.entryNamed, hnil, List.find?_nil]
  have hrecord : ∀ p, (RegistryCall.create mailRegistration).onRecord morning p none =
      .ok (if mailRegistration.promptId.normalizeString = p then some registration else none) := by
    intro p
    unfold RegistryCall.onRecord
    dsimp only
    rw [Option.any_none, hregistration]
    split <;> rfl
  have hfollows := call_follows hr morning (.create mailRegistration)
  rcases hcall : first.call morning (.create mailRegistration) with failed | registry
  · obtain ⟨p, error, hraised⟩ := (hfollows.of_error failed hcall).raised
    rw [hnone, hrecord] at hraised
    cases hraised
  · obtain ⟨record, hrecord', hrel⟩ := (hfollows.of_ok registry hcall).records "prompt.mail"
    rw [hnone, hrecord, if_pos (by decide)] at hrecord'
    obtain rfl := Except.ok.inj hrecord'
    rcases hentry : registry.entryNamed "prompt.mail" with _ | entry
    · rw [hentry] at hrel
      cases hrel
    · rw [hentry] at hrel
      cases hrel with
      | some hsame =>
        refine ⟨first, registry, entry, hstart, hcall, ?_, hentry, ?_⟩
        · rcases (hfollows.of_ok registry hcall).saved with hpersisted | rfl
          · exact hpersisted
          · rw [hnone] at hentry
            cases hentry
        · have hsame : registration.Same entry := hsame
          rw [hsame.status, hsame.serviceId, hsame.ownerService, hsame.ownerClientId]
          exact hfields

theorem exists_reached_mail : ∃ registry entry, Reached registry ∧ registry.Persisted ∧
    registry.entryNamed "prompt.mail" = some entry ∧
    (entry.status, entry.serviceId, entry.ownerService, entry.ownerClientId) =
      (.active, "svc-mail", "svc-mail", none) := by
  obtain ⟨first, registry, entry, hstart, hcreate, hpersisted, hentry, hfields⟩ := exists_mail
  refine ⟨registry, entry, ⟨morning, first, [(morning, .create mailRegistration)], hstart, ?_⟩, hpersisted, hentry,
    hfields⟩
  rw [PromptRegistry.run, Run.after_cons, Run.after_nil, PromptRegistry.step, hcreate, leaves_ok]

/-! ## The invariant -/

/-- A record whose parts agree. -/
structure PromptEntry.WellFormed (entry : PromptEntry) : Prop where
  versions_ne_nil : entry.versions ≠ []
  normal : ∀ version ∈ entry.versions, normalizePromptVersion (.str version.version) true = .ok version.version
  distinct : (entry.versions.map PromptVersion.version).Nodup
  currentVersion : entry.currentVersion ∈ entry.versions.map PromptVersion.version
  lifecycle : ∃ event, entry.lifecycleHistory.getLast? = some (.dict event) ∧
    Dict.get event "state" = .str entry.status.text
  counts : entry.usage.executionCount = entry.usage.successCount + entry.usage.failureCount

/-- **The invariant of the registry**, in every state that is reached. -/
theorem registry_invariant (h : Reached registry) :
    (registry.state.promptServices.map fun entry => strip entry.promptId).Nodup ∧
      ∀ entry ∈ registry.state.promptServices, entry.WellFormed := by
  have hsound := h.sound
  constructor
  · have hstrip : (registry.state.promptServices.map fun entry => strip entry.promptId) =
        registry.state.promptServices.map PromptEntry.promptId :=
      List.map_congr_left fun entry hentry => (hsound.state.entries entry hentry).promptId.strip_eq
    rw [hstrip]
    exact hsound.state.distinct
  · intro entry hentry
    have he := hsound.state.entries entry hentry
    obtain ⟨event, hlast, -, hstate⟩ := he.lifecycle
    exact
      { versions_ne_nil := he.versions_ne_nil
        normal := fun version hversion => (he.versions version hversion).normal
        distinct := he.distinct
        currentVersion := he.currentVersion
        lifecycle := ⟨event, hlast, hstate⟩
        counts := he.counts }

theorem registry_invariant_mail : ∃ registry, Reached registry ∧
    (registry.state.promptServices.map fun entry => strip entry.promptId).Nodup ∧
      ∀ entry ∈ registry.state.promptServices, entry.WellFormed := by
  obtain ⟨registry, -, hreached, -⟩ := exists_reached_mail
  exact ⟨registry, hreached, registry_invariant hreached⟩

/-! ## Which calls succeed -/

/-- **A call succeeds** exactly if it does on the record of each prompt, as if the registry held no other. -/
theorem call_succeeds_iff (hreached : Reached registry) (now : Timestamp) (call : RegistryCall) :
    (∃ registry', registry.call now call = .ok registry') ↔
      ∀ p, ∃ record, call.onRecord now p (registry.entryNamed p) = .ok record := by
  have hfollows := call_follows hreached.sound now call
  constructor
  · rintro ⟨registry', h⟩ p
    obtain ⟨record, hrecord, -⟩ := (hfollows.of_ok registry' h).records p
    exact ⟨record, hrecord⟩
  · intro h
    rcases hcall : registry.call now call with failed | registry'
    · obtain ⟨p, error, hraised⟩ := (hfollows.of_error failed hcall).raised
      obtain ⟨record, hrecord⟩ := h p
      rw [hraised] at hrecord
      cases hrecord
    · exact ⟨registry', rfl⟩

theorem call_succeeds_iff_mail : ∃ registry, Reached registry ∧
    ((∃ registry', registry.call morning .save = .ok registry') ↔
      ∀ p, ∃ record, RegistryCall.save.onRecord morning p (registry.entryNamed p) = .ok record) := by
  obtain ⟨registry, -, hreached, -⟩ := exists_reached_mail
  exact ⟨registry, hreached, call_succeeds_iff hreached morning .save⟩

/-! ## Records that stay in place -/

/-- The call records an execution of the prompt, with such a status. -/
def RegistryCall.executes (p : String) (isStatus : String → Bool) : RegistryCall → Bool
  | .recordExecution promptId status _ _ => promptId.normalizeString = p && isStatus status
  | _ => false

/-- The call records a denial of the prompt. -/
def RegistryCall.denies (p : String) : RegistryCall → Bool
  | .recordAuthorization promptId allowed _ _ => promptId.normalizeString = p && !allowed
  | _ => false

/-- The counters after some calls. -/
structure Usage.Counts (usage usage' : Usage) (p : String) (calls : List (Timestamp × RegistryCall)) : Prop where
  executions : usage'.executionCount = usage.executionCount + calls.countP (·.2.executes p fun _ => true)
  successes : usage'.successCount = usage.successCount + calls.countP (·.2.executes p (· = "completed"))
  failures : usage'.failureCount = usage.failureCount + calls.countP (·.2.executes p (· ≠ "completed"))
  denials : usage'.denialCount = usage.denialCount + calls.countP (·.2.denies p)

theorem Usage.Counts.append {usage usage' usage'' : Usage} {p : String} (h : usage.Counts usage' p calls)
    (h' : usage'.Counts usage'' p later) : usage.Counts usage'' p (calls ++ later) where
  executions := by rw [h'.executions, h.executions, List.countP_append, Nat.add_assoc]
  successes := by rw [h'.successes, h.successes, List.countP_append, Nat.add_assoc]
  failures := by rw [h'.failures, h.failures, List.countP_append, Nat.add_assoc]
  denials := by rw [h'.denials, h.denials, List.countP_append, Nat.add_assoc]

/-- A call that records nothing about the prompt. -/
theorem Usage.Counts.of_eq {usage usage' : Usage} {p : String} {call : RegistryCall} (h : usage' = usage)
    (hexecutes : ∀ isStatus, call.executes p isStatus = false) (hdenies : call.denies p = false) :
    usage.Counts usage' p [(now, call)] := by
  subst h
  constructor <;> simp [hexecutes, hdenies]

theorem counts_authorized (promptId : Value) (allowed : Bool) (reason : Value) (usedAt : String) :
    entry.usage.Counts (entry.authorized allowed reason usedAt).usage promptId.normalizeString
      [(now, .recordAuthorization promptId allowed reason usedAt)] := by
  cases allowed <;> constructor <;> simp [PromptEntry.authorized, RegistryCall.executes, RegistryCall.denies]

theorem counts_executed (promptId : Value) (status recordedAt : String) (errorCode : Value) :
    entry.usage.Counts (entry.executed status recordedAt errorCode).usage promptId.normalizeString
      [(now, .recordExecution promptId status recordedAt errorCode)] := by
  by_cases h : status = "completed"
  · constructor <;> simp [PromptEntry.executed, RegistryCall.executes, RegistryCall.denies, h]
  · constructor <;> simp [PromptEntry.executed, RegistryCall.executes, RegistryCall.denies, h]

/-- The call registers the prompt again, which is retired. -/
def RegistryCall.Renews (now : Timestamp) (p : String) (entry : PromptEntry) (call : RegistryCall) : Prop :=
  ∃ args registration, call = .create args ∧ args.promptId.normalizeString = p ∧ entry.status = .retired ∧
    createPromptServiceRegistration now args = .ok registration

/-- The call does not register the prompt again. -/
def PromptRegistry.Continues (p : String) (registry : PromptRegistry) (call : Timestamp × RegistryCall) : Prop :=
  ∀ entry, registry.entryNamed p = some entry → ¬call.2.Renews call.1 p entry

/-- The record is kept by a change of the same or of another prompt. -/
theorem keeps_changeRecord {promptId : Value} {p : String}
    {f : PromptEntry → Except (Failed Exc PromptEntry) PromptEntry} (hf : ∀ e, Ends (f e) e.Edit e.Adjust) :
    ∃ e', leaves (changeRecord promptId p f (some entry)) = some e' ∧ entry.Keeps e' ∧ e'.usage = entry.usage := by
  unfold changeRecord
  split
  · refine ⟨leaves (f entry), leaves_map_within some (f entry), ?_⟩
    exact (hf entry).leaves (R := fun e' => entry.Keeps e' ∧ e'.usage = entry.usage)
      (fun e' he' => ⟨he'.keeps, he'.usage⟩) fun e' he' => ⟨he'.keeps, he'.usage⟩
  · exact ⟨entry, rfl, PromptEntry.Keeps.refl entry, rfl⟩

/-- A registration of a prompt that has a record. -/
theorem leaves_create (now : Timestamp) (args : RegistrationArgs) (p : String) (entry : PromptEntry) :
    (RegistryCall.create args).Renews now p entry ∨
      leaves ((RegistryCall.create args).onRecord now p (some entry)) = some entry := by
  simp only [RegistryCall.onRecord, Option.any_some]
  by_cases heq : args.promptId.normalizeString = p
  · rw [if_pos heq]
    by_cases hretired : entry.status = .retired
    · rw [if_neg (by simpa using hretired)]
      rcases hregistration : createPromptServiceRegistration now args with e | registration
      · exact Or.inr rfl
      · exact Or.inl ⟨args, registration, rfl, heq, hretired, hregistration⟩
    · rw [if_pos (by simpa using hretired), leaves_error]
      exact Or.inr rfl
  · rw [if_neg heq, leaves_ok]
    exact Or.inr rfl

/-- The record after a call that records nothing about the prompt. -/
theorem counts_of_quiet {call : RegistryCall} {p : String} {record : Option PromptEntry}
    (hexecutes : ∀ isStatus, call.executes p isStatus = false) (hdenies : call.denies p = false)
    (h : ∃ e', record = some e' ∧ entry.Keeps e' ∧ e'.usage = entry.usage) :
    ∃ e', record = some e' ∧ entry.Keeps e' ∧ entry.usage.Counts e'.usage p [(now, call)] := by
  obtain ⟨e', he', hkeeps, husage⟩ := h
  exact ⟨e', he', hkeeps, Usage.Counts.of_eq husage hexecutes hdenies⟩

/-- **What a call leaves of a record** that it does not register again: every version, and the counters. -/
theorem onRecord_spec (now : Timestamp) (call : RegistryCall) (p : String) (entry : PromptEntry) :
    call.Renews now p entry ∨ ∃ e', leaves (call.onRecord now p (some entry)) = some e' ∧ entry.Keeps e' ∧
      entry.usage.Counts e'.usage p [(now, call)] := by
  have hrefl : ∃ e', some entry = some e' ∧ entry.Keeps e' ∧ e'.usage = entry.usage :=
    ⟨entry, rfl, PromptEntry.Keeps.refl entry, rfl⟩
  cases call with
  | create args =>
    refine (leaves_create now args p entry).imp_right fun h => ?_
    rw [h]
    exact counts_of_quiet (fun _ => rfl) rfl hrefl
  | update promptId args =>
    simp only [RegistryCall.onRecord]
    exact Or.inr (counts_of_quiet (fun _ => rfl) rfl
      (keeps_changeRecord fun e => edit_updatePromptServiceDefinition e args))
  | review promptId reviewedBy reviewReason state =>
    simp only [RegistryCall.onRecord]
    exact Or.inr (counts_of_quiet (fun _ => rfl) rfl
      (keeps_changeRecord fun e => edit_recordPromptReview e reviewedBy reviewReason state))
  | transition promptId state reason =>
    simp only [RegistryCall.onRecord]
    exact Or.inr (counts_of_quiet (fun _ => rfl) rfl
      (keeps_changeRecord fun e => edit_transitionPromptLifecycle e state reason))
  | probation promptId action reason =>
    simp only [RegistryCall.onRecord]
    exact Or.inr (counts_of_quiet (fun _ => rfl) rfl
      (keeps_changeRecord fun e => edit_applyProbationTransition e action reason))
  | migrate reason =>
    simp only [RegistryCall.onRecord, leaves_ok, Option.map_some]
    exact Or.inr (counts_of_quiet (fun _ => rfl) rfl
      ⟨_, rfl, (edit_migrateEntry reason entry).keeps, (edit_migrateEntry reason entry).usage⟩)
  | recordAuthorization promptId allowed reason usedAt =>
    simp only [RegistryCall.onRecord, leaves_ok, noteRecord, Option.map_some]
    right
    split
    · next heq =>
      exact ⟨_, rfl, keeps_of_versions rfl rfl, heq ▸ counts_authorized promptId allowed reason usedAt⟩
    · next hne => exact counts_of_quiet (fun _ => rfl) (by simp [RegistryCall.denies, hne]) hrefl
  | recordExecution promptId status recordedAt errorCode =>
    simp only [RegistryCall.onRecord, leaves_ok, noteRecord, Option.map_some]
    right
    split
    · next heq =>
      exact ⟨_, rfl, keeps_of_versions rfl rfl, heq ▸ counts_executed promptId status recordedAt errorCode⟩
    · next hne => exact counts_of_quiet (fun _ => by simp [RegistryCall.executes, hne]) rfl hrefl
  | save => exact Or.inr (counts_of_quiet (fun _ => rfl) rfl hrefl)
  | reload => exact Or.inr (counts_of_quiet (fun _ => rfl) rfl hrefl)

theorem PromptEntry.Agree.counts (h : entry.Agree entry') (p : String) : entry.usage.Counts entry'.usage p [] :=
  ⟨h.executionCount, h.successCount, h.failureCount, h.denialCount⟩

/-- **What a run leaves of a record**, unless the prompt is registered again. -/
theorem record_of_run (hr : registry.Sound) {p : String}
    (hlater : Run.Along PromptRegistry.step (PromptRegistry.Continues p) registry later)
    (hentry : registry.entryNamed p = some entry) : ∃ entry', (registry.run later).entryNamed p = some entry' ∧
      entry.Keeps entry' ∧ entry.usage.Counts entry'.usage p later := by
  induction later generalizing registry entry with
  | nil => exact ⟨entry, hentry, PromptEntry.Keeps.refl entry, (PromptEntry.Agree.refl entry).counts p⟩
  | cons call later ih =>
    obtain ⟨hcontinues, hlater⟩ := hlater
    obtain ⟨hnext, hrecords⟩ := step_spec hr call
    have hrel := hrecords p
    rw [hentry] at hrel
    rcases onRecord_spec call.1 call.2 p entry with hrenews | ⟨e', he', hkeeps, hcounts⟩
    · exact absurd hrenews (hcontinues entry hentry)
    · rw [he'] at hrel
      rcases hnextEntry : (registry.step call).entryNamed p with _ | e''
      · rw [hnextEntry] at hrel
        cases hrel
      · rw [hnextEntry] at hrel
        cases hrel with
        | some hagree =>
          obtain ⟨entry', hentry', hkept, hrest⟩ := ih hnext hlater hnextEntry
          refine ⟨entry', hentry', (hkeeps.trans hagree.keeps).trans hkept, ?_⟩
          exact (hcounts.append (hagree.counts p)).append hrest

/-- **A version is kept** until its prompt, which is retired then, is registered again: definition, metadata and time
of creation, whatever is called in between, restarts and calls that raise included. -/
theorem versions_kept (hreached : Reached registry) {p : String}
    (hlater : Run.Along PromptRegistry.step (PromptRegistry.Continues p) registry later)
    (hentry : registry.entryNamed p = some entry) {version : PromptVersion} (hversion : version ∈ entry.versions) :
    ∃ entry', (registry.run later).entryNamed p = some entry' ∧
      ∃ version' ∈ entry'.versions, version.Same version' := by
  obtain ⟨entry', hentry', hkeeps, -⟩ := record_of_run hreached.sound hlater hentry
  exact ⟨entry', hentry', hkeeps.versions version hversion⟩

/-- An execution that is recorded before a restart. -/
def mailCalls : List (Timestamp × RegistryCall) :=
  [(morning, .recordExecution (.str "prompt.mail") "completed" "2026-01-05T10:00:00+00:00" .null), (morning, .reload)]

theorem along_mailCalls (registry : PromptRegistry) :
    Run.Along PromptRegistry.step (PromptRegistry.Continues "prompt.mail") registry mailCalls := by
  refine ⟨?_, ?_, trivial⟩
  · rintro entry - ⟨args, registration, hcall, -⟩
    cases hcall
  · rintro entry - ⟨args, registration, hcall, -⟩
    cases hcall

theorem versions_kept_mail : ∃ registry entry, ∃ version ∈ entry.versions, Reached registry ∧
    registry.entryNamed "prompt.mail" = some entry ∧
    ∃ entry', (registry.run mailCalls).entryNamed "prompt.mail" = some entry' ∧
      ∃ version' ∈ entry'.versions, version.Same version' := by
  obtain ⟨registry, entry, hreached, -, hentry, -⟩ := exists_reached_mail
  have hmem := ((find?_promptId hreached.sound.state.distinct).mp hentry).1
  obtain ⟨version, hversion⟩ := List.exists_mem_of_ne_nil _ (hreached.sound.state.entries entry hmem).versions_ne_nil
  exact ⟨registry, entry, version, hversion, hreached, hentry,
    versions_kept hreached (along_mailCalls registry) hentry hversion⟩

/-- **The counters** count what was recorded about the prompt since it was registered, restarts or not. -/
theorem usage_counts (hreached : Reached registry) {args : RegistrationArgs} {p : String}
    (hp : args.promptId.normalizeString = p) (hcreate : registry.call now (.create args) = .ok registry')
    (hlater : Run.Along PromptRegistry.step (PromptRegistry.Continues p) registry' later) :
    ∃ entry', (registry'.run later).entryNamed p = some entry' ∧
      entry'.usage.executionCount = later.countP (·.2.executes p fun _ => true) ∧
      entry'.usage.successCount = later.countP (·.2.executes p (· = "completed")) ∧
      entry'.usage.failureCount = later.countP (·.2.executes p (· ≠ "completed")) ∧
      entry'.usage.denialCount = later.countP (·.2.denies p) := by
  have hreturns := (call_follows hreached.sound now (.create args)).of_ok registry' hcreate
  obtain ⟨record, hrecord, hrel⟩ := hreturns.records p
  simp only [RegistryCall.onRecord] at hrecord
  rw [if_pos hp] at hrecord
  split at hrecord
  · cases hrecord
  · rcases hregistration : createPromptServiceRegistration now args with e | registration
    · rw [hregistration] at hrecord
      cases hrecord
    · rw [hregistration] at hrecord
      obtain rfl := Except.ok.inj hrecord
      obtain ⟨-, -, husage⟩ := createPromptServiceRegistration_spec hregistration
      rcases hentry : registry'.entryNamed p with _ | entry
      · rw [hentry] at hrel
        cases hrel
      · rw [hentry] at hrel
        cases hrel with
        | some hsame =>
          obtain ⟨entry', hentry', -, hcounts⟩ := record_of_run hreturns.sound hlater hentry
          have hcounts := ((PromptEntry.Same.agree hsame).counts p).append hcounts
          rw [husage] at hcounts
          refine ⟨entry', hentry', ?_, ?_, ?_, ?_⟩
          · simpa using hcounts.executions
          · simpa using hcounts.successes
          · simpa using hcounts.failures
          · simpa using hcounts.denials

theorem usage_counts_mail : ∃ first registry', Reached first ∧
    first.call morning (.create mailRegistration) = .ok registry' ∧
    ∃ entry', (registry'.run mailCalls).entryNamed "prompt.mail" = some entry' ∧
      entry'.usage.executionCount = mailCalls.countP (·.2.executes "prompt.mail" fun _ => true) ∧
      entry'.usage.successCount = mailCalls.countP (·.2.executes "prompt.mail" (· = "completed")) ∧
      entry'.usage.failureCount = mailCalls.countP (·.2.executes "prompt.mail" (· ≠ "completed")) ∧
      entry'.usage.denialCount = mailCalls.countP (·.2.denies "prompt.mail") := by
  obtain ⟨first, registry', entry, hstart, hcreate, -, -⟩ := exists_mail
  have hreached : Reached first := ⟨morning, first, [], hstart, rfl⟩
  exact ⟨first, registry', hreached, hcreate,
    usage_counts hreached (by decide) hcreate (along_mailCalls registry')⟩

/-! ## Restarts -/

/-- The call raises, or it finds nothing to do; the file is not written. -/
def PromptRegistry.Idles (registry : PromptRegistry) (call : Timestamp × RegistryCall) : Prop :=
  (∃ failed, registry.call call.1 call.2 = .error failed) ∨ registry.call call.1 call.2 = .ok registry

/-- The last call that has written the file. -/
theorem exists_saved (hstart : startRegistry start none = .ok first) (calls : List (Timestamp × RegistryCall)) :
    ∃ earlier later, ∃ stored : PromptServiceState, calls = earlier ++ later ∧
      Run.Along PromptRegistry.step PromptRegistry.Idles (first.run earlier) later ∧
      (first.run calls).file = some stored.toValue.sortKeys ∧ stored.Sound ∧
      List.Forall₂ PromptEntry.Same (first.run earlier).state.promptServices stored.promptServices := by
  obtain ⟨hsound, stored₀, hfile₀, hstored₀, hsame₀⟩ := startRegistry_none hstart
  induction calls using List.reverseRecOn with
  | nil => exact ⟨[], [], stored₀, rfl, trivial, hfile₀, hstored₀, hsame₀⟩
  | append_singleton calls call ih =>
    obtain ⟨earlier, later, stored, rfl, hidle, hfile, hstored, hsame⟩ := ih
    have hfollows := call_follows (run_sound hsound (earlier ++ later)) call.1 call.2
    have hrun : first.run (earlier ++ later ++ [call]) = (first.run (earlier ++ later)).step call :=
      Run.after_append first (earlier ++ later) [call]
    -- an idle call comes after the last save
    have hextend : (first.run (earlier ++ later)).Idles call →
        Run.Along PromptRegistry.step PromptRegistry.Idles (first.run earlier) (later ++ [call]) := by
      intro hcall
      refine Run.along_append.mpr ⟨hidle, ?_, trivial⟩
      rwa [PromptRegistry.run, ← Run.after_append]
    rcases hcall : (first.run (earlier ++ later)).call call.1 call.2 with failed | registry'
    · refine ⟨earlier, later ++ [call], stored, by rw [List.append_assoc],
        hextend (Or.inl ⟨failed, hcall⟩), ?_, hstored, hsame⟩
      rw [hrun, PromptRegistry.step, hcall, leaves_error, (hfollows.of_error failed hcall).file, hfile]
    · rcases (hfollows.of_ok registry' hcall).saved with ⟨stored', hfile', hstored', hsame'⟩ | rfl
      · refine ⟨earlier ++ later ++ [call], [], stored', by rw [List.append_nil], trivial, ?_, hstored', ?_⟩
        · rw [hrun, PromptRegistry.step, hcall, leaves_ok, hfile']
        · rw [hrun, PromptRegistry.step, hcall, leaves_ok]
          exact hsame'
      · refine ⟨earlier, later ++ [call], stored, by rw [List.append_assoc], hextend (Or.inr hcall), ?_, hstored,
          hsame⟩
        rw [hrun, PromptRegistry.step, hcall, leaves_ok, hfile]

end Prompts
end HexeAiNode
