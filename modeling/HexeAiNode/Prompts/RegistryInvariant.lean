import HexeAiNode.Prompts.PromptRegistry
import HexeAiNode.Prompts.SoundRecords

/-!
# The invariant of the prompt registry

`PromptRegistry.Sound`: the registry holds sound records, and so does its file.  The two may differ, since a call that
raises may leave fields that it has set; but never in a version, a counter or a lifecycle state (`PromptEntry.Agree`).
A sound registry can be saved (`exists_saveRegistry`), and it can be started again (`exists_startRegistry`).

Every call keeps this, and it changes the record of each prompt as if the registry held no other (`call_follows`): the
registry is a map from ids to records, up to what a save does to a record (`PromptEntry.Same`).
-/

namespace HexeAiNode
namespace Prompts

open Py Governance Execution Raising

variable {now : Timestamp} {entry entry' : PromptEntry}

/-! ## Records that agree -/

/-- Two records have the same versions, counters and lifecycle state. -/
structure PromptEntry.Agree (e e' : PromptEntry) : Prop where
  promptId : e'.promptId = e.promptId
  status : e'.status = e.status
  currentVersion : e'.currentVersion = e.currentVersion
  versions : List.Forall₂ PromptVersion.Same e.versions e'.versions
  executionCount : e'.usage.executionCount = e.usage.executionCount
  successCount : e'.usage.successCount = e.usage.successCount
  failureCount : e'.usage.failureCount = e.usage.failureCount
  denialCount : e'.usage.denialCount = e.usage.denialCount

theorem PromptEntry.Same.agree {e e' : PromptEntry} (h : e.Same e') : e.Agree e' :=
  { h with }

theorem PromptEntry.Agree.refl (e : PromptEntry) : e.Agree e := (PromptEntry.Same.refl e).agree

theorem PromptVersion.Same.symm {u v : PromptVersion} (h : u.Same v) : v.Same u :=
  ⟨h.version.symm, h.definition.symm, h.metadata.symm, h.createdAt.symm⟩

theorem PromptEntry.Agree.symm {e e' : PromptEntry} (h : e.Agree e') : e'.Agree e where
  promptId := h.promptId.symm
  status := h.status.symm
  currentVersion := h.currentVersion.symm
  versions := h.versions.flip.imp fun _ _ => PromptVersion.Same.symm
  executionCount := h.executionCount.symm
  successCount := h.successCount.symm
  failureCount := h.failureCount.symm
  denialCount := h.denialCount.symm

theorem PromptEntry.Agree.trans {e e' e'' : PromptEntry} (h : e.Agree e') (h' : e'.Agree e'') : e.Agree e'' where
  promptId := h'.promptId.trans h.promptId
  status := h'.status.trans h.status
  currentVersion := h'.currentVersion.trans h.currentVersion
  versions := Pointwise.trans h.versions h'.versions fun _ _ _ => PromptVersion.Same.trans
  executionCount := h'.executionCount.trans h.executionCount
  successCount := h'.successCount.trans h.successCount
  failureCount := h'.failureCount.trans h.failureCount
  denialCount := h'.denialCount.trans h.denialCount

theorem PromptEntry.Agree.keeps {e e' : PromptEntry} (h : e.Agree e') : e.Keeps e' :=
  ⟨h.promptId, fun _ hu => Pointwise.exists_of_mem h.versions hu⟩

/-! ## The file -/

/-- The file has the records that the registry holds. -/
def PromptRegistry.Persisted (registry : PromptRegistry) : Prop :=
  ∃ stored : PromptServiceState, registry.file = some stored.toValue.sortKeys ∧ stored.Sound ∧
    List.Forall₂ PromptEntry.Same registry.state.promptServices stored.promptServices

/-- The registry and its file hold sound records, and they agree. -/
structure PromptRegistry.Sound (registry : PromptRegistry) : Prop where
  state : registry.state.Sound
  file : ∃ stored : PromptServiceState, registry.file = some stored.toValue.sortKeys ∧ stored.Sound ∧
    List.Forall₂ PromptEntry.Agree registry.state.promptServices stored.promptServices

theorem PromptRegistry.Persisted.sound {registry : PromptRegistry} (h : registry.Persisted)
    (hs : registry.state.Sound) : registry.Sound := by
  obtain ⟨stored, hfile, hsound, hsame⟩ := h
  exact ⟨hs, stored, hfile, hsound, hsame.imp fun _ _ => PromptEntry.Same.agree⟩

/-- A sound state can be written. -/
theorem exists_saveState (now : Timestamp) {state : PromptServiceState} (h : state.Sound) :
    ∃ stored : PromptServiceState, saveState now state = .ok stored.toValue.sortKeys ∧ stored.Sound ∧
      List.Forall₂ PromptEntry.Same state.promptServices stored.promptServices := by
  obtain ⟨stored, hok, hsound, hsame⟩ := exists_normalizeState now copying_id h
  rw [id_eq] at hok
  refine ⟨stored, ?_, hsound, hsame⟩
  unfold saveState
  rw [hok]

/-- **A sound state can be saved**, whatever the clock says. -/
theorem exists_saveRegistry (now : Timestamp) (file : Option Value) {state : PromptServiceState} (h : state.Sound) :
    ∃ registry, saveRegistry now file state = .ok registry ∧ registry.Sound ∧ registry.Persisted ∧
      List.Forall₂ PromptEntry.Same state.promptServices registry.state.promptServices := by
  obtain ⟨normalized, hok, hsound, hsame⟩ := exists_normalizeState now copying_id h
  rw [id_eq] at hok
  obtain ⟨stored, hwritten, hstored, hkept⟩ := exists_saveState now hsound
  have hpersisted : PromptRegistry.Persisted { state := normalized, file := some stored.toValue.sortKeys } :=
    ⟨stored, rfl, hstored, hkept⟩
  refine ⟨_, ?_, hpersisted.sound hsound, hpersisted, hsame⟩
  rw [saveRegistry, hok]
  simp only [bind, Except.bind, attempt, hwritten]

theorem same_trans {l m n : List PromptEntry} (h : List.Forall₂ PromptEntry.Same l m)
    (h' : List.Forall₂ PromptEntry.Same m n) : List.Forall₂ PromptEntry.Same l n :=
  Pointwise.trans h h' fun _ _ _ => PromptEntry.Same.trans

/-- **A registry can be started** on the file of a sound state. -/
theorem exists_startRegistry (now : Timestamp) {stored : PromptServiceState} (h : stored.Sound) :
    ∃ registry, startRegistry now (some stored.toValue.sortKeys) = .ok registry ∧ registry.Sound ∧
      registry.Persisted ∧ List.Forall₂ PromptEntry.Same stored.promptServices registry.state.promptServices := by
  obtain ⟨loaded, hload, hloaded, hread⟩ := exists_normalizeState now copying_sortKeys h
  obtain ⟨registry, hok, hsound, hpersisted, hsame⟩ :=
    exists_saveRegistry now (some stored.toValue.sortKeys) hloaded
  refine ⟨registry, ?_, hsound, hpersisted, same_trans hread hsame⟩
  rw [startRegistry, loadOrCreate, loadState, hload]
  simp only [bind, Except.bind, hok]

theorem sound_createPromptServiceState (now : Timestamp) : (createPromptServiceState now).Sound :=
  ⟨fun _ hentry => absurd hentry List.not_mem_nil, List.nodup_nil⟩

/-- A registry that finds no file starts without prompts. -/
theorem exists_startRegistry_none (now : Timestamp) : ∃ registry, startRegistry now none = .ok registry ∧
    registry.Sound ∧ registry.Persisted ∧ registry.state.promptServices = [] := by
  obtain ⟨stored, hwritten, -⟩ := exists_saveState now (sound_createPromptServiceState now)
  obtain ⟨registry, hok, hsound, hpersisted, hsame⟩ :=
    exists_saveRegistry now (some stored.toValue.sortKeys) (sound_createPromptServiceState now)
  refine ⟨registry, ?_, hsound, hpersisted, List.forall₂_nil_left_iff.mp hsame⟩
  rw [startRegistry, loadOrCreate, loadState]
  simp only [bind, Except.bind, hwritten, hok]

/-! ## What the calls do to a record -/

theorem clean_canonicalTaskFamilies (task : String) (htask : task ∈ canonicalTaskFamilies) : Clean task := by
  obtain ⟨hname, -⟩ := of_isTaskFamilyId (canonicalTaskFamilies_spec task htask).1
  exact ⟨hname.stripped, hname.nonempty⟩

theorem clean_registeredTaskFamily {value : Value} {task : String} (h : registeredTaskFamily value = .ok task) :
    Clean task := by
  obtain ⟨given, -, h⟩ := bind_eq_ok.mp h
  dsimp only at h
  split at h
  · next hmem =>
    obtain rfl := Except.ok.inj h
    exact clean_canonicalTaskFamilies _ hmem
  · cases h

theorem clean_nonEmpty {value : Value} {name text : String} (h : nonEmpty value name = .ok text) :
    Clean text ∧ text = value.normalizeString := by
  unfold nonEmpty at h
  split at h
  · next text' htext =>
    obtain rfl := Except.ok.inj h
    refine ⟨clean_of_optionalString htext, ?_⟩
    simp only [optionalString] at htext
    split at htext
    · cases htext
    · exact (Option.some.inj htext).symm
  · cases h

theorem clean_optionalString_getD {value : Value} {default : String} (h : Clean default) :
    Clean ((optionalString value).getD default) := by
  rcases hs : optionalString value with _ | s
  · exact h
  · exact clean_of_optionalString hs

/-- A version in the current spelling is also one in the older spelling. -/
theorem normalizePromptVersion_legacy {value : Value} {version : String}
    (h : normalizePromptVersion value false = .ok version) : normalizePromptVersion value true = .ok version := by
  unfold normalizePromptVersion at h ⊢
  dsimp only at h ⊢
  split at h
  · next hmajor => rw [if_pos hmajor]; exact h
  · next hmajor =>
    rw [if_neg hmajor]
    split at h
    · next hcanonical => rw [if_pos hcanonical]; exact h
    · cases h

/-- A version that is built. -/
theorem buildPromptVersion_spec {version : String} {definition metadata createdAt : Value} {added : PromptVersion}
    (hversion : normalizePromptVersion (.str version) false = .ok version)
    (h : buildPromptVersion now (.str version) definition metadata createdAt = .ok added) :
    added.version = version ∧ added.Sound := by
  unfold buildPromptVersion at h
  rw [hversion] at h
  obtain rfl := Except.ok.inj h
  refine ⟨rfl, normalizePromptVersion_legacy hversion, rfl, ?_⟩
  dsimp only
  rcases hs : optionalString createdAt with _ | s
  · exact now.ne_empty
  · exact (clean_of_optionalString hs).ne_empty

theorem lifecycleEvent_distinct (state : LifecycleState) (reason changedAt : String) :
    ∃ event, lifecycleEvent state reason changedAt = .dict event ∧ Assoc.Distinct event ∧
      Dict.get event "state" = .str state.text :=
  ⟨_, rfl, by simp [Assoc.Distinct, Assoc.keys], rfl⟩

/-- **A registration** is a sound record without usage. -/
theorem createPromptServiceRegistration_spec {args : RegistrationArgs}
    (h : createPromptServiceRegistration now args = .ok entry) :
    entry.Sound ∧ entry.promptId = args.promptId.normalizeString ∧ entry.usage = {} := by
  obtain ⟨prompt, hprompt, h⟩ := bind_eq_ok.mp h
  obtain ⟨service, hservice, h⟩ := bind_eq_ok.mp h
  obtain ⟨task, htask, h⟩ := bind_eq_ok.mp h
  obtain ⟨versionValue, hversion, h⟩ := bind_eq_ok.mp h
  obtain ⟨lifecycleState, -, h⟩ := bind_eq_ok.mp h
  obtain ⟨accessPolicy, hpolicy, h⟩ := bind_eq_ok.mp h
  obtain ⟨versionEntry, hentry, h⟩ := bind_eq_ok.mp h
  obtain ⟨privacyClass, -, h⟩ := bind_eq_ok.mp h
  obtain ⟨constraints, hconstraints, h⟩ := bind_eq_ok.mp h
  obtain ⟨scope, -, hpolicy⟩ := bind_eq_ok.mp hpolicy
  obtain rfl := Except.ok.inj hpolicy
  obtain ⟨hname, hbuilt⟩ := buildPromptVersion_spec (normalizePromptVersion_normalized hversion) hentry
  obtain ⟨event, hevent, hdistinct, hstate⟩ := lifecycleEvent_distinct lifecycleState "created" now.text
  obtain rfl := Except.ok.inj h
  refine ⟨?_, (clean_nonEmpty hprompt).2, rfl⟩
  constructor <;> dsimp only
  · exact (clean_nonEmpty hprompt).1
  · exact clean_optionalString_getD (clean_nonEmpty hprompt).1
  · exact (clean_nonEmpty hservice).1
  · exact clean_optionalString_getD (clean_nonEmpty hservice).1
  · exact clean_of_mem_optionalString
  · exact clean_registeredTaskFamily htask
  · exact cleanList_normalizeStringList _
  · exact cleanList_normalizeStringList _
  · exact cleanList_normalizeStringList _
  · exact normal_normalizeProviderPreferences _
  · exact normal_of_normalizePromptConstraints hconstraints
  · exact List.cons_ne_nil _ _
  · exact fun v hv => List.mem_singleton.mp hv ▸ hbuilt
  · exact List.nodup_singleton _
  · exact List.mem_singleton.mpr hname.symm
  · exact ⟨event, congrArg some hevent, hdistinct, hstate⟩

/-! ## Edits -/

/-- A change of a record that leaves its usage and its versions alone, except that versions may be added. -/
structure PromptEntry.Edit (e e' : PromptEntry) : Prop where
  sound : e.Sound → e'.Sound
  keeps : e.Keeps e'
  usage : e'.usage = e.usage

/-- A change that does not add a version, and does not move the prompt either. -/
structure PromptEntry.Adjust (e e' : PromptEntry) : Prop extends e.Edit e' where
  agree : e.Agree e'

theorem PromptEntry.Edit.trans {e e' e'' : PromptEntry} (h : e.Edit e') (h' : e'.Edit e'') : e.Edit e'' :=
  ⟨fun hs => h'.sound (h.sound hs), h.keeps.trans h'.keeps, h'.usage.trans h.usage⟩

theorem PromptEntry.Adjust.refl (e : PromptEntry) : e.Adjust e :=
  ⟨⟨id, PromptEntry.Keeps.refl e, rfl⟩, PromptEntry.Agree.refl e⟩

theorem PromptEntry.Adjust.trans {e e' e'' : PromptEntry} (h : e.Adjust e') (h' : e'.Adjust e'') : e.Adjust e'' :=
  ⟨h.toEdit.trans h'.toEdit, h.agree.trans h'.agree⟩

/-- A record with the same versions is one that keeps them. -/
theorem keeps_of_versions {e e' : PromptEntry} (hid : e'.promptId = e.promptId) (h : e'.versions = e.versions) :
    e.Keeps e' := by
  refine ⟨hid, fun u hu => ⟨u, ?_, PromptVersion.Same.refl u⟩⟩
  rw [h]
  exact hu

/-- The fields that an adjustment leaves alone. -/
theorem adjust_of_eq {e e' : PromptEntry} (hsound : e.Sound → e'.Sound)
    (h : (e'.promptId, e'.status, e'.currentVersion, e'.versions, e'.usage) =
      (e.promptId, e.status, e.currentVersion, e.versions, e.usage)) : e.Adjust e' := by
  simp only [Prod.mk.injEq] at h
  obtain ⟨hid, hstatus, hcurrent, hversions, husage⟩ := h
  refine ⟨⟨hsound, keeps_of_versions hid hversions, husage⟩, hid, hstatus, hcurrent, ?_, ?_, ?_, ?_, ?_⟩
  · rw [hversions]
    exact List.forall₂_same.mpr fun v _ => PromptVersion.Same.refl v
  · rw [husage]
  · rw [husage]
  · rw [husage]
  · rw [husage]

theorem adjust_updatedAt (entry : PromptEntry) (updatedAt : String) :
    entry.Adjust { entry with updatedAt := updatedAt } :=
  adjust_of_eq (fun hs => { hs with }) rfl

theorem adjust_reviewed (now : Timestamp) (entry : PromptEntry) (reviewedBy : Value) (reason : String) :
    entry.Adjust (entry.reviewed now reviewedBy reason) :=
  adjust_of_eq (fun hs => { hs with }) rfl

theorem edit_moveTo (entry : PromptEntry) (next : LifecycleState) (reason : Value) :
    entry.Edit (entry.moveTo now next reason) := by
  unfold PromptEntry.moveTo
  split
  · exact (PromptEntry.Adjust.refl entry).toEdit
  · refine ⟨fun hs => ?_, keeps_of_versions rfl rfl, rfl⟩
    obtain ⟨event, hevent, hdistinct, hstate⟩ :=
      lifecycleEvent_distinct next ((optionalString reason).getD "manual_transition") now.text
    exact { hs with lifecycle := ⟨event, by rw [hevent, List.getLast?_concat], hdistinct, hstate⟩ }

theorem edit_transitionPromptLifecycle (entry : PromptEntry) (state reason : Value) :
    Ends (transitionPromptLifecycle now entry state reason) entry.Edit entry.Adjust := by
  unfold transitionPromptLifecycle
  exact Ends.attempt_bind (fun _ _ => PromptEntry.Adjust.refl entry) fun next _ =>
    Ends.ok (edit_moveTo entry next reason)

theorem edit_recordPromptReview (entry : PromptEntry) (reviewedBy reviewReason state : Value) :
    Ends (recordPromptReview now entry reviewedBy reviewReason state) entry.Edit entry.Adjust := by
  unfold recordPromptReview
  dsimp only
  generalize (optionalString reviewReason).getD "manual_review" = reason
  have hadjust := adjust_reviewed now entry reviewedBy reason
  split
  · exact Ends.ok hadjust.toEdit
  · refine Ends.bind ((edit_transitionPromptLifecycle _ state _).imp (fun e' he' => he')
      fun e' he' => hadjust.trans he') fun moved _ hmoved => ?_
    exact Ends.ok (hadjust.toEdit.trans (hmoved.trans (adjust_updatedAt moved now.text).toEdit))

theorem edit_applyProbationTransition (entry : PromptEntry) (action reason : Value) :
    Ends (applyProbationTransition now entry action reason) entry.Edit entry.Adjust := by
  unfold applyProbationTransition
  dsimp only
  split
  · exact edit_transitionPromptLifecycle entry _ _
  · split
    · exact edit_transitionPromptLifecycle entry _ _
    · exact Ends.error (PromptEntry.Adjust.refl entry)

/-- A field that is given. -/
theorem adjust_setGiven {α : Type} {value : Value} {normalize : Value → Except Exc α} {set : α → PromptEntry}
    (hset : ∀ a, normalize value = .ok a → entry.Adjust (set a)) :
    Ends (setGiven value entry normalize set) entry.Adjust entry.Adjust := by
  unfold setGiven
  split
  · exact Ends.ok (PromptEntry.Adjust.refl entry)
  · refine Ends.map ?_
    exact Ends.attempt hset fun _ _ => PromptEntry.Adjust.refl entry

theorem adjust_updateAccess (entry : PromptEntry) (args : UpdateArgs) :
    Ends (updateAccess entry args) entry.Adjust entry.Adjust := by
  unfold updateAccess
  split
  · exact Ends.ok (PromptEntry.Adjust.refl entry)
  · refine Ends.attempt_bind (fun _ _ => PromptEntry.Adjust.refl entry) fun policy hpolicy => ?_
    obtain ⟨scope, -, hpolicy⟩ := bind_eq_ok.mp hpolicy
    obtain rfl := Except.ok.inj hpolicy
    refine Ends.ok (adjust_of_eq (fun hs => ?_) rfl)
    refine { hs with allowedServices := ?_, allowedClients := ?_, allowedCustomers := ?_ } <;> dsimp only
    · exact cleanList_normalizeStringList _
    · exact cleanList_normalizeStringList _
    · exact cleanList_normalizeStringList _

/-- The check for a version that is stored already. -/
theorem hasVersion_eq {version : String} {versions : List PromptVersion} (h : ∀ v ∈ versions, v.Sound) :
    hasVersion version versions = .ok (decide (version ∈ versions.map PromptVersion.version)) := by
  induction versions with
  | nil => rfl
  | cons v versions ih =>
    rw [hasVersion, (h v List.mem_cons_self).normal]
    simp only [bind, Except.bind]
    split
    · next heq => simp [heq]
    · next hne =>
      rw [ih fun u hu => h u (List.mem_cons_of_mem v hu)]
      simp [Ne.symm hne]

/-- The version that an update adds is none of those that are stored. -/
theorem newVersion_spec {args : UpdateArgs} {added : String × PromptVersion} (hs : entry.Sound)
    (h : newVersion now entry args = .ok added) : added.2.version = added.1 ∧ added.2.Sound ∧
      added.1 ∉ entry.versions.map PromptVersion.version := by
  obtain ⟨wanted, -, h⟩ := bind_eq_ok.mp h
  obtain ⟨version, hversion, h⟩ := bind_eq_ok.mp h
  obtain ⟨stored, hstored, h⟩ := bind_eq_ok.mp h
  rw [hasVersion_eq hs.versions] at hstored
  obtain rfl := Except.ok.inj hstored
  split at h
  · cases h
  · next hnew =>
    obtain ⟨built, hbuilt, h⟩ := bind_eq_ok.mp h
    obtain rfl := Except.ok.inj h
    obtain ⟨hname, hsound⟩ := buildPromptVersion_spec (normalizePromptVersion_normalized hversion) hbuilt
    exact ⟨hname, hsound, fun hmem => hnew (decide_eq_true hmem)⟩

theorem edit_addVersion (entry : PromptEntry) (args : UpdateArgs) :
    Ends (addVersion now entry args) entry.Edit entry.Adjust := by
  unfold addVersion
  split
  · exact Ends.ok (PromptEntry.Adjust.refl entry).toEdit
  · refine Ends.attempt_bind (fun _ _ => PromptEntry.Adjust.refl entry) fun added hadded => Ends.ok ?_
    refine ⟨fun hs => ?_, ⟨rfl, fun u hu => ⟨u, List.mem_append_left _ hu, PromptVersion.Same.refl u⟩⟩, rfl⟩
    obtain ⟨hname, hbuilt, hfresh⟩ := newVersion_spec hs hadded
    exact
      { hs with
        versions_ne_nil := List.concat_ne_nil _ _
        versions := fun v hv => by
          rcases List.mem_append.mp hv with hv | hv
          · exact hs.versions v hv
          · exact List.mem_singleton.mp hv ▸ hbuilt
        distinct := by
          rw [List.map_append, List.map_singleton, hname, ← List.concat_eq_append]
          exact hs.distinct.concat hfresh
        currentVersion := by
          rw [List.map_append, List.map_singleton, hname]
          exact List.mem_concat_self }

theorem adjust_ownerClientId {owner : Option String} (h : ∀ s ∈ owner, Clean s) :
    entry.Adjust { entry with ownerClientId := owner } :=
  adjust_of_eq (fun hs => { hs with ownerClientId := h }) rfl

/-- One field after the other: what a field that raises leaves is an adjustment of the record. -/
theorem adjust_bind {x : Except (Failed Exc PromptEntry) PromptEntry}
    {f : PromptEntry → Except (Failed Exc PromptEntry) PromptEntry} (h : Ends x entry.Adjust entry.Adjust)
    (hf : ∀ e, Ends (f e) e.Edit e.Adjust) : Ends (x >>= f) entry.Edit entry.Adjust :=
  h.bind fun e _ he => (hf e).imp (fun _ he' => he.toEdit.trans he') fun _ he' => he.trans he'

/-- **An update** of a record; one that raises adds no version. -/
theorem edit_updatePromptServiceDefinition (entry : PromptEntry) (args : UpdateArgs) :
    Ends (updatePromptServiceDefinition now entry args) entry.Edit entry.Adjust := by
  unfold updatePromptServiceDefinition
  refine adjust_bind (adjust_setGiven fun task htask => ?_) fun e₁ => ?_
  · exact adjust_of_eq (fun hs => { hs with taskFamily := clean_registeredTaskFamily htask }) rfl
  refine adjust_bind (adjust_setGiven fun name hname => ?_) fun e₂ => ?_
  · exact adjust_of_eq (fun hs => { hs with promptName := (clean_nonEmpty hname).1 }) rfl
  refine adjust_bind (adjust_setGiven fun service hservice => ?_) fun e₃ => ?_
  · exact adjust_of_eq (fun hs => { hs with ownerService := (clean_nonEmpty hservice).1 }) rfl
  refine adjust_bind (adjust_setGiven fun owner howner => ?_) fun e₄ => ?_
  · exact adjust_ownerClientId (Except.ok.inj howner ▸ clean_of_mem_optionalString)
  refine adjust_bind (adjust_setGiven fun privacyClass _ => ?_) fun e₅ => ?_
  · exact adjust_of_eq (fun hs => { hs with }) rfl
  refine adjust_bind (adjust_updateAccess e₅ args) fun e₆ => ?_
  refine adjust_bind (adjust_setGiven fun policy _ => ?_) fun e₇ => ?_
  · exact adjust_of_eq (fun hs => { hs with }) rfl
  refine adjust_bind (adjust_setGiven fun preferences hpreferences => ?_) fun e₈ => ?_
  · obtain rfl := Except.ok.inj hpreferences
    refine adjust_of_eq (fun hs => { hs with preferences := ?_ }) rfl
    dsimp only
    exact normal_normalizeProviderPreferences _
  refine adjust_bind (adjust_setGiven fun constraints hconstraints => ?_) fun e₉ => ?_
  · exact adjust_of_eq (fun hs => { hs with constraints := normal_of_normalizePromptConstraints hconstraints }) rfl
  refine adjust_bind (adjust_setGiven fun metadata _ => ?_) fun e₁₀ => ?_
  · exact adjust_of_eq (fun hs => { hs with }) rfl
  refine (edit_addVersion e₁₀ args).bind fun e₁₁ _ h₁₁ => ?_
  exact Ends.ok (h₁₁.trans (adjust_updatedAt e₁₁ now.text).toEdit)

theorem edit_migrateEntry (reason : Value) (entry : PromptEntry) :
    entry.Edit (PromptRegistry.migrateEntry now reason entry) := by
  unfold PromptRegistry.migrateEntry
  split
  · exact (PromptEntry.Adjust.refl entry).toEdit
  · split
    · exact edit_moveTo entry _ _
    · exact (PromptEntry.Adjust.refl entry).toEdit

/-! ## The record of a prompt -/

/-- The record of a prompt. -/
def PromptRegistry.entryNamed (registry : PromptRegistry) (promptId : String) : Option PromptEntry :=
  registry.state.promptServices.find? fun entry => entry.promptId = promptId

theorem find?_promptId {entries : List PromptEntry} (hdistinct : (entries.map PromptEntry.promptId).Nodup)
    {promptId : String} :
    entries.find? (fun entry => entry.promptId = promptId) = some entry ↔
      entry ∈ entries ∧ entry.promptId = promptId := by
  constructor
  · intro h
    exact ⟨List.mem_of_find?_eq_some h, by simpa using List.find?_some h⟩
  · rintro ⟨hmem, hid⟩
    rcases hfind : entries.find? (fun entry => entry.promptId = promptId) with _ | found
    · have hnone := List.find?_eq_none.mp hfind entry hmem
      simp [hid] at hnone
    · have hfound : found.promptId = promptId := by simpa using List.find?_some hfind
      rw [hfind]
      exact congrArg some (List.inj_on_of_nodup_map hdistinct (List.mem_of_find?_eq_some hfind) hmem
        (hfound.trans hid.symm))

/-- In a sound state the prompt is found under its id. -/
theorem findEntry_eq {registry : PromptRegistry} (h : registry.Sound) (promptId : Value) :
    findEntry registry.state promptId = registry.entryNamed promptId.normalizeString := by
  have hnamed : ∀ entry ∈ registry.state.promptServices, entry.isNamed promptId =
      decide (entry.promptId = promptId.normalizeString) := by
    intro entry hentry
    rw [PromptEntry.isNamed, (h.state.entries entry hentry).promptId.strip_eq, beq_eq_decide]
  have hfind : ∀ entries : List PromptEntry, (∀ entry ∈ entries, entry ∈ registry.state.promptServices) →
      entries.find? (PromptEntry.isNamed promptId) =
        entries.find? fun entry => entry.promptId = promptId.normalizeString := by
    intro entries hentries
    induction entries with
    | nil => rw [List.find?_nil, List.find?_nil]
    | cons entry entries ih =>
      rw [List.find?_cons, List.find?_cons, hnamed entry (hentries entry List.mem_cons_self),
        ih fun e he => hentries e (List.mem_cons_of_mem entry he)]
  rw [findEntry]
  split
  · next hempty =>
    symm
    rw [PromptRegistry.entryNamed, List.find?_eq_none]
    intro entry hentry
    simpa [hempty] using (h.state.entries entry hentry).promptId.ne_empty
  · rw [PromptRegistry.entryNamed]
    exact hfind registry.state.promptServices fun _ h => h

/-- What the records of two lists have to do with each other, prompt by prompt. -/
theorem find?_of_forall₂ {R : PromptEntry → PromptEntry → Prop} {entries entries' : List PromptEntry}
    (h : List.Forall₂ R entries entries') (hid : ∀ e e', R e e' → e'.promptId = e.promptId) (promptId : String) :
    Option.Rel R (entries.find? fun entry => entry.promptId = promptId)
      (entries'.find? fun entry => entry.promptId = promptId) := by
  induction h with
  | nil => exact Option.Rel.none
  | cons hR _ ih =>
    rw [List.find?_cons, List.find?_cons, hid _ _ hR]
    split
    · exact Option.Rel.some hR
    · exact ih

/-- The record that is replaced is the one with the id. -/
theorem replaceEntry_eq_map {entries : List PromptEntry} (hsound : ∀ entry ∈ entries, entry.Sound)
    (hdistinct : (entries.map PromptEntry.promptId).Nodup) (promptId : Value) (changed : PromptEntry) :
    replaceEntry promptId changed entries =
      entries.map fun entry => if entry.promptId = promptId.normalizeString then changed else entry := by
  induction entries with
  | nil => rfl
  | cons entry entries ih =>
    obtain ⟨hnew, hrest⟩ := List.nodup_cons.mp hdistinct
    have hnamed : entry.isNamed promptId = decide (entry.promptId = promptId.normalizeString) := by
      rw [PromptEntry.isNamed, (hsound entry List.mem_cons_self).promptId.strip_eq, beq_eq_decide]
    rw [replaceEntry, hnamed, List.map_cons]
    by_cases hid : entry.promptId = promptId.normalizeString
    · rw [if_pos (decide_eq_true hid), if_pos hid]
      refine congrArg (changed :: ·) ((List.map_id entries).symm.trans (List.map_congr_left fun e he => ?_))
      have hne : e.promptId ≠ promptId.normalizeString := fun heq =>
        hnew (hid ▸ heq ▸ List.mem_map_of_mem he)
      rw [if_neg hne, id_eq]
    · rw [if_neg (by simpa using hid), if_neg hid, ih (fun e he => hsound e (List.mem_cons_of_mem entry he)) hrest]

/-- A state whose records are changed one by one, their ids apart. -/
theorem sound_map {state state' : PromptServiceState} {g : PromptEntry → PromptEntry} (h : state.Sound)
    (hstate' : state'.promptServices = state.promptServices.map g)
    (hg : ∀ entry ∈ state.promptServices, (g entry).Sound ∧ (g entry).promptId = entry.promptId) : state'.Sound := by
  refine ⟨?_, ?_⟩
  · rw [hstate']
    intro entry' hentry'
    obtain ⟨entry, hentry, rfl⟩ := List.mem_map.mp hentry'
    exact (hg entry hentry).1
  · rw [hstate', List.map_map]
    have hids : state.promptServices.map (PromptEntry.promptId ∘ g) = state.promptServices.map PromptEntry.promptId :=
      List.map_congr_left fun entry hentry => (hg entry hentry).2
    rw [hids]
    exact h.distinct

theorem find?_map {entries : List PromptEntry} {g : PromptEntry → PromptEntry}
    (hg : ∀ entry ∈ entries, (g entry).promptId = entry.promptId) (promptId : String) :
    (entries.map g).find? (fun entry => entry.promptId = promptId) =
      (entries.find? fun entry => entry.promptId = promptId).map g := by
  induction entries with
  | nil => rfl
  | cons entry entries ih =>
    rw [List.map_cons, List.find?_cons, List.find?_cons, hg entry List.mem_cons_self,
      ih fun e he => hg e (List.mem_cons_of_mem entry he)]
    split <;> rfl

variable {registry registry' : PromptRegistry}

/-- The records with another one for the prompt. -/
theorem withEntry_eq_map (hr : registry.Sound) (promptId : Value) (changed : PromptEntry) :
    (registry.withEntry promptId changed).state.promptServices =
      registry.state.promptServices.map fun entry =>
        if entry.promptId = promptId.normalizeString then changed else entry :=
  replaceEntry_eq_map hr.state.entries hr.state.distinct promptId changed

section WithEntry

variable {promptId : Value} {found changed : PromptEntry} (hr : registry.Sound)
  (hfind : registry.entryNamed promptId.normalizeString = some found) (hid : changed.promptId = found.promptId)

include hr hfind hid

theorem promptId_ite (entry : PromptEntry) :
    (if entry.promptId = promptId.normalizeString then changed else entry).promptId = entry.promptId := by
  split
  · next heq => exact hid.trans (((find?_promptId hr.state.distinct).mp hfind).2.trans heq.symm)
  · rfl

theorem sound_withEntry (hsound : changed.Sound) : (registry.withEntry promptId changed).state.Sound := by
  refine sound_map hr.state (withEntry_eq_map hr promptId changed) fun entry hentry =>
    ⟨?_, promptId_ite hr hfind hid entry⟩
  split
  · exact hsound
  · exact hr.state.entries entry hentry

/-- **No other record is touched.** -/
theorem entryNamed_withEntry (p : String) : (registry.withEntry promptId changed).entryNamed p =
    if promptId.normalizeString = p then some changed else registry.entryNamed p := by
  rw [PromptRegistry.entryNamed, withEntry_eq_map hr, find?_map fun entry _ => promptId_ite hr hfind hid entry]
  split
  · next heq =>
    subst heq
    have hfound : registry.state.promptServices.find? (fun entry => entry.promptId = promptId.normalizeString) =
        some found := hfind
    rw [hfound, Option.map_some, if_pos ((find?_promptId hr.state.distinct).mp hfind).2]
  · next hne =>
    rcases hentry : registry.entryNamed p with _ | entry
    · have hnone : registry.state.promptServices.find? (fun entry => entry.promptId = p) = none := hentry
      rw [hnone, Option.map_none]
    · have hsome : registry.state.promptServices.find? (fun entry => entry.promptId = p) = some entry := hentry
      have hother : entry.promptId ≠ promptId.normalizeString := fun heq =>
        hne (heq.symm.trans ((find?_promptId hr.state.distinct).mp hsome).2)
      rw [hsome, Option.map_some, if_neg hother]

end WithEntry

theorem not_mem_of_entryNamed_eq_none {p : String} (h : registry.entryNamed p = none) :
    p ∉ registry.state.promptServices.map PromptEntry.promptId := by
  intro hmem
  obtain ⟨entry, hentry, heq⟩ := List.mem_map.mp hmem
  simpa [heq] using List.find?_eq_none.mp h entry hentry

/-- **A registration** takes the place of the record of the prompt, or comes last. -/
theorem register_spec {promptId : Value} {registration : PromptEntry} (hr : registry.Sound)
    (hsound : registration.Sound) (hid : registration.promptId = promptId.normalizeString) :
    (registry.register promptId registration).Sound ∧ ∀ p,
      (registry.register promptId registration).promptServices.find? (fun entry => entry.promptId = p) =
        if promptId.normalizeString = p then some registration else registry.entryNamed p := by
  unfold PromptRegistry.register
  rw [findEntry_eq hr]
  rcases hfind : registry.entryNamed promptId.normalizeString with _ | found
  · simp only [Option.isSome_none, Bool.false_eq_true, if_false]
    constructor
    · refine ⟨fun e he => ?_, ?_⟩
      · rcases List.mem_append.mp he with he | he
        · exact hr.state.entries e he
        · exact List.mem_singleton.mp he ▸ hsound
      · dsimp only
        rw [List.map_append, List.map_singleton, ← List.concat_eq_append, hid]
        exact hr.state.distinct.concat (not_mem_of_entryNamed_eq_none hfind)
    · intro p
      rw [List.find?_append, List.find?_singleton, hid]
      by_cases heq : promptId.normalizeString = p
      · subst heq
        have hnone : registry.state.promptServices.find? (fun entry => entry.promptId = promptId.normalizeString) =
            none := hfind
        rw [hnone, Option.none_or, if_pos (by simp), if_pos rfl]
      · rw [if_neg (by simpa using heq), Option.or_none, if_neg heq, PromptRegistry.entryNamed]
  · have hsame : registration.promptId = found.promptId :=
      hid.trans ((find?_promptId hr.state.distinct).mp hfind).2.symm
    simp only [Option.isSome_some, if_true]
    have hreplaced := sound_withEntry hr hfind hsame hsound
    exact ⟨⟨hreplaced.entries, hreplaced.distinct⟩, entryNamed_withEntry hr hfind hsame⟩

/-! ## The registry as a map of records -/

/-- A change of the record of a prompt, which has to be there. -/
def changeRecord (promptId : Value) (p : String) (f : PromptEntry → Except (Failed Exc PromptEntry) PromptEntry)
    (record : Option PromptEntry) : Except (Failed Exc (Option PromptEntry)) (Option PromptEntry) :=
  if promptId.normalizeString = p then
    match record with
    | none => .error ⟨⟨.valueError, "prompt_id is not registered"⟩, none⟩
    | some entry => some <$> within some (f entry)
  else .ok record

/-- What is noted about a prompt, if it has a record. -/
def noteRecord (promptId : Value) (p : String) (f : PromptEntry → PromptEntry) (record : Option PromptEntry) :
    Option PromptEntry :=
  if promptId.normalizeString = p then record.map f else record

/-- What a call does to the record of one prompt, if the registry held no other. -/
def RegistryCall.onRecord (now : Timestamp) (p : String) (record : Option PromptEntry) :
    RegistryCall → Except (Failed Exc (Option PromptEntry)) (Option PromptEntry)
  | .create args =>
    if args.promptId.normalizeString = p then
      if record.any fun entry => entry.status ≠ .retired then
        .error ⟨⟨.valueError, "duplicate_prompt_id"⟩, record⟩
      else some <$> attempt record (createPromptServiceRegistration now args)
    else .ok record
  | .update promptId args => changeRecord promptId p (fun entry => updatePromptServiceDefinition now entry args) record
  | .review promptId reviewedBy reviewReason state =>
    changeRecord promptId p (fun entry => recordPromptReview now entry reviewedBy reviewReason state) record
  | .transition promptId state reason =>
    changeRecord promptId p (fun entry => transitionPromptLifecycle now entry state reason) record
  | .probation promptId action reason =>
    changeRecord promptId p (fun entry => applyProbationTransition now entry action reason) record
  | .migrate reason => .ok (record.map (PromptRegistry.migrateEntry now reason))
  | .recordAuthorization promptId allowed reason usedAt =>
    .ok (noteRecord promptId p (fun entry => entry.authorized allowed reason usedAt) record)
  | .recordExecution promptId status recordedAt errorCode =>
    .ok (noteRecord promptId p (fun entry => entry.executed status recordedAt errorCode) record)
  | .save => .ok record
  | .reload => .ok record

/-- What the record of a prompt has in common with the one that is meant: a registry that is started again has what
was saved last, and otherwise there is only the save between them. -/
def RegistryCall.UpTo : RegistryCall → PromptEntry → PromptEntry → Prop
  | .reload => PromptEntry.Agree
  | _ => PromptEntry.Same

/-- A call that returns has done to each record what `g` says, up to `R`, and has saved, or it has done nothing. -/
structure PromptRegistry.Returns (registry : PromptRegistry) (R : PromptEntry → PromptEntry → Prop)
    (g : String → Except (Failed Exc (Option PromptEntry)) (Option PromptEntry)) (registry' : PromptRegistry) :
    Prop where
  sound : registry'.Sound
  saved : registry'.Persisted ∨ registry' = registry
  records : ∀ p, ∃ record, g p = .ok record ∧ Option.Rel R record (registry'.entryNamed p)

/-- A call that raises does so for one of the records, and leaves the file. -/
structure PromptRegistry.Raises (registry : PromptRegistry)
    (g : String → Except (Failed Exc (Option PromptEntry)) (Option PromptEntry)) (left : PromptRegistry) : Prop where
  sound : left.Sound
  file : left.file = registry.file
  raised : ∃ p failed, g p = .error failed
  records : ∀ p, left.entryNamed p = leaves (g p)

theorem rel_same_refl (record : Option PromptEntry) : Option.Rel PromptEntry.Same record record := by
  rcases record with _ | e
  · exact Option.Rel.none
  · exact Option.Rel.some (PromptEntry.Same.refl e)

/-- **A save** of a sound state. -/
theorem returns_saveRegistry {g : String → Except (Failed Exc (Option PromptEntry)) (Option PromptEntry)}
    {Q : PromptRegistry → Prop} {state : PromptServiceState} (file : Option Value) (hs : state.Sound)
    (hg : ∀ p, g p = .ok (state.promptServices.find? fun entry => entry.promptId = p)) :
    Ends (saveRegistry now file state) (registry.Returns PromptEntry.Same g) Q := by
  obtain ⟨saved, hok, hsound, hpersisted, hsame⟩ := exists_saveRegistry now file hs
  rw [hok]
  refine Ends.ok ⟨hsound, Or.inl hpersisted, fun p => ⟨_, hg p, ?_⟩⟩
  exact find?_of_forall₂ hsame (fun _ _ hee' => hee'.promptId) p

/-- **A change** of the record of a prompt. -/
theorem follows_change {promptId : Value} {f : PromptEntry → Except (Failed Exc PromptEntry) PromptEntry}
    (hr : registry.Sound)
    (hf : ∀ e, Ends (f e) (fun e' => (e.Sound → e'.Sound) ∧ e'.promptId = e.promptId) e.Adjust) :
    Ends (registry.change now promptId f)
      (registry.Returns PromptEntry.Same fun p => changeRecord promptId p f (registry.entryNamed p))
      (registry.Raises fun p => changeRecord promptId p f (registry.entryNamed p)) := by
  unfold PromptRegistry.change
  rw [findEntry_eq hr]
  rcases hfind : registry.entryNamed promptId.normalizeString with _ | found
  · refine Ends.error ⟨hr, rfl, ⟨promptId.normalizeString, ?_⟩, fun p => ?_⟩
    · unfold changeRecord
      rw [if_pos rfl, hfind]
      exact ⟨_, rfl⟩
    · unfold changeRecord
      split
      · next heq => rw [← heq, hfind, leaves_error]
      · rw [leaves_ok]
  · have hmem := ((find?_promptId hr.state.distinct).mp hfind).1
    have hsound := hr.state.entries found hmem
    have hrecord : ∀ p, changeRecord promptId p f (registry.entryNamed p) =
        if promptId.normalizeString = p then some <$> within some (f found) else .ok (registry.entryNamed p) := by
      intro p
      unfold changeRecord
      split
      · next heq => rw [← heq, hfind]
      · rfl
    simp only [hrecord]
    refine Ends.bind (P := fun changed => f found = .ok changed) (Ends.within ⟨fun _ h => h, ?_⟩) ?_
    · intro failed hfailed
      have hadjust := (hf found).of_error failed hfailed
      have hrest := entryNamed_withEntry hr hfind hadjust.agree.promptId
      refine ⟨⟨sound_withEntry hr hfind hadjust.agree.promptId (hadjust.sound hsound), ?_⟩, rfl, ?_, fun p => ?_⟩
      · obtain ⟨stored, hfile, hstored, hagree⟩ := hr.file
        refine ⟨stored, hfile, hstored, ?_⟩
        rw [withEntry_eq_map hr]
        refine Pointwise.trans ?_ hagree fun _ _ _ => PromptEntry.Agree.trans
        refine List.forall₂_map_left_iff.mpr (List.forall₂_same.mpr fun entry hentry => ?_)
        split
        · next heq =>
          have hfound := (find?_promptId hr.state.distinct).mpr ⟨hentry, heq⟩
          obtain rfl := Option.some.inj (hfind.symm.trans hfound)
          exact hadjust.agree.symm
        · exact PromptEntry.Agree.refl entry
      · refine ⟨promptId.normalizeString, ?_⟩
        rw [if_pos rfl, hfailed]
        exact ⟨_, rfl⟩
      · rw [hrest p]
        split
        · rw [leaves_map_within, hfailed, leaves_error]
        · rw [leaves_ok]
    · intro changed _ hchanged
      obtain ⟨hsound', hid⟩ := (hf found).of_ok changed hchanged
      have hstate := sound_withEntry hr hfind hid (hsound' hsound)
      refine returns_saveRegistry registry.file ⟨hstate.entries, hstate.distinct⟩ fun p => ?_
      have hentry := entryNamed_withEntry hr hfind hid p
      rw [PromptRegistry.entryNamed] at hentry
      rw [hentry, hchanged]
      split <;> rfl

/-- What is noted about a prompt. -/
theorem follows_note {promptId : Value} {f : PromptEntry → PromptEntry} {Q : PromptRegistry → Prop}
    (hr : registry.Sound) (hf : ∀ e, (e.Sound → (f e).Sound) ∧ (f e).promptId = e.promptId) :
    Ends (registry.note now promptId f)
      (registry.Returns PromptEntry.Same fun p => .ok (noteRecord promptId p f (registry.entryNamed p))) Q := by
  unfold PromptRegistry.note PromptRegistry.change
  rw [findEntry_eq hr]
  rcases hfind : registry.entryNamed promptId.normalizeString with _ | found
  · refine Ends.ok ⟨hr, Or.inr rfl, fun p => ⟨_, rfl, ?_⟩⟩
    unfold noteRecord
    split
    · next heq =>
      rw [← heq, hfind]
      exact Option.Rel.none
    · exact rel_same_refl _
  · obtain ⟨hsound, hid⟩ := hf found
    have hmem := ((find?_promptId hr.state.distinct).mp hfind).1
    have hstate := sound_withEntry hr hfind hid (hsound (hr.state.entries found hmem))
    rw [if_neg (by simp)]
    dsimp only
    refine Ends.bind (P := fun changed => changed = f found) (Ends.within (Ends.ok rfl)) fun changed _ hchanged => ?_
    rw [hchanged]
    refine returns_saveRegistry registry.file ⟨hstate.entries, hstate.distinct⟩ fun p => ?_
    have hentry := entryNamed_withEntry hr hfind hid p
    rw [PromptRegistry.entryNamed] at hentry
    rw [hentry]
    unfold noteRecord
    split
    · next heq => rw [← heq, hfind, Option.map_some]
    · rfl

/-- A registration: the prompt is new, or it was retired. -/
theorem follows_createPrompt {args : RegistrationArgs} (hr : registry.Sound) :
    Ends (registry.createPrompt now args)
      (registry.Returns PromptEntry.Same fun p => (RegistryCall.create args).onRecord now p (registry.entryNamed p))
      (registry.Raises fun p => (RegistryCall.create args).onRecord now p (registry.entryNamed p)) := by
  simp only [RegistryCall.onRecord]
  unfold PromptRegistry.createPrompt
  rw [findEntry_eq hr]
  split
  · next htaken =>
    refine Ends.error ⟨hr, rfl, ⟨args.promptId.normalizeString, ?_⟩, fun p => ?_⟩
    · rw [if_pos rfl, if_pos htaken]
      exact ⟨_, rfl⟩
    · split
      · next heq => rw [← heq, if_pos htaken, leaves_error]
      · rw [leaves_ok]
  · next hfree =>
    refine Ends.attempt_bind (fun e he => ?_) fun registration hregistration => ?_
    · refine ⟨hr, rfl, ⟨args.promptId.normalizeString, ?_⟩, fun p => ?_⟩
      · rw [if_pos rfl, if_neg hfree, he]
        exact ⟨_, rfl⟩
      · split
        · next heq =>
          rw [← heq, if_neg hfree, he]
          rfl
        · rw [leaves_ok]
    · obtain ⟨hsound, hid, -⟩ := createPromptServiceRegistration_spec hregistration
      obtain ⟨hstate, hfind⟩ := register_spec hr hsound hid
      refine returns_saveRegistry registry.file hstate fun p => ?_
      rw [hfind p]
      split
      · next heq =>
        rw [← heq, if_neg hfree, hregistration]
        rfl
      · rfl

/-- **The migration** of all records. -/
theorem follows_migrate {reason : Value} {Q : PromptRegistry → Prop} (hr : registry.Sound) :
    Ends (registry.migrateAllToReviewDue now reason) (registry.Returns PromptEntry.Same fun p =>
      .ok ((registry.entryNamed p).map (PromptRegistry.migrateEntry now reason))) Q := by
  unfold PromptRegistry.migrateAllToReviewDue
  have hid : ∀ entry, (PromptRegistry.migrateEntry now reason entry).promptId = entry.promptId := fun entry =>
    (edit_migrateEntry reason entry).keeps.promptId
  refine returns_saveRegistry registry.file (sound_map hr.state rfl fun entry hentry =>
    ⟨(edit_migrateEntry reason entry).sound (hr.state.entries entry hentry), hid entry⟩) fun p => ?_
  rw [find?_map fun entry _ => hid entry, PromptRegistry.entryNamed]

/-- A registry that is started again has the records of its file. -/
theorem follows_reload {Q : PromptRegistry → Prop} (hr : registry.Sound) :
    Ends (attempt registry (startRegistry now registry.file))
      (registry.Returns PromptEntry.Agree fun p => .ok (registry.entryNamed p)) Q := by
  obtain ⟨stored, hfile, hstored, hagree⟩ := hr.file
  obtain ⟨registry', hok, hsound, hpersisted, hsame⟩ := exists_startRegistry now hstored
  rw [hfile, hok]
  refine Ends.ok ⟨hsound, Or.inl hpersisted, fun p => ⟨_, rfl, ?_⟩⟩
  exact find?_of_forall₂ (Pointwise.trans hagree hsame fun _ _ _ h h' => h.trans h'.agree)
    (fun _ _ hee' => hee'.promptId) p

theorem sound_authorized {allowed : Bool} {reason : Value} {usedAt : String} (h : entry.Sound) :
    (entry.authorized allowed reason usedAt).Sound := by
  refine { h with counts := ?_ }
  unfold PromptEntry.authorized
  split <;> exact h.counts

theorem sound_executed {status recordedAt : String} {errorCode : Value} (h : entry.Sound) :
    (entry.executed status recordedAt errorCode).Sound := by
  refine { h with counts := ?_ }
  have hcounts := h.counts
  unfold PromptEntry.executed
  dsimp only
  split <;> dsimp only <;> omega

/-- **Every call** changes the record of each prompt as if the registry held no other, and it raises only for one of
them. -/
theorem call_follows (hr : registry.Sound) (now : Timestamp) (call : RegistryCall) :
    Ends (registry.call now call)
      (registry.Returns call.UpTo fun p => call.onRecord now p (registry.entryNamed p))
      (registry.Raises fun p => call.onRecord now p (registry.entryNamed p)) := by
  have hchange : ∀ {promptId : Value} {f : PromptEntry → Except (Failed Exc PromptEntry) PromptEntry},
      (∀ e, Ends (f e) e.Edit e.Adjust) → Ends (registry.change now promptId f)
        (registry.Returns PromptEntry.Same fun p => changeRecord promptId p f (registry.entryNamed p))
        (registry.Raises fun p => changeRecord promptId p f (registry.entryNamed p)) :=
    fun hf => follows_change hr fun e => (hf e).imp (fun _ he => ⟨he.sound, he.keeps.promptId⟩) fun _ he => he
  cases call with
  | create args =>
    simp only [PromptRegistry.call, RegistryCall.UpTo]
    exact follows_createPrompt hr
  | update promptId args =>
    simp only [PromptRegistry.call, RegistryCall.UpTo, RegistryCall.onRecord]
    exact hchange fun e => edit_updatePromptServiceDefinition e args
  | review promptId reviewedBy reviewReason state =>
    simp only [PromptRegistry.call, RegistryCall.UpTo, RegistryCall.onRecord]
    exact hchange fun e => edit_recordPromptReview e reviewedBy reviewReason state
  | transition promptId state reason =>
    simp only [PromptRegistry.call, RegistryCall.UpTo, RegistryCall.onRecord]
    exact hchange fun e => edit_transitionPromptLifecycle e state reason
  | probation promptId action reason =>
    simp only [PromptRegistry.call, RegistryCall.UpTo, RegistryCall.onRecord]
    exact hchange fun e => edit_applyProbationTransition e action reason
  | migrate reason =>
    simp only [PromptRegistry.call, RegistryCall.UpTo, RegistryCall.onRecord]
    exact follows_migrate hr
  | recordAuthorization promptId allowed reason usedAt =>
    simp only [PromptRegistry.call, RegistryCall.UpTo, RegistryCall.onRecord]
    exact follows_note hr fun e => ⟨sound_authorized, rfl⟩
  | recordExecution promptId status recordedAt errorCode =>
    simp only [PromptRegistry.call, RegistryCall.UpTo, RegistryCall.onRecord]
    exact follows_note hr fun e => ⟨sound_executed, rfl⟩
  | save =>
    simp only [PromptRegistry.call, RegistryCall.UpTo, RegistryCall.onRecord]
    exact returns_saveRegistry registry.file hr.state fun p => rfl
  | reload =>
    simp only [PromptRegistry.call, RegistryCall.UpTo, RegistryCall.onRecord]
    exact follows_reload hr

end Prompts
end HexeAiNode
