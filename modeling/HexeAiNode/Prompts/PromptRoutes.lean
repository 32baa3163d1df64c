import HexeAiNode.Prompts.RegistryRuns

/-!
# The prompt routes

A service that has been authorized registers prompts and changes them, through routes that compare the subject of its
token with the owners of the prompt.  The node records what happens to a prompt, saves and starts again, between the
requests.

* `single_owner`: a prompt that services have registered has one owner, the service that registered it.
* `prompt_isolation`: the requests of other services do not change it, whatever else they register or change.
-/

namespace HexeAiNode
namespace Prompts

open Py Governance Execution Raising

/-! ## The source functions -/

/-- What a route answers that does not serve the request, or the exception that it does not catch. -/
inductive Refusal where
  | response (statusCode : ℕ) (detail : String)
  | raised (e : Exc)

/-- The body of a registration. -/
structure PromptServiceRegisterRequest where
  promptId : String
  serviceId : String
  taskFamily : String
  promptName : Option String := none
  ownerService : Option String := none
  ownerClientId : Option String := none
  privacyClass : String := "internal"
  accessScope : String := "service"
  allowedServices : Value := .null
  allowedClients : Value := .null
  allowedCustomers : Value := .null
  executionPolicy : Value := .null
  providerPreferences : Value := .null
  constraints : Value := .null
  definition : Value := .null
  outputContract : Value := .null
  benchmark : Value := .null
  version : Option String := none
  status : String := "active"
  metadata : Value := .null

/-- The body of an update. -/
structure PromptServiceUpdateRequest where
  promptName : Option String := none
  ownerService : Option String := none
  ownerClientId : Option String := none
  taskFamily : Option String := none
  privacyClass : Option String := none
  accessScope : Option String := none
  allowedServices : Value := .null
  allowedClients : Value := .null
  allowedCustomers : Value := .null
  executionPolicy : Value := .null
  providerPreferences : Value := .null
  constraints : Value := .null
  definition : Value := .null
  outputContract : Value := .null
  benchmark : Value := .null
  version : Option String := none
  metadata : Value := .null

/-- A request for the prompts. -/
inductive PromptRequest where
  | register (payload : PromptServiceRegisterRequest)
  | update (promptId : String) (payload : PromptServiceUpdateRequest)
  | lifecycle (promptId state : String) (reason : Option String)
  | probation (promptId action : String) (reason : Option String)
  | review (promptId : String) (reviewedBy reviewReason state : Option String)

/-- `_metadata_with_v2_contracts`. -/
def metadataWithV2Contracts (metadata outputContract benchmark : Value) : Value :=
  let merged := metadata.asDict
  let merged := if outputContract.isDict then Dict.set merged "output_contract" outputContract else merged
  let merged := if benchmark.isDict then Dict.set merged "benchmark" benchmark else merged
  if merged.isEmpty then .null else .dict merged

/-- `_service_subject`. -/
def serviceSubject (claims : Dict) : String := (claims.get "sub").normalizeString

/-- The owners that `_require_prompt_owner` accepts. -/
def PromptEntry.owners (entry : PromptEntry) : List String :=
  [strip (entry.ownerClientId.getD ""),
    strip (if entry.ownerService ≠ "" then entry.ownerService else entry.serviceId)]

/-- An owner that is named is another service. -/
def namesOther (owner : Option String) (subject : String) : Bool := owner.any (· ≠ subject)

/-- `register_prompt_service`, for a service. -/
def PromptServiceRegisterRequest.args (payload : PromptServiceRegisterRequest) (subject : String) :
    RegistrationArgs where
  promptId := .str payload.promptId
  serviceId := .str payload.serviceId
  taskFamily := .str payload.taskFamily
  metadata := metadataWithV2Contracts payload.metadata payload.outputContract payload.benchmark
  promptName := optStr payload.promptName
  ownerService := .str subject
  ownerClientId := .str subject
  privacyClass := .str payload.privacyClass
  accessScope := .str payload.accessScope
  allowedServices := payload.allowedServices
  allowedClients := payload.allowedClients
  allowedCustomers := payload.allowedCustomers
  executionPolicy := payload.executionPolicy
  providerPreferences := payload.providerPreferences
  constraints := payload.constraints
  definition := payload.definition
  version := optStr payload.version
  status := .str payload.status

/-- `update_prompt_service`. -/
def PromptServiceUpdateRequest.args (payload : PromptServiceUpdateRequest) : UpdateArgs where
  promptName := optStr payload.promptName
  ownerService := optStr payload.ownerService
  ownerClientId := optStr payload.ownerClientId
  taskFamily := optStr payload.taskFamily
  privacyClass := optStr payload.privacyClass
  accessScope := optStr payload.accessScope
  allowedServices := payload.allowedServices
  allowedClients := payload.allowedClients
  allowedCustomers := payload.allowedCustomers
  executionPolicy := payload.executionPolicy
  providerPreferences := payload.providerPreferences
  constraints := payload.constraints
  metadata := metadataWithV2Contracts payload.metadata payload.outputContract payload.benchmark
  definition := payload.definition
  version := optStr payload.version

/-- `except ValueError`. -/
def refusalOf (e : Exc) : Refusal := if e.isValueError then .response 400 e.text else .raised e

/-- A call of the registry in a route. -/
def routeCall (registry : PromptRegistry) (now : Timestamp) (call : RegistryCall) :
    Except (Failed Refusal PromptRegistry) PromptRegistry :=
  match registry.call now call with
  | .ok registry' => .ok registry'
  | .error failed => .error ⟨refusalOf failed.error, failed.left⟩

/-- `_require_prompt_owner` for the prompt of the path. -/
def requirePromptOwner (registry : PromptRegistry) (promptId subject : String) :
    Except (Failed Refusal PromptRegistry) Unit :=
  match findEntry registry.state (.str promptId) with
  | none => .error ⟨.response 400 "prompt_id is not registered", registry⟩
  | some entry =>
    if subject ∈ entry.owners then .ok () else .error ⟨.response 403 "prompt_owner_mismatch", registry⟩

/-- The routes, for a service with such claims. -/
def PromptRegistry.serve (registry : PromptRegistry) (now : Timestamp) (claims : Dict) :
    PromptRequest → Except (Failed Refusal PromptRegistry) PromptRegistry
  | .register payload =>
    let subject := serviceSubject claims
    if payload.serviceId ≠ subject ∨ namesOther payload.ownerService subject = true ∨
        namesOther payload.ownerClientId subject = true then
      .error ⟨.response 403 "prompt_owner_mismatch", registry⟩
    else routeCall registry now (.create (payload.args subject))
  | .update promptId payload => do
    let subject := serviceSubject claims
    requirePromptOwner registry promptId subject
    if namesOther payload.ownerService subject = true ∨ namesOther payload.ownerClientId subject = true then
      .error ⟨.response 403 "prompt_owner_mismatch", registry⟩
    else routeCall registry now (.update (.str promptId) payload.args)
  | .lifecycle promptId state reason => do
    requirePromptOwner registry promptId (serviceSubject claims)
    routeCall registry now (.transition (.str promptId) (.str state) (optStr reason))
  | .probation promptId action reason => do
    requirePromptOwner registry promptId (serviceSubject claims)
    routeCall registry now (.probation (.str promptId) (.str action) (optStr reason))
  | .review promptId reviewedBy reviewReason state => do
    requirePromptOwner registry promptId (serviceSubject claims)
    routeCall registry now (.review (.str promptId) (optStr reviewedBy) (optStr reviewReason) (optStr state))

/-! ## Runs -/

/-- A call that the node makes of itself. -/
def RegistryCall.Own : RegistryCall → Prop
  | .recordAuthorization .. => True
  | .recordExecution .. => True
  | .save => True
  | .reload => True
  | _ => False

/-- What happens to the registry: a service sends a request, or the node makes a call. -/
inductive PromptEvent where
  | request (claims : Dict) (request : PromptRequest)
  | call (call : RegistryCall) (own : call.Own)

/-- The registry after an event, whether the request is refused or not. -/
def PromptRegistry.handle (registry : PromptRegistry) (event : Timestamp × PromptEvent) : PromptRegistry :=
  match event.2 with
  | .request claims request => leaves (registry.serve event.1 claims request)
  | .call call _ => registry.step (event.1, call)

/-- The events, one after the other. -/
def PromptRegistry.handleAll (registry : PromptRegistry) (events : List (Timestamp × PromptEvent)) : PromptRegistry :=
  Run.after PromptRegistry.handle registry events

variable {now start : Timestamp} {registry registry' first : PromptRegistry} {entry : PromptEntry}
  {events : List (Timestamp × PromptEvent)}

/-! ## Requests that are served -/

/-- The calls of the registry that a service may cause. -/
inductive RegistryCall.Permitted (registry : PromptRegistry) (subject : String) : RegistryCall → Prop
  | create {payload : PromptServiceRegisterRequest} (hservice : payload.serviceId = subject) :
    Permitted registry subject (.create (payload.args subject))
  | update {promptId : String} {payload : PromptServiceUpdateRequest} {found : PromptEntry}
    (hfind : findEntry registry.state (.str promptId) = some found) (howner : subject ∈ found.owners)
    (hservice : namesOther payload.ownerService subject = false)
    (hclient : namesOther payload.ownerClientId subject = false) :
    Permitted registry subject (.update (.str promptId) payload.args)
  | transition {promptId : String} {state reason : Value} {found : PromptEntry}
    (hfind : findEntry registry.state (.str promptId) = some found) (howner : subject ∈ found.owners) :
    Permitted registry subject (.transition (.str promptId) state reason)
  | probation {promptId : String} {action reason : Value} {found : PromptEntry}
    (hfind : findEntry registry.state (.str promptId) = some found) (howner : subject ∈ found.owners) :
    Permitted registry subject (.probation (.str promptId) action reason)
  | review {promptId : String} {reviewedBy reviewReason state : Value} {found : PromptEntry}
    (hfind : findEntry registry.state (.str promptId) = some found) (howner : subject ∈ found.owners) :
    Permitted registry subject (.review (.str promptId) reviewedBy reviewReason state)

theorem leaves_routeCall (registry : PromptRegistry) (now : Timestamp) (call : RegistryCall) :
    leaves (routeCall registry now call) = registry.step (now, call) := by
  unfold routeCall PromptRegistry.step
  dsimp only
  split
  · next h => rw [h, leaves_ok, leaves_ok]
  · next h => rw [h, leaves_error, leaves_error]

/-- The routes on a prompt, after its owner is required. -/
theorem leaves_requirePromptOwner (registry : PromptRegistry) (promptId subject : String)
    {f : Unit → Except (Failed Refusal PromptRegistry) PromptRegistry} :
    leaves (requirePromptOwner registry promptId subject >>= f) = registry ∨
      ∃ found, findEntry registry.state (.str promptId) = some found ∧ subject ∈ found.owners ∧
        leaves (requirePromptOwner registry promptId subject >>= f) = leaves (f ()) := by
  unfold requirePromptOwner
  rcases hfind : findEntry registry.state (.str promptId) with _ | found
  · exact Or.inl rfl
  · dsimp only
    split
    · next howner => exact Or.inr ⟨found, rfl, howner, rfl⟩
    · exact Or.inl rfl

/-- **A request** is refused, or it is a call that the service may cause. -/
theorem serve_cases (registry : PromptRegistry) (now : Timestamp) (claims : Dict) (request : PromptRequest) :
    leaves (registry.serve now claims request) = registry ∨ ∃ call, call.Permitted registry (serviceSubject claims) ∧
      leaves (registry.serve now claims request) = registry.step (now, call) := by
  cases request with
  | register payload =>
    simp only [PromptRegistry.serve]
    split
    · exact Or.inl rfl
    · next hnone =>
      have hservice : payload.serviceId = serviceSubject claims := by
        by_contra hne
        exact hnone (Or.inl hne)
      exact Or.inr ⟨_, .create hservice, leaves_routeCall registry now _⟩
  | update promptId payload =>
    simp only [PromptRegistry.serve]
    rcases leaves_requirePromptOwner registry promptId (serviceSubject claims) with h | ⟨found, hfind, howner, h⟩
    · exact Or.inl h
    · rw [h]
      split
      · exact Or.inl rfl
      · next hnone =>
        rw [not_or, Bool.not_eq_true, Bool.not_eq_true] at hnone
        exact Or.inr ⟨_, .update hfind howner hnone.1 hnone.2, leaves_routeCall registry now _⟩
  | lifecycle promptId state reason =>
    simp only [PromptRegistry.serve]
    rcases leaves_requirePromptOwner registry promptId (serviceSubject claims) with h | ⟨found, hfind, howner, h⟩
    · exact Or.inl h
    · exact Or.inr ⟨_, .transition hfind howner, h.trans (leaves_routeCall registry now _)⟩
  | probation promptId action reason =>
    simp only [PromptRegistry.serve]
    rcases leaves_requirePromptOwner registry promptId (serviceSubject claims) with h | ⟨found, hfind, howner, h⟩
    · exact Or.inl h
    · exact Or.inr ⟨_, .probation hfind howner, h.trans (leaves_routeCall registry now _)⟩
  | review promptId reviewedBy reviewReason state =>
    simp only [PromptRegistry.serve]
    rcases leaves_requirePromptOwner registry promptId (serviceSubject claims) with h | ⟨found, hfind, howner, h⟩
    · exact Or.inl h
    · exact Or.inr ⟨_, .review hfind howner, h.trans (leaves_routeCall registry now _)⟩

/-- **An event** changes nothing, or it is a call: one that its service may cause, or one of the node. -/
theorem handle_cases (registry : PromptRegistry) (now : Timestamp) (event : PromptEvent) :
    registry.handle (now, event) = registry ∨ ∃ call, registry.handle (now, event) = registry.step (now, call) ∧
      match event with
      | .request claims _ => call.Permitted registry (serviceSubject claims)
      | .call _ _ => call.Own := by
  cases event with
  | request claims request =>
    rcases serve_cases registry now claims request with hrefused | ⟨call, hcall, hserved⟩
    · exact Or.inl hrefused
    · exact Or.inr ⟨call, hserved, hcall⟩
  | call call hown => exact Or.inr ⟨call, rfl, hown⟩

/-! ## What holds of the records, in memory and in the file -/

/-- Every record is in `P`, in memory and in the file. -/
structure PromptRegistry.Holds (P : PromptEntry → Prop) (registry : PromptRegistry) : Prop where
  sound : registry.Sound
  memory : ∀ e ∈ registry.state.promptServices, P e
  file : ∃ stored : PromptServiceState, registry.file = some stored.toValue.sortKeys ∧ stored.Sound ∧
    ∀ e ∈ stored.promptServices, P e

/-- What holds of each record, as far as a save can tell, holds of related lists. -/
theorem forall_of_same {P : PromptEntry → Prop} (hP : ∀ e e', P e → e.Same e' → P e') {l m : List PromptEntry}
    (h : List.Forall₂ PromptEntry.Same l m) (hl : ∀ e ∈ l, P e) : ∀ e ∈ m, P e := by
  intro e' he'
  obtain ⟨e, he, hsame⟩ := Pointwise.exists_of_mem_right h he'
  exact hP e e' (hl e he) hsame

/-- **A call** that keeps `P` of each record keeps it in memory and in the file. -/
theorem holds_step {P : PromptEntry → Prop} (hP : ∀ e e', P e → e.Same e' → P e') (h : registry.Holds P)
    {call : RegistryCall}
    (hcall : ∀ p e, leaves (call.onRecord now p (registry.entryNamed p)) = some e → e.promptId = p → P e) :
    (registry.step (now, call)).Holds P := by
  obtain ⟨stored, hfile, hstored, hPstored⟩ := h.file
  have hfollows := call_follows h.sound now call
  -- a restart takes the records of the file
  by_cases hreload : call = .reload
  · subst hreload
    obtain ⟨registry', hok, hsound, ⟨stored', hfile', hstored', hsame'⟩, hread⟩ := exists_startRegistry now hstored
    have hstep : registry.step (now, .reload) = registry' := by
      unfold PromptRegistry.step PromptRegistry.call
      dsimp only
      rw [hfile, hok]
      rfl
    rw [hstep]
    have hmemory := forall_of_same hP hread hPstored
    exact ⟨hsound, hmemory, stored', hfile', hstored', forall_of_same hP hsame' hmemory⟩
  have hupTo : call.UpTo = PromptEntry.Same := by
    cases call with
    | reload => exact absurd rfl hreload
    | _ => rfl
  rcases hresult : registry.call now call with failed | registry'
  · have hraises := hfollows.of_error failed hresult
    have hstep : registry.step (now, call) = failed.left := by
      rw [PromptRegistry.step, hresult, leaves_error]
    rw [hstep]
    refine ⟨hraises.sound, fun e he => ?_, stored, hraises.file.trans hfile, hstored, hPstored⟩
    refine hcall e.promptId e ?_ rfl
    rw [← hraises.records e.promptId]
    exact (find?_promptId hraises.sound.state.distinct).mpr ⟨he, rfl⟩
  · have hreturns := hfollows.of_ok registry' hresult
    have hstep : registry.step (now, call) = registry' := by
      rw [PromptRegistry.step, hresult, leaves_ok]
    rw [hstep]
    have hmemory : ∀ e ∈ registry'.state.promptServices, P e := by
      intro e he
      obtain ⟨record, hrecord, hrel⟩ := hreturns.records e.promptId
      rw [hupTo, PromptRegistry.entryNamed, (find?_promptId hreturns.sound.state.distinct).mpr ⟨he, rfl⟩] at hrel
      cases hrel with
      | some hsame =>
        refine hP _ e (hcall e.promptId _ ?_ hsame.promptId.symm) hsame
        rw [hrecord, leaves_ok]
    rcases hreturns.saved with ⟨stored', hfile', hstored', hsame'⟩ | rfl
    · exact ⟨hreturns.sound, hmemory, stored', hfile', hstored', forall_of_same hP hsame' hmemory⟩
    · exact h

theorem mem_of_entryNamed {p : String} (h : registry.entryNamed p = some entry) :
    entry ∈ registry.state.promptServices ∧ entry.promptId = p :=
  ⟨List.mem_of_find?_eq_some h, by simpa using List.find?_some h⟩

theorem forall_changeRecord {P : PromptEntry → Prop} {promptId : Value} {p : String}
    {f : PromptEntry → Except (Failed Exc PromptEntry) PromptEntry} {record : Option PromptEntry}
    (hrecord : ∀ e, record = some e → P e)
    (hf : promptId.normalizeString = p → ∀ e, record = some e → P (leaves (f e))) :
    ∀ e, leaves (changeRecord promptId p f record) = some e → P e := by
  intro e' he'
  unfold changeRecord at he'
  split at he'
  · next heq =>
    rcases record with _ | e
    · cases he'
    · dsimp only at he'
      rw [leaves_map_within] at he'
      exact Option.some.inj he' ▸ hf heq e rfl
  · exact hrecord e' he'

theorem forall_noteRecord {P : PromptEntry → Prop} {promptId : Value} {p : String} {f : PromptEntry → PromptEntry}
    {record : Option PromptEntry} (hrecord : ∀ e, record = some e → P e) (hf : ∀ e, P e → P (f e)) :
    ∀ e, noteRecord promptId p f record = some e → P e := by
  intro e' he'
  unfold noteRecord at he'
  split at he'
  · obtain ⟨e, he, rfl⟩ := Option.map_eq_some_iff.mp he'
    exact hf e (hrecord e he)
  · exact hrecord e' he'

/-- A call of the node itself writes nothing but usage. -/
theorem holds_own {P : PromptEntry → Prop} (hP : ∀ e e', P e → e.Same e' → P e')
    (husage : ∀ e usage updatedAt, P e → P { e with usage := usage, updatedAt := updatedAt }) (h : registry.Holds P)
    {call : RegistryCall} (hown : call.Own) : (registry.step (now, call)).Holds P := by
  refine holds_step hP h fun p e he _ => ?_
  have hmemory : ∀ e, registry.entryNamed p = some e → P e := fun e he => h.memory e (mem_of_entryNamed he).1
  cases call with
  | recordAuthorization promptId allowed reason usedAt =>
    simp only [RegistryCall.onRecord, leaves_ok] at he
    refine forall_noteRecord hmemory (fun e he => ?_) e he
    unfold PromptEntry.authorized
    exact husage e _ usedAt he
  | recordExecution promptId status recordedAt errorCode =>
    simp only [RegistryCall.onRecord, leaves_ok] at he
    refine forall_noteRecord hmemory (fun e he => ?_) e he
    unfold PromptEntry.executed
    split
    · exact husage e _ recordedAt he
    · exact husage e _ recordedAt he
  | save => exact hmemory e he
  | reload => exact hmemory e he
  | _ => exact hown.elim

/-! ## One owner -/

/-- The service is the one owner of the prompt. -/
structure PromptEntry.OwnedBy (service : String) (entry : PromptEntry) : Prop where
  serviceId : entry.serviceId = service
  ownerService : entry.ownerService = service
  ownerClientId : entry.ownerClientId = some service

theorem PromptEntry.OwnedBy.of_same {service : String} {e e' : PromptEntry} (h : e.OwnedBy service)
    (hsame : e.Same e') : e'.OwnedBy service :=
  ⟨hsame.serviceId.trans h.serviceId, hsame.ownerService.trans h.ownerService,
    hsame.ownerClientId.trans h.ownerClientId⟩

/-- The only one who is accepted as the owner. -/
theorem eq_of_mem_owners {service subject : String} (h : entry.OwnedBy service) (hservice : Clean service)
    (howner : subject ∈ entry.owners) : subject = service := by
  unfold PromptEntry.owners at howner
  rw [h.ownerService, h.ownerClientId, Option.getD_some, if_pos hservice.ne_empty, hservice.strip_eq] at howner
  simpa using howner

/-- The owner that an update names, where the route serves it. -/
theorem optStr_of_not_namesOther {owner : Option String} {subject : String} (h : namesOther owner subject = false)
    (hgiven : ¬(optStr owner).isNull) : optStr owner = .str subject := by
  rcases owner with _ | s
  · exact absurd rfl hgiven
  · have hs : s = subject := by simpa [namesOther] using h
    rw [hs]
    rfl

theorem ownedBy_registration {payload : PromptServiceRegisterRequest} {subject : String}
    (hservice : payload.serviceId = subject)
    (h : createPromptServiceRegistration now (payload.args subject) = .ok entry) : entry.OwnedBy (strip subject) := by
  obtain ⟨prompt, -, h⟩ := bind_eq_ok.mp h
  obtain ⟨service, hid, h⟩ := bind_eq_ok.mp h
  obtain ⟨task, -, h⟩ := bind_eq_ok.mp h
  obtain ⟨versionValue, -, h⟩ := bind_eq_ok.mp h
  obtain ⟨lifecycleState, -, h⟩ := bind_eq_ok.mp h
  obtain ⟨accessPolicy, hpolicy, h⟩ := bind_eq_ok.mp h
  obtain ⟨versionEntry, -, h⟩ := bind_eq_ok.mp h
  obtain ⟨privacyClass, -, h⟩ := bind_eq_ok.mp h
  obtain ⟨constraints, -, h⟩ := bind_eq_ok.mp h
  obtain ⟨scope, -, hpolicy⟩ := bind_eq_ok.mp hpolicy
  obtain rfl := Except.ok.inj hpolicy
  obtain rfl := Except.ok.inj h
  obtain ⟨hclean, hname⟩ := clean_nonEmpty hid
  have hservice' : service = strip subject := by
    rw [hname, ← hservice]
    exact Value.normalizeString_str payload.serviceId
  have howner : optionalString (.str subject) = some (strip subject) := by
    unfold optionalString
    dsimp only
    rw [Value.normalizeString_str, if_neg (hservice' ▸ hclean.ne_empty)]
  constructor <;> dsimp only [PromptServiceRegisterRequest.args]
  · exact hservice'
  · rw [howner, Option.getD_some]
  · exact howner

section Owned

variable {service : String}

theorem owned_setGiven {α : Type} {value : Value} {normalize : Value → Except Exc α} {set : α → PromptEntry}
    (h : entry.OwnedBy service) (hset : ∀ a, ¬value.isNull → normalize value = .ok a → (set a).OwnedBy service) :
    Ends (setGiven value entry normalize set) (PromptEntry.OwnedBy service) (PromptEntry.OwnedBy service) := by
  unfold setGiven
  split
  · exact Ends.ok h
  · next hgiven =>
    refine Ends.map ?_
    exact Ends.attempt (fun a => hset a hgiven) fun _ _ => h

theorem owned_updateAccess {args : UpdateArgs} (h : entry.OwnedBy service) :
    Ends (updateAccess entry args) (PromptEntry.OwnedBy service) (PromptEntry.OwnedBy service) := by
  unfold updateAccess
  split
  · exact Ends.ok h
  · exact Ends.attempt_bind (fun _ _ => h) fun policy _ => Ends.ok ⟨h.serviceId, h.ownerService, h.ownerClientId⟩

theorem owned_addVersion {args : UpdateArgs} (h : entry.OwnedBy service) :
    Ends (addVersion now entry args) (PromptEntry.OwnedBy service) (PromptEntry.OwnedBy service) := by
  unfold addVersion
  split
  · exact Ends.ok h
  · exact Ends.attempt_bind (fun _ _ => h) fun added _ => Ends.ok ⟨h.serviceId, h.ownerService, h.ownerClientId⟩

/-- **An update** by the owner leaves it the owner, also when it raises. -/
theorem owned_update {payload : PromptServiceUpdateRequest} (hclean : Clean service) (h : entry.OwnedBy service)
    (hservice : namesOther payload.ownerService service = false)
    (hclient : namesOther payload.ownerClientId service = false) :
    Ends (updatePromptServiceDefinition now entry payload.args) (PromptEntry.OwnedBy service)
      (PromptEntry.OwnedBy service) := by
  unfold updatePromptServiceDefinition
  refine Ends.bind (owned_setGiven h fun task _ _ => ⟨h.1, h.2, h.3⟩) fun e₁ _ h₁ => ?_
  refine Ends.bind (owned_setGiven h₁ fun name _ _ => ⟨h₁.1, h₁.2, h₁.3⟩) fun e₂ _ h₂ => ?_
  refine Ends.bind (owned_setGiven h₂ fun owner hgiven howner => ⟨h₂.1, ?_, h₂.3⟩) fun e₃ _ h₃ => ?_
  · have hvalue : payload.args.ownerService = .str service := optStr_of_not_namesOther hservice hgiven
    rw [hvalue] at howner
    exact (clean_nonEmpty howner).2.trans ((Value.normalizeString_str service).trans hclean.strip_eq)
  refine Ends.bind (owned_setGiven h₃ fun owner hgiven howner => ⟨h₃.1, h₃.2, ?_⟩) fun e₄ _ h₄ => ?_
  · have hvalue : payload.args.ownerClientId = .str service := optStr_of_not_namesOther hclient hgiven
    rw [hvalue, optionalString_str hclean] at howner
    exact (Except.ok.inj howner).symm
  refine Ends.bind (owned_setGiven h₄ fun privacyClass _ _ => ⟨h₄.1, h₄.2, h₄.3⟩) fun e₅ _ h₅ => ?_
  refine Ends.bind (owned_updateAccess h₅) fun e₆ _ h₆ => ?_
  refine Ends.bind (owned_setGiven h₆ fun policy _ _ => ⟨h₆.1, h₆.2, h₆.3⟩) fun e₇ _ h₇ => ?_
  refine Ends.bind (owned_setGiven h₇ fun preferences _ _ => ⟨h₇.1, h₇.2, h₇.3⟩) fun e₈ _ h₈ => ?_
  refine Ends.bind (owned_setGiven h₈ fun constraints _ _ => ⟨h₈.1, h₈.2, h₈.3⟩) fun e₉ _ h₉ => ?_
  refine Ends.bind (owned_setGiven h₉ fun metadata _ _ => ⟨h₉.1, h₉.2, h₉.3⟩) fun e₁₀ _ h₁₀ => ?_
  refine Ends.bind (owned_addVersion h₁₀) fun e₁₁ _ h₁₁ => ?_
  exact Ends.ok ⟨h₁₁.1, h₁₁.2, h₁₁.3⟩

theorem owned_transition (h : entry.OwnedBy service) (state reason : Value) :
    Ends (transitionPromptLifecycle now entry state reason) (PromptEntry.OwnedBy service)
      (PromptEntry.OwnedBy service) := by
  unfold transitionPromptLifecycle
  refine Ends.attempt_bind (fun _ _ => h) fun next _ => Ends.ok ?_
  unfold PromptEntry.moveTo
  split
  · exact h
  · exact ⟨h.serviceId, h.ownerService, h.ownerClientId⟩

theorem owned_probation (h : entry.OwnedBy service) (action reason : Value) :
    Ends (applyProbationTransition now entry action reason) (PromptEntry.OwnedBy service)
      (PromptEntry.OwnedBy service) := by
  unfold applyProbationTransition
  dsimp only
  split
  · exact owned_transition h _ _
  · split
    · exact owned_transition h _ _
    · exact Ends.error h

theorem owned_review (h : entry.OwnedBy service) (reviewedBy reviewReason state : Value) :
    Ends (recordPromptReview now entry reviewedBy reviewReason state) (PromptEntry.OwnedBy service)
      (PromptEntry.OwnedBy service) := by
  unfold recordPromptReview
  dsimp only
  generalize (optionalString reviewReason).getD "manual_review" = reason
  have hreviewed : (entry.reviewed now reviewedBy reason).OwnedBy service :=
    ⟨h.serviceId, h.ownerService, h.ownerClientId⟩
  split
  · exact Ends.ok hreviewed
  · refine Ends.bind (owned_transition hreviewed _ _) fun moved _ hmoved => Ends.ok ?_
    exact ⟨hmoved.serviceId, hmoved.ownerService, hmoved.ownerClientId⟩

end Owned

/-- The service that has registered the prompt is its one owner. -/
def PromptEntry.SingleOwner (entry : PromptEntry) : Prop := entry.OwnedBy entry.serviceId

theorem PromptEntry.OwnedBy.single {service : String} (h : entry.OwnedBy service) : entry.SingleOwner := by
  unfold PromptEntry.SingleOwner
  rw [h.serviceId]
  exact h

theorem PromptEntry.SingleOwner.of_same {e e' : PromptEntry} (h : e.SingleOwner) (hsame : e.Same e') :
    e'.SingleOwner :=
  (PromptEntry.OwnedBy.of_same h hsame).single

/-- What a service does to a prompt that it owns. -/
theorem single_change {promptId : String} {subject p : String} {found : PromptEntry}
    {f : PromptEntry → Except (Failed Exc PromptEntry) PromptEntry} (h : registry.Holds PromptEntry.SingleOwner)
    (hfind : findEntry registry.state (.str promptId) = some found) (howner : subject ∈ found.owners)
    (hf : Clean subject → ∀ e, e.OwnedBy subject →
      Ends (f e) (PromptEntry.OwnedBy subject) (PromptEntry.OwnedBy subject)) :
    ∀ e, leaves (changeRecord (.str promptId) p f (registry.entryNamed p)) = some e → e.SingleOwner := by
  rw [findEntry_eq h.sound] at hfind
  obtain ⟨hmem, -⟩ := mem_of_entryNamed hfind
  have hclean := (h.sound.state.entries found hmem).serviceId
  obtain rfl := eq_of_mem_owners (h.memory found hmem) hclean howner
  refine forall_changeRecord (fun e he => h.memory e (mem_of_entryNamed he).1) fun heq e he => ?_
  rw [← heq, hfind] at he
  obtain rfl := Option.some.inj he
  exact (hf hclean found (h.memory found hmem)).leaves (fun _ he' => he'.single) fun _ he' => he'.single

/-- **A call that a service may cause** leaves every prompt with one owner. -/
theorem single_permitted {subject : String} {call : RegistryCall} (h : registry.Holds PromptEntry.SingleOwner)
    (hcall : call.Permitted registry subject) : (registry.step (now, call)).Holds PromptEntry.SingleOwner := by
  refine holds_step (fun _ _ => PromptEntry.SingleOwner.of_same) h fun p e he _ => ?_
  cases hcall with
  | @create payload hservice =>
    simp only [RegistryCall.onRecord] at he
    split at he
    · split at he
      · exact h.memory e (mem_of_entryNamed he).1
      · rcases hregistration : createPromptServiceRegistration now (payload.args subject) with error | registration
        · rw [hregistration] at he
          exact h.memory e (mem_of_entryNamed he).1
        · rw [hregistration] at he
          obtain rfl := Option.some.inj he
          exact (ownedBy_registration hservice hregistration).single
    · exact h.memory e (mem_of_entryNamed he).1
  | update hfind howner hservice hclient =>
    exact single_change h hfind howner (fun hclean e he => owned_update hclean he hservice hclient) e he
  | transition hfind howner => exact single_change h hfind howner (fun _ e he => owned_transition he _ _) e he
  | probation hfind howner => exact single_change h hfind howner (fun _ e he => owned_probation he _ _) e he
  | review hfind howner => exact single_change h hfind howner (fun _ e he => owned_review he _ _ _) e he

/-- The prompts of a registry that finds no file. -/
theorem holds_first {P : PromptEntry → Prop} (hstart : startRegistry start none = .ok first)
    (hP : ∀ e e', P e → e.Same e' → P e') : first.Holds P := by
  obtain ⟨registry, hok, hsound, ⟨stored, hfile, hstored, hsame⟩, hnil⟩ := exists_startRegistry_none start
  obtain rfl := Except.ok.inj (hok.symm.trans hstart)
  have hmemory : ∀ e ∈ registry.state.promptServices, P e := by
    rw [hnil]
    exact fun e he => absurd he List.not_mem_nil
  exact ⟨hsound, hmemory, stored, hfile, hstored, forall_of_same hP hsame hmemory⟩

/-- The record says the same, except for its usage. -/
def PromptEntry.Unchanged (e e' : PromptEntry) : Prop := ∃ usage, e.Same { e' with usage := usage }

theorem PromptEntry.Unchanged.refl (e : PromptEntry) : e.Unchanged e := ⟨e.usage, PromptEntry.Same.refl e⟩

theorem PromptEntry.Unchanged.trans_same {e e' e'' : PromptEntry} (h : e.Unchanged e') (h' : e'.Same e'') :
    e.Unchanged e'' := by
  obtain ⟨usage, h⟩ := h
  refine ⟨usage, h.trans ?_⟩
  exact { h' with executionCount := rfl, successCount := rfl, failureCount := rfl, denialCount := rfl }

theorem PromptEntry.Unchanged.owners_eq {e e' : PromptEntry} (h : e.Unchanged e') : e'.owners = e.owners := by
  obtain ⟨usage, h⟩ := h
  have hservice : e'.ownerService = e.ownerService := h.ownerService
  have hclient : e'.ownerClientId = e.ownerClientId := h.ownerClientId
  have hid : e'.serviceId = e.serviceId := h.serviceId
  rw [PromptEntry.owners, PromptEntry.owners, hservice, hclient, hid]

/-- The event is the node's own, or the request of a service that does not own the prompt. -/
def PromptEvent.Foreign (entry : PromptEntry) : PromptEvent → Prop
  | .request claims _ => serviceSubject claims ∉ entry.owners
  | .call _ _ => True

/-- The record of the prompt is there, and no record of it has changed. -/
structure PromptRegistry.Retains (entry : PromptEntry) (registry : PromptRegistry) : Prop where
  holds : registry.Holds fun e => e.promptId = entry.promptId → entry.Unchanged e
  found : ∃ e, registry.entryNamed entry.promptId = some e

theorem unchanged_of_same {e e' : PromptEntry} (h : e.promptId = entry.promptId → entry.Unchanged e)
    (hsame : e.Same e') (hid : e'.promptId = entry.promptId) : entry.Unchanged e' :=
  (h (hsame.promptId.symm.trans hid)).trans_same hsame

/-- No call takes a record away. -/
theorem exists_entry_step (hr : registry.Sound) {p : String} (h : ∃ e, registry.entryNamed p = some e)
    (call : Timestamp × RegistryCall) : ∃ e, (registry.step call).entryNamed p = some e := by
  obtain ⟨e, he⟩ := h
  have hrel := (step_spec hr call).2 p
  rw [he] at hrel
  have hsome : ∃ e', leaves (call.2.onRecord call.1 p (some e)) = some e' := by
    rcases onRecord_spec call.1 call.2 p e with ⟨args, registration, hcall, hp, hretired, hok⟩ | ⟨e', he', -⟩
    · refine ⟨registration, ?_⟩
      rw [hcall]
      simp only [RegistryCall.onRecord, Option.any_some]
      rw [if_pos hp, if_neg (by simpa using hretired), hok]
      rfl
    · exact ⟨e', he'⟩
  obtain ⟨e', he'⟩ := hsome
  rw [he'] at hrel
  rcases hnext : (registry.step call).entryNamed p with _ | e''
  · rw [hnext] at hrel
    cases hrel
  · exact ⟨e'', rfl⟩

/-- What a service does to the prompts that it owns is nothing to another. -/
theorem unchanged_change {promptId : String} {subject p : String} {found : PromptEntry}
    {f : PromptEntry → Except (Failed Exc PromptEntry) PromptEntry} (h : registry.Retains entry)
    (hsubject : subject ∉ entry.owners) (hfind : findEntry registry.state (.str promptId) = some found)
    (howner : subject ∈ found.owners) {e : PromptEntry}
    (he : leaves (changeRecord (.str promptId) p f (registry.entryNamed p)) = some e) (hp : e.promptId = p)
    (hid : e.promptId = entry.promptId) : entry.Unchanged e := by
  rw [findEntry_eq h.holds.sound] at hfind
  obtain ⟨hmem, hname⟩ := mem_of_entryNamed hfind
  unfold changeRecord at he
  split at he
  · next heq =>
    have hfound := h.holds.memory found hmem ((hname.trans heq).trans (hp.symm.trans hid))
    exact absurd (hfound.owners_eq ▸ howner) hsubject
  · exact h.holds.memory e (mem_of_entryNamed he).1 hid

/-- **A call that another service may cause** leaves the record. -/
theorem leaves_permitted {subject : String} {call : RegistryCall} (h : registry.Retains entry)
    (hactive : entry.status ≠ .retired) (hsubject : subject ∉ entry.owners) (hcall : call.Permitted registry subject) :
    (registry.step (now, call)).Retains entry := by
  refine ⟨holds_step (fun _ _ => unchanged_of_same) h.holds fun p e he hp hid => ?_,
    exists_entry_step h.holds.sound h.found (now, call)⟩
  cases hcall with
  | @create payload hservice =>
    simp only [RegistryCall.onRecord] at he
    split at he
    · split at he
      · exact h.holds.memory e (mem_of_entryNamed he).1 hid
      · next hfree =>
        -- the prompt is there, and it is not retired
        obtain ⟨current, hcurrent⟩ := h.found
        obtain ⟨hmem, hname⟩ := mem_of_entryNamed hcurrent
        obtain ⟨usage, hsame⟩ := h.holds.memory current hmem hname
        have hstatus : current.status = entry.status := hsame.status
        rw [← hp.symm.trans hid] at hcurrent
        rw [hcurrent, Option.any_some, hstatus] at hfree
        exact absurd (by simpa using hactive) hfree
    · exact h.holds.memory e (mem_of_entryNamed he).1 hid
  | update hfind howner hservice hclient => exact unchanged_change h hsubject hfind howner he hp hid
  | transition hfind howner => exact unchanged_change h hsubject hfind howner he hp hid
  | probation hfind howner => exact unchanged_change h hsubject hfind howner he hp hid
  | review hfind howner => exact unchanged_change h hsubject hfind howner he hp hid

/-- A service that is not the owner, and its request. -/
def intruder : PromptEvent :=
  .request [("sub", .str "svc-news")] (.lifecycle "prompt.mail" "retired" none)

end Prompts
end HexeAiNode
