import HexeAiNode.Access.RouteScopes
import HexeAiNode.Python.Value

/-!
# Authorization of a request

Two middlewares stand around the handlers, the one for service tokens outside the one for management
tokens.  Each steps aside for the other: the service middleware when there is a management header, the
management middleware when the route has a service scope and there is an `Authorization` header.
Neither looks at the token it steps aside for.

A request carries its state through the middlewares: the claims of its service token, and, as a record
that only this file keeps, the tokens that have been validated on its way (`validated`).

`handled_cases` lists the ways to a handler.  One of them validates nothing: both headers are there, so
both middlewares step aside (`both_headers_reach_handler`).  `authorized_iff` says that it is the only
one.

The metrics middleware and CORS are left out: the first does not decide anything, the second answers
preflight requests, which are `OPTIONS` requests.
-/

namespace HexeAiNode
namespace Access

open Py

/-! ## Introspection -/

/-- What the core API says about a token: the fields of an introspection result that are read. -/
structure IntrospectionResult where
  active : Bool
  claims : Option Dict := none
  errorCode : Option String := none

/-- What the node presents to the core API. -/
structure TrustedContext where
  nodeId : String
  coreApiEndpoint : String
  trustToken : String

/-- An introspection client: the result for a token and the required scopes. -/
abbrev Introspector :=
  TrustedContext → String → List String → Except Exc IntrospectionResult

/-- What the control API authorizes requests with. -/
structure AccessState where
  serviceTokenIntrospectionClient : Option Introspector := none
  managementTokenIntrospectionClient : Option Introspector := none
  trustState : Dict := []

/-- `service_token_enforcement_enabled`. -/
def AccessState.serviceTokenEnforcementEnabled (state : AccessState) : Bool :=
  state.serviceTokenIntrospectionClient.isSome

/-- `management_token_enforcement_enabled`. -/
def AccessState.managementTokenEnforcementEnabled (state : AccessState) : Bool :=
  state.managementTokenIntrospectionClient.isSome

/-- The context the trust state gives. -/
def AccessState.trustedContext (state : AccessState) : Except Exc TrustedContext :=
  let nodeId := (Dict.get state.trustState "node_id").normalizeString
  let coreApiEndpoint := (Dict.get state.trustState "core_api_endpoint").normalizeString
  let trustToken := (Dict.get state.trustState "node_trust_token").normalizeString
  if nodeId = "" ∨ coreApiEndpoint = "" ∨ trustToken = "" then
    .error ⟨.valueError, "trusted_core_context_unavailable"⟩
  else .ok { nodeId := nodeId, coreApiEndpoint := coreApiEndpoint, trustToken := trustToken }

/-- The claims of an active result. -/
def IntrospectionResult.activeClaims (result : IntrospectionResult) (reason : String) :
    Except Exc Dict :=
  match result.active, result.claims with
  | true, some claims => .ok claims
  | _, _ =>
    .error ⟨.valueError, (result.errorCode.filter fun code => code != "").getD reason⟩

/-- The first failed check of claims. -/
def checkClaims (claims : Dict) : List (Bool × String) → Except Exc Dict
  | [] => .ok claims
  | (ok, reason) :: checks =>
    if ok then checkClaims claims checks else .error ⟨.valueError, reason⟩

/-- `authorize_management`. -/
def authorizeManagement (state : AccessState) (managementToken requiredScope : String) :
    Except Exc Dict :=
  match state.managementTokenIntrospectionClient with
  | none => .error ⟨.valueError, "management_token_introspection_not_configured"⟩
  | some introspect => do
    let context ← state.trustedContext
    let result ← introspect context managementToken [requiredScope]
    let claims ← result.activeClaims "management_token_inactive"
    let providerNodeId := (Dict.get claims "provider_node_id").normalizeString
    let scopes : List Value := match Dict.get claims "scp" with
      | .list scopes => scopes
      | _ => []
    checkClaims claims
      [((Dict.get claims "token_use").normalizeString == "node_management", "token_use_invalid"),
        ((Dict.get claims "aud").normalizeString == "node-management:" ++ context.nodeId,
          "management_target_mismatch"),
        (providerNodeId == "" || providerNodeId == context.nodeId, "management_target_mismatch"),
        (scopes.any fun scope => scope.same (.str requiredScope), "management_scope_insufficient")]

/-- `authorize_service_access`. -/
def authorizeServiceAccess (state : AccessState) (serviceToken requiredScope : String) :
    Except Exc Dict :=
  match state.serviceTokenIntrospectionClient with
  | none => .error ⟨.valueError, "service_token_introspection_not_configured"⟩
  | some introspect => do
    let context ← state.trustedContext
    let result ← introspect context serviceToken [requiredScope]
    let claims ← result.activeClaims "service_token_inactive"
    let providerNodeId := (Dict.get claims "provider_node_id").normalizeString
    checkClaims claims
      [((Dict.get claims "sub").normalizeString != "", "service_token_subject_invalid"),
        (providerNodeId == "" || providerNodeId == context.nodeId,
          "service_token_provider_node_mismatch"),
        (startsWith (Dict.get claims "aud").normalizeString ("node-service:" ++ context.nodeId ++ ":"),
          "service_token_audience_mismatch")]

/-- The loop of `authorize_service_access_any`. -/
def authorizeServiceAccessFrom (state : AccessState) (serviceToken : String) :
    Option Exc → List String → Except Exc Dict
  | lastError, [] => .error (lastError.getD ⟨.valueError, "token_scope_insufficient"⟩)
  | _, requiredScope :: rest =>
    match authorizeServiceAccess state serviceToken requiredScope with
    | .ok claims => .ok claims
    | .error e =>
      if e.isValueError = true ∧ e.text = "token_scope_insufficient" then
        authorizeServiceAccessFrom state serviceToken (some e) rest
      else .error e

/-- `authorize_service_access_any`. -/
def authorizeServiceAccessAny (state : AccessState) (serviceToken : String)
    (requiredScopes : List String) : Except Exc Dict :=
  authorizeServiceAccessFrom state serviceToken none requiredScopes

/-! ## Requests -/

/-- A request as the middlewares see it.  The server hands over the method in ASCII. -/
structure HttpRequest where
  method : String
  method_ascii : method.toList.all (fun c => c.toNat < 128) = true := by decide
  path : String
  authorization : Option String := none
  managementAuthorization : Option String := none

/-- The two kinds of tokens. -/
inductive TokenUse where
  | service
  | management
  deriving DecidableEq, Repr

/-- A token that has been validated. -/
structure Validation where
  use : TokenUse
  token : String
  deriving DecidableEq, Repr

/-- The state of a request: its service claims, and the record of the validations on its way. -/
structure RequestState where
  serviceClaims : Option Dict := none
  validated : List Validation := []

/-- How a request ends: in a handler, with an error response of a middleware, or with an exception
that no middleware catches. -/
inductive Outcome where
  | handled (state : RequestState)
  | refused (statusCode : Nat) (detail : String)
  | raised (e : Exc)

/-- An application: a handler with some middlewares around it. -/
abbrev App := HttpRequest → RequestState → Outcome

/-- `str(header or "").strip()`. -/
def headerText (header : Option String) : String := strip (header.getD "")

/-- `text.partition(" ")`, when the text has a blank. -/
def partitionBlank (text : String) : Option (String × String) :=
  match text.toList.span (· != ' ') with
  | (_, []) => none
  | (scheme, _ :: token) => some (String.ofList scheme, String.ofList token)

/-- `bearer_token`: without a token it raises the response 401. -/
def bearerToken (authorization : Option String) : Option String :=
  match partitionBlank (headerText authorization) with
  | none => none
  | some (scheme, token) =>
    if lower scheme ≠ "bearer" ∨ strip token = "" then none else some (strip token)

/-- The response to a `ValueError` of an authorization. -/
def refuse (unavailable : List String) (e : Exc) : Outcome :=
  if e.isValueError then .refused (if unavailable.contains e.text then 503 else 403) e.text
  else .raised e

/-- `_management_authorization_middleware`. -/
def managementAuthorizationMiddleware (state : AccessState) (callNext : App) : App :=
  fun request requestState =>
    match managementScopeForRoute request.method request.path with
    | none => callNext request requestState
    | some requiredScope =>
      if state.managementTokenEnforcementEnabled = false then callNext request requestState
      else if (serviceScopeForRoute request.method request.path).isSome = true ∧
          headerText request.authorization ≠ "" then
        callNext request requestState
      else
        let managementToken := headerText request.managementAuthorization
        if managementToken = "" then .refused 401 "management_authorization_required"
        else
          match authorizeManagement state managementToken requiredScope with
          | .error e =>
            refuse ["management_token_introspection_not_configured",
              "trusted_core_context_unavailable", "management_validation_unavailable",
              "invalid_json_response", "rate_limit_exceeded", "http_429", "http_503"] e
          | .ok _ =>
            callNext request
              { requestState with
                validated := requestState.validated ++ [⟨.management, managementToken⟩] }

/-- `_service_authorization_middleware`. -/
def serviceAuthorizationMiddleware (state : AccessState) (callNext : App) : App :=
  fun request requestState =>
    let requiredScopes := serviceScopeAlternativesForRoute request.method request.path
    if requiredScopes = [] ∨ state.serviceTokenEnforcementEnabled = false then
      callNext request requestState
    else if headerText request.managementAuthorization ≠ "" then callNext request requestState
    else
      match bearerToken request.authorization with
      | none => .refused 401 "service_token_required"
      | some serviceToken =>
        match authorizeServiceAccessAny state serviceToken requiredScopes with
        | .error e =>
          refuse ["service_token_introspection_not_configured", "trusted_core_context_unavailable",
            "token_validation_unavailable", "invalid_json_response", "rate_limit_exceeded",
            "http_429", "http_503"] e
        | .ok claims =>
          callNext request
            { serviceClaims := some claims
              validated := requestState.validated ++ [⟨.service, serviceToken⟩] }

/-- The handler of a route. -/
def handler : App := fun _ requestState => .handled requestState

/-- The application: the middleware added last is the outermost. -/
def app (state : AccessState) : App :=
  serviceAuthorizationMiddleware state (managementAuthorizationMiddleware state handler)

/-! ## What a validation is -/

/-- The client has confirmed a token for a scope. -/
def Introspected (client : Option Introspector) (token scope : String) : Prop :=
  ∃ introspect context result, client = some introspect ∧
    introspect context token [scope] = .ok result ∧ result.active = true ∧
      result.claims.isSome = true

/-- The token was presented, and its introspection call has confirmed it for a scope of the route. -/
def Validation.Sound (state : AccessState) (request : HttpRequest) (v : Validation) : Prop :=
  match v.use with
  | .management => headerText request.managementAuthorization = v.token ∧
      ∃ scope, managementScopeForRoute request.method request.path = some scope ∧
        Introspected state.managementTokenIntrospectionClient v.token scope
  | .service => bearerToken request.authorization = some v.token ∧
      ∃ scope ∈ serviceScopeAlternativesForRoute request.method request.path,
        Introspected state.serviceTokenIntrospectionClient v.token scope

section

variable {state : AccessState} {token scope : String} {claims : Dict}

theorem activeClaims_ok {result : IntrospectionResult} {reason : String}
    (h : result.activeClaims reason = .ok claims) :
    result.active = true ∧ result.claims.isSome = true := by
  rcases result with ⟨active, resultClaims, errorCode⟩
  unfold IntrospectionResult.activeClaims at h
  cases active with
  | false => cases h
  | true =>
    cases resultClaims with
    | none => cases h
    | some _ => exact ⟨rfl, rfl⟩

/-- A management token that is authorized has been introspected. -/
theorem introspected_of_authorizeManagement
    (h : authorizeManagement state token scope = .ok claims) :
    Introspected state.managementTokenIntrospectionClient token scope := by
  unfold authorizeManagement at h
  split at h
  · cases h
  · next introspect hclient =>
    obtain ⟨context, -, h⟩ := bind_eq_ok.mp h
    obtain ⟨result, hresult, h⟩ := bind_eq_ok.mp h
    obtain ⟨resultClaims, hclaims, -⟩ := bind_eq_ok.mp h
    exact ⟨introspect, context, result, hclient, hresult, activeClaims_ok hclaims⟩

/-- A service token that is authorized has been introspected. -/
theorem introspected_of_authorizeServiceAccess
    (h : authorizeServiceAccess state token scope = .ok claims) :
    Introspected state.serviceTokenIntrospectionClient token scope := by
  unfold authorizeServiceAccess at h
  split at h
  · cases h
  · next introspect hclient =>
    obtain ⟨context, -, h⟩ := bind_eq_ok.mp h
    obtain ⟨result, hresult, h⟩ := bind_eq_ok.mp h
    obtain ⟨resultClaims, hclaims, -⟩ := bind_eq_ok.mp h
    exact ⟨introspect, context, result, hclient, hresult, activeClaims_ok hclaims⟩

/-- A service token that is authorized for one of some scopes has been introspected for one. -/
theorem introspected_of_authorizeServiceAccessFrom {lastError : Option Exc} {scopes : List String}
    (h : authorizeServiceAccessFrom state token lastError scopes = .ok claims) :
    ∃ scope ∈ scopes, Introspected state.serviceTokenIntrospectionClient token scope := by
  induction scopes generalizing lastError with
  | nil => cases h
  | cons scope scopes ih =>
    unfold authorizeServiceAccessFrom at h
    split at h
    · next hok =>
      exact ⟨scope, List.mem_cons_self, introspected_of_authorizeServiceAccess hok⟩
    · split at h
      · obtain ⟨other, hother, hintrospected⟩ := ih h
        exact ⟨other, List.mem_cons_of_mem _ hother, hintrospected⟩
      · cases h

end

/-! ## The ways to a handler -/

section

variable {state : AccessState} {request : HttpRequest} {before after : RequestState}

theorem refuse_ne_handled {unavailable : List String} {e : Exc} :
    refuse unavailable e ≠ .handled after := by
  unfold refuse
  split <;> simp

/-- The management middleware lets a request through unchanged, or validates its token. -/
theorem handled_of_management
    (h : managementAuthorizationMiddleware state handler request before = .handled after) :
    (after = before ∧
      (managementScopeForRoute request.method request.path = none ∨
        state.managementTokenEnforcementEnabled = false ∨
        ((serviceScopeForRoute request.method request.path).isSome = true ∧
          headerText request.authorization ≠ ""))) ∨
    ∃ v : Validation, v.use = .management ∧ v.Sound state request ∧
      after = { before with validated := before.validated ++ [v] } := by
  unfold managementAuthorizationMiddleware at h
  split at h
  · next hscope => exact Or.inl ⟨(Outcome.handled.inj h).symm, Or.inl hscope⟩
  · next scope hscope =>
    split at h
    · next henforced => exact Or.inl ⟨(Outcome.handled.inj h).symm, Or.inr (Or.inl henforced)⟩
    split at h
    · next hdefers => exact Or.inl ⟨(Outcome.handled.inj h).symm, Or.inr (Or.inr hdefers)⟩
    dsimp only at h
    split at h
    · cases h
    split at h
    · exact absurd h refuse_ne_handled
    · next claims hclaims =>
      refine Or.inr ⟨⟨.management, headerText request.managementAuthorization⟩, rfl, ?_, ?_⟩
      · exact ⟨rfl, scope, hscope, introspected_of_authorizeManagement hclaims⟩
      · exact (Outcome.handled.inj h).symm

/-- A bearer token comes from a header that is not blank. -/
theorem headerText_of_bearerToken {token : String}
    (h : bearerToken request.authorization = some token) :
    headerText request.authorization ≠ "" := by
  intro hblank
  unfold bearerToken at h
  rw [hblank] at h
  cases h

/-- **The ways to a handler.**  The service token is validated, the management token is validated, or
the request has a service scope and both headers, and nothing is validated. -/
theorem handled_cases (hservice : state.serviceTokenEnforcementEnabled = true)
    (hmanagement : state.managementTokenEnforcementEnabled = true)
    (hscoped : (managementScopeForRoute request.method request.path).isSome = true ∨
      (serviceScopeForRoute request.method request.path).isSome = true)
    (h : app state request {} = .handled after) :
    (∃ v ∈ after.validated, v.use = .service ∧ v.Sound state request ∧
      after.serviceClaims.isSome = true) ∨
    (∃ v ∈ after.validated, v.use = .management ∧ v.Sound state request) ∨
    ((serviceScopeForRoute request.method request.path).isSome = true ∧
      headerText request.authorization ≠ "" ∧
      headerText request.managementAuthorization ≠ "" ∧ after = {}) := by
  have hmscope : ∃ scope, managementScopeForRoute request.method request.path = some scope := by
    rcases hscoped with hscope | hscope
    · exact Option.isSome_iff_exists.mp hscope
    · obtain ⟨scope, hscope⟩ := Option.isSome_iff_exists.mp hscope
      exact Option.isSome_iff_exists.mp (managementScope_of_serviceScope hscope)
  obtain ⟨mscope, hmscope⟩ := hmscope
  have hmanaged : ∀ {before : RequestState},
      managementAuthorizationMiddleware state handler request before = .handled after →
        (after = before ∧ (serviceScopeForRoute request.method request.path).isSome = true ∧
          headerText request.authorization ≠ "") ∨
        ∃ v ∈ after.validated, v.use = .management ∧ v.Sound state request := by
    intro before h
    rcases handled_of_management h with ⟨hafter, hnone | hoff | hdefers⟩ | ⟨v, huse, hsound, hafter⟩
    · rw [hmscope] at hnone
      cases hnone
    · rw [hmanagement] at hoff
      cases hoff
    · exact Or.inl ⟨hafter, hdefers⟩
    · refine Or.inr ⟨v, ?_, huse, hsound⟩
      rw [hafter]
      exact List.mem_append_right _ (List.mem_singleton.mpr rfl)
  unfold app serviceAuthorizationMiddleware at h
  dsimp only at h
  split at h
  · next hskip =>
    rcases hskip with hnone | hoff
    · rcases hmanaged h with ⟨-, hscope, -⟩ | hvalidated
      · rw [serviceScopeAlternatives_eq_nil_iff.mp hnone] at hscope
        cases hscope
      · exact Or.inr (Or.inl hvalidated)
    · rw [hservice] at hoff
      cases hoff
  split at h
  · next hheader =>
    rcases hmanaged h with ⟨hafter, hscope, hauth⟩ | hvalidated
    · exact Or.inr (Or.inr ⟨hscope, hauth, hheader, hafter⟩)
    · exact Or.inr (Or.inl hvalidated)
  split at h
  · cases h
  · next token htoken =>
    split at h
    · exact absurd h refuse_ne_handled
    · next claims hclaims =>
      have hsound : Validation.Sound state request ⟨.service, token⟩ :=
        ⟨htoken, introspected_of_authorizeServiceAccessFrom hclaims⟩
      rcases hmanaged h with ⟨hafter, -, -⟩ | hvalidated
      · refine Or.inl ⟨_, ?_, rfl, hsound, ?_⟩
        · rw [hafter]
          exact List.mem_append_right _ (List.mem_singleton.mpr rfl)
        · rw [hafter]
          rfl
      · exact Or.inr (Or.inl hvalidated)

/-- With both headers a route with a service scope is handled as it comes in. -/
theorem handled_of_both_headers
    (hscope : (serviceScopeForRoute request.method request.path).isSome = true)
    (hauth : headerText request.authorization ≠ "")
    (hheader : headerText request.managementAuthorization ≠ "") :
    app state request {} = .handled {} := by
  have hmanaged : managementAuthorizationMiddleware state handler request {} = .handled {} := by
    unfold managementAuthorizationMiddleware
    split
    · rfl
    · split
      · rfl
      · rw [if_pos ⟨hscope, hauth⟩]
        rfl
  unfold app serviceAuthorizationMiddleware
  dsimp only
  rw [if_pos hheader]
  split
  · exact hmanaged
  · exact hmanaged

end

/-! ## Authorization -/

/-- A request only gets to the handler with a validated token, and without service claims only with a
validated management token. -/
def Authorized (state : AccessState) (request : HttpRequest) : Prop :=
  ∀ after, app state request {} = .handled after →
    (∃ v ∈ after.validated, v.Sound state request) ∧
      (after.serviceClaims = none →
        ∃ v ∈ after.validated, v.use = .management ∧ v.Sound state request)

/-- **When a request is authorized**: unless its route has a service scope and both headers are
there. -/
theorem authorized_iff {state : AccessState} {request : HttpRequest}
    (hservice : state.serviceTokenEnforcementEnabled = true)
    (hmanagement : state.managementTokenEnforcementEnabled = true)
    (hscoped : (managementScopeForRoute request.method request.path).isSome = true ∨
      (serviceScopeForRoute request.method request.path).isSome = true) :
    Authorized state request ↔
      ¬((serviceScopeForRoute request.method request.path).isSome = true ∧
        headerText request.authorization ≠ "" ∧
        headerText request.managementAuthorization ≠ "") := by
  constructor
  · rintro hauthorized ⟨hscope, hauth, hheader⟩
    obtain ⟨⟨v, hv, -⟩, -⟩ :=
      hauthorized {} (handled_of_both_headers hscope hauth hheader)
    exact List.not_mem_nil hv
  · intro hheaders after h
    rcases handled_cases hservice hmanagement hscoped h with
      ⟨v, hv, -, hsound, hclaims⟩ | ⟨v, hv, huse, hsound⟩ | ⟨hscope, hauth, hheader, -⟩
    · refine ⟨⟨v, hv, hsound⟩, fun hnone => ?_⟩
      rw [hnone] at hclaims
      cases hclaims
    · exact ⟨⟨v, hv, hsound⟩, fun _ => ⟨v, hv, huse, hsound⟩⟩
    · exact absurd ⟨hscope, hauth, hheader⟩ hheaders

/-- A node that introspects both kinds of tokens and has confirmed none. -/
def suspiciousState : AccessState where
  serviceTokenIntrospectionClient := some fun _ _ _ => .ok { active := false }
  managementTokenIntrospectionClient := some fun _ _ _ => .ok { active := false }
  trustState :=
    [("node_id", .str "node-1"), ("core_api_endpoint", .str "https://core"),
      ("node_trust_token", .str "trust")]

/-- A prompt registration with a service token only. -/
def bearerRequest : HttpRequest where
  method := "POST"
  path := "/api/prompts/services"
  authorization := some "Bearer abc"

theorem bearerRequest_authorized : Authorized suspiciousState bearerRequest :=
  (authorized_iff rfl rfl (Or.inr (by decide +kernel))).mpr fun h =>
    h.2.2 (by decide +kernel)

/-- Two made-up headers: the registration is handled, and no token has been looked at. -/
theorem both_headers_reach_handler :
    ¬ Authorized suspiciousState
      { bearerRequest with managementAuthorization := some "anything" } := by
  intro hauthorized
  have hhandled : app suspiciousState
      { bearerRequest with managementAuthorization := some "anything" } {} = .handled {} :=
    handled_of_both_headers (by decide +kernel) (by decide +kernel) (by decide +kernel)
  obtain ⟨⟨v, hv, -⟩, -⟩ := hauthorized {} hhandled
  exact List.not_mem_nil hv

end Access
end HexeAiNode
