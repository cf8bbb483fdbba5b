import HarborGate.Server.CameraScope

/-!
What Beacon is told of the sender of a request. The headers that are sent upstream name a principal
that the gateway found itself, under its own service token; of the headers of the client, only five
pass and one is looked at.
-/

namespace HarborGate

namespace Proxy

open Url

/-- What the headers say of a principal. -/
def principalHeader (workspaceId : String) (principal : HarborOsPrincipal) (name : String) :
    Option Bytes :=
  if name = "x-harbor-principal-source" then some (utf8Bytes principal.source)
  else if name = "x-harbor-principal-id" then some (utf8Bytes principal.principalId)
  else if name = "x-harbor-principal-roles" then
    some (utf8Bytes (",".intercalate principal.roles))
  else if name = "x-harbor-workspace-id" then some (utf8Bytes (Text.trim workspaceId))
  else if name = "x-harbor-camera-scope" then principal.cameraScope
  else none

/-- The value that a header has upstream. -/
def upstreamHeader (host : Host) (headers : Headers) (principal : Option HarborOsPrincipal)
    (name : String) : Option Bytes :=
  if name ∈ copiedHeaders then headers.lookup name
  else if name = "authorization" then
    some (utf8Bytes ("Bearer " ++ Text.trim host.harborbeaconWebApiToken))
  else principal.bind fun principal => principalHeader host.harborWorkspaceId principal name

/-- The token that a request presents to HarborOS. -/
def presentedToken (headers : Headers) : Option Bytes :=
  ((headers.lookup authTokenHeader).bind headerText).filter fun token =>
    token ≠ [] ∧ token.length ≤ 8192

/-- Why a request is forwarded for a principal: the target asks for none, HarborOS takes the token
of the request for that of a full administrator, or it has no token and its target names a camera
that is open to the LAN. -/
inductive Vouched (crates : Crates) (host : Host) (method : Method) (headers : Headers)
    (target : Bytes) : Option HarborOsPrincipal → Prop
  | unasked (free : requiresHarborosPrincipal crates method target = false) :
      Vouched crates host method headers target none
  | harboros {token : Bytes} {user : UserInfo} {principal : HarborOsPrincipal}
      (presented : presentedToken headers = some token)
      (login : host.login token = some ⟨"SUCCESS", some user⟩) (webui : user.webuiAccess = true)
      (admin : "FULL_ADMIN" ∈ principal.roles) (source : principal.source = "harboros")
      (id : principal.principalId = "harboros:uid:" ++ toString user.pwUid)
      (roles : ∀ role, role ∈ principal.roles ↔ role ∈ user.roles)
      (unscoped : principal.cameraScope = none) :
      Vouched crates host method headers target (some principal)
  | control {camera : Bytes} (tokenless : headers.lookup authTokenHeader = none)
      (allowed : method = .get ∨ method = .put ∨ method = .post ∧ endsInPreview target)
      (found : detectionControlCameraId crates target = some camera) :
      Vouched crates host method headers target (some (lanPrincipal "CAMERA_CONTROL" camera))
  | view {camera : Bytes} (tokenless : headers.lookup authTokenHeader = none)
      (found : detectionObservationCameraId target = some camera) (get : method = .get) :
      Vouched crates host method headers target (some (lanPrincipal "CAMERA_VIEW" camera))

/-! ## The headers -/

def copiedEntries (headers : Headers) (names : List String) : Headers :=
  names.filterMap fun name => (headers.lookup name).map (name, ·)

def scopeEntries (scope : Option Bytes) : Headers :=
  (scope.map fun scope => ("x-harbor-camera-scope", scope)).toList

/-- The headers that follow the token for a principal, none or one. -/
def principalEntries (workspaceId : String) : Option HarborOsPrincipal → Headers
  | none => []
  | some principal =>
      ("x-harbor-principal-source", utf8Bytes principal.source) ::
        ("x-harbor-principal-id", utf8Bytes principal.principalId) ::
        ("x-harbor-principal-roles", utf8Bytes (",".intercalate principal.roles)) ::
        ("x-harbor-workspace-id", utf8Bytes (Text.trim workspaceId)) ::
        scopeEntries principal.cameraScope

def trustedHeaders : List String :=
  ["x-harbor-principal-source", "x-harbor-principal-id", "x-harbor-principal-roles",
    "x-harbor-workspace-id", "x-harbor-camera-scope"]

section

variable {headers upstream after : Headers} {name : String} {value : Bytes}

theorem inserted_at_end (ok : insertTrustedHeader headers name value = .ok after) :
    after = headers ++ [(name, value)] := by
  unfold insertTrustedHeader at ok
  split at ok
  · exact (Except.ok.inj ok).symm
  · simp at ok

theorem principalHeaders_ok {principal : HarborOsPrincipal} {workspaceId : String}
    (ok : principalHeaders upstream principal workspaceId = .ok after) :
    after = upstream ++ principalEntries workspaceId (some principal) := by
  simp only [principalHeaders] at ok
  obtain ⟨first, one, ok⟩ := Result.bind_eq_ok.mp ok
  obtain ⟨second, two, ok⟩ := Result.bind_eq_ok.mp ok
  obtain ⟨third, three, ok⟩ := Result.bind_eq_ok.mp ok
  obtain ⟨fourth, four, ok⟩ := Result.bind_eq_ok.mp ok
  obtain rfl := inserted_at_end one
  obtain rfl := inserted_at_end two
  obtain rfl := inserted_at_end three
  obtain rfl := inserted_at_end four
  cases scope : principal.cameraScope with
  | none =>
      rw [scope] at ok
      obtain rfl := Result.pure_eq_ok.mp ok
      simp [principalEntries, scopeEntries, scope]
  | some camera =>
      rw [scope] at ok
      obtain rfl := inserted_at_end ok
      simp [principalEntries, scopeEntries, scope]

theorem beaconUpstreamHeaders_ok {webApiToken workspaceId : String}
    {principal : Option HarborOsPrincipal}
    (ok : beaconUpstreamHeaders headers webApiToken principal workspaceId = .ok after) :
    after = copiedEntries headers copiedHeaders ++
      ("authorization", utf8Bytes ("Bearer " ++ Text.trim webApiToken)) ::
        principalEntries workspaceId principal := by
  simp only [beaconUpstreamHeaders] at ok
  split at ok
  · simp at ok
  · cases principal with
    | none =>
        obtain rfl := Except.ok.inj ok
        rfl
    | some principal =>
        obtain rfl := principalHeaders_ok ok
        simp [copiedEntries]

theorem lookup_copiedEntries (headers : Headers) (names : List String) (name : String) :
    (copiedEntries headers names).lookup name =
      if name ∈ names then headers.lookup name else none := by
  unfold copiedEntries
  induction names with
  | nil => simp
  | cons first rest ih =>
      cases found : headers.lookup first with
      | none =>
          rw [List.filterMap_cons_none (by simp [found]), ih]
          by_cases same : name = first
          · subst same
            simp [found]
          · simp [same]
      | some value =>
          rw [List.filterMap_cons_some (by simp [found]; rfl), List.lookup_cons, ih]
          by_cases same : name = first
          · subst same
            simp [found]
          · have other : (name == first) = false := beq_false_of_ne same
            simp [other, same]

theorem copiedEntries_names (headers : Headers) (names : List String) :
    ((copiedEntries headers names).map Prod.fst).Sublist names := by
  unfold copiedEntries
  induction names with
  | nil => simp
  | cons first rest ih =>
      cases found : headers.lookup first with
      | none =>
          rw [List.filterMap_cons_none (by simp [found])]
          exact ih.cons first
      | some value =>
          rw [List.filterMap_cons_some (by simp [found]; rfl), List.map_cons]
          exact ih.cons_cons first

theorem lookup_entry (headers : Headers) (first name : String) (value : Bytes) :
    ((first, value) :: headers).lookup name =
      if name = first then some value else headers.lookup name := by
  by_cases same : name = first
  · simp [same]
  · simp [List.lookup_cons, beq_false_of_ne same, same]

theorem lookup_scopeEntries (scope : Option Bytes) (name : String) :
    (scopeEntries scope).lookup name = if name = "x-harbor-camera-scope" then scope else none := by
  cases scope with
  | none => simp [scopeEntries]
  | some camera => simp [scopeEntries, lookup_entry]

theorem lookup_principalEntries (workspaceId : String) (principal : Option HarborOsPrincipal)
    (name : String) : (principalEntries workspaceId principal).lookup name =
      principal.bind fun principal => principalHeader workspaceId principal name := by
  cases principal with
  | none => rfl
  | some principal =>
      simp only [principalEntries, lookup_entry, lookup_scopeEntries, Option.bind_some,
        principalHeader]

theorem principalEntries_names (workspaceId : String) (principal : Option HarborOsPrincipal) :
    ((principalEntries workspaceId principal).map Prod.fst).Sublist trustedHeaders := by
  cases principal with
  | none => simp [principalEntries]
  | some principal =>
      cases scope : principal.cameraScope with
      | none =>
          have names : (principalEntries workspaceId (some principal)).map Prod.fst =
              trustedHeaders.dropLast := by
            simp [principalEntries, scopeEntries, scope, trustedHeaders]
          rw [names]
          exact List.dropLast_sublist trustedHeaders
      | some camera =>
          simp [principalEntries, scopeEntries, scope, trustedHeaders]

end

/-! ## The principal -/

section

variable {crates : Crates} {host : Host} {method : Method} {headers : Headers} {target : Bytes}

theorem mem_sorted_roles (roles : List String) (role : String) :
    role ∈ (roles.mergeSort (· ≤ ·)).destutter (· ≠ ·) ↔ role ∈ roles := by
  have sorted : (roles.mergeSort (· ≤ ·)).Pairwise (· ≤ ·) := by
    have transitive : ∀ first second third : String, decide (first ≤ second) = true →
        decide (second ≤ third) = true → decide (first ≤ third) = true := by
      intro first second third one two
      simp only [decide_eq_true_eq] at *
      exact String.le_trans one two
    have total : ∀ first second : String,
        (decide (first ≤ second) || decide (second ≤ first)) = true := by
      intro first second
      simpa using String.le_total first second
    have pairs := List.pairwise_mergeSort transitive total roles
    simpa using pairs
  rw [sorted.destutter_eq_dedup, List.mem_dedup, List.mem_mergeSort]

theorem principalFromLoginResponse_ok {response : LoginExResponse} {principal : HarborOsPrincipal}
    (ok : principalFromLoginResponse response = .ok principal) :
    ∃ user : UserInfo, response = ⟨"SUCCESS", some user⟩ ∧ user.webuiAccess = true ∧
      "FULL_ADMIN" ∈ user.roles ∧
        principal = ⟨"harboros", "harboros:uid:" ++ toString user.pwUid,
          (user.roles.mergeSort (· ≤ ·)).destutter (· ≠ ·), none⟩ := by
  obtain ⟨responseType, userInfo⟩ := response
  simp only [principalFromLoginResponse] at ok
  split at ok
  · simp at ok
  split at ok
  · simp at ok
  split at ok
  · simp at ok
  rename_i success
  cases userInfo with
  | none => simp at ok
  | some user =>
      simp only at ok
      split at ok
      · simp at ok
      rename_i webui
      split at ok
      · simp at ok
      rename_i admin
      refine ⟨user, ?_, by simpa using webui, by simpa using admin, (Except.ok.inj ok).symm⟩
      rw [not_not.mp success]

theorem authenticateHarborosRequest_vouched {principal : HarborOsPrincipal}
    (ok : authenticateHarborosRequest host headers = .ok principal) :
    Vouched crates host method headers target (some principal) := by
  unfold authenticateHarborosRequest at ok
  split at ok
  · simp at ok
  rename_i token presented
  split at ok
  · simp at ok
  rename_i response login
  obtain ⟨user, rfl, webui, admin, rfl⟩ :=
    principalFromLoginResponse_ok (Result.mapError_eq_ok.mp ok)
  exact .harboros presented login webui ((mem_sorted_roles _ _).mpr admin) rfl rfl
    (mem_sorted_roles user.roles) rfl

theorem lanAccess_vouched {principal : HarborOsPrincipal}
    (tokenless : headers.lookup authTokenHeader = none)
    (ok : lanAccess crates method target = .ok principal) :
    Vouched crates host method headers target (some principal) := by
  simp only [lanAccess] at ok
  split at ok
  · rename_i camera controlled
    obtain rfl := Except.ok.inj ok
    split at controlled
    · rename_i allowed
      exact .control tokenless allowed controlled
    · simp at controlled
  split at ok
  · simp at ok
  rename_i get
  split at ok
  · simp at ok
  · rename_i camera observed
    obtain rfl := Except.ok.inj ok
    exact .view tokenless observed (not_not.mp get)

theorem proxyPrincipal_vouched {principal : Option HarborOsPrincipal}
    (ok : proxyPrincipal crates host method headers target = .ok principal) :
    Vouched crates host method headers target principal := by
  rw [proxyPrincipal] at ok
  split at ok
  · obtain ⟨value, access, rfl⟩ := Result.map_eq_ok.mp ok
    rw [authenticateProxyPrincipal] at access
    split at access
    · exact authenticateHarborosRequest_vouched access
    · rename_i token
      exact lanAccess_vouched (Option.not_isSome_iff_eq_none.mp token) access
  · rename_i free
    obtain rfl := Except.ok.inj ok
    exact .unasked (by simpa using free)

end

/-! ## What is sent upstream -/

section

variable {headers other : Headers}

theorem copiedEntries_congr {names : List String}
    (same : ∀ name ∈ names, other.lookup name = headers.lookup name) :
    copiedEntries other names = copiedEntries headers names := by
  induction names with
  | nil => rfl
  | cons first rest ih =>
      have head := same first (by simp)
      have tail := ih fun name member => same name (List.mem_cons_of_mem first member)
      simp only [copiedEntries, List.filterMap_cons, head] at tail ⊢
      rw [tail]

/-- Two sets of headers that agree on the token and on what is copied are served alike. -/
theorem proxyBeaconRequest_congr (crates : Crates) (host : Host) (method : Method) (target : Bytes)
    (same : ∀ name ∈ authTokenHeader :: copiedHeaders, other.lookup name = headers.lookup name) :
    proxyBeaconRequest crates host method other target =
      proxyBeaconRequest crates host method headers target := by
  have token := same authTokenHeader (by simp)
  have copied := copiedEntries_congr fun name member =>
    same name (List.mem_cons_of_mem authTokenHeader member)
  have principal : proxyPrincipal crates host method other target =
      proxyPrincipal crates host method headers target := by
    simp only [proxyPrincipal, authenticateProxyPrincipal, authenticateHarborosRequest, token]
  have upstream : ∀ webApiToken principal workspaceId,
      beaconUpstreamHeaders other webApiToken principal workspaceId =
        beaconUpstreamHeaders headers webApiToken principal workspaceId := by
    intro webApiToken principal workspaceId
    unfold copiedEntries at copied
    simp only [beaconUpstreamHeaders, copied]
  simp only [proxyBeaconRequest, principal, upstream]

theorem principalHeader_untrusted {workspaceId name : String} (principal : HarborOsPrincipal)
    (untrusted : name ∉ trustedHeaders) : principalHeader workspaceId principal name = none := by
  simp only [trustedHeaders, List.mem_cons, not_or] at untrusted
  simp [principalHeader, untrusted]

theorem lookup_upstream {host : Host} {principal : Option HarborOsPrincipal} {upstream : Headers}
    (ok : beaconUpstreamHeaders headers host.harborbeaconWebApiToken principal
      host.harborWorkspaceId = .ok upstream) (name : String) :
    upstream.lookup name = upstreamHeader host headers principal name := by
  rw [beaconUpstreamHeaders_ok ok, List.lookup_append, lookup_copiedEntries, lookup_entry,
    lookup_principalEntries, upstreamHeader]
  by_cases copied : name ∈ copiedHeaders
  · have apart : ∀ name ∈ copiedHeaders, name ≠ "authorization" ∧ name ∉ trustedHeaders := by
      decide
    obtain ⟨notToken, untrusted⟩ := apart name copied
    have silent : (principal.bind fun principal =>
        principalHeader host.harborWorkspaceId principal name) = none := by
      cases principal with
      | none => rfl
      | some principal => exact principalHeader_untrusted principal untrusted
    rw [if_pos copied, if_pos copied, if_neg notToken, silent, Option.or_none]
  · rw [if_neg copied, if_neg copied, Option.none_or]

theorem upstream_names {webApiToken workspaceId : String} {principal : Option HarborOsPrincipal}
    {upstream : Headers}
    (ok : beaconUpstreamHeaders headers webApiToken principal workspaceId = .ok upstream) :
    (upstream.map Prod.fst).Nodup := by
  have names : (upstream.map Prod.fst).Sublist
      (copiedHeaders ++ "authorization" :: trustedHeaders) := by
    rw [beaconUpstreamHeaders_ok ok, List.map_append, List.map_cons]
    exact (copiedEntries_names headers copiedHeaders).append
      ((principalEntries_names workspaceId principal).cons_cons "authorization")
  exact names.nodup (by decide)

end

/-- Upstream, a request names a principal that the gateway vouches for, under the gateway's own
token and in headers that occur once. Whatever else a client writes into its headers has no effect:
with any others in their place the same request is sent. -/
theorem upstream_identity_is_vouched (crates : Crates) (host : Host) (request : Request)
    (forwarded : Forwarded) (sent : request.serve crates host = .ok forwarded) :
    Vouched crates host request.method request.headers forwarded.target forwarded.principal ∧
      (forwarded.headers.map Prod.fst).Nodup ∧
      (∀ name, forwarded.headers.lookup name =
        upstreamHeader host request.headers forwarded.principal name) ∧
      ∀ headers : Headers,
        (∀ name ∈ authTokenHeader :: copiedHeaders,
          headers.lookup name = request.headers.lookup name) →
        ({ request with headers := headers } : Request).serve crates host = .ok forwarded := by
  obtain ⟨target, principal, upstream⟩ := serve_ok sent
  refine ⟨proxyPrincipal_vouched principal, upstream_names upstream, lookup_upstream upstream, ?_⟩
  intro headers same
  have again : ({ request with headers := headers } : Request).target crates =
      .ok forwarded.target := target
  have alike := proxyBeaconRequest_congr crates host request.method forwarded.target same
  simp only [Request.serve, target] at sent
  simp only [Request.serve, again, alike, sent]

/-- A client that calls itself an administrator. -/
def boastingRequest : Request :=
  { observationRequest with
    headers := [("x-harbor-principal-id", ascii "harboros:uid:0"),
      ("x-harbor-principal-roles", ascii "FULL_ADMIN")] }

theorem upstream_identity_is_vouched_boasting :
    boastingRequest.serve standardCrates sampleHost = observationRequest.serve standardCrates
        sampleHost ∧
      (viewForwarded (ascii "/api/cameras/cam-1/cat-detection/observation")
        (ascii "cam-1")).headers.lookup "x-harbor-principal-roles" =
          some (utf8Bytes (",".intercalate ["CAMERA_VIEW"])) := by
  have sent : observationRequest.serve standardCrates sampleHost =
      .ok (viewForwarded (ascii "/api/cameras/cam-1/cat-detection/observation")
        (ascii "cam-1")) := by
    decide
  obtain ⟨-, -, named, alike⟩ := upstream_identity_is_vouched standardCrates sampleHost
    observationRequest _ sent
  refine ⟨(alike boastingRequest.headers ?_).trans sent.symm, named "x-harbor-principal-roles"⟩
  decide

end Proxy

end HarborGate
