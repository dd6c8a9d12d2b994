import HMaigc.Go.Prefix
import HMaigc.Proc.Machine
import Mathlib.Data.List.Nodup

/-!
# Activation of provider endpoints and credentials

`service/provider_credentials.go` and `repository/provider_account.go`: an administrator saves a
candidate for the base URL or for the key of the account; a candidate becomes active when the
provider has answered a balance check.  The versions are read first, the check runs outside of any
transaction, and the result is committed later.

* `ProviderState.step` — any number of calls by any number of administrators, one read, check or
  transaction at a time.  Candidates of one scope are saved one after the other, as their version
  numbers are unique, and activations are so by the advisory lock of their scope.
* `Kept` — what is promised of a step.
* `provider_kept_iff` — **a step keeps this exactly if a key that is activated has been checked
  against the base URL that is active by then, and a health that is recorded is that of a version
  that is still active**.
* `not_kept_crossing` — a key is checked while the base URL changes.
-/

set_option autoImplicit false

namespace HMaigc.ProviderAccount

open Go

/-! ## Versions -/

inductive VersionStatus
  | pending | active | retired | superseded
  deriving DecidableEq

/-- It is retired or superseded. -/
def VersionStatus.isEnded : VersionStatus → Bool
  | retired | superseded => true
  | _ => false

/-- A `ProviderEndpointVersion` with its base URL, or a `ProviderCredentialVersion` with its key. -/
structure Version where
  id : String
  value : String
  status : VersionStatus
  version : ℕ
  deriving DecidableEq

/-- The versions of an account or of a credential, by descending version. -/
abbrev Versions := List Version

/-- A pending version gives way to a new candidate. -/
def Version.superseded (version : Version) : Version :=
  if version.status = .pending then { version with status := .superseded } else version

/-- The active version is retired, and the pending one activated. -/
def Version.switched (activeID versionID : String) (version : Version) : Version :=
  if version.id = activeID ∧ version.status = .active then { version with status := .retired }
  else if version.id = versionID ∧ version.status = .pending then { version with status := .active }
  else version

namespace Versions

/-- `activeEndpointVersion` and `activeCredentialVersion`. -/
def active? (versions : Versions) : Option Version := versions.find? (·.status = .active)

/-- `pendingEndpointVersion` and `pendingCredentialVersion`. -/
def pending? (versions : Versions) : Option Version := versions.find? (·.status = .pending)

/-- `activeEndpointID`; there is no identifier if there is no active version. -/
def activeID (versions : Versions) : String := (versions.active?.map (·.id)).getD ""

def nextVersion : Versions → ℕ
  | [] => 1
  | version :: _ => version.version + 1

/-- The transactions of `SaveProviderEndpointCandidate` and `SaveProviderCredentialCandidate`.  The
identifier and the version are unique. -/
def saveCandidate (versions : Versions) (candidate : Version) : Option Versions :=
  if versions.any fun stored ↦ stored.id = candidate.id || stored.version = candidate.version then
    none
  else some (candidate :: versions.map Version.superseded)

/-- `activateProviderEndpointVersionTx` and `activateProviderCredentialVersionTx`. -/
def activate (versions : Versions) (versionID expectedActiveID : String) : Option Versions :=
  match versions.find? (·.id = versionID) with
  | none => none
  | some candidate =>
    if versions.activeID ≠ expectedActiveID ∨ candidate.status ≠ .pending then none
    else some (versions.map (Version.switched versions.activeID versionID))

end Versions

/-! ## Health -/

inductive HealthStatus
  | healthy | insufficientBalance | invalid | blocked | unavailable | rejected | unknown
  deriving DecidableEq

/-- `kuaiziHealthStatusForCode` -/
def kuaiziHealthStatusForCode (code : String) : HealthStatus :=
  if code = "missing_key" ∨ code = "invalid_key" then .invalid
  else if code = "ip_rejected" then .blocked
  else if code = "timeout" ∨ code = "network_error" ∨ code = "response_read_error" then .unavailable
  else if hasPrefix code "upstream_http_" then .unavailable
  else if hasPrefix code "upstream_code_" then .rejected
  else .unknown

/-- `providerHealthMessage` -/
def providerHealthMessage : HealthStatus → String
  | .healthy => "凭据验证成功"
  | .insufficientBalance => "凭据有效但余额不足"
  | .invalid => "凭据无效"
  | .blocked => "供应商拒绝当前出口 IP"
  | .rejected => "供应商拒绝凭据验证"
  | .unavailable => "供应商暂时不可用"
  | .unknown => "凭据验证结果未知"

/-- What `KuaiziClient.Balance` answers: the balance of the wallet, or the code of an error. -/
inductive BalanceResult
  | fact (walletBalanceSubunits : String)
  | error (code : String)

/-- The part of `ProviderCredentialVerification` that is stored as the health of the credential, and
the version that was checked. -/
structure Verification where
  versionID : String
  healthStatus : HealthStatus
  healthCode : String
  healthMessage : String
  deriving DecidableEq

def BalanceResult.isFact : BalanceResult → Bool
  | fact _ => true
  | error _ => false

def BalanceResult.verification (versionID : String) : BalanceResult → Verification
  | fact balance =>
    let status := if balance = "0" then .insufficientBalance else .healthy
    ⟨versionID, status, "verified", providerHealthMessage status⟩
  | error code =>
    let status := kuaiziHealthStatusForCode code
    ⟨versionID, status, code, providerHealthMessage status⟩

/-! ## Calls -/

/-- How far a call of an administrator has come. -/
inductive Call
  /-- `SaveKuaiziEndpointCandidate` with a valid base URL: the candidate is built from the versions,
  saved, checked with the active credential, and activated. -/
  | saveEndpoint (baseURL : String)
  | endpointBuilt (baseURL : String) (version : ℕ) (activeID : String)
  | endpointSaved (candidateID baseURL activeID : String)
  | endpointChecking (candidateID baseURL activeID : String) (credential : Version)
  | endpointChecked (candidateID activeID : String) (record : Verification)
  /-- `SaveKuaiziCredentialCandidate`. -/
  | saveCredential (key : String)
  | endpointFound (key : String)
  | credentialBuilt (key : String) (version : ℕ)
  /-- `VerifyKuaiziCredential`: the endpoint and the credential are read, and the check is
  recorded. -/
  | verify
  | endpointRead (endpoint : Version)
  | verifying (endpoint credential : Version) (activeID : String)
  | verified (endpoint credential : Version) (activeID : String) (record : Verification)
  | verifyFailed (credential : Version) (record : Verification)
  | finished

/-- The rows of the account, and the health of its credential. -/
structure ProviderRows where
  endpoints : Versions
  credentials : Versions
  health : Option Verification
  deriving DecidableEq

structure ProviderState where
  rows : ProviderRows
  /-- The base URLs and keys that have passed a check together. -/
  passed : List (String × String)
  calls : List Call

inductive ProviderAction
  | start (call : Call)
  /-- A call reads the versions it needs next. -/
  | read (call : ℕ)
  /-- The provider answers. -/
  | check (call : ℕ) (result : BalanceResult)
  /-- A call commits its next transaction; a new version gets an identifier. -/
  | commit (call : ℕ) (newID : String)
  /-- It ends with an error. -/
  | fail (call : ℕ)

/-- It is one of the calls that administrators can make. -/
def Call.isNew : Call → Bool
  | saveEndpoint _ | saveCredential _ | verify => true
  | _ => false

namespace ProviderRows

def new : ProviderRows := ⟨[], [], none⟩

/-- What a call reads leads to its next phase. -/
def read (rows : ProviderRows) : Call → Option Call
  | .saveEndpoint baseURL =>
    some (.endpointBuilt baseURL rows.endpoints.nextVersion rows.endpoints.activeID)
  | .endpointSaved candidateID baseURL activeID =>
    match rows.credentials.active? with
    | some credential => some (.endpointChecking candidateID baseURL activeID credential)
    | none => some .finished
  | .saveCredential key =>
    some (if trimSpace key = "" ∨ rows.endpoints = [] then .finished
      else .endpointFound (trimSpace key))
  | .endpointFound key => some (.credentialBuilt key rows.credentials.nextVersion)
  | .verify =>
    -- `preferredVerificationEndpoint`
    match rows.endpoints.active?.or rows.endpoints.pending? with
    | some endpoint => some (.endpointRead endpoint)
    | none => some .finished
  | .endpointRead endpoint =>
    -- `preferredVerificationCredential`
    match rows.credentials.pending?.or rows.credentials.active? with
    | some credential => some (.verifying endpoint credential rows.credentials.activeID)
    | none => some .finished
  | _ => none

/-- `SaveProviderEndpointCandidate` -/
def saveProviderEndpointCandidate (rows : ProviderRows) (candidate : Version) :
    Option ProviderRows :=
  (rows.endpoints.saveCandidate candidate).map fun endpoints ↦ { rows with endpoints := endpoints }

/-- `SaveProviderCredentialCandidate` -/
def saveProviderCredentialCandidate (rows : ProviderRows) (candidate : Version) :
    Option ProviderRows :=
  (rows.credentials.saveCandidate candidate).map fun credentials ↦
    { rows with credentials := credentials }

/-- `RecordProviderCredentialVerification`: the version has to be there. -/
def recordProviderCredentialVerification (rows : ProviderRows) (record : Verification)
    (updateCredential : Bool) : Option ProviderRows :=
  if rows.credentials.any (·.id = record.versionID) then
    some (if updateCredential then { rows with health := some record } else rows)
  else none

/-- `ActivateProviderCredentialWithVerification` -/
def activateProviderCredentialWithVerification (rows : ProviderRows)
    (versionID expectedActiveID : String) (record : Verification) : Option ProviderRows := do
  let credentials ← rows.credentials.activate versionID expectedActiveID
  { rows with credentials := credentials }.recordProviderCredentialVerification
    record true

/-- `ActivateProviderEndpointAndCredentialWithVerification` -/
def activateProviderEndpointAndCredentialWithVerification (rows : ProviderRows)
    (endpointVersionID expectedEndpointID credentialVersionID expectedCredentialID : String)
    (record : Verification) : Option ProviderRows := do
  let endpoints ← rows.endpoints.activate endpointVersionID expectedEndpointID
  let credentials ← rows.credentials.activate credentialVersionID expectedCredentialID
  let rows := { rows with endpoints := endpoints, credentials := credentials }
  rows.recordProviderCredentialVerification record true

/-- `ActivateProviderEndpointWithCredentialVerifications`, of the credential of the account. -/
def activateProviderEndpointWithCredentialVerifications (rows : ProviderRows)
    (versionID expectedActiveID : String) (record : Verification) : Option ProviderRows := do
  let active ← rows.credentials.active?
  if active.id ≠ record.versionID then none
  let endpoints ← rows.endpoints.activate versionID expectedActiveID
  { rows with endpoints := endpoints }.recordProviderCredentialVerification
    record true

end ProviderRows

/-! ## Steps -/

/-- `updateActiveHealth`, of a check that failed. -/
def updatesHealth (credential : Version) (record : Verification) : Bool :=
  credential.status = .active && record.healthStatus ≠ .unavailable &&
    record.healthStatus ≠ .unknown

/-- The transaction a call commits next, unless it is refused. -/
def ProviderRows.commit (rows : ProviderRows) (newID : String) :
    Call → Option (Option ProviderRows)
  | .endpointBuilt baseURL version _ =>
    some (rows.saveProviderEndpointCandidate ⟨newID, baseURL, .pending, version⟩)
  | .credentialBuilt key version =>
    some (rows.saveProviderCredentialCandidate ⟨newID, key, .pending, version⟩)
  | .endpointChecked candidateID activeID record =>
    some (rows.activateProviderEndpointWithCredentialVerifications candidateID activeID record)
  | .verified endpoint credential activeID record =>
    some (if credential.status = .active then
        rows.recordProviderCredentialVerification record true
      else if endpoint.status = .active then
        rows.activateProviderCredentialWithVerification credential.id activeID record
      else
        rows.activateProviderEndpointAndCredentialWithVerification endpoint.id "" credential.id
          activeID record)
  | .verifyFailed credential record =>
    some (rows.recordProviderCredentialVerification record (updatesHealth credential record))
  | _ => none

/-- What follows the transaction. -/
def Call.committed (newID : String) : Call → Call
  | .endpointBuilt baseURL _ activeID => .endpointSaved newID baseURL activeID
  | _ => .finished

/-- What follows the answer of the provider, and what was checked. -/
def Call.check (result : BalanceResult) : Call → Option (Call × String × String)
  | .endpointChecking candidateID baseURL activeID credential =>
    some (if result.isFact then
        .endpointChecked candidateID activeID (result.verification credential.id)
      else .finished, baseURL, credential.value)
  | .verifying endpoint credential activeID =>
    some (if result.isFact then
        .verified endpoint credential activeID (result.verification credential.id)
      else .verifyFailed credential (result.verification credential.id),
      endpoint.value, credential.value)
  | _ => none

namespace ProviderState

def new : ProviderState := ⟨.new, [], []⟩

def setCall (s : ProviderState) (i : ℕ) (call : Call) : ProviderState :=
  { s with calls := s.calls.set i call }

def step (s : ProviderState) : ProviderAction → Option ProviderState
  | .start call => if call.isNew then some { s with calls := s.calls ++ [call] } else none
  | .read i => do
    let call ← s.calls[i]?
    let next ← s.rows.read call
    some (s.setCall i next)
  | .check i result => do
    let call ← s.calls[i]?
    let (next, checked) ← call.check result
    some { s.setCall i next with
      passed := if result.isFact then checked :: s.passed else s.passed }
  | .commit i newID => do
    let call ← s.calls[i]?
    let result ← s.rows.commit newID call
    if newID = "" then none
    match result with
    | some rows => some { s.setCall i (call.committed newID) with rows := rows }
    | none => some (s.setCall i .finished)
  | .fail i => do
    let _ ← s.calls[i]?
    some (s.setCall i .finished)

end ProviderState

/-! ## What is promised -/

/-- At most one version is active, and at most one is pending. -/
structure Single (versions : Versions) : Prop where
  active : ∀ a ∈ versions, a.status = .active → ∀ b ∈ versions, b.status = .active → a = b
  pending : ∀ a ∈ versions, a.status = .pending → ∀ b ∈ versions, b.status = .pending → a = b

/-- A version that is retired or superseded stays so. -/
def StayEnded (versions versions' : Versions) : Prop :=
  ∀ a ∈ versions, a.status.isEnded = true → ∀ b ∈ versions', b.id = a.id → b.status.isEnded = true

/-- The active key has passed a check against the active base URL. -/
def Checked (rows : ProviderRows) (passed : List (String × String)) : Prop :=
  ∀ endpoint ∈ rows.endpoints, endpoint.status = .active →
    ∀ credential ∈ rows.credentials, credential.status = .active →
      (endpoint.value, credential.value) ∈ passed

/-- The health is that of the active version. -/
def HealthOfActive (rows : ProviderRows) : Prop :=
  ∀ record, rows.health = some record →
    ∃ credential ∈ rows.credentials, credential.status = .active ∧ credential.id = record.versionID

structure Kept (s s' : ProviderState) : Prop where
  endpoints : Single s'.rows.endpoints
  credentials : Single s'.rows.credentials
  endpointsEnded : StayEnded s.rows.endpoints s'.rows.endpoints
  credentialsEnded : StayEnded s.rows.credentials s'.rows.credentials
  checked : Checked s'.rows s'.passed
  /-- A health that is stored is that of the version that is active by then. -/
  health : s'.rows.health ≠ s.rows.health → HealthOfActive s'.rows

/-- The version is the active one. -/
def Versions.isActive (versions : Versions) (versionID : String) : Bool :=
  versions.any fun version ↦ version.id = versionID && version.status = .active

/-- What `activate` asks for. -/
def Versions.canActivate (versions : Versions) (versionID expectedActiveID : String) : Bool :=
  versions.activeID = expectedActiveID &&
    versions.any fun version ↦ version.id = versionID && version.status = .pending

/-- The condition on the transaction of a call: a key that is going to be activated has passed a
check against the base URL that is active, and a health that is recorded without an activation is
that of the active version. -/
def callFits (s : ProviderState) : Call → Bool
  | .verified endpoint credential activeID _ =>
    if credential.status = .active then s.rows.credentials.isActive credential.id
    else endpoint.status ≠ .active || !s.rows.credentials.canActivate credential.id activeID ||
      s.rows.endpoints.all fun active ↦ active.status ≠ .active ||
        (active.value, credential.value) ∈ s.passed
  | .verifyFailed credential record =>
    !updatesHealth credential record || s.rows.credentials.isActive credential.id
  | _ => true

def fits (s : ProviderState) : ProviderAction → Bool
  | .commit i _ => s.calls[i]?.all (callFits s)
  | _ => true

abbrev Fits (s : ProviderState) (action : ProviderAction) : Prop := fits s action = true

/-! ## Versions -/

/-- There is a version with this base URL or key. -/
def Known (versions : Versions) (id value : String) : Prop :=
  ∃ version ∈ versions, version.id = id ∧ version.value = value

/-- What holds of the versions in every run. -/
structure VersionsSound (versions : Versions) : Prop where
  single : Single versions
  distinct : (versions.map (·.id)).Nodup
  named : ∀ version ∈ versions, version.id ≠ ""

/-- What happens to the versions in a transaction. -/
structure Moved (versions versions' : Versions) : Prop where
  sound : VersionsSound versions'
  ended : StayEnded versions versions'
  known : ∀ {id value : String}, Known versions id value → Known versions' id value

section Versions

variable {versions versions' : Versions} {candidate a b : Version} {id value expected : String}

theorem VersionsSound.eq (h : VersionsSound versions) (ha : a ∈ versions) (hb : b ∈ versions)
    (hid : a.id = b.id) : a = b :=
  List.inj_on_of_nodup_map h.distinct ha hb hid

theorem VersionsSound.known_value (h : VersionsSound versions) (ha : a ∈ versions)
    (hknown : Known versions a.id value) : a.value = value := by
  obtain ⟨b, hb, hid, rfl⟩ := hknown
  rw [h.eq hb ha hid]

theorem VersionsSound.moved (h : VersionsSound versions) : Moved versions versions where
  sound := h
  ended _ ha hended _ hb hid := h.eq hb ha hid ▸ hended
  known hknown := hknown

/-- The statuses of versions change. -/
theorem known_map {f : Version → Version} (hid : ∀ v, (f v).id = v.id)
    (hvalue : ∀ v, (f v).value = v.value) (hknown : Known versions id value) :
    Known (versions.map f) id value := by
  obtain ⟨a, ha, rfl, rfl⟩ := hknown
  exact ⟨f a, List.mem_map_of_mem ha, hid a, hvalue a⟩

theorem VersionsSound.active?_eq (h : VersionsSound versions) (ha : a ∈ versions)
    (hactive : a.status = .active) : versions.active? = some a := by
  rw [Versions.active?]
  cases hfind : versions.find? (·.status = .active) with
  | none =>
    have hno := List.find?_eq_none.mp hfind a ha
    exact absurd (decide_eq_true hactive) hno
  | some b =>
    have hb := List.find?_some hfind
    rw [h.single.active a ha hactive b (List.mem_of_find?_eq_some hfind) (of_decide_eq_true hb)]

theorem active?_eq_some (hactive : versions.active? = some a) :
    a ∈ versions ∧ a.status = .active := by
  rw [Versions.active?] at hactive
  exact ⟨List.mem_of_find?_eq_some hactive, by simpa using List.find?_some hactive⟩

theorem pending?_eq_some (hpending : versions.pending? = some a) :
    a ∈ versions ∧ a.status = .pending := by
  rw [Versions.pending?] at hpending
  exact ⟨List.mem_of_find?_eq_some hpending, by simpa using List.find?_some hpending⟩

/-- Nothing that is pending is left. -/
theorem superseded_status (v : Version) : v.superseded.status ≠ .pending ∧
    (v.superseded.status = .active → v.superseded = v) := by
  rw [Version.superseded]
  split_ifs with hpending
  · exact ⟨nofun, nofun⟩
  · exact ⟨hpending, fun _ ↦ rfl⟩

theorem superseded_id (v : Version) : v.superseded.id = v.id := by
  rw [Version.superseded]
  split_ifs <;> rfl

theorem superseded_value (v : Version) : v.superseded.value = v.value := by
  rw [Version.superseded]
  split_ifs <;> rfl

theorem superseded_of_ended {v : Version} (hended : v.status.isEnded = true) :
    v.superseded = v := by
  rw [Version.superseded]
  split_ifs with hpending
  · rw [hpending] at hended
    cases hended
  · rfl

/-- **A candidate becomes the only pending version, and the active one stays.** -/
theorem VersionsSound.saveCandidate (h : VersionsSound versions) (hid : candidate.id ≠ "")
    (hpending : candidate.status = .pending)
    (hsave : versions.saveCandidate candidate = some versions') :
    Moved versions versions' ∧ Known versions' candidate.id candidate.value ∧
      ∀ v : Version, v.status = .active → (v ∈ versions' ↔ v ∈ versions) := by
  rw [Versions.saveCandidate] at hsave
  split_ifs at hsave with hused
  obtain rfl := Option.some.inj hsave
  have hnew (v : Version) (hv : v ∈ versions) : v.id ≠ candidate.id := by
    intro hsame
    exact hused (List.any_eq_true.mpr ⟨v, hv, by simp [hsame]⟩)
  have hactive (v : Version) (hv : v.status = .active) :
      v ∈ candidate :: versions.map Version.superseded ↔ v ∈ versions := by
    rw [List.mem_cons, List.mem_map]
    constructor
    · rintro (rfl | ⟨a, ha, rfl⟩)
      · rw [hpending] at hv
        cases hv
      · rwa [(superseded_status a).2 hv]
    · intro hmem
      exact .inr ⟨v, hmem, if_neg (by rw [hv]; nofun)⟩
  refine ⟨⟨⟨⟨?_, ?_⟩, ?_, ?_⟩, ?_, ?_⟩, ⟨candidate, List.mem_cons_self, rfl, rfl⟩, hactive⟩
  · intro a ha haActive b hb hbActive
    exact h.single.active a ((hactive a haActive).mp ha) haActive b ((hactive b hbActive).mp hb)
      hbActive
  · -- All others have given way.
    have heq (a : Version) (ha : a ∈ candidate :: versions.map Version.superseded)
        (haPending : a.status = .pending) : a = candidate := by
      rcases List.mem_cons.mp ha with rfl | ha
      · rfl
      · obtain ⟨v, -, rfl⟩ := List.mem_map.mp ha
        exact absurd haPending (superseded_status v).1
    intro a ha haPending b hb hbPending
    rw [heq a ha haPending, heq b hb hbPending]
  · rw [List.map_cons, List.map_map, List.nodup_cons]
    have hids : Version.id ∘ Version.superseded = Version.id := funext superseded_id
    rw [hids]
    refine ⟨fun hmem ↦ ?_, h.distinct⟩
    obtain ⟨v, hv, hsame⟩ := List.mem_map.mp hmem
    exact hnew v hv hsame
  · intro v hv
    rcases List.mem_cons.mp hv with rfl | hv
    · exact hid
    · obtain ⟨a, ha, rfl⟩ := List.mem_map.mp hv
      rw [superseded_id]
      exact h.named a ha
  · intro a ha hended b hb hsame
    rcases List.mem_cons.mp hb with rfl | hb
    · exact absurd hsame.symm (hnew a ha)
    · obtain ⟨v, hv, rfl⟩ := List.mem_map.mp hb
      obtain rfl : v = a := h.eq hv ha ((superseded_id v).symm.trans hsame)
      rwa [superseded_of_ended hended]
  · intro id value hknown
    obtain ⟨v, hv, hv'⟩ := known_map superseded_id superseded_value hknown
    exact ⟨v, List.mem_cons_of_mem _ hv, hv'⟩

theorem VersionsSound.activeID_eq (h : VersionsSound versions) (ha : a ∈ versions)
    (hactive : a.status = .active) : versions.activeID = a.id := by
  rw [Versions.activeID, h.active?_eq ha hactive]
  rfl

theorem switched_id {activeID : String} (v : Version) : (v.switched activeID id).id = v.id := by
  rw [Version.switched]
  split_ifs <;> rfl

theorem switched_value {activeID : String} (v : Version) :
    (v.switched activeID id).value = v.value := by
  rw [Version.switched]
  split_ifs <;> rfl

/-- Only the pending version of the identifier becomes active, and no version becomes pending. -/
theorem VersionsSound.switched_cases (h : VersionsSound versions) (ha : a ∈ versions) :
    (a.id = id ∧ a.status = .pending ∧
        a.switched versions.activeID id = { a with status := .active }) ∨
      (a.switched versions.activeID id).status ≠ .active ∧
        ((a.switched versions.activeID id).status = .pending → a.id ≠ id ∧ a.status = .pending ∧
          a.switched versions.activeID id = a) := by
  rw [Version.switched]
  split_ifs with hretires hactivates
  · exact .inr ⟨nofun, nofun⟩
  · exact .inl ⟨hactivates.1, hactivates.2, rfl⟩
  · refine .inr ⟨fun hactive ↦ hretires ⟨(h.activeID_eq ha hactive).symm, hactive⟩, ?_⟩
    exact fun hpending ↦ ⟨fun hid ↦ hactivates ⟨hid, hpending⟩, hpending, rfl⟩

theorem switched_of_ended {activeID : String} (hended : a.status.isEnded = true) :
    a.switched activeID id = a := by
  rw [Version.switched]
  split_ifs with hretires hactivates
  · rw [hretires.2] at hended
    cases hended
  · rw [hactivates.2] at hended
    cases hended
  · rfl

/-- **The pending version of the identifier becomes the only active one.** -/
theorem VersionsSound.activate (h : VersionsSound versions)
    (hactivate : versions.activate id expected = some versions') :
    Moved versions versions' ∧ versions.canActivate id expected = true ∧
      ∃ candidate ∈ versions, candidate.id = id ∧
        ∀ v : Version, v ∈ versions' ∧ v.status = .active ↔
          v = { candidate with status := .active } := by
  rw [Versions.activate] at hactivate
  split at hactivate
  · cases hactivate
  rename_i candidate hfind
  split_ifs at hactivate with hconflict
  obtain ⟨hexpected, hpending⟩ := not_or.mp hconflict
  rw [not_not] at hexpected hpending
  obtain rfl := Option.some.inj hactivate
  have hmem := List.mem_of_find?_eq_some hfind
  have hid : candidate.id = id := by simpa using List.find?_some hfind
  have hcan : versions.canActivate id expected = true := by
    rw [Versions.canActivate, Bool.and_eq_true, List.any_eq_true]
    exact ⟨decide_eq_true hexpected, candidate, hmem, by simp [hid, hpending]⟩
  have hiff (v : Version) : v ∈ versions.map (Version.switched versions.activeID id) ∧
      v.status = .active ↔ v = { candidate with status := .active } := by
    constructor
    · rintro ⟨hv, hactive⟩
      obtain ⟨a, ha, rfl⟩ := List.mem_map.mp hv
      rcases h.switched_cases ha with ⟨hsame, -, hswitched⟩ | ⟨hnot, -⟩
      · rw [hswitched, h.eq ha hmem (hsame.trans hid.symm)]
      · exact absurd hactive hnot
    · rintro rfl
      refine ⟨List.mem_map.mpr ⟨candidate, hmem, ?_⟩, rfl⟩
      rw [Version.switched, if_neg (by rw [hpending]; exact fun hand ↦ nomatch hand.2),
        if_pos ⟨hid, hpending⟩]
  refine ⟨⟨⟨⟨?_, ?_⟩, ?_, ?_⟩, ?_, ?_⟩, hcan, candidate, hmem, hid, hiff⟩
  · intro a ha haActive b hb hbActive
    rw [(hiff a).mp ⟨ha, haActive⟩, (hiff b).mp ⟨hb, hbActive⟩]
  · intro a ha haPending b hb hbPending
    obtain ⟨v, hv, rfl⟩ := List.mem_map.mp ha
    obtain ⟨w, hw, rfl⟩ := List.mem_map.mp hb
    rcases h.switched_cases hv with ⟨-, -, hswitched⟩ | ⟨-, hv'⟩
    · rw [hswitched] at haPending
      cases haPending
    · rcases h.switched_cases hw with ⟨-, -, hswitched⟩ | ⟨-, hw'⟩
      · rw [hswitched] at hbPending
        cases hbPending
      · rw [h.single.pending v hv (hv' haPending).2.1 w hw (hw' hbPending).2.1]
  · rw [List.map_map]
    have hids : Version.id ∘ Version.switched versions.activeID id = Version.id :=
      funext switched_id
    rw [hids]
    exact h.distinct
  · intro v hv
    obtain ⟨a, ha, rfl⟩ := List.mem_map.mp hv
    rw [switched_id]
    exact h.named a ha
  · intro a ha hended b hb hsame
    obtain ⟨v, hv, rfl⟩ := List.mem_map.mp hb
    obtain rfl : v = a := h.eq hv ha ((switched_id v).symm.trans hsame)
    rwa [switched_of_ended hended]
  · exact fun hknown ↦ known_map switched_id switched_value hknown

/-- What can be activated is. -/
theorem activate_of_can (hcan : versions.canActivate id expected = true)
    (h : VersionsSound versions) : ∃ versions', versions.activate id expected = some versions' := by
  rw [Versions.canActivate, Bool.and_eq_true, List.any_eq_true] at hcan
  obtain ⟨hexpected, candidate, hmem, hboth⟩ := hcan
  rw [Bool.and_eq_true, decide_eq_true_eq, decide_eq_true_eq] at hboth
  rw [Versions.activate]
  split
  · rename_i hnone
    have hno := List.find?_eq_none.mp hnone candidate hmem
    exact absurd (decide_eq_true hboth.1) hno
  · rename_i found hfind
    have hid : found.id = id := by simpa using List.find?_some hfind
    have hsame : found = candidate :=
      h.eq (List.mem_of_find?_eq_some hfind) hmem (hid.trans hboth.1.symm)
    rw [if_neg (not_or.mpr ⟨not_not.mpr (of_decide_eq_true hexpected),
      not_not.mpr (hsame ▸ hboth.2)⟩)]
    exact ⟨_, rfl⟩

end Versions

/-! ## Transactions -/

/-- What a call has read is still there, and what it has checked has passed. -/
def CallSound (s : ProviderState) : Call → Prop
  | .endpointSaved candidateID baseURL _ => Known s.rows.endpoints candidateID baseURL
  | .endpointChecking candidateID baseURL _ credential =>
    Known s.rows.endpoints candidateID baseURL ∧
      Known s.rows.credentials credential.id credential.value
  | .endpointChecked candidateID _ record =>
    ∃ baseURL key, Known s.rows.endpoints candidateID baseURL ∧
      Known s.rows.credentials record.versionID key ∧ (baseURL, key) ∈ s.passed
  | .endpointRead endpoint => Known s.rows.endpoints endpoint.id endpoint.value
  | .verifying endpoint credential _ =>
    Known s.rows.endpoints endpoint.id endpoint.value ∧
      Known s.rows.credentials credential.id credential.value
  | .verified endpoint credential _ record =>
    Known s.rows.endpoints endpoint.id endpoint.value ∧
      Known s.rows.credentials credential.id credential.value ∧
        record.versionID = credential.id ∧ (endpoint.value, credential.value) ∈ s.passed
  | .verifyFailed credential record =>
    Known s.rows.credentials credential.id credential.value ∧ record.versionID = credential.id
  | _ => True

/-- What holds in every run whose steps fit. -/
structure Sound (s : ProviderState) : Prop where
  endpoints : VersionsSound s.rows.endpoints
  credentials : VersionsSound s.rows.credentials
  checked : Checked s.rows s.passed
  health : HealthOfActive s.rows
  calls : ∀ call ∈ s.calls, CallSound s call

/-- What a transaction of a call leads to. -/
structure Committed (s : ProviderState) (call : Call) (rows : ProviderRows) : Prop where
  endpoints : Moved s.rows.endpoints rows.endpoints
  credentials : Moved s.rows.credentials rows.credentials
  fits : callFits s call = true → Checked rows s.passed ∧ HealthOfActive rows
  onlyIf : Checked rows s.passed → (rows.health ≠ s.rows.health → HealthOfActive rows) →
    callFits s call = true

section Transactions

variable {s s' : ProviderState} {rows : ProviderRows} {call : Call} {record : Verification}
  {newID : String} {update : Bool}

theorem CallSound.mono
    (hendpoints : ∀ {id value : String}, Known s.rows.endpoints id value →
      Known s'.rows.endpoints id value)
    (hcredentials : ∀ {id value : String}, Known s.rows.credentials id value →
      Known s'.rows.credentials id value)
    (hpassed : s.passed ⊆ s'.passed) (h : CallSound s call) : CallSound s' call := by
  cases call with
  | endpointSaved | endpointRead => exact hendpoints h
  | endpointChecking | verifying => exact ⟨hendpoints h.1, hcredentials h.2⟩
  | endpointChecked =>
    obtain ⟨baseURL, key, hbaseURL, hkey, hchecked⟩ := h
    exact ⟨baseURL, key, hendpoints hbaseURL, hcredentials hkey, hpassed hchecked⟩
  | verified =>
    obtain ⟨hendpoint, hcredential, hid, hchecked⟩ := h
    exact ⟨hendpoints hendpoint, hcredentials hcredential, hid, hpassed hchecked⟩
  | verifyFailed => exact ⟨hcredentials h.1, h.2⟩
  | _ => trivial

theorem record_eq_some {rows' : ProviderRows}
    (hrecord : rows.recordProviderCredentialVerification record update = some rows') :
    rows' = if update then { rows with health := some record } else rows := by
  rw [ProviderRows.recordProviderCredentialVerification] at hrecord
  split at hrecord
  · exact (Option.some.inj hrecord).symm
  · cases hrecord

theorem isActive_iff {versions : Versions} {id : String} : versions.isActive id = true ↔
    ∃ version ∈ versions, version.status = .active ∧ version.id = id := by
  simp only [Versions.isActive, List.any_eq_true, Bool.and_eq_true, decide_eq_true_eq, and_comm]

/-- A health is recorded, and nothing is activated. -/
theorem Sound.recorded (h : Sound s)
    (hrecord : s.rows.recordProviderCredentialVerification record update = some rows)
    (hfits : callFits s call = true ↔
      (update = true → s.rows.credentials.isActive record.versionID = true)) :
    Committed s call rows := by
  obtain rfl := record_eq_some hrecord
  cases update with
  | false => exact ⟨h.endpoints.moved, h.credentials.moved, fun _ ↦ ⟨h.checked, h.health⟩,
      fun _ _ ↦ hfits.mpr nofun⟩
  | true =>
    have hiff : HealthOfActive { s.rows with health := some record } ↔
        s.rows.credentials.isActive record.versionID = true := by
      rw [isActive_iff]
      refine ⟨fun hactive ↦ hactive record rfl, fun hactive record' hrecord' ↦ ?_⟩
      rwa [← Option.some.inj hrecord']
    refine ⟨h.endpoints.moved, h.credentials.moved,
      fun hfit ↦ ⟨h.checked, hiff.mpr (hfits.mp hfit rfl)⟩, fun _ hhealth ↦ hfits.mpr fun _ ↦ ?_⟩
    by_cases hsame : s.rows.health = some record
    · exact isActive_iff.mpr (h.health record hsame)
    · exact hiff.mp (hhealth fun heq ↦ hsame heq.symm)

/-- The active versions stay as they are, and so does the health. -/
theorem Sound.unchanged (h : Sound s) (hendpoints : Moved s.rows.endpoints rows.endpoints)
    (hcredentials : Moved s.rows.credentials rows.credentials)
    (hactiveEndpoints : ∀ v : Version, v.status = .active →
      (v ∈ rows.endpoints ↔ v ∈ s.rows.endpoints))
    (hactiveCredentials : ∀ v : Version, v.status = .active →
      (v ∈ rows.credentials ↔ v ∈ s.rows.credentials))
    (hhealth : rows.health = s.rows.health) (hfits : callFits s call = true) :
    Committed s call rows := by
  refine ⟨hendpoints, hcredentials, fun _ ↦ ⟨?_, ?_⟩, fun _ _ ↦ hfits⟩
  · intro endpoint hendpoint hactive credential hcredential hactive'
    exact h.checked endpoint ((hactiveEndpoints _ hactive).mp hendpoint) hactive credential
      ((hactiveCredentials _ hactive').mp hcredential) hactive'
  · intro record hrecord
    obtain ⟨credential, hcredential, hactive, hid⟩ := h.health record (hhealth ▸ hrecord)
    exact ⟨credential, (hactiveCredentials _ hactive).mpr hcredential, hactive, hid⟩

/-- An endpoint is saved, or a credential. -/
theorem Sound.endpointBuilt {baseURL activeID : String} {version : ℕ} (h : Sound s)
    (hid : newID ≠ "")
    (hcommit : s.rows.saveProviderEndpointCandidate ⟨newID, baseURL, .pending, version⟩ =
      some rows) :
    Committed s (.endpointBuilt baseURL version activeID) rows ∧
      Known rows.endpoints newID baseURL := by
  obtain ⟨endpoints, hsave, rfl⟩ := Option.map_eq_some_iff.mp hcommit
  obtain ⟨hmoved, hknown, hactive⟩ := h.endpoints.saveCandidate hid rfl hsave
  exact ⟨h.unchanged hmoved h.credentials.moved hactive (fun _ _ ↦ .rfl) rfl rfl, hknown⟩

theorem Sound.credentialBuilt {key : String} {version : ℕ} (h : Sound s) (hid : newID ≠ "")
    (hcommit : s.rows.saveProviderCredentialCandidate ⟨newID, key, .pending, version⟩ =
      some rows) : Committed s (.credentialBuilt key version) rows := by
  obtain ⟨credentials, hsave, rfl⟩ := Option.map_eq_some_iff.mp hcommit
  obtain ⟨hmoved, -, hactive⟩ := h.credentials.saveCandidate hid rfl hsave
  exact h.unchanged h.endpoints.moved hmoved (fun _ _ ↦ .rfl) hactive rfl rfl

/-- The active version is read again, and is the one that was checked. -/
theorem Sound.endpointChecked {candidateID activeID : String} (h : Sound s)
    (hcall : CallSound s (.endpointChecked candidateID activeID record))
    (hcommit : s.rows.activateProviderEndpointWithCredentialVerifications candidateID activeID
      record = some rows) :
    Committed s (.endpointChecked candidateID activeID record) rows := by
  obtain ⟨baseURL, key, hbaseURL, hkey, hpassed⟩ := hcall
  rw [ProviderRows.activateProviderEndpointWithCredentialVerifications] at hcommit
  obtain ⟨active, hactive, hcommit⟩ := Option.bind_eq_some_iff.mp hcommit
  dsimp only at hcommit
  split at hcommit
  · cases hcommit
  rename_i hsame
  rw [not_not] at hsame
  obtain ⟨endpoints, hactivate, hrecord⟩ := Option.bind_eq_some_iff.mp hcommit
  obtain rfl := record_eq_some hrecord
  obtain ⟨hmoved, -, candidate, hcandidate, rfl, hiff⟩ := h.endpoints.activate hactivate
  obtain ⟨hmem, hactive⟩ := active?_eq_some hactive
  refine ⟨hmoved, h.credentials.moved, fun _ ↦ ⟨?_, ?_⟩, fun _ _ ↦ rfl⟩
  · intro endpoint hendpoint hstatus credential hcredential hstatus'
    obtain rfl := (hiff endpoint).mp ⟨hendpoint, hstatus⟩
    obtain rfl : active = credential :=
      h.credentials.single.active active hmem hactive credential hcredential hstatus'
    have hvalue : candidate.value = baseURL := h.endpoints.known_value hcandidate hbaseURL
    have hvalue' : active.value = key := h.credentials.known_value hmem (hsame ▸ hkey)
    exact hvalue ▸ hvalue' ▸ hpassed
  · intro record' hrecord'
    obtain rfl := Option.some.inj hrecord'
    exact ⟨active, hmem, hactive, hsame⟩

/-- The key may meet another base URL than the one it was checked against. -/
theorem Sound.credentialActivated {endpoint credential : Version} {activeID : String}
    (h : Sound s) (hcall : CallSound s (.verified endpoint credential activeID record))
    (hstatus : credential.status ≠ .active) (hendpoint : endpoint.status = .active)
    (hcommit : s.rows.activateProviderCredentialWithVerification credential.id activeID record =
      some rows) :
    Committed s (.verified endpoint credential activeID record) rows := by
  obtain ⟨-, hkey, hid, -⟩ := hcall
  obtain ⟨credentials, hactivate, hrecord⟩ := Option.bind_eq_some_iff.mp hcommit
  obtain rfl := record_eq_some hrecord
  obtain ⟨hmoved, hcan, candidate, hcandidate, hcandidateID, hiff⟩ :=
    h.credentials.activate hactivate
  have hvalue : candidate.value = credential.value :=
    h.credentials.known_value hcandidate (hcandidateID ▸ hkey)
  have hactive := (hiff _).mpr rfl
  have hfits : callFits s (.verified endpoint credential activeID record) = true ↔
      ∀ active ∈ s.rows.endpoints, active.status = .active →
        (active.value, candidate.value) ∈ s.passed := by
    rw [callFits, if_neg hstatus, hcan, hvalue]
    simp [hendpoint, ← imp_iff_not_or]
  refine ⟨h.endpoints.moved, hmoved, fun hfit ↦ ⟨?_, ?_⟩, fun hchecked _ ↦ hfits.mpr ?_⟩
  · intro active hactiveMem hactiveStatus key hkeyMem hkeyStatus
    obtain rfl := (hiff key).mp ⟨hkeyMem, hkeyStatus⟩
    exact hfits.mp hfit active hactiveMem hactiveStatus
  · intro record' hrecord'
    obtain rfl := Option.some.inj hrecord'
    exact ⟨_, hactive.1, hactive.2, hcandidateID.trans hid.symm⟩
  · intro active hactiveMem hactiveStatus
    have hpair := hchecked active hactiveMem hactiveStatus { candidate with status := .active }
      hactive.1 hactive.2
    exact hpair

/-- Base URL and key become active together. -/
theorem Sound.bothActivated {endpoint credential : Version} {activeID : String}
    (h : Sound s) (hcall : CallSound s (.verified endpoint credential activeID record))
    (hstatus : credential.status ≠ .active) (hendpoint : endpoint.status ≠ .active)
    (hcommit : s.rows.activateProviderEndpointAndCredentialWithVerification endpoint.id ""
      credential.id activeID record = some rows) :
    Committed s (.verified endpoint credential activeID record) rows := by
  obtain ⟨hbaseURL, hkey, hid, hpassed⟩ := hcall
  obtain ⟨endpoints, hactivate, hcommit⟩ := Option.bind_eq_some_iff.mp hcommit
  obtain ⟨credentials, hactivate', hrecord⟩ := Option.bind_eq_some_iff.mp hcommit
  obtain rfl := record_eq_some hrecord
  obtain ⟨hmoved, -, active, hactiveMem, hactiveID, hiff⟩ := h.endpoints.activate hactivate
  obtain ⟨hmoved', -, candidate, hcandidate, hcandidateID, hiff'⟩ :=
    h.credentials.activate hactivate'
  have hvalue : active.value = endpoint.value :=
    h.endpoints.known_value hactiveMem (hactiveID ▸ hbaseURL)
  have hvalue' : candidate.value = credential.value :=
    h.credentials.known_value hcandidate (hcandidateID ▸ hkey)
  have hactive := (hiff' _).mpr rfl
  have hfits : callFits s (.verified endpoint credential activeID record) = true := by
    rw [callFits, if_neg hstatus]
    simp [hendpoint]
  refine ⟨hmoved, hmoved', fun _ ↦ ⟨?_, ?_⟩, fun _ _ ↦ hfits⟩
  · intro url hurlMem hurlStatus key hkeyMem hkeyStatus
    obtain rfl := (hiff url).mp ⟨hurlMem, hurlStatus⟩
    obtain rfl := (hiff' key).mp ⟨hkeyMem, hkeyStatus⟩
    exact hvalue ▸ hvalue' ▸ hpassed
  · intro record' hrecord'
    obtain rfl := Option.some.inj hrecord'
    exact ⟨_, hactive.1, hactive.2, hcandidateID.trans hid.symm⟩

/-- **What any transaction leads to.** -/
theorem Sound.committed (h : Sound s) (hcall : CallSound s call) (hid : newID ≠ "")
    (hcommit : s.rows.commit newID call = some (some rows)) :
    Committed s call rows ∧ (CallSound { s with rows := rows } (call.committed newID)) := by
  cases call with
  | endpointBuilt baseURL version activeID =>
    exact h.endpointBuilt hid (Option.some.inj hcommit)
  | credentialBuilt key version =>
    exact ⟨h.credentialBuilt hid (Option.some.inj hcommit), trivial⟩
  | endpointChecked candidateID activeID record =>
    exact ⟨h.endpointChecked hcall (Option.some.inj hcommit), trivial⟩
  | verified endpoint credential activeID record =>
    have hcommit := Option.some.inj hcommit
    refine ⟨?_, trivial⟩
    split_ifs at hcommit with hstatus hendpoint
    · refine h.recorded hcommit ?_
      rw [callFits, if_pos hstatus, hcall.2.2.1]
      simp
    · exact h.credentialActivated hcall hstatus hendpoint hcommit
    · exact h.bothActivated hcall hstatus hendpoint hcommit
  | verifyFailed credential record =>
    refine ⟨h.recorded (Option.some.inj hcommit) ?_, trivial⟩
    rw [callFits, hcall.2, Bool.or_eq_true, Bool.not_eq_true', imp_iff_not_or, Bool.not_eq_true]
  | _ => cases hcommit

/-- A version that is known can be given its verification. -/
theorem record_of_known {value : String} (hknown : Known rows.credentials record.versionID value) :
    rows.recordProviderCredentialVerification record update ≠ none := by
  obtain ⟨version, hversion, hid, -⟩ := hknown
  rw [ProviderRows.recordProviderCredentialVerification,
    if_pos (List.any_eq_true.mpr ⟨version, hversion, decide_eq_true hid⟩)]
  nofun

/-- **A transaction that is refused would have fitted.** -/
theorem Sound.refused (h : Sound s) (hcall : CallSound s call)
    (hcommit : s.rows.commit newID call = some none) : callFits s call = true := by
  cases call with
  | verified endpoint credential activeID record =>
    obtain ⟨-, hkey, hid, -⟩ := hcall
    rw [← hid] at hkey
    have hcommit := Option.some.inj hcommit
    split_ifs at hcommit with hstatus hendpoint
    · exact absurd hcommit (record_of_known hkey)
    · cases hactivate : s.rows.credentials.activate credential.id activeID with
      | none =>
        have hcannot : s.rows.credentials.canActivate credential.id activeID = false := by
          by_contra hcan
          obtain ⟨versions', hsome⟩ := activate_of_can (eq_true_of_ne_false hcan) h.credentials
          rw [hactivate] at hsome
          cases hsome
        rw [callFits, if_neg hstatus, hcannot]
        simp
      | some credentials =>
        rw [ProviderRows.activateProviderCredentialWithVerification, hactivate] at hcommit
        have hmoved := (h.credentials.activate hactivate).1
        exact absurd hcommit (record_of_known (hmoved.known hkey))
    · rw [callFits, if_neg hstatus]
      simp [hendpoint]
  | verifyFailed credential record =>
    exact absurd (Option.some.inj hcommit) (record_of_known (hcall.2 ▸ hcall.1))
  | _ => rfl

end Transactions

/-! ## What a step leads to -/

section Steps

variable {s s' : ProviderState} {call next : Call} {action : ProviderAction} {i : ℕ}

theorem known_of_mem {versions : Versions} {a : Version} (ha : a ∈ versions) :
    Known versions a.id a.value :=
  ⟨a, ha, rfl, rfl⟩

theorem mem_of_or {versions : Versions} {a : Version} {first second : Option Version}
    (hfirst : ∀ b, first = some b → b ∈ versions) (hsecond : ∀ b, second = some b → b ∈ versions)
    (hor : first.or second = some a) : a ∈ versions := by
  rcases Option.or_eq_some_iff.mp hor with hor | ⟨-, hor⟩
  · exact hfirst a hor
  · exact hsecond a hor

theorem callSound_read (hcall : CallSound s call) (hread : s.rows.read call = some next) :
    CallSound s next := by
  cases call with
  | saveEndpoint | endpointFound =>
    obtain rfl := Option.some.inj hread
    trivial
  | saveCredential key =>
    obtain rfl := Option.some.inj hread
    split_ifs <;> trivial
  | endpointSaved candidateID baseURL activeID =>
    rw [ProviderRows.read] at hread
    split at hread
    · rename_i credential hactive
      obtain rfl := Option.some.inj hread
      exact ⟨hcall, known_of_mem (active?_eq_some hactive).1⟩
    · obtain rfl := Option.some.inj hread
      trivial
  | verify =>
    rw [ProviderRows.read] at hread
    split at hread
    · rename_i endpoint hfound
      obtain rfl := Option.some.inj hread
      exact known_of_mem (mem_of_or (fun _ h ↦ (active?_eq_some h).1)
        (fun _ h ↦ (pending?_eq_some h).1) hfound)
    · obtain rfl := Option.some.inj hread
      trivial
  | endpointRead endpoint =>
    rw [ProviderRows.read] at hread
    split at hread
    · rename_i credential hfound
      obtain rfl := Option.some.inj hread
      exact ⟨hcall, known_of_mem (mem_of_or (fun _ h ↦ (pending?_eq_some h).1)
        (fun _ h ↦ (active?_eq_some h).1) hfound)⟩
    · obtain rfl := Option.some.inj hread
      trivial
  | _ => cases hread

theorem callSound_check {result : BalanceResult} {checked : String × String}
    (hcall : CallSound s call) (hcheck : call.check result = some (next, checked))
    (hrows : s'.rows = s.rows) (hpassed : result.isFact = true → checked ∈ s'.passed) :
    CallSound s' next := by
  have hid (versionID : String) : (result.verification versionID).versionID = versionID := by
    cases result <;> rfl
  cases call with
  | endpointChecking candidateID baseURL activeID credential =>
    obtain ⟨rfl, rfl⟩ := Prod.mk.inj (Option.some.inj hcheck)
    split_ifs with hfact
    · refine ⟨baseURL, credential.value, ?_, ?_, hpassed hfact⟩
      · exact hrows ▸ hcall.1
      · exact hrows ▸ (hid credential.id).symm ▸ hcall.2
    · trivial
  | verifying endpoint credential activeID =>
    obtain ⟨rfl, rfl⟩ := Prod.mk.inj (Option.some.inj hcheck)
    split_ifs with hfact
    · exact ⟨hrows ▸ hcall.1, hrows ▸ hcall.2, hid _, hpassed hfact⟩
    · exact ⟨hrows ▸ hcall.2, hid _⟩
  | _ => cases hcheck

/-- The rows stay as they are. -/
theorem Sound.sameRows (h : Sound s) (hrows : s'.rows = s.rows) (hpassed : s.passed ⊆ s'.passed)
    (hcalls : ∀ call ∈ s'.calls, call ∈ s.calls ∨ CallSound s' call) : Sound s' ∧ Kept s s' := by
  have hsound : Sound s' := by
    refine ⟨hrows ▸ h.endpoints, hrows ▸ h.credentials, ?_, hrows ▸ h.health, fun call hcall ↦ ?_⟩
    · rw [hrows]
      exact fun endpoint hendpoint hactive credential hcredential hactive' ↦
        hpassed (h.checked endpoint hendpoint hactive credential hcredential hactive')
    · rcases hcalls call hcall with hold | hnew
      · exact (h.calls call hold).mono (fun hknown ↦ hrows ▸ hknown) (fun hknown ↦ hrows ▸ hknown)
          hpassed
      · exact hnew
  refine ⟨hsound, hsound.endpoints.single, hsound.credentials.single, ?_, ?_, hsound.checked,
    fun hchanged ↦ absurd (hrows ▸ rfl) hchanged⟩
  · rw [hrows]
    exact h.endpoints.moved.ended
  · rw [hrows]
    exact h.credentials.moved.ended

theorem mem_setCall (hcall : call ∈ (s.setCall i next).calls) : call ∈ s.calls ∨ call = next :=
  List.mem_or_eq_of_mem_set hcall

/-- A call goes on. -/
theorem Sound.setCall (next : Call) (h : Sound s) (hnext : CallSound s next) :
    Sound (s.setCall i next) ∧ Kept s (s.setCall i next) := by
  refine h.sameRows rfl (List.Subset.refl _) fun other hother ↦ ?_
  rcases mem_setCall hother with hold | rfl
  · exact .inl hold
  · exact .inr (hnext.mono (fun hknown ↦ hknown) (fun hknown ↦ hknown) (List.Subset.refl _))

/-- A transaction is committed. -/
theorem Sound.commit {rows : ProviderRows} {newID : String} (h : Sound s)
    (hi : s.calls[i]? = some call) (hid : newID ≠ "")
    (hcommit : s.rows.commit newID call = some (some rows))
    (hs' : s' = { s.setCall i (call.committed newID) with rows := rows }) :
    (callFits s call = true → Sound s') ∧ (Kept s s' ↔ callFits s call = true) := by
  have hmem := List.mem_of_getElem? hi
  obtain ⟨hcommitted, hnext⟩ := h.committed (h.calls call hmem) hid hcommit
  subst hs'
  have hsound (hfit : callFits s call = true) :
      Sound { s.setCall i (call.committed newID) with rows := rows } := by
    obtain ⟨hchecked, hhealth⟩ := hcommitted.fits hfit
    refine ⟨hcommitted.endpoints.sound, hcommitted.credentials.sound, hchecked, hhealth, ?_⟩
    intro other hother
    rcases mem_setCall hother with hold | rfl
    · exact (h.calls other hold).mono (fun hknown ↦ hcommitted.endpoints.known hknown)
        (fun hknown ↦ hcommitted.credentials.known hknown) (List.Subset.refl _)
    · exact hnext.mono (fun hknown ↦ hknown) (fun hknown ↦ hknown) (List.Subset.refl _)
  refine ⟨hsound, fun hkept ↦ hcommitted.onlyIf hkept.checked hkept.health, fun hfit ↦ ?_⟩
  obtain ⟨hchecked, hhealth⟩ := hcommitted.fits hfit
  exact ⟨hcommitted.endpoints.sound.single, hcommitted.credentials.sound.single,
    hcommitted.endpoints.ended, hcommitted.credentials.ended, hchecked, fun _ ↦ hhealth⟩

theorem fits_commit {newID : String} (hi : s.calls[i]? = some call) :
    Fits s (.commit i newID) ↔ callFits s call = true := by
  rw [Fits, fits, hi, Option.all_some]

/-- **What a step that fits leads to, and which steps keep what is promised.** -/
theorem Sound.step (h : Sound s) (hstep : s.step action = some s') :
    (Fits s action → Sound s') ∧ (Kept s s' ↔ Fits s action) := by
  have hboth (hboth : Sound s' ∧ Kept s s') (hfit : Fits s action) :
      (Fits s action → Sound s') ∧ (Kept s s' ↔ Fits s action) :=
    ⟨fun _ ↦ hboth.1, iff_of_true hboth.2 hfit⟩
  cases action with
  | start call =>
    rw [ProviderState.step] at hstep
    split_ifs at hstep with hnew
    obtain rfl := Option.some.inj hstep
    refine hboth (h.sameRows rfl (List.Subset.refl _) fun other hother ↦ ?_) rfl
    rcases List.mem_append.mp hother with hold | hadded
    · exact .inl hold
    · rw [List.mem_singleton.mp hadded]
      cases call <;> first | exact .inr trivial | cases hnew
  | read i =>
    obtain ⟨call, hi, hstep⟩ := Option.bind_eq_some_iff.mp hstep
    obtain ⟨next, hread, hstep⟩ := Option.bind_eq_some_iff.mp hstep
    obtain rfl := Option.some.inj hstep
    have hnext := callSound_read (h.calls call (List.mem_of_getElem? hi)) hread
    exact hboth (h.setCall next hnext) rfl
  | check i result =>
    obtain ⟨call, hi, hstep⟩ := Option.bind_eq_some_iff.mp hstep
    obtain ⟨⟨next, checked⟩, hcheck, hstep⟩ := Option.bind_eq_some_iff.mp hstep
    obtain rfl := Option.some.inj hstep
    refine hboth (h.sameRows rfl ?_ fun other hother ↦ (mem_setCall hother).imp_right ?_) rfl
    · dsimp only
      split_ifs
      · exact List.subset_cons_self _ _
      · exact List.Subset.refl _
    · rintro rfl
      refine callSound_check (h.calls call (List.mem_of_getElem? hi)) hcheck rfl fun hfact ↦ ?_
      dsimp only
      rw [if_pos hfact]
      exact List.mem_cons_self
  | commit i newID =>
    obtain ⟨call, hi, hstep⟩ := Option.bind_eq_some_iff.mp hstep
    obtain ⟨result, hcommit, hstep⟩ := Option.bind_eq_some_iff.mp hstep
    dsimp only at hstep
    split at hstep
    · cases hstep
    rename_i hid
    rw [fits_commit hi]
    cases result with
    | some rows => exact h.commit hi hid hcommit (Option.some.inj hstep).symm
    | none =>
      obtain rfl := Option.some.inj hstep
      have hfit := h.refused (h.calls call (List.mem_of_getElem? hi)) hcommit
      obtain ⟨hsound, hkept⟩ := h.setCall .finished trivial
      exact ⟨fun _ ↦ hsound, iff_of_true hkept hfit⟩
  | fail i =>
    obtain ⟨call, hi, hstep⟩ := Option.bind_eq_some_iff.mp hstep
    obtain rfl := Option.some.inj hstep
    exact hboth (h.setCall .finished trivial) rfl

end Steps

/-! ## Runs -/

open Machine (Run play run_of_play)

theorem sound_new : Sound .new :=
  ⟨⟨⟨nofun, nofun⟩, List.nodup_nil, nofun⟩, ⟨⟨nofun, nofun⟩, List.nodup_nil, nofun⟩, nofun, nofun,
    nofun⟩

/-- **In a run whose steps all fit, the next step keeps what is promised exactly if it fits.** -/
theorem provider_kept_iff {s s' : ProviderState} {action : ProviderAction}
    (hrun : Run ProviderState.step Fits .new s) (hstep : s.step action = some s') :
    Kept s s' ↔ Fits s action := by
  have hsound : Sound s :=
    hrun.invariant sound_new fun _ _ _ hsound hfits hstep ↦ (hsound.step hstep).1 hfits
  exact (hsound.step hstep).2

/-! ## A key and a base URL cross -/

namespace CrossingExample

/-- An endpoint and a key are saved, checked and activated. -/
def setUp : List ProviderAction :=
  [.start (.saveEndpoint "https://first"), .read 0, .commit 0 "endpoint-1", .read 0,
    .start (.saveCredential "key-1"), .read 1, .read 1, .commit 1 "credential-1",
    .start .verify, .read 2, .read 2, .check 2 (.fact "5"), .commit 2 "-"]

/-- While another key is checked, the endpoint is replaced, and checked with the first key. -/
def crossing : List ProviderAction :=
  [.start (.saveCredential "key-2"), .read 3, .read 3, .commit 3 "credential-2",
    .start .verify, .read 4, .read 4, .check 4 (.fact "5"),
    .start (.saveEndpoint "https://second"), .read 5, .commit 5 "endpoint-2", .read 5,
    .check 5 (.fact "5"), .commit 5 "-"]

def crossed : ProviderState := (play ProviderState.step Fits .new (setUp ++ crossing)).getD .new

def activated : ProviderState := (crossed.step (.commit 4 "-")).getD crossed

theorem run_crossed : Run ProviderState.step Fits .new crossed :=
  run_of_play .nil (setUp ++ crossing) rfl

end CrossingExample

open CrossingExample in
theorem provider_kept_iff_crossed :
    Kept crossed activated ↔ Fits crossed (.commit 4 "-") :=
  provider_kept_iff run_crossed rfl

open CrossingExample in
/-- **The second key becomes active at the second base URL**, against which it was never checked. -/
theorem not_kept_crossing :
    ¬∀ (s s' : ProviderState) (action : ProviderAction),
      Run ProviderState.step (fun _ _ ↦ True) .new s → s.step action = some s' → Kept s s' := by
  intro h
  have hkept : Kept crossed activated :=
    h crossed activated (.commit 4 "-") (run_crossed.mono fun _ _ _ ↦ trivial) rfl
  have hpassed := hkept.checked ⟨"endpoint-2", "https://second", .active, 2⟩
    (by decide) rfl ⟨"credential-2", "key-2", .active, 2⟩ (by decide) rfl
  exact absurd hpassed (by decide)

end HMaigc.ProviderAccount
