import HMaigc.Go.Checks
import HMaigc.Go.Hex

/-!
# Task envelopes

`taskruntime/envelope.go`: what a task may do is signed when it is made, and checked before it is
run.  An envelope is JSON, and there should be one way to write it.

* `sign`, `authenticate`, `verify` — over a hash function and a message authentication code.
* `decodeEnvelope_encoded` — what the text of an envelope is decoded to.
* `taskEnvelopes` — which envelopes are verified, and which were signed.
-/

set_option autoImplicit false

namespace HMaigc

open Go

namespace TaskRuntime

/-! ### Data -/

structure Binding where
  tenantKind : Bytes := []
  tenantID : Bytes := []
  projectID : Bytes := []
  canvasID : Bytes := []
  runID : Bytes := []
  artifactRevisionID : Bytes := []
  taskID : Bytes := []
  taskType : Bytes := []
  requesterID : Bytes := []
deriving DecidableEq

structure Claims where
  version : Int64 := 0
  tenantKind : Bytes := []
  tenantID : Bytes := []
  projectID : Bytes := []
  canvasID : Bytes := []
  runID : Bytes := []
  artifactRevisionID : Bytes := []
  taskID : Bytes := []
  taskType : Bytes := []
  requesterID : Bytes := []
  payloadDigest : Bytes := []
  expiresAtUnix : Int64 := 0
deriving DecidableEq

structure SignedBody where
  keyID : Bytes
  claims : Claims

structure Envelope where
  keyID : Bytes := []
  claims : Claims := {}
  signature : Bytes := []

/-- The errors `errors.Is` tells apart. -/
inductive EnvelopeError
  | invalidEnvelope
  | unknownKey
  | invalidSignature
  | expired
  | claimMismatch
  | payloadDigestMismatch
deriving DecidableEq

abbrev VerificationKeys := Bytes → Option Bytes

/-- SHA-256 and HMAC-SHA256. -/
structure Hashes where
  sha256 : Bytes → Bytes
  hmac : Bytes → Bytes → Bytes
  length_sha256 : ∀ payload, (sha256 payload).length = 32
  length_hmac : ∀ key body, (hmac key body).length = 32

/-! ### Time -/

/-- `time.Time`: the seconds since the year 1, and the nanoseconds after them. -/
structure Instant where
  seconds : Int64
  nanos : ℕ

/-- The seconds from the year 1 to 1970. -/
def unixToInternal : Int64 := 62135596800

/-- `time.Unix(sec, 0)`, where the addition wraps around. -/
def timeUnix (sec : Int64) : Instant :=
  ⟨sec + unixToInternal, 0⟩

/-- `t.Unix()`. -/
def Instant.unix (t : Instant) : Int64 :=
  t.seconds - unixToInternal

/-- `t.Before(u)`. -/
def Instant.before (t u : Instant) : Bool :=
  t.seconds < u.seconds || (t.seconds = u.seconds && t.nanos < u.nanos)

/-! ### Encoding -/

def claimsFields : List (StructField Claims) :=
  [.int "version" Claims.version fun claims value ↦ { claims with version := value },
    .string "tenantKind" Claims.tenantKind fun claims value ↦ { claims with tenantKind := value },
    .string "tenantId" Claims.tenantID fun claims value ↦ { claims with tenantID := value },
    .string "projectId" Claims.projectID fun claims value ↦ { claims with projectID := value },
    .string "canvasId" Claims.canvasID fun claims value ↦ { claims with canvasID := value },
    .string "runId" Claims.runID fun claims value ↦ { claims with runID := value },
    .string "artifactRevisionId" Claims.artifactRevisionID fun claims value ↦
      { claims with artifactRevisionID := value },
    .string "taskId" Claims.taskID fun claims value ↦ { claims with taskID := value },
    .string "taskType" Claims.taskType fun claims value ↦ { claims with taskType := value },
    .string "requesterId" Claims.requesterID fun claims value ↦
      { claims with requesterID := value },
    .string "payloadDigest" Claims.payloadDigest fun claims value ↦
      { claims with payloadDigest := value },
    .int "expiresAtUnix" Claims.expiresAtUnix fun claims value ↦
      { claims with expiresAtUnix := value }]

def bodyFields : List (StructField SignedBody) :=
  [.string "keyId" SignedBody.keyID fun body value ↦ { body with keyID := value },
    .struct "claims" claimsFields SignedBody.claims fun body value ↦ { body with claims := value }]

def envelopeFields : List (StructField Envelope) :=
  [.string "keyId" Envelope.keyID fun envelope value ↦ { envelope with keyID := value },
    .struct "claims" claimsFields Envelope.claims fun envelope value ↦
      { envelope with claims := value },
    .string "signature" Envelope.signature fun envelope value ↦
      { envelope with signature := value }]

def SignedBody.encoded (body : SignedBody) : Bytes :=
  utf8Bytes (marshal bodyFields body)

def Envelope.encoded (envelope : Envelope) : Bytes :=
  utf8Bytes (marshal envelopeFields envelope)

/-! ### Checks -/

def validateKey (keyID key : Bytes) : Except EnvelopeError Unit :=
  if trimBytes keyID = [] ∨ keyID ≠ trimBytes keyID ∨ keyID.length > 128 ∨ key.length < 32 then
    .error .invalidEnvelope
  else .ok ()

def validFact (value : Bytes) (required : Bool) : Bool :=
  if value ≠ trimBytes value ∨ value.length > 256 then false
  else !required || value ≠ []

def envelopeVersion : Int64 := 1

def validateClaims (claims : Claims) : Except EnvelopeError Unit :=
  if claims.version ≠ envelopeVersion ∨ claims.expiresAtUnix ≤ 0 ∨
      (claims.tenantKind ≠ ascii "personal" ∧ claims.tenantKind ≠ ascii "team") ∨
      validFact claims.tenantID true = false ∨ validFact claims.projectID false = false ∨
      validFact claims.canvasID false = false ∨ validFact claims.runID false = false ∨
      validFact claims.artifactRevisionID false = false ∨ validFact claims.taskID true = false ∨
      validFact claims.taskType true = false ∨ validFact claims.requesterID true = false ∨
      claims.payloadDigest.length ≠ 64 then .error .invalidEnvelope
  else if decodeHex claims.payloadDigest = none then .error .invalidEnvelope
  else .ok ()

/-- A JSON text that is decoded into an envelope. -/
def decodeJSON (encoded : Bytes) : Option Envelope :=
  (parse (String.ofList ((runes encoded).map Rune.toChar))).bind (decodeStruct envelopeFields {})

def decodeEnvelope (encoded : Bytes) : Except EnvelopeError Envelope :=
  if encoded = [] then .error .invalidEnvelope
  else
    match decodeJSON encoded with
    | none => .error .invalidEnvelope
    | some parsed => do
      validateClaims parsed.claims
      if trimBytes parsed.keyID = [] ∨ parsed.keyID ≠ trimBytes parsed.keyID ∨
          parsed.keyID.length > 128 ∨ trimBytes parsed.signature = [] then .error .invalidEnvelope
      else if parsed.encoded ≠ encoded then .error .invalidEnvelope
      else .ok parsed

/-! ### Signing -/

def Claims.binding (claims : Claims) : Binding where
  tenantKind := claims.tenantKind
  tenantID := claims.tenantID
  projectID := claims.projectID
  canvasID := claims.canvasID
  runID := claims.runID
  artifactRevisionID := claims.artifactRevisionID
  taskID := claims.taskID
  taskType := claims.taskType
  requesterID := claims.requesterID

section

variable (hashes : Hashes)

def payloadDigest (payload : Bytes) : Bytes :=
  encodeHex (hashes.sha256 payload)

def newClaims (binding : Binding) (payload : Bytes) (expiresAt : Instant) : Claims where
  version := envelopeVersion
  tenantKind := binding.tenantKind
  tenantID := binding.tenantID
  projectID := binding.projectID
  canvasID := binding.canvasID
  runID := binding.runID
  artifactRevisionID := binding.artifactRevisionID
  taskID := binding.taskID
  taskType := binding.taskType
  requesterID := binding.requesterID
  payloadDigest := payloadDigest hashes payload
  expiresAtUnix := expiresAt.unix

/-- The code of what is signed. -/
def mac (key keyID : Bytes) (claims : Claims) : Bytes :=
  hashes.hmac key (SignedBody.encoded ⟨keyID, claims⟩)

def sign (claims : Claims) (keyID key : Bytes) : Except EnvelopeError Bytes := do
  validateKey keyID key
  validateClaims claims
  .ok (Envelope.encoded ⟨keyID, claims, encodeHex (mac hashes key keyID claims)⟩)

/-- The signature and the facts of a decoded envelope, with the key stored for it. -/
def checkSignature (parsed : Envelope) (key payload : Bytes) (now : Instant) :
    Except EnvelopeError Claims := do
  validateKey parsed.keyID key
  match decodeHex parsed.signature with
  | none => .error .invalidSignature
  | some providedSignature =>
    if providedSignature.length ≠ 32 then .error .invalidSignature
    else if providedSignature ≠ mac hashes key parsed.keyID parsed.claims then
      .error .invalidSignature
    else if parsed.claims.expiresAtUnix ≤ 0 ∨
        now.before (timeUnix parsed.claims.expiresAtUnix) = false then .error .expired
    else if parsed.claims.payloadDigest ≠ payloadDigest hashes payload then
      .error .payloadDigestMismatch
    else .ok parsed.claims

def authenticate (encoded : Bytes) (keys : VerificationKeys) (payload : Bytes) (now : Instant) :
    Except EnvelopeError Claims := do
  let parsed ← decodeEnvelope encoded
  match keys parsed.keyID with
  | none => .error .unknownKey
  | some key => checkSignature hashes parsed key payload now

def verify (encoded : Bytes) (keys : VerificationKeys) (expected : Binding) (payload : Bytes)
    (now : Instant) : Except EnvelopeError Claims := do
  let claims ← authenticate hashes encoded keys payload now
  if claims.binding ≠ expected then .error .claimMismatch else .ok claims

end

/-! ### Decoding what was encoded -/

/-- The claims after they were encoded and decoded. -/
def Claims.replaced (claims : Claims) : Claims where
  version := claims.version
  tenantKind := Go.replaced claims.tenantKind
  tenantID := Go.replaced claims.tenantID
  projectID := Go.replaced claims.projectID
  canvasID := Go.replaced claims.canvasID
  runID := Go.replaced claims.runID
  artifactRevisionID := Go.replaced claims.artifactRevisionID
  taskID := Go.replaced claims.taskID
  taskType := Go.replaced claims.taskType
  requesterID := Go.replaced claims.requesterID
  payloadDigest := Go.replaced claims.payloadDigest
  expiresAtUnix := claims.expiresAtUnix

def Envelope.replaced (envelope : Envelope) : Envelope where
  keyID := Go.replaced envelope.keyID
  claims := envelope.claims.replaced
  signature := Go.replaced envelope.signature

/-- The value a string is read as. -/
def stringValue (bytes : Bytes) : Json :=
  .str (runeText (runes bytes))

def intValue (n : Int64) : Json :=
  .num (String.ofList (intText n.toInt))

def Claims.values (claims : Claims) : List Json :=
  [intValue claims.version, stringValue claims.tenantKind, stringValue claims.tenantID,
    stringValue claims.projectID, stringValue claims.canvasID, stringValue claims.runID,
    stringValue claims.artifactRevisionID, stringValue claims.taskID,
    stringValue claims.taskType, stringValue claims.requesterID,
    stringValue claims.payloadDigest, intValue claims.expiresAtUnix]

/-- The numbers of the claims are positive. -/
structure Claims.Positive (claims : Claims) : Prop where
  version : 0 < claims.version.toInt
  expires : 0 < claims.expiresAtUnix.toInt

section

variable {claims : Claims} {envelope : Envelope}

theorem distinctNames_claimsFields : DistinctNames claimsFields := by
  rw [DistinctNames]
  decide

theorem distinctNames_envelopeFields : DistinctNames envelopeFields := by
  rw [DistinctNames]
  decide

theorem claims_readsAs (hpositive : claims.Positive) :
    ReadsAs 1 (marshal claimsFields claims)
      (.obj (asMembers (claimsFields.zip claims.values))) := by
  refine marshal_readsAs (List.cons_ne_nil _ _) rfl ?_
  simp only [claimsFields, Claims.values, List.zip_cons_cons, List.zip_nil_left,
    List.forall_mem_cons, List.not_mem_nil, false_implies, implies_true, and_true]
  exact ⟨intText_readsAs hpositive.version, quote_readsAs _, quote_readsAs _, quote_readsAs _,
    quote_readsAs _, quote_readsAs _, quote_readsAs _, quote_readsAs _, quote_readsAs _,
    quote_readsAs _, quote_readsAs _, intText_readsAs hpositive.expires⟩

theorem decode_claims (hpositive : claims.Positive) (current : Claims) :
    decodeStruct claimsFields current (.obj (asMembers (claimsFields.zip claims.values))) =
      some claims.replaced := by
  rw [decodeStruct_fields distinctNames_claimsFields fun pair hpair ↦ (List.of_mem_zip hpair).1]
  simp only [claimsFields, Claims.values, stringValue, intValue, List.zip_cons_cons,
    List.zip_nil_left, List.foldlM_cons, List.foldlM_nil, StructField.string, StructField.int,
    decodeString_runeText, decodeInt_intText hpositive.version,
    decodeInt_intText hpositive.expires, Option.map_some, Option.bind_eq_bind,
    Option.bind_some]
  rfl

def Envelope.values (envelope : Envelope) : List Json :=
  [stringValue envelope.keyID, .obj (asMembers (claimsFields.zip envelope.claims.values)),
    stringValue envelope.signature]

theorem parse_envelope (hpositive : envelope.claims.Positive) :
    parse (String.ofList (marshal envelopeFields envelope)) =
      some (.obj (asMembers (envelopeFields.zip envelope.values))) := by
  have hreads : ∀ pair ∈ envelopeFields.zip envelope.values,
      ReadsAs 1 (pair.1.text envelope) pair.2 := by
    simp only [envelopeFields, Envelope.values, List.zip_cons_cons, List.zip_nil_left,
      List.forall_mem_cons, List.not_mem_nil, false_implies, implies_true, and_true]
    exact ⟨(quote_readsAs _).mono (by omega), claims_readsAs hpositive,
      (quote_readsAs _).mono (by omega)⟩
  exact parse_marshal (List.cons_ne_nil _ _) rfl hreads (by decide)

/-- **What the text of an envelope is decoded to.** -/
theorem decodeJSON_encoded (hpositive : envelope.claims.Positive) :
    decodeJSON envelope.encoded = some envelope.replaced := by
  have htext : (runes envelope.encoded).map Rune.toChar = marshal envelopeFields envelope := by
    rw [Envelope.encoded, runes_utf8Bytes, List.map_map]
    exact List.map_id _
  rw [decodeJSON, htext, parse_envelope hpositive, Option.bind_some,
    decodeStruct_fields distinctNames_envelopeFields fun pair hpair ↦ (List.of_mem_zip hpair).1]
  simp only [envelopeFields, Envelope.values, stringValue, List.zip_cons_cons, List.zip_nil_left,
    List.foldlM_cons, List.foldlM_nil, StructField.string, StructField.struct,
    decodeString_runeText, decode_claims hpositive, Option.map_some, Option.bind_eq_bind,
    Option.bind_some]
  rfl

end

/-! ### What is accepted -/

section

variable {hashes : Hashes} {claims : Claims} {envelope parsed : Envelope}
  {keyID key payload encoded : Bytes} {keys : VerificationKeys} {now : Instant}
  {expected : Binding}

def Claims.texts (claims : Claims) : List Bytes :=
  [claims.tenantKind, claims.tenantID, claims.projectID, claims.canvasID, claims.runID,
    claims.artifactRevisionID, claims.taskID, claims.taskType, claims.requesterID,
    claims.payloadDigest]

/-- Every text is UTF-8. -/
def ValidTexts (keyID : Bytes) (claims : Claims) : Prop :=
  ∀ text ∈ keyID :: claims.texts, validString text = true

theorem Claims.replaced_of_valid (h : ∀ text ∈ claims.texts, validString text = true) :
    claims.replaced = claims := by
  simp only [Claims.texts, List.forall_mem_cons, List.not_mem_nil, false_implies, implies_true,
    and_true] at h
  obtain ⟨h1, h2, h3, h4, h5, h6, h7, h8, h9, h10⟩ := h
  rw [Claims.replaced, Go.replaced_of_valid h1, Go.replaced_of_valid h2, Go.replaced_of_valid h3,
    Go.replaced_of_valid h4, Go.replaced_of_valid h5, Go.replaced_of_valid h6,
    Go.replaced_of_valid h7, Go.replaced_of_valid h8, Go.replaced_of_valid h9,
    Go.replaced_of_valid h10]

theorem Claims.valid_of_replaced (h : claims.replaced = claims) :
    ∀ text ∈ claims.texts, validString text = true := by
  have htexts : claims.replaced.texts = claims.texts := by rw [h]
  have hmap : claims.replaced.texts = claims.texts.map Go.replaced := rfl
  rw [hmap] at htexts
  have hid : claims.texts.map Go.replaced = claims.texts.map id := htexts.trans (List.map_id _).symm
  intro text htext
  exact Go.valid_of_replaced (List.map_inj_left.mp hid text htext)

theorem validateClaims_eq_ok (h : validateClaims claims = .ok ()) : claims.Positive := by
  rw [validateClaims, refuse_eq_ok] at h
  have hversion : claims.version = envelopeVersion := by
    by_contra hne
    exact h.1 (.inl hne)
  have hexpires : ¬claims.expiresAtUnix ≤ 0 := fun hle ↦ h.1 (.inr (.inl hle))
  constructor
  · rw [hversion]
    decide
  · rw [Int64.le_iff_toInt_le] at hexpires
    simpa using hexpires

theorem sign_eq_ok : sign hashes claims keyID key = .ok encoded ↔
    validateKey keyID key = .ok () ∧ validateClaims claims = .ok () ∧
      encoded = Envelope.encoded ⟨keyID, claims, encodeHex (mac hashes key keyID claims)⟩ := by
  rw [sign, bind_eq_ok]
  constructor
  · rintro ⟨done, hkey, h⟩
    obtain ⟨done', hclaims, h⟩ := bind_eq_ok.mp h
    cases h
    exact ⟨hkey, hclaims, rfl⟩
  · rintro ⟨hkey, hclaims, rfl⟩
    exact ⟨(), hkey, bind_eq_ok.mpr ⟨(), hclaims, rfl⟩⟩

/-- What the decoder checks of the key and of the signature. -/
def KeyFacts (envelope : Envelope) : Prop :=
  ¬(trimBytes envelope.keyID = [] ∨ envelope.keyID ≠ trimBytes envelope.keyID ∨
    envelope.keyID.length > 128 ∨ trimBytes envelope.signature = [])

theorem decodeEnvelope_eq_ok : decodeEnvelope encoded = .ok parsed ↔
    encoded ≠ [] ∧ decodeJSON encoded = some parsed ∧ validateClaims parsed.claims = .ok () ∧
      KeyFacts parsed ∧ parsed.encoded = encoded := by
  rw [decodeEnvelope, refuse_eq_ok]
  cases hdecode : decodeJSON encoded with
  | none => simp
  | some found =>
    simp only [Option.some.injEq]
    constructor
    · rintro ⟨hne, h⟩
      obtain ⟨done, hclaims, h⟩ := bind_eq_ok.mp h
      obtain ⟨hfacts, h⟩ := refuse_eq_ok.mp h
      obtain ⟨hencoded, h⟩ := refuse_eq_ok.mp h
      cases h
      exact ⟨hne, rfl, hclaims, hfacts, not_not.mp hencoded⟩
    · rintro ⟨hne, rfl, hclaims, hfacts, hencoded⟩
      refine ⟨hne, bind_eq_ok.mpr ⟨(), hclaims, ?_⟩⟩
      rw [if_neg hfacts, if_neg (not_not.mpr hencoded)]

/-- What is checked of an envelope that has been decoded. -/
structure Checked (hashes : Hashes) (envelope : Envelope) (key payload : Bytes) (now : Instant) :
    Prop where
  validKey : validateKey envelope.keyID key = .ok ()
  signature : decodeHex envelope.signature =
    some (mac hashes key envelope.keyID envelope.claims)
  expires : ¬envelope.claims.expiresAtUnix ≤ 0
  before : now.before (timeUnix envelope.claims.expiresAtUnix) = true
  digest : envelope.claims.payloadDigest = payloadDigest hashes payload

theorem checkSignature_eq_ok : checkSignature hashes parsed key payload now = .ok claims ↔
    Checked hashes parsed key payload now ∧ parsed.claims = claims := by
  rw [checkSignature, bind_eq_ok]
  constructor
  · rintro ⟨done, hkey, h⟩
    cases hdecode : decodeHex parsed.signature with
    | none =>
      rw [hdecode] at h
      cases h
    | some provided =>
      rw [hdecode] at h
      simp only [refuse_eq_ok] at h
      obtain ⟨-, hmac, htime, hdigest, h⟩ := h
      cases h
      rw [not_or, Bool.not_eq_false] at htime
      rw [not_not.mp hmac] at hdecode
      exact ⟨⟨hkey, hdecode, htime.1, htime.2, not_not.mp hdigest⟩, rfl⟩
  · rintro ⟨hchecked, rfl⟩
    refine ⟨(), hchecked.validKey, ?_⟩
    rw [hchecked.signature]
    have htime : ¬(parsed.claims.expiresAtUnix ≤ 0 ∨
        now.before (timeUnix parsed.claims.expiresAtUnix) = false) := by
      rw [not_or, Bool.not_eq_false]
      exact ⟨hchecked.expires, hchecked.before⟩
    have hlength : (mac hashes key parsed.keyID parsed.claims).length = 32 :=
      hashes.length_hmac _ _
    dsimp only
    rw [if_neg (not_not.mpr hlength), if_neg (not_not.mpr rfl), if_neg htime,
      if_neg (not_not.mpr hchecked.digest)]

theorem authenticate_eq_ok : authenticate hashes encoded keys payload now = .ok claims ↔
    ∃ parsed key, decodeEnvelope encoded = .ok parsed ∧ keys parsed.keyID = some key ∧
      Checked hashes parsed key payload now ∧ parsed.claims = claims := by
  rw [authenticate, bind_eq_ok]
  constructor
  · rintro ⟨parsed, hdecode, h⟩
    cases hkey : keys parsed.keyID with
    | none =>
      rw [hkey] at h
      cases h
    | some key =>
      rw [hkey] at h
      obtain ⟨hchecked, heq⟩ := checkSignature_eq_ok.mp h
      exact ⟨parsed, key, hdecode, hkey, hchecked, heq⟩
  · rintro ⟨parsed, key, hdecode, hkey, hchecked, heq⟩
    refine ⟨parsed, hdecode, ?_⟩
    rw [hkey]
    exact checkSignature_eq_ok.mpr ⟨hchecked, heq⟩

theorem verify_eq_ok : verify hashes encoded keys expected payload now = .ok claims ↔
    authenticate hashes encoded keys payload now = .ok claims ∧ claims.binding = expected := by
  rw [verify, bind_eq_ok]
  constructor
  · rintro ⟨found, hfound, h⟩
    obtain ⟨hbinding, h⟩ := refuse_eq_ok.mp h
    cases h
    exact ⟨hfound, not_not.mp hbinding⟩
  · rintro ⟨hfound, hbinding⟩
    exact ⟨claims, hfound, by rw [if_neg (not_not.mpr hbinding)]⟩

/-! ### Envelopes that were signed -/

theorem encoded_ne_nil : envelope.encoded ≠ [] := by
  rw [Envelope.encoded, marshal, object, List.cons_append, utf8Bytes_cons]
  intro h
  exact encode_ne_nil (List.append_eq_nil_iff.mp h).1

/-- **An envelope of valid texts is decoded to itself.** -/
theorem decodeEnvelope_encoded {code : Bytes} (hkey : validateKey envelope.keyID key = .ok ())
    (hclaims : validateClaims envelope.claims = .ok ())
    (hvalid : ValidTexts envelope.keyID envelope.claims)
    (hcode : decodeHex envelope.signature = some code) (hlength : code.length = 32) :
    decodeEnvelope envelope.encoded = .ok envelope := by
  rw [ValidTexts, List.forall_mem_cons] at hvalid
  have hreplaced : envelope.replaced = envelope := by
    rw [Envelope.replaced, Claims.replaced_of_valid hvalid.2, Go.replaced_of_valid hvalid.1,
      Go.replaced_of_valid (validString_hex hcode)]
  have hdecode := decodeJSON_encoded (validateClaims_eq_ok hclaims)
  rw [hreplaced] at hdecode
  refine decodeEnvelope_eq_ok.mpr ⟨encoded_ne_nil, hdecode, hclaims, ?_, rfl⟩
  rw [validateKey, refuse_eq_ok] at hkey
  rintro (hblank | htrim | hlong | hsignature)
  · exact hkey.1 (.inl hblank)
  · exact hkey.1 (.inr (.inl htrim))
  · exact hkey.1 (.inr (.inr (.inl hlong)))
  · rw [trimBytes_hex hcode] at hsignature
    have hlong := decodeHex_length hcode
    rw [hsignature, hlength] at hlong
    cases hlong

theorem marshal_envelope : marshal envelopeFields envelope =
    '\x7b' :: (memberText "keyId" (quote envelope.keyID) ++
      ',' :: (memberText "claims" (marshal claimsFields envelope.claims) ++
        ',' :: memberText "signature" (quote envelope.signature))) ++ ['\x7d'] :=
  rfl

/-- The claims of a signed envelope come back, and its key, only if all texts are valid. -/
theorem validTexts_of_decoded {signature : Bytes} (hpositive : claims.Positive)
    (hdecode : decodeEnvelope (Envelope.encoded ⟨keyID, claims, signature⟩) = .ok parsed)
    (hclaims : parsed.claims = claims) (hsignature : validString signature = true) :
    ValidTexts keyID claims := by
  obtain ⟨-, hjson, -, -, hencoded⟩ := decodeEnvelope_eq_ok.mp hdecode
  rw [decodeJSON_encoded hpositive] at hjson
  cases hjson
  have htexts : claims.replaced = claims := hclaims
  have hsame : Envelope.replaced ⟨keyID, claims, signature⟩ =
      ⟨Go.replaced keyID, claims, signature⟩ := by
    rw [Envelope.replaced, htexts, Go.replaced_of_valid hsignature]
  rw [hsame] at hencoded
  have htext := utf8Bytes_injective hencoded
  refine List.forall_mem_cons.mpr ⟨?_, Claims.valid_of_replaced htexts⟩
  refine valid_of_quote_replaced ?_
  rw [marshal_envelope, marshal_envelope] at htext
  simpa [memberText] using htext

/-- The signature stands at the end. -/
theorem drop_encoded (envelope : Envelope) {code : Bytes}
    (hcode : decodeHex envelope.signature = some code) (hlength : code.length = 32) :
    envelope.encoded.drop (envelope.encoded.length - 66) = envelope.signature ++ [34, 125] := by
  obtain ⟨hquote, htext⟩ := quote_hex hcode
  have hsignature : envelope.signature.length = 64 := by
    rw [decodeHex_length hcode, hlength]
  have hend : utf8Bytes (asciiText envelope.signature ++ ['"', '\x7d']) =
      envelope.signature ++ [34, 125] := by
    rw [utf8Bytes_append, htext]
    rfl
  have hsplit : ∃ front, envelope.encoded =
      front ++ utf8Bytes (asciiText envelope.signature ++ ['"', '\x7d']) := by
    refine ⟨utf8Bytes ('\x7b' :: (memberText "keyId" (quote envelope.keyID) ++
      ',' :: (memberText "claims" (marshal claimsFields envelope.claims) ++
        ',' :: (quoteRunes ("signature".toList.map .char) ++ [':', '"'])))), ?_⟩
    rw [← utf8Bytes_append, Envelope.encoded, marshal_envelope, hquote]
    simp [memberText]
  obtain ⟨front, hfront⟩ := hsplit
  rw [hfront, hend, List.length_append, List.length_append, hsignature]
  exact List.drop_left' (by simp)

/-- The signature of an encoded envelope has no capital letters. -/
def SmallSignature (encoded : Bytes) : Prop :=
  ∀ byte ∈ encoded.drop (encoded.length - 66), isCapital byte = false

/-- The bytes are those `Sign` returns for the claims, with the key stored for the envelope. -/
def IsSigned (hashes : Hashes) (keys : VerificationKeys) (encoded : Bytes) (claims : Claims) :
    Prop :=
  ∃ parsed key, decodeEnvelope encoded = .ok parsed ∧ keys parsed.keyID = some key ∧
    sign hashes claims parsed.keyID key = .ok encoded

theorem isSigned_iff (h : authenticate hashes encoded keys payload now = .ok claims) :
    IsSigned hashes keys encoded claims ↔ SmallSignature encoded := by
  obtain ⟨parsed, key, hdecode, hkey, hchecked, rfl⟩ := authenticate_eq_ok.mp h
  obtain ⟨-, -, hclaims, -, hencoded⟩ := decodeEnvelope_eq_ok.mp hdecode
  have hmac : (mac hashes key parsed.keyID parsed.claims).length = 32 := hashes.length_hmac _ _
  have hdrop := drop_encoded parsed hchecked.signature hmac
  have hdrop_signed := drop_encoded
    ⟨parsed.keyID, parsed.claims, encodeHex (mac hashes key parsed.keyID parsed.claims)⟩
    (decodeHex_encodeHex _) hmac
  have hsmall : SmallSignature encoded ↔
      parsed.signature = encodeHex (mac hashes key parsed.keyID parsed.claims) := by
    rw [SmallSignature, ← hencoded, hdrop, eq_encodeHex_iff hchecked.signature,
      List.forall_mem_append]
    exact and_iff_left (by simp [isCapital])
  rw [hsmall]
  constructor
  · rintro ⟨parsed', key', hdecode', hkey', hsign⟩
    rw [hdecode] at hdecode'
    cases hdecode'
    rw [hkey] at hkey'
    cases hkey'
    obtain ⟨-, -, hsigned⟩ := sign_eq_ok.mp hsign
    rw [← hsigned, ← hencoded, hdrop] at hdrop_signed
    exact List.append_cancel_right hdrop_signed
  · intro hsignature
    refine ⟨parsed, key, hdecode, hkey, sign_eq_ok.mpr ⟨hchecked.validKey, hclaims, ?_⟩⟩
    rw [← hsignature]
    exact hencoded.symm

/-- What a signed envelope is presented with. -/
structure Presented (hashes : Hashes) (keys : VerificationKeys) (payload : Bytes) (now : Instant)
    (claims : Claims) (keyID key encoded : Bytes) : Prop where
  signed : sign hashes claims keyID key = .ok encoded
  stored : keys keyID = some key
  digest : payloadDigest hashes payload = claims.payloadDigest
  unexpired : now.seconds.toInt < claims.expiresAtUnix.toInt + unixToInternal.toInt

theorem verify_signed_iff (h : Presented hashes keys payload now claims keyID key encoded) :
    verify hashes encoded keys claims.binding payload now = .ok claims ↔
      ValidTexts keyID claims ∧ now.before (timeUnix claims.expiresAtUnix) = true := by
  obtain ⟨hkey, hclaims, rfl⟩ := sign_eq_ok.mp h.signed
  have hpositive := validateClaims_eq_ok hclaims
  have hmac : (mac hashes key keyID claims).length = 32 := hashes.length_hmac _ _
  rw [verify_eq_ok]
  constructor
  · rintro ⟨hauthenticate, -⟩
    obtain ⟨parsed, key', hdecode, -, hchecked, rfl⟩ := authenticate_eq_ok.mp hauthenticate
    exact ⟨validTexts_of_decoded hpositive hdecode rfl
      (validString_hex (decodeHex_encodeHex _)), hchecked.before⟩
  · rintro ⟨hvalid, hbefore⟩
    have hdecode : decodeEnvelope
        (Envelope.encoded ⟨keyID, claims, encodeHex (mac hashes key keyID claims)⟩) =
          .ok ⟨keyID, claims, encodeHex (mac hashes key keyID claims)⟩ :=
      decodeEnvelope_encoded hkey hclaims hvalid (decodeHex_encodeHex _) hmac
    refine ⟨authenticate_eq_ok.mpr ⟨_, key, hdecode, h.stored, ?_, rfl⟩, rfl⟩
    have hexpires : ¬claims.expiresAtUnix ≤ 0 := by
      rw [Int64.le_iff_toInt_le]
      simpa using hpositive.expires
    exact
      { validKey := hkey
        signature := decodeHex_encodeHex _
        expires := hexpires
        before := hbefore
        digest := h.digest.symm }

end

/-- **Envelopes.**  An envelope that was signed and is presented before it expires is verified, with
its claims, just if all its texts are UTF-8 and the time it expires does not wrap around.  One that
is accepted was signed just if its signature has no capital letters. -/
theorem taskEnvelopes (hashes : Hashes) (keys : VerificationKeys) (payload : Bytes)
    (now : Instant) :
    (∀ claims keyID key encoded, Presented hashes keys payload now claims keyID key encoded →
      (verify hashes encoded keys claims.binding payload now = .ok claims ↔
        ValidTexts keyID claims ∧ now.before (timeUnix claims.expiresAtUnix) = true)) ∧
    (∀ encoded claims, authenticate hashes encoded keys payload now = .ok claims →
      (IsSigned hashes keys encoded claims ↔ SmallSignature encoded)) :=
  ⟨fun _ _ _ _ h ↦ verify_signed_iff h, fun _ _ h ↦ isSigned_iff h⟩

/-! ### An envelope -/

/-- The SHA-256 of the empty payload. -/
def emptyDigest : Bytes :=
  [227, 176, 196, 66, 152, 252, 28, 20, 154, 251, 244, 200, 153, 111, 185, 36, 39, 174, 65, 228,
    100, 155, 147, 76, 164, 149, 153, 27, 120, 82, 184, 85]

def sampleKey : Bytes :=
  List.replicate 32 0x42

def sampleClaims : Claims where
  version := 1
  tenantKind := ascii "team"
  tenantID := ascii "t"
  taskID := ascii "1"
  taskType := ascii "v"
  requesterID := ascii "u"
  payloadDigest := encodeHex emptyDigest
  expiresAtUnix := 1800000000

/-- The HMAC-SHA256 of the claims under the key identifier `k`. -/
def sampleCode : Bytes :=
  [92, 91, 227, 133, 154, 163, 102, 85, 17, 211, 205, 25, 62, 169, 88, 15, 145, 206, 148, 250,
    233, 108, 89, 85, 240, 240, 59, 98, 88, 254, 34, 142]

def sampleHashes : Hashes where
  sha256 _ := emptyDigest
  hmac _ _ := sampleCode
  length_sha256 _ := rfl
  length_hmac _ _ := rfl

def sampleKeys : VerificationKeys :=
  fun keyID ↦ if keyID = ascii "k" then some sampleKey else none

def sampleNow : Instant :=
  ⟨1700000000 + unixToInternal, 0⟩

/-- The signature in capital letters. -/
def capitalSignature : Bytes :=
  (encodeHex sampleCode).map fun byte ↦ if 97 ≤ byte then byte - 32 else byte

theorem validTexts_sample : ValidTexts (ascii "k") sampleClaims := by
  rw [ValidTexts, List.forall_mem_cons]
  refine ⟨by decide, ?_⟩
  simp only [Claims.texts, List.forall_mem_cons, List.not_mem_nil, false_implies, implies_true,
    and_true]
  exact ⟨by decide, by decide, by decide, by decide, by decide, by decide, by decide, by decide,
    by decide, validString_hex (decodeHex_encodeHex _)⟩

theorem validate_sample : validateKey (ascii "k") sampleKey = .ok () ∧
    validateClaims sampleClaims = .ok () := by
  decide

theorem presented_sample : Presented sampleHashes sampleKeys [] sampleNow sampleClaims (ascii "k")
    sampleKey (Envelope.encoded ⟨ascii "k", sampleClaims, encodeHex sampleCode⟩) where
  signed := sign_eq_ok.mpr ⟨validate_sample.1, validate_sample.2, rfl⟩
  stored := by decide
  digest := rfl
  unexpired := by decide

/-- A signed envelope is verified. -/
theorem verify_sample :
    verify sampleHashes (Envelope.encoded ⟨ascii "k", sampleClaims, encodeHex sampleCode⟩)
      sampleKeys sampleClaims.binding [] sampleNow = .ok sampleClaims :=
  ((taskEnvelopes sampleHashes sampleKeys [] sampleNow).1 _ _ _ _ presented_sample).mpr
    ⟨validTexts_sample, by decide⟩

/-- With its signature in capital letters it is accepted too, though nobody signed that. -/
theorem accepted_capitalSignature :
    authenticate sampleHashes (Envelope.encoded ⟨ascii "k", sampleClaims, capitalSignature⟩)
        sampleKeys [] sampleNow = .ok sampleClaims ∧
      ¬IsSigned sampleHashes sampleKeys
        (Envelope.encoded ⟨ascii "k", sampleClaims, capitalSignature⟩) sampleClaims := by
  have hcode : decodeHex capitalSignature = some sampleCode := by decide
  have haccepted : authenticate sampleHashes
      (Envelope.encoded ⟨ascii "k", sampleClaims, capitalSignature⟩) sampleKeys [] sampleNow =
        .ok sampleClaims := by
    refine authenticate_eq_ok.mpr ⟨_, sampleKey, decodeEnvelope_encoded validate_sample.1
      validate_sample.2 validTexts_sample hcode rfl, by decide, ?_, rfl⟩
    exact
      { validKey := validate_sample.1
        signature := hcode
        expires := by decide
        before := by decide
        digest := rfl }
  refine ⟨haccepted, ?_⟩
  rw [isSigned_iff haccepted, SmallSignature, drop_encoded _ hcode rfl]
  intro hsmall
  exact absurd (hsmall 67 (by decide)) (by decide)

end TaskRuntime

end HMaigc
