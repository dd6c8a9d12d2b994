import HMaigc.Billing.Catalog
import HMaigc.Go.Amount
import HMaigc.Go.Checks

/-!
# What the tokens of a request cost

`service/token_billing.go`: the price a request is billed at, what is reserved for it before it is
sent, and what is charged once its usage is known.

* `tokenCharge_mono` — the charge grows with the numerator, and that is all that is needed about
  the rounding.
* `tokenReservation_covers` — **the reservation covers the charge**, where cached tokens are not
  dearer than other input tokens.
-/

set_option autoImplicit false

namespace HMaigc.Billing

open Go

structure TokenPricingSnapshot where
  inputPerMillionMicros : ℤ
  cachedPerMillionMicros : ℤ
  outputPerMillionMicros : ℤ
  maxOutputTokens : ℤ
  deriving DecidableEq

inductive TokenBillingAuthority
  | managedReconciliation | responseUsage
  deriving DecidableEq

structure TokenUsageFact where
  inputTokens : ℤ
  cachedTokens : ℤ := 0
  outputTokens : ℤ

def microsPerCurrencyUnit : ℤ := 1000000

def localCreditsPerCurrencyUnit : ℤ := 100

def basisPointsScale : ℤ := 10000

/-! ## The contract -/

/-- Who has the last word on the usage of a model: the provider's bill for a managed channel, else
the response. -/
def tokenBillingAuthority (texts : TextFunctions) (channelID : String) (item : ChannelModel)
    (capability : Capability) : Except String TokenBillingAuthority :=
  let managedChannel := isKuaiziChatChannelID texts channelID
  let managedCredential : Bool := trimSpace item.providerCredentialID ≠ ""
  if managedChannel ≠ managedCredential then .error "Token 用量计费托管渠道与凭据事实不完整"
  else if managedChannel = false then .ok .responseUsage
  else
    match kuaiziProviderFamilyForModel item.modelKey with
    | none => .error "Token 用量计费托管模型与渠道不匹配"
    | some (family, spec) =>
      if spec.capability ≠ capability ∨
          channelID ≠ deterministicKuaiziChatChannelID texts family then
        .error "Token 用量计费托管模型与渠道不匹配"
      else .ok .managedReconciliation

def tokenBillingContract (texts : TextFunctions) (channel : ModelChannel) (item : ChannelModel)
    (pricing : Option ModelPricing) :
    Except String (TokenPricingSnapshot × TokenBillingAuthority) :=
  let channelID := trimSpace channel.id
  match normalizeCapability texts item.capability with
  | none => .error "Token 用量计费仅支持文本或视觉理解模型"
  | some capability =>
    if capability ≠ .text ∧ capability ≠ .vision then
      .error "Token 用量计费仅支持文本或视觉理解模型"
    else if channel.interfaceType ≠ "chat-completion" ∧
        channel.interfaceType ≠ "openai-response" then
      .error "Token 用量计费需要 Chat Completions 或 Responses 接口"
    else if channelID = "" ∨ trimSpace item.channelID ≠ channelID then
      .error "Token 用量计费渠道事实不完整"
    else if capability = .vision ∧ modelInputImageTokenCeiling item.modelKey ≤ 0 then
      .error "视觉模型缺少已声明的图片 Token 上限"
    else if item.billingMode ≠ "token_usage" ∨ item.priceStrategy ≠ "token" ∨
        item.unitPriceMicrocredits ≠ 0 ∨ item.priceConfigured = false then
      .error "Token 用量计费模型配置不完整"
    else
      match pricing with
      | none => .error "Token 供应商价格配置不完整"
      | some pricing =>
        if texts.toUpper (trimSpace pricing.currency) ≠ "CNY" ∨
            pricing.inputPerMillionMicros ≤ 0 ∨ pricing.outputPerMillionMicros ≤ 0 ∨
            pricing.cachedPerMillionMicros < 0 ∨ pricing.maxOutputTokens ≤ 0 then
          .error "Token 供应商价格配置不完整"
        else if trimSpace pricing.channelID ≠ channelID ∨
            trimSpace pricing.model ≠ trimSpace item.modelKey ∨
            normalizeCapability texts pricing.capability ≠ some capability then
          .error "Token 供应商价格作用域与模型不一致"
        else do
        let authority ← tokenBillingAuthority texts channelID item capability
        return ({
          inputPerMillionMicros := pricing.inputPerMillionMicros
          cachedPerMillionMicros := pricing.cachedPerMillionMicros
          outputPerMillionMicros := pricing.outputPerMillionMicros
          maxOutputTokens := pricing.maxOutputTokens }, authority)

/-! ## The charge -/

def TokenPricingSnapshot.valid (pricing : TokenPricingSnapshot) : Prop :=
  0 < pricing.inputPerMillionMicros ∧ 0 < pricing.outputPerMillionMicros ∧
    0 ≤ pricing.cachedPerMillionMicros ∧ 0 < pricing.maxOutputTokens

instance (pricing : TokenPricingSnapshot) : Decidable pricing.valid :=
  inferInstanceAs (Decidable (_ ∧ _))

def TokenUsageFact.valid (usage : TokenUsageFact) : Prop :=
  0 ≤ usage.inputTokens ∧ 0 ≤ usage.cachedTokens ∧ 0 ≤ usage.outputTokens ∧
    usage.cachedTokens ≤ usage.inputTokens

instance (usage : TokenUsageFact) : Decidable usage.valid := inferInstanceAs (Decidable (_ ∧ _))

/-- What the tokens cost, in the provider's currency: the price of a million tokens for each. -/
def tokenCost (pricing : TokenPricingSnapshot) (usage : TokenUsageFact) : ℤ :=
  (usage.inputTokens - usage.cachedTokens) * pricing.inputPerMillionMicros +
    usage.cachedTokens * pricing.cachedPerMillionMicros +
    usage.outputTokens * pricing.outputPerMillionMicros

/-- The sums and products are those of `big.Int`, which do not overflow. -/
def tokenChargeMicrocredits (pricing : TokenPricingSnapshot) (usage : TokenUsageFact)
    (multiplierBPS : ℤ) : Except String ℤ :=
  if ¬pricing.valid then .error "Token 价格快照无效"
  else if ¬usage.valid then .error "Token 用量事实无效"
  else if multiplierBPS ≤ 0 then .error "计费倍率无效"
  else
    let numerator := tokenCost pricing usage * localCreditsPerCurrencyUnit * multiplierBPS
    let amount := ceilQuo numerator (microsPerCurrencyUnit * basisPointsScale)
    if ¬IsInt64 amount then .error "Token 计费金额溢出" else .ok amount

/-! ## The reservation -/

structure CreditPolicy where
  defaultMultiplierBPS : ℤ
  modelMultiplierBPS : String → Option ℤ

/-- The multiplier of a model. -/
def CreditPolicy.multiplierBPS (policy : CreditPolicy) (modelKey : String) : ℤ :=
  match policy.modelMultiplierBPS modelKey with
  | some configured => if 0 < configured then configured else policy.defaultMultiplierBPS
  | none => policy.defaultMultiplierBPS

structure TokenBillingReservation where
  taskID : String := ""
  estimatedInputTokens : ℤ
  maxOutputTokens : ℤ
  pricing : TokenPricingSnapshot
  endpointVersionID : String := ""
  credentialVersionID : String := ""

/-- What an order keeps of the reservation it is made for. -/
structure TokenBillingOrder where
  amountMicrocredits : ℤ
  reservedAmountMicrocredits : ℤ
  multiplierBasisPoints : ℤ
  tokenPricingSnapshot : TokenPricingSnapshot
  estimatedInputTokens : ℤ
  maxOutputTokens : ℤ

/-- The provider's versions the reservation has to name, or must not. -/
def checkRuntimeVersions (authority : TokenBillingAuthority) (freezeRuntimeWithTask : Bool)
    (endpointVersionID credentialVersionID : String) : Except String Unit :=
  match authority with
  | .managedReconciliation =>
    let missingRuntime : Bool := endpointVersionID = "" && credentialVersionID = ""
    let completeRuntime : Bool := endpointVersionID ≠ "" && credentialVersionID ≠ ""
    if (freezeRuntimeWithTask = false ∧ completeRuntime = false) ∨
        (freezeRuntimeWithTask ∧ missingRuntime = false) then
      .error "Token 托管计费预留的供应商版本事实无效"
    else .ok ()
  | .responseUsage =>
    if endpointVersionID ≠ "" ∨ credentialVersionID ≠ "" then
      .error "Token 直连计费预留不得绑定托管供应商版本"
    else .ok ()

/-- The order for a reservation, from the rows the repository returns for its model.  The texts of
the request are trimmed before. -/
def newTokenBillingOrder (texts : TextFunctions) (channel : ModelChannel) (item : ChannelModel)
    (pricing : Option ModelPricing) (policy : CreditPolicy) (modelKey : String)
    (reservation : TokenBillingReservation) (freezeRuntimeWithTask : Bool) :
    Except String TokenBillingOrder :=
  if reservation.estimatedInputTokens ≤ 0 ∨ reservation.maxOutputTokens ≤ 0 then
    .error "Token 计费预留事实不完整"
  else do
    let contract ← tokenBillingContract texts channel item pricing
    checkRuntimeVersions contract.2 freezeRuntimeWithTask (trimSpace reservation.endpointVersionID)
      (trimSpace reservation.credentialVersionID)
    if reservation.pricing ≠ contract.1 ∨
        reservation.maxOutputTokens ≠ contract.1.maxOutputTokens then
      .error "Token 计费预留价格与已发布配置不一致"
    else if policy.multiplierBPS modelKey ≠ basisPointsScale then
      .error "Agent Token 计费首版仅支持 1.0 倍率"
    else do
    let amount ← tokenChargeMicrocredits contract.1
      { inputTokens := reservation.estimatedInputTokens, outputTokens := reservation.maxOutputTokens }
      (policy.multiplierBPS modelKey)
    return {
      amountMicrocredits := amount
      reservedAmountMicrocredits := amount
      multiplierBasisPoints := policy.multiplierBPS modelKey
      tokenPricingSnapshot := contract.1
      estimatedInputTokens := reservation.estimatedInputTokens
      maxOutputTokens := reservation.maxOutputTokens }

/-! ## Rounding and ranges -/

section

variable {pricing : TokenPricingSnapshot} {usage usage' : TokenUsageFact} {multiplierBPS charge : ℤ}

/-- The charge without its range check. -/
def tokenChargeExact (pricing : TokenPricingSnapshot) (usage : TokenUsageFact) (multiplierBPS : ℤ) :
    ℤ :=
  ceilQuo (tokenCost pricing usage * localCreditsPerCurrencyUnit * multiplierBPS)
    (microsPerCurrencyUnit * basisPointsScale)

theorem tokenChargeMicrocredits_eq_ok :
    tokenChargeMicrocredits pricing usage multiplierBPS = .ok charge ↔
      pricing.valid ∧ usage.valid ∧ 0 < multiplierBPS ∧
        IsInt64 (tokenChargeExact pricing usage multiplierBPS) ∧
        charge = tokenChargeExact pricing usage multiplierBPS := by
  rw [tokenChargeMicrocredits, refuse_eq_ok, refuse_eq_ok, refuse_eq_ok, not_not, not_not, not_le]
  refine and_congr_right fun _ ↦ and_congr_right fun _ ↦ and_congr_right fun _ ↦ ?_
  show (if ¬IsInt64 (tokenChargeExact pricing usage multiplierBPS) then
    .error "Token 计费金额溢出" else .ok (tokenChargeExact pricing usage multiplierBPS)) =
      Except.ok charge ↔ _
  rw [refuse_eq_ok, not_not, Except.ok.injEq]
  exact and_congr_right fun _ ↦ eq_comm

theorem tokenCost_nonneg (hpricing : pricing.valid) (husage : usage.valid) :
    0 ≤ tokenCost pricing usage := by
  obtain ⟨hinput, houtput, hcached, -⟩ := hpricing
  obtain ⟨-, hcachedTokens, houtputTokens, hle⟩ := husage
  have huncached : 0 ≤ usage.inputTokens - usage.cachedTokens := by omega
  rw [tokenCost]
  positivity

/-- **The charge grows with what the tokens cost.** -/
theorem tokenCharge_mono (hmultiplier : 0 < multiplierBPS)
    (h : tokenCost pricing usage ≤ tokenCost pricing usage') :
    tokenChargeExact pricing usage multiplierBPS ≤
      tokenChargeExact pricing usage' multiplierBPS := by
  refine ceilQuo_mono (by decide) ?_
  have hscale : (0 : ℤ) ≤ localCreditsPerCurrencyUnit := by decide
  gcongr

theorem tokenCharge_nonneg (hpricing : pricing.valid) (husage : usage.valid)
    (hmultiplier : 0 < multiplierBPS) : 0 ≤ tokenChargeExact pricing usage multiplierBPS := by
  refine ceilQuo_nonneg (by decide) ?_
  have hcost := tokenCost_nonneg hpricing husage
  have hscale : (0 : ℤ) ≤ localCreditsPerCurrencyUnit := by decide
  positivity

/-- A usage that costs no more than one that is charged for is charged for, too. -/
theorem tokenCharge_le_of_cost_le {charge' : ℤ} (husage : usage.valid)
    (h : tokenCost pricing usage ≤ tokenCost pricing usage')
    (hcharge : tokenChargeMicrocredits pricing usage' multiplierBPS = .ok charge') :
    ∃ charge, tokenChargeMicrocredits pricing usage multiplierBPS = .ok charge ∧
      charge ≤ charge' := by
  obtain ⟨hpricing, -, hmultiplier, hrange, rfl⟩ := tokenChargeMicrocredits_eq_ok.mp hcharge
  have hle := tokenCharge_mono hmultiplier h
  have hnonneg := tokenCharge_nonneg hpricing husage hmultiplier
  have hmin : minInt64 ≤ 0 := by decide
  exact ⟨_, tokenChargeMicrocredits_eq_ok.mpr ⟨hpricing, husage, hmultiplier,
    ⟨hmin.trans hnonneg, hle.trans hrange.2⟩, rfl⟩, hle⟩

end

/-! ## Reservation and charge -/

theorem valid_of_contract {texts : TextFunctions} {channel : ModelChannel} {item : ChannelModel}
    {pricing : Option ModelPricing} {snapshot : TokenPricingSnapshot}
    {authority : TokenBillingAuthority}
    (h : tokenBillingContract texts channel item pricing = .ok (snapshot, authority)) :
    snapshot.valid := by
  rw [tokenBillingContract] at h
  cases hcapability : normalizeCapability texts item.capability with
  | none =>
    rw [hcapability] at h
    cases h
  | some capability =>
    simp only [hcapability] at h
    obtain ⟨-, h⟩ := refuse_eq_ok.mp h
    obtain ⟨-, h⟩ := refuse_eq_ok.mp h
    obtain ⟨-, h⟩ := refuse_eq_ok.mp h
    obtain ⟨-, h⟩ := refuse_eq_ok.mp h
    obtain ⟨-, h⟩ := refuse_eq_ok.mp h
    cases pricing with
    | none => cases h
    | some pricing =>
      obtain ⟨hprices, h⟩ := refuse_eq_ok.mp h
      obtain ⟨-, h⟩ := refuse_eq_ok.mp h
      obtain ⟨_, -, h⟩ := bind_eq_ok.mp h
      cases pure_eq_ok.mp h
      simp only [not_or, not_le, not_lt] at hprices
      exact ⟨hprices.2.1, hprices.2.2.1, hprices.2.2.2.1, hprices.2.2.2.2⟩

/-- What an order is made of. -/
theorem newTokenBillingOrder_eq_ok {texts : TextFunctions} {channel : ModelChannel}
    {item : ChannelModel} {pricing : Option ModelPricing} {policy : CreditPolicy}
    {modelKey : String} {reservation : TokenBillingReservation} {freezeRuntimeWithTask : Bool}
    {order : TokenBillingOrder}
    (h : newTokenBillingOrder texts channel item pricing policy modelKey reservation
      freezeRuntimeWithTask = .ok order) :
    ∃ authority, tokenBillingContract texts channel item pricing =
        .ok (order.tokenPricingSnapshot, authority) ∧
      order.estimatedInputTokens = reservation.estimatedInputTokens ∧
      order.maxOutputTokens = order.tokenPricingSnapshot.maxOutputTokens ∧
      tokenChargeMicrocredits order.tokenPricingSnapshot
        { inputTokens := order.estimatedInputTokens, outputTokens := order.maxOutputTokens }
        order.multiplierBasisPoints = .ok order.reservedAmountMicrocredits := by
  obtain ⟨-, h⟩ := refuse_eq_ok.mp h
  obtain ⟨⟨snapshot, authority⟩, hcontract, h⟩ := bind_eq_ok.mp h
  obtain ⟨_, -, h⟩ := bind_eq_ok.mp h
  obtain ⟨hpublished, h⟩ := refuse_eq_ok.mp h
  obtain ⟨-, h⟩ := refuse_eq_ok.mp h
  obtain ⟨amount, hamount, h⟩ := bind_eq_ok.mp h
  cases pure_eq_ok.mp h
  rw [not_or, not_not, not_not] at hpublished
  exact ⟨authority, hcontract, rfl, hpublished.2, hamount⟩

section

variable {pricing : TokenPricingSnapshot} {usage usage' : TokenUsageFact}

/-- Within the estimates, and with cached tokens not dearer than others, a usage costs no more than
the estimates do. -/
theorem tokenCost_le_estimated (hpricing : pricing.valid) (husage : usage.valid)
    (hcached : pricing.cachedPerMillionMicros ≤ pricing.inputPerMillionMicros)
    {estimatedInputTokens maxOutputTokens : ℤ} (hinput : usage.inputTokens ≤ estimatedInputTokens)
    (houtput : usage.outputTokens ≤ maxOutputTokens) :
    tokenCost pricing usage ≤
      tokenCost pricing { inputTokens := estimatedInputTokens, outputTokens := maxOutputTokens } := by
  obtain ⟨hinputPrice, houtputPrice, -, -⟩ := hpricing
  obtain ⟨-, hcachedTokens, -, -⟩ := husage
  have hcheaper : usage.cachedTokens * pricing.cachedPerMillionMicros ≤
      usage.cachedTokens * pricing.inputPerMillionMicros := by gcongr
  have hmore : usage.inputTokens * pricing.inputPerMillionMicros ≤
      estimatedInputTokens * pricing.inputPerMillionMicros := by gcongr
  have hanswer : usage.outputTokens * pricing.outputPerMillionMicros ≤
      maxOutputTokens * pricing.outputPerMillionMicros := by gcongr
  simp only [tokenCost, Int.sub_mul, zero_mul]
  omega

theorem tokenCost_input_mono (hpricing : pricing.valid)
    (hinput : usage.inputTokens ≤ usage'.inputTokens)
    (hcached : usage.cachedTokens = usage'.cachedTokens)
    (houtput : usage.outputTokens = usage'.outputTokens) :
    tokenCost pricing usage ≤ tokenCost pricing usage' := by
  have hprice := hpricing.1
  rw [tokenCost, tokenCost, hcached, houtput]
  gcongr

theorem tokenCost_output_mono (hpricing : pricing.valid)
    (hinput : usage.inputTokens = usage'.inputTokens)
    (hcached : usage.cachedTokens = usage'.cachedTokens)
    (houtput : usage.outputTokens ≤ usage'.outputTokens) :
    tokenCost pricing usage ≤ tokenCost pricing usage' := by
  have hprice := hpricing.2.1
  rw [tokenCost, tokenCost, hcached, hinput]
  gcongr

/-- A token read from the cache replaces one that is not. -/
theorem tokenCost_cached_antitone
    (hprice : pricing.cachedPerMillionMicros ≤ pricing.inputPerMillionMicros)
    (hinput : usage.inputTokens = usage'.inputTokens)
    (hcached : usage.cachedTokens ≤ usage'.cachedTokens)
    (houtput : usage.outputTokens = usage'.outputTokens) :
    tokenCost pricing usage' ≤ tokenCost pricing usage := by
  have hsaved : 0 ≤ (usage'.cachedTokens - usage.cachedTokens) *
      (pricing.inputPerMillionMicros - pricing.cachedPerMillionMicros) :=
    mul_nonneg (by omega) (by omega)
  rw [tokenCost, tokenCost, hinput, houtput]
  linarith

end

/-- **The reservation covers the charge.**  Where cached tokens are not dearer than other input
tokens, a usage within the estimates is charged at most what was reserved, and the charge falls with
the tokens read from the cache.  It grows with the input and the output in any case. -/
theorem tokenReservation_covers {texts : TextFunctions} {channel : ModelChannel}
    {item : ChannelModel} {pricing : Option ModelPricing} {snapshot : TokenPricingSnapshot}
    {authority : TokenBillingAuthority}
    (hcontract : tokenBillingContract texts channel item pricing = .ok (snapshot, authority)) :
    (snapshot.cachedPerMillionMicros ≤ snapshot.inputPerMillionMicros →
      ∀ policy modelKey reservation freezeRuntimeWithTask order,
      newTokenBillingOrder texts channel item pricing policy modelKey reservation
        freezeRuntimeWithTask = .ok order →
      ∀ usage : TokenUsageFact, usage.valid → usage.inputTokens ≤ reservation.estimatedInputTokens →
        usage.outputTokens ≤ order.maxOutputTokens →
        ∃ charge, tokenChargeMicrocredits order.tokenPricingSnapshot usage
            order.multiplierBasisPoints = .ok charge ∧
          charge ≤ order.reservedAmountMicrocredits) ∧
    ∀ (multiplierBPS : ℤ) (usage usage' : TokenUsageFact) (charge charge' : ℤ),
      tokenChargeMicrocredits snapshot usage multiplierBPS = .ok charge →
      tokenChargeMicrocredits snapshot usage' multiplierBPS = .ok charge' →
      (usage.inputTokens ≤ usage'.inputTokens → usage.cachedTokens = usage'.cachedTokens →
        usage.outputTokens = usage'.outputTokens → charge ≤ charge') ∧
      (usage.inputTokens = usage'.inputTokens → usage.cachedTokens = usage'.cachedTokens →
        usage.outputTokens ≤ usage'.outputTokens → charge ≤ charge') ∧
      (snapshot.cachedPerMillionMicros ≤ snapshot.inputPerMillionMicros →
        usage.inputTokens = usage'.inputTokens → usage.cachedTokens ≤ usage'.cachedTokens →
        usage.outputTokens = usage'.outputTokens → charge' ≤ charge) := by
  have hvalid := valid_of_contract hcontract
  constructor
  · intro hcached policy modelKey reservation freezeRuntimeWithTask order horder usage husage hinput
      houtput
    obtain ⟨authority', hcontract', hestimated, -, hreserved⟩ := newTokenBillingOrder_eq_ok horder
    rw [hcontract] at hcontract'
    cases hcontract'
    exact tokenCharge_le_of_cost_le husage
      (tokenCost_le_estimated hvalid husage hcached (hinput.trans_eq hestimated.symm) houtput)
      hreserved
  · intro multiplierBPS usage usage' charge charge' hcharge hcharge'
    obtain ⟨-, -, hmultiplier, -, rfl⟩ := tokenChargeMicrocredits_eq_ok.mp hcharge
    obtain ⟨-, -, -, -, rfl⟩ := tokenChargeMicrocredits_eq_ok.mp hcharge'
    refine ⟨fun hinput hsame houtput ↦ ?_, fun hinput hsame houtput ↦ ?_,
      fun hcached hinput hmore houtput ↦ ?_⟩
    · exact tokenCharge_mono hmultiplier (tokenCost_input_mono hvalid hinput hsame houtput)
    · exact tokenCharge_mono hmultiplier (tokenCost_output_mono hvalid hinput hsame houtput)
    · exact tokenCharge_mono hmultiplier (tokenCost_cached_antitone hcached hinput hmore houtput)

/-! ### One model -/

def plainTexts : TextFunctions where
  toLower := id
  toUpper := id
  sha256Hex := id

def chatChannel : ModelChannel where
  id := "channel"
  interfaceType := "chat-completion"

def chatModel : ChannelModel where
  id := "model"
  channelID := "channel"
  modelKey := "chat"
  capability := "text"
  billingMode := "token_usage"
  priceStrategy := "token"
  priceConfigured := true

def chatPricing (cachedPerMillionMicros : ℤ) : ModelPricing where
  channelID := "channel"
  model := "chat"
  capability := "text"
  currency := "CNY"
  inputPerMillionMicros := 1000000
  outputPerMillionMicros := 2000000
  cachedPerMillionMicros := cachedPerMillionMicros
  maxOutputTokens := 1000

def chatSnapshot (cachedPerMillionMicros : ℤ) : TokenPricingSnapshot :=
  ⟨1000000, cachedPerMillionMicros, 2000000, 1000⟩

theorem contract_chatPricing :
    tokenBillingContract plainTexts chatChannel chatModel (some (chatPricing 20000)) =
      .ok (chatSnapshot 20000, .responseUsage) := by
  rfl

theorem tokenReservation_chat :
    ∃ charge, tokenChargeMicrocredits (chatSnapshot 20000)
      { inputTokens := 300, cachedTokens := 100, outputTokens := 900 } basisPointsScale =
        .ok charge ∧ charge ≤ 300000 :=
  (tokenReservation_covers contract_chatPricing).1 (by decide)
    { defaultMultiplierBPS := basisPointsScale, modelMultiplierBPS := fun _ ↦ none } "chat"
    { estimatedInputTokens := 1000, maxOutputTokens := 1000, pricing := chatSnapshot 20000 } false
    { amountMicrocredits := 300000, reservedAmountMicrocredits := 300000
      multiplierBasisPoints := basisPointsScale, tokenPricingSnapshot := chatSnapshot 20000
      estimatedInputTokens := 1000, maxOutputTokens := 1000 } rfl
    { inputTokens := 300, cachedTokens := 100, outputTokens := 900 } (by decide) (by decide)
    (by decide)

/-- **Cached tokens are cheaper**: with one of them, the same request is charged less. -/
theorem tokenCharge_not_mono :
    ¬∀ (texts : TextFunctions) (channel : ModelChannel) (item : ChannelModel)
      (pricing : Option ModelPricing) (snapshot : TokenPricingSnapshot)
      (authority : TokenBillingAuthority),
      tokenBillingContract texts channel item pricing = .ok (snapshot, authority) →
      ∀ (multiplierBPS : ℤ) (usage usage' : TokenUsageFact) (charge charge' : ℤ),
        tokenChargeMicrocredits snapshot usage multiplierBPS = .ok charge →
        tokenChargeMicrocredits snapshot usage' multiplierBPS = .ok charge' →
        usage.inputTokens = usage'.inputTokens → usage.cachedTokens ≤ usage'.cachedTokens →
        usage.outputTokens = usage'.outputTokens → charge ≤ charge' := by
  intro hmono
  have hle := hmono _ _ _ _ _ _ contract_chatPricing basisPointsScale
    { inputTokens := 1, outputTokens := 0 }
    { inputTokens := 1, cachedTokens := 1, outputTokens := 0 } 100 2 rfl rfl rfl (by decide) rfl
  revert hle
  decide

end HMaigc.Billing
