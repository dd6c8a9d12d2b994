import HMaigc.Billing.CreditAmount

/-!
# What a generation costs

`newBillingOrder` of `service/finance.go`, with the usage adjustment of
`service/media_input_usage_pricing.go`, and the quotes of `service/billing_quote.go`.  The rows the
repository returns are arguments.

* `newBillingOrder_amount` — the total of an order is the sum of its parts, each computed by
  `creditAmount`.
* `quote_amounts` — a quote for several tasks is a multiple of it.
* `creditAmount_exact` — **the amounts are exact**, from the unit price to the quote.
-/

set_option autoImplicit false

namespace HMaigc.Billing

open Go

structure BillingUsage where
  quantity : ℤ
  resolution : String := ""
  inputVariant : String := ""
  inputImageCount : ℤ := 0
  superResolutionEnabled : Bool := false
  superResolutionResolution : String := ""
  superResolutionVersion : String := ""
  superResolutionFPS : ℤ := 0

structure SuperResolutionPricingRule where
  id : String
  edition : String
  resolution : String
  fpsMinExclusive : ℤ
  fpsMaxInclusive : ℤ
  supplierCostMinMicros : ℤ
  supplierCostMaxMicros : ℤ
  unitPriceMicrocredits : ℤ
  priceConfigured : Bool
  enabled : Bool

/-! ## The unit price -/

/-- A resolution by the names it goes by. -/
def normalizeResolution (texts : TextFunctions) (names : List (String × String)) (value : String) :
    String :=
  (names.lookup (texts.toLower (trimSpace value))).getD ""

def normalizeImagePricingResolution (texts : TextFunctions) : String → String :=
  normalizeResolution texts [("1k", "1K"), ("2k", "2K"), ("4k", "4K")]

def normalizeVideoPricingResolution (texts : TextFunctions) (usage : BillingUsage) : String :=
  normalizeResolution texts
    [("480", "480P"), ("480p", "480P"), ("720", "720P"), ("720p", "720P"), ("768", "768P"),
      ("768p", "768P"), ("1080", "1080P"), ("1080p", "1080P"), ("2k", "2K"), ("4k", "4K"),
      ("std", "STD"), ("pro", "PRO")]
    usage.resolution

def normalizeSuperResolutionPricingResolution (texts : TextFunctions) : String → String :=
  normalizeResolution texts
    [("720", "720P"), ("720p", "720P"), ("1080", "1080P"), ("1080p", "1080P"), ("2k", "2K"),
      ("4k", "4K"), ("8k", "8K")]

/-- `strings.ToLower(strings.TrimSpace(value))`, or else `fallback`. -/
def variantOr (texts : TextFunctions) (fallback value : String) : String :=
  let variant := texts.toLower (trimSpace value)
  if variant = "" then fallback else variant

/-- The price of a generation, and the specification it was found by. -/
structure UnitPrice where
  unitPrice : ℤ
  priceTierID : String := ""
  pricingResolution : String := ""
  inputVariant : String

/-- The tier of a resolution and an input variant. -/
def tierPrice (texts : TextFunctions) (tiers : List ChannelModelPriceTier)
    (resolution variant notConfigured : String) : Except String UnitPrice :=
  match tiers.find? fun tier ↦
    tier.resolution == resolution && variantOr texts "standard" tier.inputVariant == variant with
  | none => .error notConfigured
  | some tier =>
    if tier.id = "" ∨ tier.unitPriceMicrocredits ≤ 0 then .error notConfigured
    else
      .ok {
        unitPrice := tier.unitPriceMicrocredits
        priceTierID := tier.id
        pricingResolution := resolution
        inputVariant := variant }

/-- The switch over the price strategies. -/
def unitPriceFor (texts : TextFunctions) (item : ChannelModel) (capability : Capability)
    (usage : BillingUsage) : Except String UnitPrice :=
  if item.priceStrategy = "flat" then
    if item.unitPriceMicrocredits ≤ 0 then .error "当前模型尚未配置有效的用户积分价格"
    else .ok { unitPrice := item.unitPriceMicrocredits, inputVariant := usage.inputVariant }
  else if item.priceStrategy = "image_resolution" then
    let resolution := normalizeImagePricingResolution texts usage.resolution
    let variant := variantOr texts "" usage.inputVariant
    if capability ≠ .image ∨ item.billingMode ≠ "fixed_request" then
      .error "分辨率阶梯价格仅适用于按次计费的图片模型"
    else if resolution = "" then .error "图片分辨率无效，无法匹配积分价格"
    else if variant = "" then .error "图片画质无效，无法匹配积分价格"
    else
      tierPrice texts item.priceTiers resolution variant
        ("当前模型未配置该分辨率/画质规格 " ++ resolution ++ " / " ++ variant ++ " 的积分价格")
  else if item.priceStrategy = "video_resolution" then
    let resolution := normalizeVideoPricingResolution texts usage
    let variant := variantOr texts "standard" usage.inputVariant
    if capability ≠ .video then .error "视频分辨率价格仅适用于视频模型"
    else if resolution = "" then .error "视频分辨率无效，无法匹配积分价格"
    else
      tierPrice texts item.priceTiers resolution variant
        ("当前模型未配置规格 " ++ resolution ++ " / " ++ variant ++ " 的积分价格")
  else .error "当前模型尚未配置有效的价格策略"

/-! ## Input images above the included ones -/

def inputImageUsageMetric : String := "input_image"

structure MediaInputUsageAdjustment where
  includedQuantity : ℤ
  billableQuantity : ℤ
  amount : ℤ

def calculateMediaInputUsageAdjustment (texts : TextFunctions) (metric : String)
    (actualQuantity includedQuantity unitAmount : ℤ) : Except String MediaInputUsageAdjustment :=
  if texts.toLower (trimSpace metric) ≠ inputImageUsageMetric then
    .error "不支持的媒体输入用量指标"
  else if actualQuantity < 0 then .error "媒体输入实际数量不能小于 0"
  else if includedQuantity < 0 then .error "媒体输入免费数量不能小于 0"
  else if unitAmount ≤ 0 then .error "媒体输入超额单价必须大于 0"
  else
    let billableQuantity := max (wrap64 (actualQuantity - includedQuantity)) 0
    if 0 < billableQuantity ∧ unitAmount > maxInt64 / billableQuantity then
      .error "媒体输入超额金额溢出"
    else
      .ok { includedQuantity, billableQuantity, amount := wrap64 (billableQuantity * unitAmount) }

/-- The only tier with a usage metric. -/
def inputImageUsageTier {α : Type} (texts : TextFunctions) (usageMetric : α → String)
    (unsupported : String → String) (duplicated : String) (matched : Option α) :
    List α → Except String (Option α)
  | [] => .ok matched
  | tier :: rest =>
    let metric := texts.toLower (trimSpace (usageMetric tier))
    if metric = "" then
      inputImageUsageTier texts usageMetric unsupported duplicated matched rest
    else if metric ≠ inputImageUsageMetric then .error (unsupported metric)
    else if matched.isSome then .error duplicated
    else inputImageUsageTier texts usageMetric unsupported duplicated (some tier) rest

def channelInputImageUsageTier (texts : TextFunctions) (tiers : List ChannelModelPriceTier) :
    Except String (Option ChannelModelPriceTier) :=
  inputImageUsageTier texts (·.usageMetric) ("渠道模型配置了不支持的用量指标: " ++ ·)
    "渠道模型的输入图片用量价格存在重复配置" none tiers

def supplierInputImageUsageTier (texts : TextFunctions) (tiers : List ModelPricingTier) :
    Except String (Option ModelPricingTier) :=
  inputImageUsageTier texts (·.usageMetric) ("上游成本配置了不支持的用量指标: " ++ ·)
    "上游输入图片用量成本存在重复配置" none tiers

structure MediaInputUsagePricingSnapshot where
  actualQuantity : ℤ
  includedQuantity : ℤ
  billableQuantity : ℤ
  supplierUnitMicros : ℤ
  userUnitMicrocredits : ℤ
  supplierAmountMicros : ℤ
  userAmountMicrocredits : ℤ

/-- The credits for the images above the included ones. -/
def mediaInputUserAmount (userTier : ChannelModelPriceTier) (adjustment : MediaInputUsageAdjustment)
    (multiplierBPS : ℤ) : Except String ℤ :=
  if 0 < adjustment.billableQuantity then
    creditAmount userTier.unitPriceMicrocredits adjustment.billableQuantity multiplierBPS
  else .ok 0

/-- `mediaInputUsagePricingSnapshot` for a tier the model has. -/
def mediaInputUsageSnapshot (texts : TextFunctions) (userTier : ChannelModelPriceTier)
    (pricing : Option ModelPricing) (actualQuantity multiplierBPS : ℤ) :
    Except String MediaInputUsagePricingSnapshot :=
  match pricing with
  | none => .error "当前模型已配置输入图片超额积分，但缺少对应的上游成本配置"
  | some pricing => do
    let found ← supplierInputImageUsageTier texts pricing.tiers
    match found with
    | none => .error "当前模型已配置输入图片超额积分，但缺少对应的上游成本规则"
    | some supplierTier =>
      if userTier.includedQuantity ≠ supplierTier.includedQuantity then
        .error "输入图片免费数量与上游成本规则不一致"
      else do
      let userAdjustment ← calculateMediaInputUsageAdjustment texts userTier.usageMetric
        actualQuantity userTier.includedQuantity userTier.unitPriceMicrocredits
      let supplierAdjustment ← calculateMediaInputUsageAdjustment texts supplierTier.usageMetric
        actualQuantity supplierTier.includedQuantity supplierTier.supplierCostMicros
      let userAmount ← mediaInputUserAmount userTier userAdjustment multiplierBPS
      return {
        actualQuantity
        includedQuantity := userAdjustment.includedQuantity
        billableQuantity := userAdjustment.billableQuantity
        supplierUnitMicros := supplierTier.supplierCostMicros
        userUnitMicrocredits := userTier.unitPriceMicrocredits
        supplierAmountMicros := supplierAdjustment.amount
        userAmountMicrocredits := userAmount }

def mediaInputUsagePricingSnapshot (texts : TextFunctions) (item : ChannelModel)
    (pricing : Option ModelPricing) (actualQuantity multiplierBPS : ℤ) :
    Except String (Option MediaInputUsagePricingSnapshot) := do
  let found ← channelInputImageUsageTier texts item.priceTiers
  match found with
  | none => .ok none
  | some userTier =>
    (mediaInputUsageSnapshot texts userTier pricing actualQuantity multiplierBPS).map some

/-! ## The order -/

def errAmountOutOfRange : String := "计费金额超出允许范围"

/-- What an order says about its price. -/
structure PricedOrder where
  billingMode : String
  priceVersion : ℤ
  priceTierID : String
  pricingResolution : String
  pricingInputVariant : String
  unitPriceMicrocredits : ℤ
  multiplierBasisPoints : ℤ
  quantity : ℤ
  amountMicrocredits : ℤ
  enhancementPricingRule : Option SuperResolutionPricingRule := none
  enhancementAmountMicrocredits : ℤ := 0
  usageAdjustment : Option MediaInputUsagePricingSnapshot := none

/-- Another amount is added to the total. -/
def addAmount (total amount : ℤ) : Except String ℤ :=
  if total > wrap64 (maxInt64 - amount) then .error errAmountOutOfRange
  else .ok (wrap64 (total + amount))

/-- The total with the usage adjustment, where there is one. -/
def withAdjustment (total : ℤ) (adjustment : Option MediaInputUsagePricingSnapshot) :
    Except String ℤ :=
  match adjustment with
  | none => .ok total
  | some adjustment => addAmount total adjustment.userAmountMicrocredits

def matchSuperResolutionPricingRule (texts : TextFunctions)
    (rules : List SuperResolutionPricingRule) (usage : BillingUsage) :
    Except String SuperResolutionPricingRule :=
  let edition := texts.toLower (trimSpace usage.superResolutionVersion)
  let resolution := normalizeSuperResolutionPricingResolution texts usage.superResolutionResolution
  if edition = "" ∨ resolution = "" ∨ usage.superResolutionFPS < 1 ∨
      usage.superResolutionFPS > 120 then
    .error "超分版本、目标分辨率或输出帧率无效，无法匹配超分价格"
  else
    match rules.find? fun rule ↦ rule.edition == edition && rule.resolution == resolution &&
      rule.fpsMinExclusive < usage.superResolutionFPS &&
      usage.superResolutionFPS ≤ rule.fpsMaxInclusive && rule.enabled with
    | none => .error "当前超分规格未配置价格"
    | some rule =>
      if rule.priceConfigured = false ∨ rule.unitPriceMicrocredits ≤ 0 then
        .error "当前超分规格尚未配置用户积分售价"
      else .ok rule

/-- The super resolution asked for, and what it costs. -/
def enhancementFor (texts : TextFunctions) (rules : List SuperResolutionPricingRule)
    (capability : Capability) (usage : BillingUsage) (multiplierBPS : ℤ) :
    Except String (Option SuperResolutionPricingRule × ℤ) :=
  if usage.superResolutionEnabled = false then .ok (none, 0)
  else if capability ≠ .video ∨ usage.quantity ≤ 0 then
    .error "超分附加计费仅适用于具有有效时长的视频生成"
  else do
    let rule ← matchSuperResolutionPricingRule texts rules usage
    let amount ← creditAmount rule.unitPriceMicrocredits usage.quantity multiplierBPS
    return (some rule, amount)

/-- The total with the enhancement, where there is one. -/
def withEnhancement (total : ℤ) (enhancement : Option SuperResolutionPricingRule × ℤ) :
    Except String ℤ :=
  match enhancement.1 with
  | none => .ok total
  | some _ => addAmount total enhancement.2

/-- The checks of the model and of its billing mode. -/
def checkBillingMode (texts : TextFunctions) (item : ChannelModel)
    (requested : Option Capability) (usage : BillingUsage) : Except String Capability :=
  match normalizeCapability texts item.capability with
  | none => .error "当前模型尚未配置有效能力类型"
  | some capability =>
    if requested.isSome ∧ requested ≠ some capability then
      .error "当前模型能力与本次生成功能不匹配"
    else if item.billingMode = "fixed_request" then .ok capability
    else if item.billingMode ≠ "per_second" then .error "当前模型计费方式暂不支持"
    else if item.capability ≠ "video" ∨ capability ≠ .video then
      .error "按秒计费仅适用于视频生成"
    else if usage.quantity ≤ 0 then .error "视频生成时长无效，无法按秒计费"
    else .ok capability

/-- The quantity the unit price is for. -/
def billedQuantity (item : ChannelModel) (capability : Capability) (usage : BillingUsage) : ℤ :=
  if item.billingMode = "per_second" ∨ capability = .image then usage.quantity else 1

def newBillingOrder (texts : TextFunctions) (item : ChannelModel) (pricing : Option ModelPricing)
    (rules : List SuperResolutionPricingRule) (policy : CreditPolicy)
    (modelKey requestedCapability : String) (usage : BillingUsage) : Except String PricedOrder :=
  if item.priceConfigured = false then .error "当前模型尚未配置用户积分价格"
  else do
    let capability ← checkBillingMode texts item (normalizeCapability texts requestedCapability) usage
    let price ← unitPriceFor texts item capability usage
    let quantity := billedQuantity item capability usage
    if quantity ≤ 0 then .error "生成数量无效，无法计费"
    else do
    let multiplierBPS := policy.multiplierBPS modelKey
    let base ← creditAmount price.unitPrice quantity multiplierBPS
    let adjustment ← mediaInputUsagePricingSnapshot texts item pricing usage.inputImageCount
      multiplierBPS
    let adjusted ← withAdjustment base adjustment
    let enhancement ← enhancementFor texts rules capability usage multiplierBPS
    let amount ← withEnhancement adjusted enhancement
    return {
      billingMode := item.billingMode
      priceVersion := item.priceVersion
      priceTierID := price.priceTierID
      pricingResolution := price.pricingResolution
      pricingInputVariant := price.inputVariant
      unitPriceMicrocredits := price.unitPrice
      multiplierBasisPoints := multiplierBPS
      quantity
      amountMicrocredits := amount
      enhancementPricingRule := enhancement.1
      enhancementAmountMicrocredits := enhancement.2
      usageAdjustment := adjustment }

/-! ## Quotes -/

def maxBillingQuoteBatchCount : ℤ := 15

def multiplyQuoteAmount (amount count : ℤ) : Except String ℤ :=
  if amount < 0 ∨ count ≤ 0 then .error "积分报价参数无效"
  else if amount > maxInt64 / count then .error "积分报价金额溢出"
  else .ok (wrap64 (amount * count))

structure TaskBillingQuote where
  amountMicrocredits : ℤ
  perTaskAmountMicrocredits : ℤ
  taskCount : ℤ
  priceVersion : ℤ
  billingMode : String
  pricingResolution : String
  pricingInputVariant : String
  quantity : ℤ
  enhancementAmountMicrocredits : ℤ
  usageAdjustment : Option (MediaInputUsagePricingSnapshot × ℤ)
  quoteFingerprint : String

/-- The usage adjustment of a quote: the one of the order, and what it comes to for all tasks. -/
def quotedAdjustment (adjustment : Option MediaInputUsagePricingSnapshot) (taskCount : ℤ) :
    Except String (Option (MediaInputUsagePricingSnapshot × ℤ)) :=
  match adjustment with
  | none => .ok none
  | some adjustment =>
    (multiplyQuoteAmount adjustment.userAmountMicrocredits taskCount).map fun amount ↦
      some (adjustment, amount)

/-- `fingerprint` is `billingOrderQuoteFingerprint`, a hash of what the order says. -/
def taskBillingQuoteFromOrder (fingerprint : PricedOrder → String) (order : PricedOrder)
    (taskCount : ℤ) : Except String TaskBillingQuote := do
  let amount ← multiplyQuoteAmount order.amountMicrocredits taskCount
  let enhancementAmount ← multiplyQuoteAmount order.enhancementAmountMicrocredits taskCount
  let usageAdjustment ← quotedAdjustment order.usageAdjustment taskCount
  return {
    amountMicrocredits := amount
    perTaskAmountMicrocredits := order.amountMicrocredits
    taskCount
    priceVersion := order.priceVersion
    billingMode := order.billingMode
    pricingResolution := order.pricingResolution
    pricingInputVariant := order.pricingInputVariant
    quantity := order.quantity
    enhancementAmountMicrocredits := enhancementAmount
    usageAdjustment
    quoteFingerprint := fingerprint order }

/-- `QuoteTaskBilling`, for the usage a request comes to. -/
def quoteTaskBilling (texts : TextFunctions) (fingerprint : PricedOrder → String)
    (item : ChannelModel) (pricing : Option ModelPricing) (rules : List SuperResolutionPricingRule)
    (policy : CreditPolicy) (modelKey capability : String) (usage : BillingUsage) (batchCount : ℤ) :
    Except String TaskBillingQuote :=
  if batchCount < 1 ∨ batchCount > maxBillingQuoteBatchCount then
    .error "生成数量必须在 1-15 之间"
  else do
    let order ← newBillingOrder texts item pricing rules policy modelKey capability usage
    taskBillingQuoteFromOrder fingerprint order batchCount

/-! ## Totals -/

section

variable {total amount result count : ℤ}

theorem addAmount_eq_ok (htotal : 0 ≤ total) (hamount : 0 ≤ amount) (hrange : amount ≤ maxInt64)
    (h : addAmount total amount = .ok result) :
    result = total + amount ∧ IsInt64 (total + amount) := by
  obtain ⟨hle, h⟩ := refuse_eq_ok.mp h
  have hmin : minInt64 ≤ 0 := by decide
  rw [wrap64_eq_self ⟨by omega, by omega⟩, not_lt] at hle
  have hint := isInt64_add htotal hamount hle
  cases h
  exact ⟨wrap64_eq_self hint, hint⟩

theorem creditAmount_le {unitPrice quantity multiplierBPS : ℤ}
    (h : creditAmount unitPrice quantity multiplierBPS = .ok amount) : amount ≤ maxInt64 := by
  obtain ⟨harguments, rfl⟩ := creditAmount_eq_ok.mp h
  have hmax := harguments.product_le
  rw [ceilQuo_le_iff (by decide)]
  have hpos : (0 : ℤ) ≤ maxInt64 := by decide
  omega

theorem multiplyQuoteAmount_eq_ok (h : multiplyQuoteAmount amount count = .ok result) :
    result = amount * count ∧ IsInt64 (amount * count) := by
  obtain ⟨harguments, h⟩ := refuse_eq_ok.mp h
  obtain ⟨hle, h⟩ := refuse_eq_ok.mp h
  simp only [not_or, not_lt, not_le] at harguments hle
  have hnonneg := mul_nonneg harguments.1 harguments.2.le
  have hmin : minInt64 ≤ 0 := by decide
  have hint : IsInt64 (amount * count) :=
    ⟨hmin.trans hnonneg, (le_quo_iff harguments.2).mp hle⟩
  cases h
  exact ⟨wrap64_eq_self hint, hint⟩

end

section

variable {texts : TextFunctions} {item : ChannelModel} {pricing : Option ModelPricing}
  {rules : List SuperResolutionPricingRule} {policy : CreditPolicy} {usage : BillingUsage}
  {multiplierBPS : ℤ}

/-- What the usage adjustment of an order comes to. -/
def PricedOrder.adjustmentAmount (order : PricedOrder) : ℤ :=
  (order.usageAdjustment.map (·.userAmountMicrocredits)).getD 0

theorem mediaInputUserAmount_range {userTier : ChannelModelPriceTier}
    {adjustment : MediaInputUsageAdjustment} {amount : ℤ}
    (h : mediaInputUserAmount userTier adjustment multiplierBPS = .ok amount) :
    0 ≤ amount ∧ amount ≤ maxInt64 := by
  rw [mediaInputUserAmount] at h
  by_cases hbillable : 0 < adjustment.billableQuantity
  · rw [if_pos hbillable] at h
    exact ⟨creditAmount_nonneg h, creditAmount_le h⟩
  · rw [if_neg hbillable] at h
    cases h
    decide

theorem mediaInputUsageSnapshot_range {userTier : ChannelModelPriceTier} {actualQuantity : ℤ}
    {snapshot : MediaInputUsagePricingSnapshot}
    (h : mediaInputUsageSnapshot texts userTier pricing actualQuantity multiplierBPS =
      .ok snapshot) :
    0 ≤ snapshot.userAmountMicrocredits ∧ snapshot.userAmountMicrocredits ≤ maxInt64 := by
  cases pricing with
  | none => cases h
  | some pricing =>
    obtain ⟨found, -, h⟩ := bind_eq_ok.mp h
    cases found with
    | none => cases h
    | some supplierTier =>
      obtain ⟨-, h⟩ := refuse_eq_ok.mp h
      obtain ⟨userAdjustment, -, h⟩ := bind_eq_ok.mp h
      obtain ⟨supplierAdjustment, -, h⟩ := bind_eq_ok.mp h
      obtain ⟨amount, hamount, h⟩ := bind_eq_ok.mp h
      cases pure_eq_ok.mp h
      exact mediaInputUserAmount_range hamount

theorem mediaInputUsagePricingSnapshot_range {actualQuantity : ℤ}
    {snapshot : MediaInputUsagePricingSnapshot}
    (h : mediaInputUsagePricingSnapshot texts item pricing actualQuantity multiplierBPS =
      .ok (some snapshot)) :
    0 ≤ snapshot.userAmountMicrocredits ∧ snapshot.userAmountMicrocredits ≤ maxInt64 := by
  obtain ⟨found, -, h⟩ := bind_eq_ok.mp h
  cases found with
  | none => cases h
  | some userTier =>
    obtain ⟨result, hresult, hsome⟩ := map_eq_ok.mp h
    cases hsome
    exact mediaInputUsageSnapshot_range hresult

theorem withAdjustment_eq_ok {total result : ℤ} {adjustment : Option MediaInputUsagePricingSnapshot}
    (htotal : 0 ≤ total ∧ total ≤ maxInt64)
    (hrange : ∀ snapshot, adjustment = some snapshot →
      0 ≤ snapshot.userAmountMicrocredits ∧ snapshot.userAmountMicrocredits ≤ maxInt64)
    (h : withAdjustment total adjustment = .ok result) :
    result = total + (adjustment.map (·.userAmountMicrocredits)).getD 0 ∧ 0 ≤ result ∧
      result ≤ maxInt64 := by
  cases adjustment with
  | none =>
    cases h
    exact ⟨(add_zero _).symm, htotal⟩
  | some snapshot =>
    obtain ⟨hnonneg, hle⟩ := hrange snapshot rfl
    obtain ⟨rfl, -, hmax⟩ := addAmount_eq_ok htotal.1 hnonneg hle h
    exact ⟨rfl, add_nonneg htotal.1 hnonneg, hmax⟩

/-- What an enhancement costs is an amount, and nothing where there is none. -/
theorem enhancementFor_range {capability : Capability}
    {enhancement : Option SuperResolutionPricingRule × ℤ}
    (h : enhancementFor texts rules capability usage multiplierBPS = .ok enhancement) :
    (enhancement.1 = none → enhancement.2 = 0) ∧ 0 ≤ enhancement.2 ∧ enhancement.2 ≤ maxInt64 := by
  rw [enhancementFor] at h
  by_cases hdisabled : usage.superResolutionEnabled = false
  · rw [if_pos hdisabled] at h
    cases h
    exact ⟨fun _ ↦ rfl, by decide, by decide⟩
  · rw [if_neg hdisabled] at h
    obtain ⟨-, h⟩ := refuse_eq_ok.mp h
    obtain ⟨rule, -, h⟩ := bind_eq_ok.mp h
    obtain ⟨amount, hamount, h⟩ := bind_eq_ok.mp h
    cases pure_eq_ok.mp h
    exact ⟨nofun, creditAmount_nonneg hamount, creditAmount_le hamount⟩

theorem withEnhancement_eq_ok {total result : ℤ}
    {enhancement : Option SuperResolutionPricingRule × ℤ} (htotal : 0 ≤ total ∧ total ≤ maxInt64)
    (hrange : (enhancement.1 = none → enhancement.2 = 0) ∧ 0 ≤ enhancement.2 ∧
      enhancement.2 ≤ maxInt64)
    (h : withEnhancement total enhancement = .ok result) :
    result = total + enhancement.2 ∧ 0 ≤ result ∧ result ≤ maxInt64 := by
  obtain ⟨rule, amount⟩ := enhancement
  obtain ⟨hnone, hnonneg, hle⟩ := hrange
  cases rule with
  | none =>
    cases h
    rw [hnone rfl, add_zero]
    exact ⟨rfl, htotal⟩
  | some rule =>
    obtain ⟨rfl, -, hmax⟩ := addAmount_eq_ok htotal.1 hnonneg hle h
    exact ⟨rfl, add_nonneg htotal.1 hnonneg, hmax⟩

/-- **The total of an order is the sum of its parts.** -/
theorem newBillingOrder_amount {modelKey requestedCapability : String} {order : PricedOrder}
    (h : newBillingOrder texts item pricing rules policy modelKey requestedCapability usage =
      .ok order) :
    ∃ base, creditAmount order.unitPriceMicrocredits order.quantity order.multiplierBasisPoints =
        .ok base ∧
      order.amountMicrocredits =
        base + order.adjustmentAmount + order.enhancementAmountMicrocredits ∧
      IsInt64 (base + order.adjustmentAmount) ∧ IsInt64 order.amountMicrocredits := by
  obtain ⟨-, h⟩ := refuse_eq_ok.mp h
  obtain ⟨capability, -, h⟩ := bind_eq_ok.mp h
  obtain ⟨price, -, h⟩ := bind_eq_ok.mp h
  obtain ⟨-, h⟩ := refuse_eq_ok.mp h
  obtain ⟨base, hbase, h⟩ := bind_eq_ok.mp h
  obtain ⟨adjustment, hadjustment, h⟩ := bind_eq_ok.mp h
  obtain ⟨adjusted, hadjusted, h⟩ := bind_eq_ok.mp h
  obtain ⟨enhancement, henhancement, h⟩ := bind_eq_ok.mp h
  obtain ⟨amount, hamount, h⟩ := bind_eq_ok.mp h
  cases pure_eq_ok.mp h
  have hrange : ∀ snapshot, adjustment = some snapshot →
      0 ≤ snapshot.userAmountMicrocredits ∧ snapshot.userAmountMicrocredits ≤ maxInt64 := by
    rintro snapshot rfl
    exact mediaInputUsagePricingSnapshot_range hadjustment
  have hmin : minInt64 ≤ 0 := by decide
  obtain ⟨rfl, hsum⟩ := withAdjustment_eq_ok
    ⟨creditAmount_nonneg hbase, creditAmount_le hbase⟩ hrange hadjusted
  obtain ⟨rfl, htotal⟩ := withEnhancement_eq_ok hsum (enhancementFor_range henhancement) hamount
  exact ⟨base, hbase, rfl, ⟨hmin.trans hsum.1, hsum.2⟩, hmin.trans htotal.1, htotal.2⟩

/-- **A quote is a multiple of its order.** -/
theorem quote_amounts {fingerprint : PricedOrder → String} {order : PricedOrder} {taskCount : ℤ}
    {quote : TaskBillingQuote}
    (h : taskBillingQuoteFromOrder fingerprint order taskCount = .ok quote) :
    (quote.amountMicrocredits = order.amountMicrocredits * taskCount ∧
        IsInt64 quote.amountMicrocredits) ∧
      (quote.enhancementAmountMicrocredits = order.enhancementAmountMicrocredits * taskCount ∧
        IsInt64 quote.enhancementAmountMicrocredits) ∧
      ∀ adjustment, quote.usageAdjustment = some adjustment →
        adjustment.2 = order.adjustmentAmount * taskCount ∧ IsInt64 adjustment.2 := by
  obtain ⟨amount, hamount, h⟩ := bind_eq_ok.mp h
  obtain ⟨enhancement, henhancement, h⟩ := bind_eq_ok.mp h
  obtain ⟨adjustment, hadjustment, h⟩ := bind_eq_ok.mp h
  cases pure_eq_ok.mp h
  obtain ⟨rfl, hint⟩ := multiplyQuoteAmount_eq_ok hamount
  obtain ⟨rfl, hint'⟩ := multiplyQuoteAmount_eq_ok henhancement
  refine ⟨⟨rfl, hint⟩, ⟨rfl, hint'⟩, ?_⟩
  rintro ⟨kept, total⟩ rfl
  cases hkept : order.usageAdjustment with
  | none =>
    rw [hkept] at hadjustment
    cases hadjustment
  | some snapshot =>
    rw [hkept] at hadjustment
    obtain ⟨result, hresult, hsome⟩ := map_eq_ok.mp hadjustment
    cases hsome
    rw [PricedOrder.adjustmentAmount, hkept]
    obtain ⟨rfl, hint''⟩ := multiplyQuoteAmount_eq_ok hresult
    exact ⟨rfl, hint''⟩

end

/-- **Amounts are exact.**  An amount is computed where its arguments and their product, with room
for the rounding, are in range, and it is then the rounded quotient, with every intermediate value
in range; it grows with each argument; the total of an order is the sum of its parts, and a quote
the multiple of its order, with no value out of range. -/
theorem creditAmount_exact :
    (∀ unitPrice quantity multiplierBPS : ℤ,
      (CreditArguments unitPrice quantity multiplierBPS →
        creditAmount unitPrice quantity multiplierBPS =
            .ok ⌈((unitPrice * quantity * multiplierBPS : ℤ) : ℚ) / (10000 : ℤ)⌉ ∧
          IsInt64 (unitPrice * quantity) ∧ IsInt64 (unitPrice * quantity * multiplierBPS) ∧
          IsInt64 (unitPrice * quantity * multiplierBPS + 9999)) ∧
      (¬CreditArguments unitPrice quantity multiplierBPS →
        ∃ e, creditAmount unitPrice quantity multiplierBPS = .error e)) ∧
    (∀ unitPrice quantity multiplierBPS unitPrice' quantity' multiplierBPS' amount amount' : ℤ,
      creditAmount unitPrice quantity multiplierBPS = .ok amount →
      creditAmount unitPrice' quantity' multiplierBPS' = .ok amount' →
      unitPrice ≤ unitPrice' → quantity ≤ quantity' → multiplierBPS ≤ multiplierBPS' →
      amount ≤ amount') ∧
    (∀ texts item pricing rules policy modelKey requestedCapability usage order,
      newBillingOrder texts item pricing rules policy modelKey requestedCapability usage =
        .ok order →
      ∃ base, creditAmount order.unitPriceMicrocredits order.quantity
          order.multiplierBasisPoints = .ok base ∧
        order.amountMicrocredits =
          base + order.adjustmentAmount + order.enhancementAmountMicrocredits ∧
        IsInt64 (base + order.adjustmentAmount) ∧ IsInt64 order.amountMicrocredits) ∧
    ∀ texts fingerprint item pricing rules policy modelKey capability usage batchCount quote,
      quoteTaskBilling texts fingerprint item pricing rules policy modelKey capability usage
        batchCount = .ok quote →
      ∃ order, newBillingOrder texts item pricing rules policy modelKey capability usage =
          .ok order ∧
        quote.amountMicrocredits = order.amountMicrocredits * batchCount ∧
        IsInt64 quote.amountMicrocredits := by
  refine ⟨fun unitPrice quantity multiplierBPS ↦ ⟨fun h ↦ ⟨?_, h.isInt64⟩, fun h ↦ ?_⟩, ?_, ?_, ?_⟩
  · exact creditAmount_eq_ok.mpr ⟨h, (ceilQuo_eq_ceil (by decide) _).symm⟩
  · cases hamount : creditAmount unitPrice quantity multiplierBPS with
    | error e => exact ⟨e, rfl⟩
    | ok amount => exact absurd (creditAmount_eq_ok.mp hamount).1 h
  · intro unitPrice quantity multiplierBPS unitPrice' quantity' multiplierBPS' amount amount' h h'
    exact creditAmount_mono h h'
  · intro texts item pricing rules policy modelKey requestedCapability usage order h
    exact newBillingOrder_amount h
  · intro texts fingerprint item pricing rules policy modelKey capability usage batchCount quote h
    obtain ⟨-, h⟩ := refuse_eq_ok.mp h
    obtain ⟨order, horder, h⟩ := bind_eq_ok.mp h
    exact ⟨order, horder, (quote_amounts h).1⟩

/-- The product leaves the range although the amount would not: the price of a generation of a
billion credits. -/
theorem creditAmount_overflow :
    creditAmount 1000000000000000 1 10000 = .error errCreditOverflow ∧
      IsInt64 ⌈((1000000000000000 * 1 * 10000 : ℤ) : ℚ) / (10000 : ℤ)⌉ := by
  refine ⟨rfl, ?_⟩
  rw [← ceilQuo_eq_ceil (by decide)]
  decide

end HMaigc.Billing
