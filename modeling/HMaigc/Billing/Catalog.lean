import HMaigc.Go.Basic

/-!
# What a model costs

The rows a price is taken from, and the models the managed provider is registered with.

What `strings.ToLower`, `strings.ToUpper` and SHA-256 do to a text is taken as it is: nothing below
depends on their tables.
-/

set_option autoImplicit false

namespace HMaigc.Billing

open Go

/-- The code outside the repository that prices are looked up with. -/
structure TextFunctions where
  toLower : String → String
  toUpper : String → String
  /-- The lower-case hexadecimal SHA-256 of a text. -/
  sha256Hex : String → String

inductive Capability
  | text | image | video | audio | vision
  deriving DecidableEq

def Capability.name : Capability → String
  | .text => "text"
  | .image => "image"
  | .video => "video"
  | .audio => "audio"
  | .vision => "vision"

/-- The capability a text names; `none` stands for the empty one. -/
def normalizeCapability (texts : TextFunctions) (value : String) : Option Capability :=
  [Capability.text, .image, .video, .audio, .vision].find?
    (·.name == texts.toLower (trimSpace value))

structure ChannelModelPriceTier where
  id : String
  resolution : String := ""
  inputVariant : String := ""
  usageMetric : String := ""
  includedQuantity : ℤ := 0
  unitPriceMicrocredits : ℤ

structure ModelChannel where
  id : String
  interfaceType : String

structure ChannelModel where
  id : String
  channelID : String
  providerCredentialID : String := ""
  modelKey : String
  capability : String
  billingMode : String
  priceStrategy : String
  unitPriceMicrocredits : ℤ := 0
  priceConfigured : Bool
  priceVersion : ℤ := 0
  priceTiers : List ChannelModelPriceTier := []

structure ModelPricingTier where
  usageMetric : String
  includedQuantity : ℤ := 0
  supplierCostMicros : ℤ

structure ModelPricing where
  channelID : String
  model : String
  capability : String
  currency : String
  inputPerMillionMicros : ℤ
  outputPerMillionMicros : ℤ
  cachedPerMillionMicros : ℤ
  maxOutputTokens : ℤ
  tiers : List ModelPricingTier := []

/-! ## The managed provider -/

structure ProviderModelSpec where
  modelKey : String
  capability : Capability
  maxInputImageTokens : ℤ := 0

structure ProviderAdapterDescriptor where
  family : String
  models : List ProviderModelSpec

def kuaiziProviderAdapterDescriptors : List ProviderAdapterDescriptor :=
  [ { family := "seedance"
      models :=
        [ { modelKey := "doubao-seedance-2-0-fast-260128", capability := .video },
          { modelKey := "doubao-seedance-2-0-260128", capability := .video },
          { modelKey := "doubao-seedance-2-0-mini-260615", capability := .video },
          { modelKey := "doubao-seedance-2-5-260628", capability := .video } ] },
    { family := "kling", models := [{ modelKey := "kling-v3-omni", capability := .video }] },
    { family := "gpt-image2", models := [{ modelKey := "kz_gpt_image2", capability := .image }] },
    { family := "seedream"
      models :=
        [ { modelKey := "seedream5.0lite", capability := .image },
          { modelKey := "seedream5.0pro", capability := .image } ] },
    { family := "gpt", models := [{ modelKey := "gpt-5.5", capability := .text }] },
    { family := "deepseek"
      models :=
        [ { modelKey := "deepseek-v4-flash", capability := .text },
          { modelKey := "deepseek-v4-pro", capability := .text },
          { modelKey := "deepseek-v4-flash-vision-exp", capability := .vision
            maxInputImageTokens := 384 } ] } ]

/-- The first registered model of this key, with its family. -/
def kuaiziProviderFamilyForModel (modelKey : String) : Option (String × ProviderModelSpec) :=
  kuaiziProviderAdapterDescriptors.findSome? fun descriptor ↦
    (descriptor.models.find? (·.modelKey == trimSpace modelKey)).map fun spec ↦
      (descriptor.family, spec)

def modelInputImageTokenCeiling (modelKey : String) : ℤ :=
  match kuaiziProviderFamilyForModel modelKey with
  | some (_, spec) => if spec.capability = .vision then spec.maxInputImageTokens else 0
  | none => 0

def kuaiziProviderKind : String := "kuaizi"

def deterministicKuaiziChatChannelID (texts : TextFunctions) (family : String) : String :=
  "mc-" ++ String.ofList
    ((texts.sha256Hex (kuaiziProviderKind ++ "\nchat\n" ++ trimSpace family)).toList.take 32)

def isKuaiziChatChannelID (texts : TextFunctions) (channelID : String) : Bool :=
  kuaiziProviderAdapterDescriptors.any fun descriptor ↦
    descriptor.models.any fun spec ↦
      (spec.capability = .text || spec.capability = .vision) &&
        channelID == deterministicKuaiziChatChannelID texts descriptor.family

end HMaigc.Billing
