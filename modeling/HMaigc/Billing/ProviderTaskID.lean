import HMaigc.Go.Prefix

/-!
# The task an order is looked up under

`service/token_billing.go`: a provider answers a request with a completion id `chatcmpl-…` and bills
it under a task id, which is the same text without `chatcmpl-`.  `tokenBillingTaskID` takes the task
id out of the completion id before it is recorded on the order; each round of the reconciliation
reads the recorded text through `storedTokenBillingTaskID`, which still accepts a completion id, and
writes back what it made of it.

* `storedTokenBillingTaskID_eq_self_iff` — the texts the reconciliation looks up as they are.
* `retracts_iff` — **the id it looks up is the id that was recorded exactly where what follows
  `chatcmpl-` begins neither with white space nor with another `chatcmpl-`.**
-/

set_option autoImplicit false

namespace HMaigc.Billing

open Go

/-! ## Normalising an id -/

def chatCompletionPrefix : String := "chatcmpl-"

def taskIDContractError : String := "Token 账单任务 ID 契约无效"

def tokenBillingTaskID (chatCompletionID : String) : Except String String :=
  let chatCompletionID := trimSpace chatCompletionID
  if hasPrefix chatCompletionID chatCompletionPrefix = false ∨
      chatCompletionID.utf8ByteSize = chatCompletionPrefix.utf8ByteSize then
    .error taskIDContractError
  else .ok (trimPrefix chatCompletionID chatCompletionPrefix)

def storedTokenBillingTaskID (providerRequestID : String) : Except String String :=
  let providerRequestID := trimSpace providerRequestID
  if hasPrefix providerRequestID chatCompletionPrefix then tokenBillingTaskID providerRequestID
  else if providerRequestID = "" then .error taskIDContractError
  else .ok providerRequestID

/-! ## What is accepted -/

/-- A completion id is accepted if something follows its prefix, and that is the task id. -/
theorem tokenBillingTaskID_eq_ok_iff {x y : String} :
    tokenBillingTaskID x = .ok y ↔ trimSpace x = chatCompletionPrefix ++ y ∧ y ≠ "" := by
  rw [tokenBillingTaskID]
  by_cases hstart : hasPrefix (trimSpace x) chatCompletionPrefix = true
  · obtain ⟨rest, hrest⟩ := hasPrefix_iff.mp hstart
    have hsize : (trimSpace x).utf8ByteSize = chatCompletionPrefix.utf8ByteSize ↔ rest = "" := by
      rw [hrest, String.utf8ByteSize_append, Nat.add_eq_left, String.utf8ByteSize_eq_zero_iff]
    by_cases hempty : rest = ""
    · rw [if_pos (.inr (hsize.mpr hempty))]
      constructor
      · nofun
      · rintro ⟨hy, hne⟩
        rw [hrest] at hy
        exact absurd (String.append_right_inj _ |>.mp hy ▸ hempty) hne
    · rw [if_neg (by simp [hstart, hsize, hempty]), hrest, trimPrefix_append, Except.ok.injEq,
        String.append_right_inj]
      exact ⟨fun h ↦ ⟨h, h ▸ hempty⟩, And.left⟩
  · rw [if_pos (.inl (by simpa using hstart))]
    constructor
    · nofun
    · rintro ⟨hy, -⟩
      exact absurd (hy ▸ hasPrefix_append _ _) hstart

/-- **The texts the reconciliation looks up as they are.** -/
theorem storedTokenBillingTaskID_eq_self_iff {y : String} :
    storedTokenBillingTaskID y = .ok y ↔
      y ≠ "" ∧ trimSpace y = y ∧ hasPrefix y chatCompletionPrefix = false := by
  rw [storedTokenBillingTaskID]
  by_cases hstart : hasPrefix (trimSpace y) chatCompletionPrefix = true
  · rw [if_pos hstart, tokenBillingTaskID_eq_ok_iff, trimSpace_trimSpace]
    constructor
    · rintro ⟨hy, -⟩
      -- Trimming does not lengthen a text, and the prefix is not empty.
      have hle := length_trimSpace_le y
      have hlength : chatCompletionPrefix.length = 9 := rfl
      rw [hy, String.length_append, hlength] at hle
      omega
    · rintro ⟨-, htrim, hno⟩
      rw [htrim, hno] at hstart
      cases hstart
  · rw [if_neg hstart]
    split_ifs with hempty
    · constructor
      · nofun
      · rintro ⟨hne, htrim, -⟩
        exact absurd (htrim ▸ hempty) hne
    · rw [Except.ok.injEq]
      constructor
      · intro htrim
        rw [htrim] at hempty hstart
        exact ⟨hempty, htrim, by simpa using hstart⟩
      · exact fun h ↦ h.2.1

/-! ## Recording and looking up -/

/-- Normalising the task id of `x` once more changes nothing. -/
def Retracts (x : String) : Prop :=
  ∀ y, tokenBillingTaskID x = .ok y → storedTokenBillingTaskID y = tokenBillingTaskID x

/-- What follows `chatcmpl-`, if `x` begins with it, begins neither with white space nor with
another `chatcmpl-`. -/
structure BareTaskID (x : String) : Prop where
  notRepeated : hasPrefix (trimSpace x) (chatCompletionPrefix ++ chatCompletionPrefix) = false
  notBlank : ∀ c, isSpace c = true →
    hasPrefix (trimSpace x) (chatCompletionPrefix ++ String.singleton c) = false

theorem bareTaskID_iff {x y : String} (hx : trimSpace x = chatCompletionPrefix ++ y) :
    BareTaskID x ↔ hasPrefix y chatCompletionPrefix = false ∧ beginsBlank y = false := by
  constructor
  · rintro ⟨hrepeated, hc⟩
    simp only [hx, hasPrefix_append_append] at hrepeated hc
    exact ⟨hrepeated, beginsBlank_eq_false_iff.mpr hc⟩
  · rintro ⟨hrepeated, hc⟩
    refine ⟨?_, ?_⟩ <;> simp only [hx, hasPrefix_append_append]
    exacts [hrepeated, beginsBlank_eq_false_iff.mp hc]

/-- Only a completion id that is accepted can be in the way. -/
theorem bareTaskID_of_refused {x e : String} (hx : tokenBillingTaskID x = .error e) :
    BareTaskID x := by
  have hnone : ∀ rest, rest ≠ "" → trimSpace x ≠ chatCompletionPrefix ++ rest := by
    intro rest hne h
    rw [tokenBillingTaskID_eq_ok_iff.mpr ⟨h, hne⟩] at hx
    cases hx
  have hlonger : ∀ next : String, next ≠ "" →
      hasPrefix (trimSpace x) (chatCompletionPrefix ++ next) = false := by
    intro next hne
    by_contra h
    obtain ⟨rest, hrest⟩ := hasPrefix_iff.mp (by simpa using h)
    exact hnone (next ++ rest) (by simp [hne]) (by rw [hrest, String.append_assoc])
  exact ⟨hlonger _ (by decide), fun c _ ↦ hlonger _ (by simp)⟩

/-- **A recorded id is looked up as it was recorded exactly where it is bare.** -/
theorem retracts_iff (x : String) : Retracts x ↔ BareTaskID x := by
  cases hx : tokenBillingTaskID x with
  | error e =>
    have hrefused : Retracts x := fun y hy ↦ by rw [hx] at hy; cases hy
    exact ⟨fun _ ↦ bareTaskID_of_refused hx, fun _ ↦ hrefused⟩
  | ok y =>
    obtain ⟨htrimmed, hne⟩ := tokenBillingTaskID_eq_ok_iff.mp hx
    have htrim : trimSpace (chatCompletionPrefix ++ y) = chatCompletionPrefix ++ y := by
      rw [← htrimmed, trimSpace_trimSpace]
    have hself : Retracts x ↔ storedTokenBillingTaskID y = .ok y := by
      rw [Retracts, hx]
      exact ⟨fun h ↦ h y rfl, fun h z hz ↦ by cases hz; exact h⟩
    rw [hself, storedTokenBillingTaskID_eq_self_iff, bareTaskID_iff htrimmed,
      trimSpace_eq_self_of_append htrim hne]
    constructor
    · rintro ⟨-, hblank, hstart⟩
      exact ⟨hstart, hblank⟩
    · rintro ⟨hstart, hblank⟩
      exact ⟨hne, hblank, hstart⟩

/-- Of a repeated prefix only one is taken off at a time, and what it uncovers is not trimmed. -/
theorem not_retracts_repeated :
    ¬ Retracts "chatcmpl-chatcmpl-kz-task" ∧ ¬ Retracts "chatcmpl- kz-task" := by
  constructor
  · intro h
    exact absurd (h "chatcmpl-kz-task" rfl) (by decide)
  · intro h
    exact absurd (h " kz-task" rfl) (by decide)

end HMaigc.Billing
