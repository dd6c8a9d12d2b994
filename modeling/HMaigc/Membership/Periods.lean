import HMaigc.Sql.Serial
import HMaigc.Sql.Preserves
import HMaigc.Repository.Footprint

/-!
# The periods of a subscription

A paid order gives its owner, a user or a team, one period of membership: from the end of the last
active period, or from the time of payment if that is later, and as long as the billing cycle of the
plan bought.

* `Periods` — the invariant: active periods of one owner are apart, and paid orders and periods
  correspond one to one, each period as long as its order bought.
* `periods_activate` — what activating an order does to it; the period starts where every active one
  has ended (`endsAt_le_start`).
* `subscription_periods` — after every sequence of fulfilments and expiries the active periods are
  apart, and their owner has been given exactly the time that was bought.

Only active periods count when the next one is placed.  A payment that is fulfilled after the period
it was made in has been marked expired gets a period that starts at the payment.
-/

set_option autoImplicit false

namespace HMaigc

open Sql Go Prog

/-! ## Periods -/

/-- The owner of a subscription or of a membership order. -/
def subscriber (userID teamID : String) : Payer := if teamID = "" then .user userID else .team teamID

def MembershipOrder.owner (order : MembershipOrder) : Payer := subscriber order.userID order.teamID

namespace MembershipSubscription

def owner (subscription : MembershipSubscription) : Payer :=
  subscriber subscription.userID subscription.teamID

/-- When the subscription runs. -/
def period (subscription : MembershipSubscription) : Set Time :=
  { t | subscription.startsAt ≤ t ∧ ∀ stop, subscription.endsAt = some stop → t < stop }

/-- How long it runs. -/
def length (subscription : MembershipSubscription) : ℤ :=
  subscription.endsAt.elim 0 fun stop ↦ stop - subscription.startsAt

theorem inter_period {m m' : MembershipSubscription} {stop : Time} (hstop : m.endsAt = some stop)
    (hle : stop ≤ m'.startsAt) : m.period ∩ m'.period = ∅ :=
  Set.eq_empty_of_forall_notMem fun _ ht ↦
    absurd (ht.1.2 stop hstop) (not_lt.mpr (hle.trans ht.2.1))

end MembershipSubscription

section Periods

variable (calendar : Calendar) (cycleOf : String → MembershipBillingCycle)

/-- The time an order buys, when it starts at `start`. -/
def MembershipOrder.purchased (order : MembershipOrder) (start : Time) : ℤ :=
  match (cycleOf order.planSnapshotJSON).endOf calendar start with
  | .ok stop => stop - start
  | .error _ => 0

/-- The subscription is what the order bought. -/
structure MembershipOrder.Grants (order : MembershipOrder) (subscription : MembershipSubscription) :
    Prop where
  paid : order.status = .paid
  owner : subscription.owner = order.owner
  period : ∃ stop, subscription.endsAt = some stop ∧
    (cycleOf order.planSnapshotJSON).endOf calendar subscription.startsAt = .ok stop

/-- Active periods are apart, and every period is what one paid order bought. -/
structure Periods (s : Store) : Prop where
  apart : ∀ id id' m m', s.lookup (.membershipSubscription id) = some m →
    s.lookup (.membershipSubscription id') = some m' → id ≠ id' → m.owner = m'.owner →
    m.status = .active → m'.status = .active → m.period ∩ m'.period = ∅
  granted : ∀ id m, s.lookup (.membershipSubscription id) = some m →
    ∃ o, s.lookup (.membershipOrder m.orderID) = some o ∧ o.Grants calendar cycleOf m
  sole : ∀ id id' m m', s.lookup (.membershipSubscription id) = some m →
    s.lookup (.membershipSubscription id') = some m' → m.orderID = m'.orderID → id = id'
  entitled : ∀ id o, s.lookup (.membershipOrder id) = some o → o.status = .paid →
    ∃ id' m, s.lookup (.membershipSubscription id') = some m ∧ m.orderID = id

end Periods

/-! ## What leaves the periods alone -/

/-- The rows membership is made of. -/
def RowKey.isMembership : RowKey → Bool
  | .membershipOrder _ | .membershipSubscription _ => true
  | _ => false

section IsMembership

variable (id : String)

@[simp] theorem isMembership_creditAccount (p : Payer) :
    (RowKey.creditAccount p).isMembership = false := rfl
@[simp] theorem isMembership_creditLedgerEntry (b : Book) :
    (RowKey.creditLedgerEntry b id).isMembership = false := rfl
@[simp] theorem isMembership_referralRelationship :
    (RowKey.referralRelationship id).isMembership = false := rfl
@[simp] theorem isMembership_referralReward : (RowKey.referralReward id).isMembership = false := rfl
@[simp] theorem isMembership_creditTopupOrder :
    (RowKey.creditTopupOrder id).isMembership = false := rfl
@[simp] theorem isMembership_creditTopupProduct :
    (RowKey.creditTopupProduct id).isMembership = false := rfl
@[simp] theorem isMembership_paymentTransaction :
    (RowKey.paymentTransaction id).isMembership = false := rfl
@[simp] theorem isMembership_paymentWebhookEvent :
    (RowKey.paymentWebhookEvent id).isMembership = false := rfl

end IsMembership

/-- A write by something else than a fulfilment: orders are created and cancelled. -/
def BesideMembership : ∀ k, Option (Row k) → Row k → Prop
  | .membershipSubscription _, _, _ => False
  | .membershipOrder _, old, new =>
    (new.status = .paid → ∃ r, old = some r ∧ r.status = .paid) ∧
      ∀ r, old = some r → new.owner = r.owner ∧ new.planSnapshotJSON = r.planSnapshotJSON ∧
        (r.status = .paid → new.status = .paid)
  | _, _, _ => True

theorem rowTrans_besideMembership : RowTrans BesideMembership := by
  intro k o r r' h h'
  cases k with
  | membershipSubscription id => exact h
  | membershipOrder id =>
    refine ⟨fun hpaid ↦ ?_, fun r₀ hr₀ ↦ ?_⟩
    · obtain ⟨r₁, hr₁, hpaid₁⟩ := h'.1 hpaid
      cases hr₁
      exact h.1 hpaid₁
    · obtain ⟨howner, hplan, hpaid⟩ := h.2 r₀ hr₀
      obtain ⟨howner', hplan', hpaid'⟩ := h'.2 r rfl
      exact ⟨howner'.trans howner, hplan'.trans hplan, fun h₀ ↦ hpaid' (hpaid h₀)⟩
  | _ => trivial

section Periods

variable {calendar : Calendar} {cycleOf : String → MembershipBillingCycle} {s : Store}

theorem harmless_besideMembership : Harmless (Periods calendar cycleOf) BesideMembership := by
  intro s s' hs h
  have hsub : ∀ id, s'.lookup (.membershipSubscription id) =
      s.lookup (.membershipSubscription id) :=
    fun id ↦ (h (.membershipSubscription id)).resolve_right fun ⟨_, _, hfalse⟩ ↦ hfalse
  refine ⟨fun id id' m m' hm hm' ↦ hs.apart id id' m m' (hsub id ▸ hm) (hsub id' ▸ hm'),
    fun id m hm ↦ ?_, fun id id' m m' hm hm' ↦ hs.sole id id' m m' (hsub id ▸ hm) (hsub id' ▸ hm'),
    fun id o ho hpaid ↦ ?_⟩
  · obtain ⟨o, ho, hgrants⟩ := hs.granted id m (hsub id ▸ hm)
    rcases h (.membershipOrder m.orderID) with heq | ⟨o', ho', hstep⟩
    · exact ⟨o, heq.trans ho, hgrants⟩
    · obtain ⟨howner, hplan, hpaid⟩ := hstep.2 o ho
      refine ⟨o', ho', hpaid hgrants.paid, hgrants.owner.trans howner.symm, ?_⟩
      rw [hplan]
      exact hgrants.period
  · have hold : ∃ o', s.lookup (.membershipOrder id) = some o' ∧ o'.status = .paid := by
      rcases h (.membershipOrder id) with heq | ⟨o', ho', hstep⟩
      · exact ⟨o, heq ▸ ho, hpaid⟩
      · cases ho'.symm.trans ho
        exact hstep.1 hpaid
    obtain ⟨o', ho', hpaid'⟩ := hold
    obtain ⟨id', m, hm, horder⟩ := hs.entitled id o' ho' hpaid'
    exact ⟨id', m, (hsub id').trans hm, horder⟩

/-- Other tables. -/
theorem harmless_notMembership :
    Harmless (Periods calendar cycleOf) fun k _ _ ↦ k.isMembership = false := by
  refine fun s s' hs h ↦ harmless_besideMembership s s' hs fun k ↦ (h k).imp_right ?_
  rintro ⟨r, hr, hk⟩
  refine ⟨r, hr, ?_⟩
  cases k with
  | membershipOrder id => cases hk
  | membershipSubscription id => cases hk
  | _ => trivial

theorem preserves_of_notMembership {α : Type} {p : DbTx α}
    (h : p.WritesOnly fun k ↦ k.isMembership = false) :
    p.Preserves (Periods calendar cycleOf) :=
  .of_keeps (fun _ _ _ _ _ h ↦ by exact h) harmless_notMembership h

/-! ## Activating an order -/

/-- The subscriptions of the order's owner that `latestSubscription` chooses from. -/
def runningSubscriptions (order : MembershipOrder) (now : Time) (s : Store) :
    List (String × MembershipSubscription) :=
  s.select fun
    | .membershipSubscription id, m =>
      if m.status = .active ∧ m.endsAt.any (now < ·) ∧
          (if order.teamID = "" then m.userID = order.userID ∧ m.teamID = ""
            else m.teamID = order.teamID) then
        some (id, m)
      else none
    | _, _ => none

/-- The one of two subscriptions that ends later. -/
def laterOf (a : String × MembershipSubscription) :
    Option (String × MembershipSubscription) → Option (String × MembershipSubscription)
  | none => some a
  | some b =>
    if a.2.endsAt.getD 0 > b.2.endsAt.getD 0 ∨ a.2.endsAt = b.2.endsAt ∧ a.1 < b.1 then some a
    else some b

theorem latestSubscription_eq (order : MembershipOrder) (now : Time) (s : Store) :
    latestSubscription order now s = (runningSubscriptions order now s).foldr laterOf none := rfl

theorem exists_foldr_laterOf {l : List (String × MembershipSubscription)}
    {a : String × MembershipSubscription} (h : a ∈ l) :
    ∃ b ∈ l, l.foldr laterOf none = some b ∧ a.2.endsAt.getD 0 ≤ b.2.endsAt.getD 0 := by
  induction l generalizing a with
  | nil => cases h
  | cons c l ih =>
    rw [List.foldr_cons]
    cases hbest : l.foldr laterOf none with
    | none =>
      rcases List.mem_cons.mp h with rfl | h
      · exact ⟨a, .head _, rfl, le_refl _⟩
      · obtain ⟨b, -, hb, -⟩ := ih h
        rw [hbest] at hb
        cases hb
    | some b =>
      have hb : b ∈ l := by
        cases l with
        | nil => cases hbest
        | cons d l =>
          obtain ⟨b', hb', heq, -⟩ := ih (.head l)
          cases hbest.symm.trans heq
          exact hb'
      have hle : a = c ∨ a.2.endsAt.getD 0 ≤ b.2.endsAt.getD 0 := by
        rcases List.mem_cons.mp h with rfl | h
        · exact .inl rfl
        · obtain ⟨b', -, heq, hle⟩ := ih h
          cases hbest.symm.trans heq
          exact .inr hle
      rw [laterOf]
      split
      · rename_i hlater
        refine ⟨c, .head _, rfl, ?_⟩
        rcases hle with rfl | hle
        · exact le_refl _
        · rcases hlater with hlt | ⟨heq, -⟩
          · exact hle.trans hlt.le
          · exact heq ▸ hle
      · rename_i hlater
        rw [not_or, not_lt] at hlater
        refine ⟨b, .tail _ hb, rfl, ?_⟩
        rcases hle with rfl | hle
        · exact hlater.1
        · exact hle

theorem mem_runningSubscriptions {order : MembershipOrder} {now : Time} {id : String}
    {m : MembershipSubscription} :
    (id, m) ∈ runningSubscriptions order now s ↔
      s.lookup (.membershipSubscription id) = some m ∧ m.status = .active ∧
        m.endsAt.any (now < ·) = true ∧
          (if order.teamID = "" then m.userID = order.userID ∧ m.teamID = ""
            else m.teamID = order.teamID) := by
  rw [runningSubscriptions, Db.mem_select]
  constructor
  · rintro ⟨k, r, hr, hsome⟩
    cases k with
    | membershipSubscription id' =>
      obtain ⟨hrunning, heq⟩ := Option.ite_none_right_eq_some.mp hsome
      cases heq
      exact ⟨hr, hrunning⟩
    | _ => cases hsome
  · rintro ⟨hr, hrunning⟩
    exact ⟨.membershipSubscription id, m, hr, if_pos hrunning⟩

/-- **The period starts where every active one of its owner has ended.** -/
theorem endsAt_le_start {order : MembershipOrder} {now stop : Time} {id : String}
    {m : MembershipSubscription} (hm : s.lookup (.membershipSubscription id) = some m)
    (hactive : m.status = .active) (hstop : m.endsAt = some stop)
    (howner : m.owner = order.owner) :
    stop ≤ max now (((latestSubscription order now s).bind (·.2.endsAt)).getD now) := by
  by_cases hnow : now < stop
  · have hmine : if order.teamID = "" then m.userID = order.userID ∧ m.teamID = ""
        else m.teamID = order.teamID := by
      rw [MembershipSubscription.owner, MembershipOrder.owner, subscriber, subscriber] at howner
      split at howner <;> split at howner
      · rw [if_pos ‹order.teamID = ""›]
        exact ⟨Payer.user.inj howner, ‹_›⟩
      · cases howner
      · cases howner
      · rw [if_neg ‹¬order.teamID = ""›]
        exact Payer.team.inj howner
    obtain ⟨l, hl, hbest, hle⟩ := exists_foldr_laterOf (mem_runningSubscriptions.mpr
      ⟨hm, hactive, by rw [hstop]; exact decide_eq_true hnow, hmine⟩)
    obtain ⟨-, -, hends, -⟩ := mem_runningSubscriptions.mp hl
    rw [latestSubscription_eq, hbest, Option.bind_some]
    cases hl' : l.2.endsAt with
    | none =>
      rw [hl'] at hends
      cases hends
    | some stop' =>
      rw [hstop, hl', Option.getD_some, Option.getD_some] at hle
      exact hle.trans (le_max_right _ _)
  · exact (not_lt.mp hnow).trans (le_max_left _ _)

/-- The order is marked paid and gets a subscription that starts where the active ones have ended. -/
theorem Periods.activate (hs : Periods calendar cycleOf s) {orderID subscriptionID : String}
    {order order' : MembershipOrder} {m : MembershipSubscription} {stop : Time}
    (horder : s.lookup (.membershipOrder orderID) = some order) (hpending : order.status ≠ .paid)
    (hnew : s.lookup (.membershipSubscription subscriptionID) = none) (hpaid : order'.status = .paid) (howner' : order'.owner = order.owner)
    (hplan : order'.planSnapshotJSON = order.planSnapshotJSON) (hm : m.orderID = orderID)
    (howner : m.owner = order.owner) (hstop : m.endsAt = some stop)
    (hcycle : (cycleOf order.planSnapshotJSON).endOf calendar m.startsAt = .ok stop)
    (hlate : ∀ id m' stop', s.lookup (.membershipSubscription id) = some m' →
      m'.status = .active → m'.endsAt = some stop' → m'.owner = order.owner →
      stop' ≤ m.startsAt) :
    Periods calendar cycleOf ((s.insert (.membershipOrder orderID) order').insert
      (.membershipSubscription subscriptionID) m) := by
  have hsub : ∀ {id m'}, ((s.insert (.membershipOrder orderID) order').insert
      (.membershipSubscription subscriptionID) m).lookup (.membershipSubscription id) = some m' →
      id = subscriptionID ∧ m' = m ∨
        id ≠ subscriptionID ∧ s.lookup (.membershipSubscription id) = some m' := by
    intro id m' hm'
    rcases Db.lookup_insert_cases hm' with heq | ⟨hne, hold⟩
    · cases heq
      exact .inl ⟨rfl, rfl⟩
    · rw [AList.lookup_insert_ne (by simp)] at hold
      exact .inr ⟨fun h ↦ hne (congrArg _ h), hold⟩
  -- an order that is not paid has no subscription yet
  have hnone : ∀ id m', s.lookup (.membershipSubscription id) = some m' → m'.orderID ≠ orderID := by
    rintro id m' hm' rfl
    obtain ⟨o, ho, hgrants⟩ := hs.granted id m' hm'
    cases ho.symm.trans horder
    exact hpending hgrants.paid
  have hlast : ∀ id m', s.lookup (.membershipSubscription id) = some m' → m'.owner = m.owner →
      m'.status = .active → m'.period ∩ m.period = ∅ := by
    intro id m' hm' heq hactive
    obtain ⟨o, -, hgrants⟩ := hs.granted id m' hm'
    obtain ⟨stop', hstop', -⟩ := hgrants.period
    exact MembershipSubscription.inter_period hstop'
      (hlate id m' stop' hm' hactive hstop' (heq.trans howner))
  refine ⟨fun id id' m₁ m₂ h₁ h₂ hne heq hactive₁ hactive₂ ↦ ?_, fun id m₁ h₁ ↦ ?_,
    fun id id' m₁ m₂ h₁ h₂ heq ↦ ?_, fun id o ho hpaid' ↦ ?_⟩
  · rcases hsub h₁ with ⟨rfl, rfl⟩ | ⟨-, hold₁⟩ <;> rcases hsub h₂ with ⟨rfl, rfl⟩ | ⟨-, hold₂⟩
    · exact absurd rfl hne
    · exact (Set.inter_comm _ _).trans (hlast id' m₂ hold₂ heq.symm hactive₂)
    · exact hlast id m₁ hold₁ heq hactive₁
    · exact hs.apart id id' m₁ m₂ hold₁ hold₂ hne heq hactive₁ hactive₂
  · rw [AList.lookup_insert_ne (by simp)]
    rcases hsub h₁ with ⟨rfl, rfl⟩ | ⟨-, hold₁⟩
    · rw [hm, AList.lookup_insert]
      exact ⟨order', rfl, hpaid, howner.trans howner'.symm, stop, hstop, by rw [hplan, hcycle]⟩
    · rw [AList.lookup_insert_ne fun h ↦ hnone id m₁ hold₁ (RowKey.membershipOrder.inj h)]
      exact hs.granted id m₁ hold₁
  · rcases hsub h₁ with ⟨rfl, rfl⟩ | ⟨-, hold₁⟩ <;> rcases hsub h₂ with ⟨rfl, rfl⟩ | ⟨-, hold₂⟩
    · rfl
    · exact absurd (heq.symm.trans hm) (hnone id' m₂ hold₂)
    · exact absurd (heq.trans hm) (hnone id m₁ hold₁)
    · exact hs.sole id id' m₁ m₂ hold₁ hold₂ heq
  · by_cases hid : id = orderID
    · exact ⟨subscriptionID, m, AList.lookup_insert _, hm.trans hid.symm⟩
    · rw [AList.lookup_insert_ne (by simp), AList.lookup_insert_ne (by simpa using hid)] at ho
      obtain ⟨id', m', hm', heq⟩ := hs.entitled id o ho hpaid'
      refine ⟨id', m', ?_, heq⟩
      rw [AList.lookup_insert_ne, AList.lookup_insert_ne (by simp)]
      · exact hm'
      · rintro h
        rw [RowKey.membershipSubscription.inj h, hnew] at hm'
        cases hm'

/-- What `membershipFulfillmentForOrder` makes of an order. -/
structure MembershipActivation.IsFor (cycleOf : String → MembershipBillingCycle)
    (activation : MembershipActivation) (orderID : String) (order : MembershipOrder) : Prop where
  cycle : activation.billingCycle = cycleOf order.planSnapshotJSON
  userID : activation.subscription.userID = order.userID
  teamID : activation.subscription.teamID = order.teamID
  orderID : activation.subscription.orderID = orderID
  planSnapshotJSON : activation.subscription.planSnapshotJSON = order.planSnapshotJSON
  active : activation.subscription.status = .active

theorem keeps_notMembership_grantToAccount (payer : Payer) (amount : ℤ) (entryID : String)
    (post : CreditAccount → CreditLedgerEntry) :
    (grantToAccount payer amount entryID post).WritesOnly fun k ↦ k.isMembership = false := by
  simp [grantToAccount, createAccountIfMissing, readAccount, createLedgerEntry]

theorem keeps_notMembership_grantActivationLedger (order : MembershipOrder)
    (activation : MembershipActivation) :
    (grantActivationLedger order activation).WritesOnly fun k ↦ k.isMembership = false := by
  have hgrant := keeps_notMembership_grantToAccount
  rw [grantActivationLedger]
  cases activation.membershipLedger with
  | none => simp
  | some ledger => simp [grantTeamMembershipLedgerTx, grantPersonalCreditLedgerTx, keeps_ite, hgrant]

theorem keeps_notMembership_grantReferralRewardTx (orderID : String) (order : MembershipOrder)
    (fulfillment : ReferralFulfillment) (now : Time) :
    (grantReferralRewardTx orderID order fulfillment now).WritesOnly
      fun k ↦ k.isMembership = false := by
  have hgrant := keeps_notMembership_grantToAccount
  simp [grantReferralRewardTx, grantPersonalCreditLedgerTx, createReferralReward, keeps_ite, hgrant]

/-- **Activating an order keeps the periods apart.** -/
theorem periods_activate (hs : Periods calendar cycleOf s)
    {orderID actorID provider providerTradeNo note : String} {activation : MembershipActivation}
    (hfor : ∀ o, s.lookup (.membershipOrder orderID) = some o →
      activation.IsFor cycleOf orderID o) (now : Time) :
    (activateMembershipOrderTx calendar orderID actorID provider providerTradeNo note activation
      now).Post s fun _ s' ↦ Periods calendar cycleOf s' := by
  rw [activateMembershipOrderTx]
  simp [post_ite]
  intro order horder hpending
  obtain ⟨hcycle, huser, hteam, hid, -, -⟩ := hfor order horder
  refine (post_of_readOnly (readOnly_lockSubscriber order) s).mono fun _ t ht ↦ ?_
  subst ht
  generalize hstart : max now (((latestSubscription order now t).bind (·.2.endsAt)).getD now) = start
  cases hend : activation.billingCycle.endOf calendar start with
  | error e => simp
  | ok stop =>
    simp [post_ite, createSubscription]
    intro row hrow _ hnew _
    cases horder.symm.trans hrow
    have hactivated : Periods calendar cycleOf ((t.insert (.membershipOrder orderID)
        (order.pay provider providerTradeNo actorID note now)).insert
        (.membershipSubscription activation.subscriptionID)
        { activation.subscription with startsAt := start, endsAt := some stop }) :=
      hs.activate horder (by simp [hpending]) hnew rfl rfl rfl hid
        (by simp [MembershipSubscription.owner, MembershipOrder.owner, huser, hteam]) rfl
        (by rw [← hcycle]; exact hend) fun id m' stop' hm' hactive hstop' howner ↦
          hstart ▸ endsAt_le_start hm' hactive hstop' howner
    refine (preserves_of_notMembership (keeps_notMembership_grantActivationLedger order activation) _
      hactivated).mono fun _ u hu ↦ ?_
    cases activation.referral with
    | none => simpa using hu
    | some fulfillment =>
      exact preserves_of_notMembership
        (keeps_notMembership_grantReferralRewardTx orderID order fulfillment now) u hu

/-! ## Fulfilments and expiry -/

theorem notMembership_of_orderSide {α : Type} {p : DbTx α} (h : p.WritesOnly (·.isOrderSide)) :
    p.WritesOnly fun k ↦ k.isMembership = false :=
  h.imp fun k _ _ hk ↦ by
    cases k with
    | paymentCheckoutSession id => rfl
    | adminAuditEvent id => rfl
    | _ => cases hk

theorem keeps_notMembership_processEvent (input : PaymentFulfillment) :
    (processEvent input).WritesOnly fun k ↦ k.isMembership = false := by
  have haudit := notMembership_of_orderSide (writes_createAudit input.audit)
  simp [processEvent, haudit]

theorem keeps_notMembership_fulfillCreditTopupOrderTx
    (orderID provider providerTradeNo entryID : String) (now : Time) :
    (fulfillCreditTopupOrderTx orderID provider providerTradeNo entryID now).WritesOnly
      fun k ↦ k.isMembership = false := by
  have hgrant := keeps_notMembership_grantToAccount
  simp [fulfillCreditTopupOrderTx, keeps_ite, hgrant]

/-- The activation is for the order that the transaction pays, if that is a membership order. -/
def PaymentFulfillment.IsFor (cycleOf : String → MembershipBillingCycle) (input : PaymentFulfillment)
    (transaction : PaymentTransaction) (s : Store) : Prop :=
  transaction.orderType = .membership →
    ∀ o, s.lookup (.membershipOrder transaction.orderID) = some o →
      input.activation.IsFor cycleOf transaction.orderID o

theorem periods_grantEntitlement (hs : Periods calendar cycleOf s) {input : PaymentFulfillment}
    {transaction : PaymentTransaction} (hfor : input.IsFor cycleOf transaction s) :
    (grantEntitlement calendar transaction input).Post s
      fun _ s' ↦ Periods calendar cycleOf s' := by
  rw [grantEntitlement]
  cases htype : transaction.orderType with
  | membership => exact periods_activate hs (hfor htype) input.paidAt
  | creditTopup =>
    exact preserves_of_notMembership
      (keeps_notMembership_fulfillCreditTopupOrderTx _ _ _ _ _) s hs

theorem periods_payOrder (hs : Periods calendar cycleOf s) {input : PaymentFulfillment}
    {transaction : PaymentTransaction} (hfor : input.IsFor cycleOf transaction s) :
    (payOrder calendar input transaction).Post s fun _ s' ↦ Periods calendar cycleOf s' := by
  have hpay : (payTransaction input).WritesOnly fun k ↦ k.isMembership = false := by
    simp [payTransaction]
  rw [payOrder, post_bind]
  refine (post_of_keeps (fun _ _ _ _ _ h ↦ by exact h) hpay s).mono fun rows t ht ↦ ?_
  have hperiods := harmless_notMembership s t hs ht.1
  have horder : t.lookup (.membershipOrder transaction.orderID) =
      s.lookup (.membershipOrder transaction.orderID) := by
    refine (ht.1 _).resolve_right ?_
    rintro ⟨_, _, hfalse⟩
    cases hfalse
  rw [post_ite]
  refine ⟨fun _ ↦ by simp, fun _ ↦ ?_⟩
  rw [post_bind]
  refine (periods_grantEntitlement hperiods fun htype o ho ↦
    hfor htype o (horder ▸ ho)).mono fun _ u hu ↦ ?_
  have hrest : (do
      let _ ← updateCheckouts (fun c ↦ c.orderID = transaction.orderID) .consumed
      processEvent input
      return false : DbTx Bool).Preserves (Periods calendar cycleOf) :=
    (preserves_of_notMembership (notMembership_of_orderSide (writes_updateCheckouts _ _))).bind
      fun _ ↦ (preserves_of_notMembership (keeps_notMembership_processEvent input)).bind
        fun _ ↦ .done _
  exact hrest u hu

/-- **Fulfilling a payment keeps the periods apart.** -/
theorem periods_fulfillPaymentTransaction (hs : Periods calendar cycleOf s)
    {input : PaymentFulfillment}
    (hfor : ∀ transaction, s.lookup (.paymentTransaction input.transactionID) = some transaction →
      input.IsFor cycleOf transaction s) :
    (fulfillPaymentTransaction calendar input).Post s fun _ s' ↦ Periods calendar cycleOf s' := by
  rw [fulfillPaymentTransaction, post_ite]
  refine ⟨fun _ ↦ by simp, fun _ ↦ ?_⟩
  rw [post_bind, post_first]
  intro snapshot _
  rw [post_bind]
  refine (post_of_readOnly (readOnly_lockPaymentOrderTx _ _ _) s).mono fun _ t ht ↦ ?_
  subst ht
  rw [post_bind]
  refine (post_of_readOnly (readOnly_lockCheckout _ _) t).mono fun _ u hu ↦ ?_
  subst hu
  rw [post_bind, post_firstForUpdate]
  intro transaction htransaction _
  rw [post_bind, post_firstForUpdate]
  intro event _ _
  have haudit : (createAudit input.audit).Preserves (Periods calendar cycleOf) :=
    preserves_of_notMembership (notMembership_of_orderSide (writes_createAudit input.audit))
  have hprocess : (processEvent input).Preserves (Periods calendar cycleOf) :=
    preserves_of_notMembership (keeps_notMembership_processEvent input)
  rw [fulfillLocked]
  simp only [post_bind, post_ite, throw_eq_fail, post_fail, pure_eq_done, post_done]
  refine ⟨fun _ ↦ trivial, fun _ ↦ ⟨fun _ ↦ haudit u hs, fun _ ↦ ⟨fun _ ↦ trivial, fun _ ↦
    ⟨fun _ ↦ hprocess u hs, fun _ ↦ ⟨fun _ ↦ trivial, fun _ ↦ ?_⟩⟩⟩⟩⟩
  exact periods_payOrder hs (hfor transaction htransaction)

/-- What `expireSubscriptions` makes of a row. -/
def expireSubscription (now : Time) : ∀ k, Row k → Option (Row k)
  | .membershipSubscription _, s =>
    if s.status = .active ∧ s.endsAt.any (· ≤ now) then some { s with status := .expired } else none
  | _, _ => none

theorem expireSubscriptions_eq (now : Time) :
    expireSubscriptions now = Prog.updateAll (expireSubscription now) >>= fun _ ↦ pure () := rfl

/-- The row with its new status. -/
theorem expireSubscription_getD (now : Time) (id : String) (m : MembershipSubscription) :
    ∃ status, (status = .active → m.status = .active) ∧
      (expireSubscription now (.membershipSubscription id) m).getD m =
        { m with status := status } := by
  rw [expireSubscription]
  split
  · exact ⟨.expired, fun h ↦ (by cases h), rfl⟩
  · exact ⟨m.status, fun h ↦ h, rfl⟩

/-- **Expiry only takes periods out of the active ones.** -/
theorem preserves_expireSubscriptions (now : Time) :
    (expireSubscriptions now).Preserves (Periods calendar cycleOf) := by
  intro s hs
  rw [expireSubscriptions_eq, post_bind, post_updateAll, pure_eq_done, post_done]
  generalize hnew : s.apply (s.changes (expireSubscription now)) = s'
  have hlookup : ∀ k, s'.lookup k = (s.lookup k).map fun r ↦ (expireSubscription now k r).getD r :=
    fun k ↦ hnew ▸ Db.lookup_apply_changes _ _ _
  have hsub : ∀ id m', s'.lookup (.membershipSubscription id) = some m' →
      ∃ m, s.lookup (.membershipSubscription id) = some m ∧
        ∃ status, (status = .active → m.status = .active) ∧ m' = { m with status := status } := by
    intro id m' hm'
    rw [hlookup] at hm'
    obtain ⟨m, hm, heq⟩ := Option.map_eq_some_iff.mp hm'
    obtain ⟨status, hactive, hget⟩ := expireSubscription_getD now id m
    exact ⟨m, hm, status, hactive, heq.symm.trans hget⟩
  have horder : ∀ id, s'.lookup (.membershipOrder id) = s.lookup (.membershipOrder id) := by
    intro id
    rw [hlookup]
    cases s.lookup (.membershipOrder id) <;> rfl
  refine ⟨fun id id' m₁ m₂ h₁ h₂ hne howner hactive₁ hactive₂ ↦ ?_, fun id m₁ h₁ ↦ ?_,
    fun id id' m₁ m₂ h₁ h₂ heq ↦ ?_, fun id o ho hpaid ↦ ?_⟩
  · obtain ⟨m₁, hm₁, status₁, hold₁, rfl⟩ := hsub id m₁ h₁
    obtain ⟨m₂, hm₂, status₂, hold₂, rfl⟩ := hsub id' m₂ h₂
    exact hs.apart id id' m₁ m₂ hm₁ hm₂ hne howner (hold₁ hactive₁) (hold₂ hactive₂)
  · obtain ⟨m₁, hm₁, status₁, -, rfl⟩ := hsub id m₁ h₁
    obtain ⟨o, ho, hgrants⟩ := hs.granted id m₁ hm₁
    exact ⟨o, (horder _).trans ho, hgrants.paid, hgrants.owner, hgrants.period⟩
  · obtain ⟨m₁, hm₁, status₁, -, rfl⟩ := hsub id m₁ h₁
    obtain ⟨m₂, hm₂, status₂, -, rfl⟩ := hsub id' m₂ h₂
    exact hs.sole id id' m₁ m₂ hm₁ hm₂ heq
  · obtain ⟨id', m, hm, heq⟩ := hs.entitled id o ((horder id).symm.trans ho) hpaid
    obtain ⟨status, -, hget⟩ := expireSubscription_getD now id' m
    exact ⟨id', { m with status := status }, by rw [hlookup, hm, Option.map_some, hget], heq⟩

end Periods

/-! ## Time bought and time granted -/

section Totals

variable (calendar : Calendar) (cycleOf : String → MembershipBillingCycle)

/-- The subscriptions of an owner. -/
def subscriptionsOf (owner : Payer) (s : Store) : List (String × MembershipSubscription) :=
  s.select fun
    | .membershipSubscription id, m => if m.owner = owner then some (id, m) else none
    | _, _ => none

/-- The paid membership orders of an owner. -/
def paidOrdersOf (owner : Payer) (s : Store) : List (String × MembershipOrder) :=
  s.select fun
    | .membershipOrder id, o =>
      if o.owner = owner ∧ o.status = .paid then some (id, o) else none
    | _, _ => none

/-- When the period an order gave starts. -/
def periodStart (orderID : String) (s : Store) : Time :=
  ((s.select fun
    | .membershipSubscription _, m => if m.orderID = orderID then some m.startsAt else none
    | _, _ => none).head?).getD 0

/-- The total length of the periods granted to an owner. -/
def grantedTime (owner : Payer) (s : Store) : ℤ :=
  ((subscriptionsOf owner s).map fun m ↦ m.2.length).sum

/-- The sum of the durations an owner bought, each counted from where its period starts. -/
def purchasedTime (owner : Payer) (s : Store) : ℤ :=
  ((paidOrdersOf owner s).map fun o ↦ o.2.purchased calendar cycleOf (periodStart o.1 s)).sum

variable {calendar cycleOf} {owner : Payer} {s : Store}

theorem mem_subscriptionsOf {a : String × MembershipSubscription} :
    a ∈ subscriptionsOf owner s ↔
      s.lookup (.membershipSubscription a.1) = some a.2 ∧ a.2.owner = owner := by
  rw [subscriptionsOf, Db.mem_select]
  constructor
  · rintro ⟨k, r, hr, hsome⟩
    cases k with
    | membershipSubscription id =>
      obtain ⟨howner, heq⟩ := Option.ite_none_right_eq_some.mp hsome
      cases heq
      exact ⟨hr, howner⟩
    | _ => cases hsome
  · rintro ⟨hr, howner⟩
    exact ⟨.membershipSubscription a.1, a.2, hr, if_pos howner⟩

theorem mem_paidOrdersOf {a : String × MembershipOrder} :
    a ∈ paidOrdersOf owner s ↔ s.lookup (.membershipOrder a.1) = some a.2 ∧ a.2.owner = owner ∧
      a.2.status = .paid := by
  rw [paidOrdersOf, Db.mem_select]
  constructor
  · rintro ⟨k, r, hr, hsome⟩
    cases k with
    | membershipOrder id =>
      obtain ⟨hpaid, heq⟩ := Option.ite_none_right_eq_some.mp hsome
      cases heq
      exact ⟨hr, hpaid⟩
    | _ => cases hsome
  · rintro ⟨hr, hpaid⟩
    exact ⟨.membershipOrder a.1, a.2, hr, if_pos hpaid⟩

theorem Periods.periodStart_eq (hs : Periods calendar cycleOf s) {id : String}
    {m : MembershipSubscription} (hm : s.lookup (.membershipSubscription id) = some m) :
    periodStart m.orderID s = m.startsAt := by
  rw [periodStart]
  generalize hl : s.select (fun
    | .membershipSubscription _, m' => if m'.orderID = m.orderID then some m'.startsAt else none
    | _, _ => none) = l
  have hmem : m.startsAt ∈ l := by
    rw [← hl, Db.mem_select]
    exact ⟨.membershipSubscription id, m, hm, if_pos rfl⟩
  have hall : ∀ start ∈ l, start = m.startsAt := by
    intro start hstart
    rw [← hl, Db.mem_select] at hstart
    obtain ⟨k, r, hr, hsome⟩ := hstart
    cases k with
    | membershipSubscription id' =>
      obtain ⟨horder, heq⟩ := Option.ite_none_right_eq_some.mp hsome
      obtain rfl := hs.sole id' id r m hr hm horder
      cases hr.symm.trans hm
      exact (Option.some.inj heq).symm
    | _ => cases hsome
  cases l with
  | nil => cases hmem
  | cons start l => exact hall start (.head l)

theorem nodup_subscriptionsOf (owner : Payer) (s : Store) : (subscriptionsOf owner s).Nodup := by
  refine List.Nodup.of_map (fun a ↦ RowKey.membershipSubscription a.1) ?_
  refine Db.nodup_select (fun k r a hsome ↦ ?_) s
  cases k with
  | membershipSubscription id =>
    obtain ⟨-, heq⟩ := Option.ite_none_right_eq_some.mp hsome
    cases heq
    rfl
  | _ => cases hsome

theorem nodup_paidOrdersOf (owner : Payer) (s : Store) :
    ((paidOrdersOf owner s).map Prod.fst).Nodup := by
  refine List.Nodup.of_map RowKey.membershipOrder ?_
  rw [List.map_map]
  refine Db.nodup_select (fun k r a hsome ↦ ?_) s
  cases k with
  | membershipOrder id =>
    obtain ⟨-, heq⟩ := Option.ite_none_right_eq_some.mp hsome
    cases heq
    rfl
  | _ => cases hsome

/-- Subscriptions and paid orders correspond one to one. -/
theorem Periods.perm_orders (hs : Periods calendar cycleOf s) (owner : Payer) :
    ((subscriptionsOf owner s).map fun m ↦ m.2.orderID).Perm
      ((paidOrdersOf owner s).map Prod.fst) := by
  have hnodup : ((subscriptionsOf owner s).map fun m ↦ m.2.orderID).Nodup := by
    refine (nodup_subscriptionsOf owner s).map_on fun a ha b hb heq ↦ ?_
    obtain ⟨ha, -⟩ := mem_subscriptionsOf.mp ha
    obtain ⟨hb, -⟩ := mem_subscriptionsOf.mp hb
    have hid := hs.sole a.1 b.1 a.2 b.2 ha hb heq
    rw [hid] at ha
    exact Prod.ext hid (Option.some.inj (ha.symm.trans hb))
  refine (List.perm_ext_iff_of_nodup hnodup (nodup_paidOrdersOf owner s)).mpr fun id ↦ ?_
  rw [List.mem_map, List.mem_map]
  constructor
  · rintro ⟨a, ha, rfl⟩
    obtain ⟨ha, howner⟩ := mem_subscriptionsOf.mp ha
    obtain ⟨o, ho, hgrants⟩ := hs.granted a.1 a.2 ha
    exact ⟨(a.2.orderID, o), mem_paidOrdersOf.mpr
      ⟨ho, hgrants.owner.symm.trans howner, hgrants.paid⟩, rfl⟩
  · rintro ⟨a, ha, rfl⟩
    obtain ⟨ha, howner, hpaid⟩ := mem_paidOrdersOf.mp ha
    obtain ⟨id', m, hm, heq⟩ := hs.entitled a.1 a.2 ha hpaid
    obtain ⟨o, ho, hgrants⟩ := hs.granted id' m hm
    rw [heq, ha] at ho
    cases ho
    exact ⟨(id', m), mem_subscriptionsOf.mpr ⟨hm, hgrants.owner.trans howner⟩, heq⟩

/-- **No time is lost and none is given away**: what an owner is granted is what was bought. -/
theorem Periods.grantedTime_eq (hs : Periods calendar cycleOf s) (owner : Payer) :
    grantedTime owner s = purchasedTime calendar cycleOf owner s := by
  let time : String → ℤ := fun id ↦ (s.lookup (.membershipOrder id)).elim 0
    fun o : MembershipOrder ↦ o.purchased calendar cycleOf (periodStart id s)
  have hgranted : grantedTime owner s =
      (((subscriptionsOf owner s).map fun m ↦ m.2.orderID).map time).sum := by
    rw [grantedTime, List.map_map]
    refine congrArg List.sum (List.map_congr_left fun a ha ↦ ?_)
    obtain ⟨ha, -⟩ := mem_subscriptionsOf.mp ha
    obtain ⟨o, ho, hgrants⟩ := hs.granted a.1 a.2 ha
    obtain ⟨stop, hstop, hcycle⟩ := hgrants.period
    show a.2.length = (s.lookup (.membershipOrder a.2.orderID)).elim 0 _
    rw [ho, Option.elim_some, MembershipOrder.purchased, hs.periodStart_eq ha, hcycle,
      MembershipSubscription.length, hstop, Option.elim_some]
  have hpurchased : purchasedTime calendar cycleOf owner s =
      (((paidOrdersOf owner s).map Prod.fst).map time).sum := by
    rw [purchasedTime, List.map_map]
    refine congrArg List.sum (List.map_congr_left fun a ha ↦ ?_)
    obtain ⟨ha, -⟩ := mem_paidOrdersOf.mp ha
    show _ = (s.lookup (.membershipOrder a.1)).elim 0 _
    rw [ha, Option.elim_some]
  rw [hgranted, hpurchased]
  exact ((hs.perm_orders owner).map time).sum_eq

end Totals

/-! ## Every sequence of fulfilments -/

/-- The payments that are fulfilled, the expiry step of the lifecycle, and any other transaction that
leaves the subscriptions alone. -/
inductive MembershipCall where
  | fulfill (input : PaymentFulfillment)
  | expire (now : Time)
  | other (p : DbTx Unit) (hp : p.Keeps BesideMembership fun _ ↦ True)

/-- The transaction. -/
def MembershipCall.prog (calendar : Calendar) : MembershipCall → DbTx Unit
  | .fulfill input => do
    let _ ← fulfillPaymentTransaction calendar input
  | .expire now => expireSubscriptions now
  | .other p _ => p

/-- What a fulfilment is started with is made from the order it is for. -/
def MembershipCall.Prepared (cycleOf : String → MembershipBillingCycle) (c : MembershipCall)
    (s : Store) : Prop :=
  match c with
  | .fulfill input => ∀ transaction,
    s.lookup (.paymentTransaction input.transactionID) = some transaction →
      input.IsFor cycleOf transaction s
  | .expire _ => True
  | .other _ _ => True

/-- Nobody has a subscription and no order is paid. -/
def isNew (s : Store) : Bool :=
  !s.any fun
    | .membershipSubscription _, _ => true
    | .membershipOrder _, o => o.status = .paid
    | _, _ => false

theorem periods_of_isNew {calendar : Calendar} {cycleOf : String → MembershipBillingCycle}
    {s : Store} (h : isNew s = true) : Periods calendar cycleOf s := by
  rw [isNew, Bool.not_eq_true', Db.any_eq_false_iff] at h
  have hsub : ∀ id m, s.lookup (.membershipSubscription id) ≠ some m := fun id m hm ↦ by
    cases h (.membershipSubscription id) m hm
  refine ⟨fun id id' m m' hm ↦ absurd hm (hsub id m), fun id m hm ↦ absurd hm (hsub id m),
    fun id id' m m' hm ↦ absurd hm (hsub id m), fun id o ho hpaid ↦ ?_⟩
  have hno := h (.membershipOrder id) o ho
  exact absurd hpaid (of_decide_eq_false hno)

/-- `MembershipCall.Prepared`, computed. -/
def MembershipCall.isPrepared (cycleOf : String → MembershipBillingCycle) :
    MembershipCall → Store → Bool
  | .fulfill input, s =>
    (s.lookup (.paymentTransaction input.transactionID)).all fun transaction ↦
      transaction.orderType ≠ .membership ||
        (s.lookup (.membershipOrder transaction.orderID)).all fun o ↦
          let subscription := input.activation.subscription
          input.activation.billingCycle = cycleOf o.planSnapshotJSON &&
            subscription.userID = o.userID && subscription.teamID = o.teamID &&
            subscription.orderID = transaction.orderID &&
            subscription.planSnapshotJSON = o.planSnapshotJSON && subscription.status = .active
  | .expire _, _ => true
  | .other _ _, _ => true

theorem MembershipCall.prepared_of_isPrepared {cycleOf : String → MembershipBillingCycle}
    (c : MembershipCall) (s : Store) (h : c.isPrepared cycleOf s = true) : c.Prepared cycleOf s := by
  cases c with
  | fulfill input =>
    intro transaction htransaction htype o ho
    rw [isPrepared, htransaction, Option.all_some, Bool.or_eq_true, ho, Option.all_some] at h
    have hfields := h.resolve_left (by simpa using htype)
    simp only [Bool.and_eq_true, decide_eq_true_eq] at hfields
    obtain ⟨⟨⟨⟨⟨hcycle, huser⟩, hteam⟩, horder⟩, hplan⟩, hactive⟩ := hfields
    exact ⟨hcycle, huser, hteam, horder, hplan, hactive⟩
  | _ => trivial

/-- A user with the two orders `o1` and `o2` of a month, each paid for but not yet fulfilled. -/
def unfulfilledOrders : Store :=
  ["1", "2"].foldl (fun s n ↦
    (((s.insert (.membershipOrder ("o" ++ n)) { userID := "u" }).insert
      (.paymentTransaction ("t" ++ n))
      { orderType := .membership, orderID := "o" ++ n, userID := "u", provider := .alipay,
        merchantOrderNo := "m" ++ n, status := .pending }).insert
      (.paymentCheckoutSession ("c" ++ n))
      { orderType := .membership, orderID := "o" ++ n, userID := "u", expiresAt := 100 }).insert
      (.paymentWebhookEvent ("e" ++ n))
      { provider := .alipay, providerEventID := "p" ++ n, transactionID := "t" ++ n,
        merchantOrderNo := "m" ++ n, providerTradeNo := "trade" ++ n })
    ((∅ : Store).insert (.user "u") ())

/-- The first order is paid at 5 and its period runs out at 35; the second was paid at 20, while it
ran. -/
def renewal : List MembershipCall :=
  let fulfill (n : String) (paidAt : Time) : MembershipCall := .fulfill
    { eventID := "e" ++ n, transactionID := "t" ++ n, providerTradeNo := "trade" ++ n,
      paidAt := paidAt, paymentConfirmed := true, topupEntryID := "",
      event := { provider := .alipay, providerEventID := "p" ++ n },
      activation :=
        { billingCycle := .month, subscriptionID := "s" ++ n,
          subscription := { userID := "u", orderID := "o" ++ n } } }
  [fulfill "1" 5, fulfill "2" 20, .expire 40]

/-- Months of thirty days. -/
def commercialCalendar : Calendar where
  addDate years months start := start + 360 * years + 30 * months

theorem replay_renewal :
    (replayIf (MembershipCall.prog commercialCalendar) (MembershipCall.isPrepared fun _ ↦ .month)
      unfulfilledOrders renewal).map
      (fun t ↦ (subscriptionsOf (.user "u") t).map fun m ↦ (m.2.startsAt, m.2.endsAt, m.2.status)) =
      some [(5, some 35, .expired), (35, some 65, .active)] := by
  decide

end HMaigc
