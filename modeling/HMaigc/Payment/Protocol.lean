import HMaigc.Model.Payment

/-!
# The protocol of a payable order

What the payment tables say about the orders, without the tables: the transactions, the checkouts,
the status of each order, and which rows grant what an order entitles to.

* `PaymentView` — the facts, and the moves that are made on them.
* `PaymentView.Consistent` — the protocol: one payable slot and at most one payment an order, the
  order paid exactly when a transaction of it is, its entitlement granted exactly then and once, and
  nothing to be paid behind a checkout that is closed.
* `Consistent.claim`, `Consistent.move`, `Consistent.closeCheckouts`, `Consistent.cancel`,
  `Consistent.pay` — each move keeps it, under the conditions the code checks before it makes one.
-/

set_option autoImplicit false

namespace HMaigc

/-- The transaction can still be paid by the customer, as far as the shop knows. -/
def PaymentTransaction.IsOpen (transaction : PaymentTransaction) : Prop :=
  transaction.status = .created ∨ transaction.status = .pending

/-- Two transactions of one order. -/
def PaymentTransaction.SameOrder (a b : PaymentTransaction) : Prop :=
  a.orderType = b.orderType ∧ a.orderID = b.orderID

/-- What the payment tables say. -/
structure PaymentView where
  transaction : String → Option PaymentTransaction
  checkout : String → Option PaymentCheckoutSession
  order : PaymentOrderType → String → Option PayableOrderStatus
  /-- The row grants what the order entitles to. -/
  grants : PaymentOrderType → String → String → Prop

namespace PaymentView

/-- The order has a transaction in a payable status. -/
def SlotTaken (v : PaymentView) (orderType : PaymentOrderType) (orderID : String) : Prop :=
  ∃ id t, v.transaction id = some t ∧ t.orderType = orderType ∧ t.orderID = orderID ∧
    t.status.isPayable = true

/-- A transaction of the order is paid. -/
def HasPayment (v : PaymentView) (orderType : PaymentOrderType) (orderID : String) : Prop :=
  ∃ id t, v.transaction id = some t ∧ t.orderType = orderType ∧ t.orderID = orderID ∧
    t.status = .paid

/-- **The protocol.** -/
structure Consistent (v : PaymentView) : Prop where
  /-- An order has at most one transaction in a payable status … -/
  slot : ∀ id id' t t', v.transaction id = some t → v.transaction id' = some t' →
    t.SameOrder t' → t.status.isPayable = true → t'.status.isPayable = true → id = id'
  /-- … and at most one that is paid. -/
  once : ∀ id id' t t', v.transaction id = some t → v.transaction id' = some t' →
    t.SameOrder t' → t.status = .paid → t'.status = .paid → id = id'
  /-- The order is paid exactly if one of its transactions is … -/
  paid_iff : ∀ orderType orderID, v.order orderType orderID = some .paid ↔
    v.HasPayment orderType orderID
  /-- … and exactly then its entitlement has been granted, once. -/
  granted_iff : ∀ orderType orderID, v.order orderType orderID = some .paid ↔
    ∃ row, v.grants orderType row orderID
  granted_once : ∀ orderType orderID row row', v.grants orderType row orderID →
    v.grants orderType row' orderID → row = row'
  /-- Nothing is open behind a checkout that is not active. -/
  inactive : ∀ cid c, v.checkout cid = some c → c.status ≠ .active → ∀ id t,
    v.transaction id = some t → t.orderType = c.orderType → t.orderID = c.orderID → ¬t.IsOpen
  /-- The orders the transactions are about exist. -/
  known : ∀ id t, v.transaction id = some t → (v.order t.orderType t.orderID).isSome = true
  /-- No identifier is that of a membership order and of a top-up order. -/
  apart : ∀ orderID, v.order .membership orderID = none ∨ v.order .creditTopup orderID = none
  /-- An order has one checkout. -/
  sole : ∀ cid cid' c c', v.checkout cid = some c → v.checkout cid' = some c' →
    c.orderID = c'.orderID → cid = cid'

/-! ## Moves -/

def setTransaction (v : PaymentView) (id : String) (t : PaymentTransaction) : PaymentView :=
  { v with transaction := fun id' ↦ if id' = id then some t else v.transaction id' }

def setCheckout (v : PaymentView) (id : String) (c : PaymentCheckoutSession) : PaymentView :=
  { v with checkout := fun id' ↦ if id' = id then some c else v.checkout id' }

/-- The checkouts that `which` selects get the status. -/
def updateCheckouts (v : PaymentView) (which : String → PaymentCheckoutSession → Bool)
    (status : PaymentCheckoutStatus) : PaymentView :=
  { v with
    checkout := fun id ↦ (v.checkout id).map fun c ↦
      if which id c then { c with status := status } else c }

def setOrder (v : PaymentView) (orderType : PaymentOrderType) (orderID : String)
    (status : PayableOrderStatus) : PaymentView :=
  { v with
    order := fun type id ↦
      if type = orderType ∧ id = orderID then some status else v.order type id }

def addGrant (v : PaymentView) (orderType : PaymentOrderType) (row orderID : String) :
    PaymentView :=
  { v with
    grants := fun type row' id ↦
      v.grants type row' id ∨ type = orderType ∧ row' = row ∧ id = orderID }

section SetTransaction

variable {v : PaymentView} {id : String} {t : PaymentTransaction}

theorem transaction_setTransaction {id' : String} {t' : PaymentTransaction} :
    (v.setTransaction id t).transaction id' = some t' ↔
      id' = id ∧ t = t' ∨ id' ≠ id ∧ v.transaction id' = some t' := by
  rw [setTransaction]
  dsimp only
  by_cases h : id' = id <;> simp [h]

/-- Writing a transaction that is not paid over one that is not changes nothing about payments. -/
theorem hasPayment_setTransaction {orderType : PaymentOrderType} {orderID : String}
    (hold : ∀ t₀, v.transaction id = some t₀ → t₀.status ≠ .paid) (hnew : t.status ≠ .paid) :
    (v.setTransaction id t).HasPayment orderType orderID ↔ v.HasPayment orderType orderID := by
  constructor
  · rintro ⟨id', t', ht', htype, horder, hpaid⟩
    rcases transaction_setTransaction.mp ht' with ⟨-, rfl⟩ | ⟨-, h⟩
    · exact absurd hpaid hnew
    · exact ⟨id', t', h, htype, horder, hpaid⟩
  · rintro ⟨id', t', ht', htype, horder, hpaid⟩
    have hne : id' ≠ id := by
      rintro rfl
      exact hold t' ht' hpaid
    exact ⟨id', t', transaction_setTransaction.mpr (.inr ⟨hne, ht'⟩), htype, horder, hpaid⟩

end SetTransaction

namespace Consistent

variable {v : PaymentView}

/-- Something is open only behind an active checkout, so a new checkout is one. -/
theorem openCheckout (hv : v.Consistent) {id : String} {c : PaymentCheckoutSession}
    (hactive : c.status = .active)
    (hfree : ∀ cid c', v.checkout cid = some c' → c'.orderID ≠ c.orderID) :
    (v.setCheckout id c).Consistent := by
  have hcheckout : ∀ cid c', (v.setCheckout id c).checkout cid = some c' →
      cid = id ∧ c = c' ∨ cid ≠ id ∧ v.checkout cid = some c' := by
    intro cid c' h
    by_cases hid : cid = id <;> simp [setCheckout, hid] at h <;> simp [hid, h]
  refine ⟨hv.slot, hv.once, hv.paid_iff, hv.granted_iff, hv.granted_once, ?_, hv.known, hv.apart, ?_⟩
  · intro cid c' hc' hstatus
    rcases hcheckout cid c' hc' with ⟨-, rfl⟩ | ⟨-, h⟩
    · exact absurd hactive hstatus
    · exact hv.inactive cid c' h hstatus
  · intro cid cid' c₁ c₂ h₁ h₂ horder
    rcases hcheckout cid c₁ h₁ with ⟨rfl, rfl⟩ | ⟨-, hold₁⟩ <;>
      rcases hcheckout cid' c₂ h₂ with ⟨rfl, rfl⟩ | ⟨-, hold₂⟩
    · rfl
    · exact absurd horder.symm (hfree cid' c₂ hold₂)
    · exact absurd horder (hfree cid c₁ hold₁)
    · exact hv.sole cid cid' c₁ c₂ hold₁ hold₂ horder

/-- A transaction takes the payable slot of a pending order. -/
theorem claim (hv : v.Consistent) {id cid : String} {t : PaymentTransaction}
    {c : PaymentCheckoutSession} (hnew : v.transaction id = none)
    (hstatus : t.status = .created) (hpending : v.order t.orderType t.orderID = some .pending)
    (hfree : ¬v.SlotTaken t.orderType t.orderID) (hcheckout : v.checkout cid = some c)
    (horder : c.orderID = t.orderID) (hactive : c.status = .active) :
    (v.setTransaction id t).Consistent := by
  have hunpaid : t.status ≠ .paid := by rw [hstatus]; decide
  have hfree' : ∀ id' t', v.transaction id' = some t' → t'.SameOrder t →
      t'.status.isPayable ≠ true := fun id' t' ht' hsame hpayable ↦
    hfree ⟨id', t', ht', hsame.1, hsame.2, hpayable⟩
  refine ⟨fun id₁ id₂ t₁ t₂ h₁ h₂ hsame hpay₁ hpay₂ ↦ ?_,
    fun id₁ id₂ t₁ t₂ h₁ h₂ hsame hpaid₁ hpaid₂ ↦ ?_, fun orderType orderID ↦ ?_, hv.granted_iff,
    hv.granted_once, fun cid' c' hc' hclosed id' t' ht' htype hid hopen ↦ ?_,
    fun id' t' ht' ↦ ?_, hv.apart, hv.sole⟩
  · rcases transaction_setTransaction.mp h₁ with ⟨rfl, rfl⟩ | ⟨-, hold₁⟩ <;>
      rcases transaction_setTransaction.mp h₂ with ⟨rfl, rfl⟩ | ⟨-, hold₂⟩
    · rfl
    · exact absurd hpay₂ (hfree' id₂ t₂ hold₂ ⟨hsame.1.symm, hsame.2.symm⟩)
    · exact absurd hpay₁ (hfree' id₁ t₁ hold₁ hsame)
    · exact hv.slot id₁ id₂ t₁ t₂ hold₁ hold₂ hsame hpay₁ hpay₂
  · rcases transaction_setTransaction.mp h₁ with ⟨-, rfl⟩ | ⟨-, h₁⟩
    · exact absurd hpaid₁ hunpaid
    · rcases transaction_setTransaction.mp h₂ with ⟨-, rfl⟩ | ⟨-, h₂⟩
      · exact absurd hpaid₂ hunpaid
      · exact hv.once id₁ id₂ t₁ t₂ h₁ h₂ hsame hpaid₁ hpaid₂
  · rw [hasPayment_setTransaction (fun t₀ h ↦ by rw [hnew] at h; cases h) hunpaid]
    exact hv.paid_iff orderType orderID
  · rcases transaction_setTransaction.mp ht' with ⟨-, rfl⟩ | ⟨-, ht'⟩
    · have hcid := hv.sole cid cid' c c' hcheckout hc' (horder.trans hid)
      subst hcid
      cases hcheckout.symm.trans hc'
      exact hclosed hactive
    · exact hv.inactive cid' c' hc' hclosed id' t' ht' htype hid hopen
  · rcases transaction_setTransaction.mp ht' with ⟨-, rfl⟩ | ⟨-, ht'⟩
    · exact Option.isSome_iff_exists.mpr ⟨_, hpending⟩
    · exact hv.known id' t' ht'

/-- A transaction moves, without being paid. -/
theorem move (hv : v.Consistent) {id : String} {t t' : PaymentTransaction}
    (ht : v.transaction id = some t) (hsame : t'.SameOrder t) (hunpaid : t.status ≠ .paid)
    (hunpaid' : t'.status ≠ .paid)
    (hslot : t'.status.isPayable = true → ∀ id' t₁, v.transaction id' = some t₁ →
      t₁.SameOrder t → t₁.status.isPayable = true → id' = id) (hopen : t'.IsOpen → t.IsOpen) :
    (v.setTransaction id t').Consistent := by
  refine ⟨fun id₁ id₂ t₁ t₂ h₁ h₂ hsame₁ hpay₁ hpay₂ ↦ ?_,
    fun id₁ id₂ t₁ t₂ h₁ h₂ hsame₁ hpaid₁ hpaid₂ ↦ ?_, fun orderType orderID ↦ ?_, hv.granted_iff,
    hv.granted_once, fun cid' c' hc' hclosed id' t₁ ht₁ htype hid hopen₁ ↦ ?_,
    fun id' t₁ ht₁ ↦ ?_, hv.apart, hv.sole⟩
  · rcases transaction_setTransaction.mp h₁ with ⟨rfl, rfl⟩ | ⟨-, hold₁⟩ <;>
      rcases transaction_setTransaction.mp h₂ with ⟨rfl, rfl⟩ | ⟨-, hold₂⟩
    · rfl
    · exact (hslot hpay₁ id₂ t₂ hold₂
        ⟨hsame₁.1.symm.trans hsame.1, hsame₁.2.symm.trans hsame.2⟩ hpay₂).symm
    · exact hslot hpay₂ id₁ t₁ hold₁ ⟨hsame₁.1.trans hsame.1, hsame₁.2.trans hsame.2⟩ hpay₁
    · exact hv.slot id₁ id₂ t₁ t₂ hold₁ hold₂ hsame₁ hpay₁ hpay₂
  · rcases transaction_setTransaction.mp h₁ with ⟨-, rfl⟩ | ⟨-, h₁⟩
    · exact absurd hpaid₁ hunpaid'
    · rcases transaction_setTransaction.mp h₂ with ⟨-, rfl⟩ | ⟨-, h₂⟩
      · exact absurd hpaid₂ hunpaid'
      · exact hv.once id₁ id₂ t₁ t₂ h₁ h₂ hsame₁ hpaid₁ hpaid₂
  · rw [hasPayment_setTransaction (fun t₀ h ↦ by rw [ht] at h; cases h; exact hunpaid) hunpaid']
    exact hv.paid_iff orderType orderID
  · rcases transaction_setTransaction.mp ht₁ with ⟨rfl, rfl⟩ | ⟨-, ht₁⟩
    · exact hv.inactive cid' c' hc' hclosed id' t ht (hsame.1.symm.trans htype)
        (hsame.2.symm.trans hid) (hopen hopen₁)
    · exact hv.inactive cid' c' hc' hclosed id' t₁ ht₁ htype hid hopen₁
  · rcases transaction_setTransaction.mp ht₁ with ⟨-, rfl⟩ | ⟨-, ht₁⟩
    · rw [hsame.1, hsame.2]
      exact hv.known id t ht
    · exact hv.known id' t₁ ht₁

/-- Checkouts are closed, behind which nothing is open. -/
theorem updateCheckouts (hv : v.Consistent) {which : String → PaymentCheckoutSession → Bool}
    {status : PaymentCheckoutStatus}
    (hquiet : ∀ cid c, v.checkout cid = some c → which cid c = true → ∀ id t,
      v.transaction id = some t → t.orderType = c.orderType → t.orderID = c.orderID → ¬t.IsOpen) :
    (v.updateCheckouts which status).Consistent := by
  have hcheckout : ∀ cid c', (v.updateCheckouts which status).checkout cid = some c' →
      ∃ c, v.checkout cid = some c ∧ c'.orderType = c.orderType ∧ c'.orderID = c.orderID ∧
        (which cid c = true ∨ c' = c) := by
    intro cid c' h
    obtain ⟨c, hc, rfl⟩ := Option.map_eq_some_iff.mp h
    by_cases hwhich : which cid c = true <;> simp [hwhich, hc]
  refine ⟨hv.slot, hv.once, hv.paid_iff, hv.granted_iff, hv.granted_once,
    fun cid c' hc' hclosed id t ht htype horder ↦ ?_, hv.known, hv.apart,
    fun cid cid' c₁ c₂ h₁ h₂ horder ↦ ?_⟩
  · obtain ⟨c, hc, htype', horder', hcase⟩ := hcheckout cid c' hc'
    rcases hcase with hwhich | rfl
    · exact hquiet cid c hc hwhich id t ht (htype.trans htype') (horder.trans horder')
    · exact hv.inactive cid c' hc hclosed id t ht htype horder
  · obtain ⟨c, hc, -, hid, -⟩ := hcheckout cid c₁ h₁
    obtain ⟨c', hc', -, hid', -⟩ := hcheckout cid' c₂ h₂
    exact hv.sole cid cid' c c' hc hc' (hid.symm.trans (horder.trans hid'))

/-- A pending order is cancelled. -/
theorem cancel (hv : v.Consistent) {orderType : PaymentOrderType} {orderID : String}
    (hpending : v.order orderType orderID = some .pending) :
    (v.setOrder orderType orderID .cancelled).Consistent := by
  have horder : ∀ type id, (v.setOrder orderType orderID .cancelled).order type id = some .paid ↔
      v.order type id = some .paid := by
    intro type id
    by_cases h : type = orderType ∧ id = orderID
    · obtain ⟨rfl, rfl⟩ := h
      simp [setOrder, hpending]
    · simp [setOrder, h]
  have hknown : ∀ type id, ((v.setOrder orderType orderID .cancelled).order type id).isSome =
      (v.order type id).isSome := by
    intro type id
    by_cases h : type = orderType ∧ id = orderID
    · obtain ⟨rfl, rfl⟩ := h
      simp [setOrder, hpending]
    · simp [setOrder, h]
  refine ⟨hv.slot, hv.once, fun type id ↦ (horder type id).trans (hv.paid_iff type id),
    fun type id ↦ (horder type id).trans (hv.granted_iff type id), hv.granted_once, hv.inactive,
    fun id t ht ↦ (hknown _ _).trans (hv.known id t ht), fun id ↦ ?_, hv.sole⟩
  rw [← Option.isNone_iff_eq_none, ← Option.isNone_iff_eq_none, ← Option.not_isSome,
    ← Option.not_isSome, hknown, hknown, Option.not_isSome, Option.not_isSome,
    Option.isNone_iff_eq_none, Option.isNone_iff_eq_none]
  exact hv.apart id

/-- A pending order has not been granted anything. -/
theorem not_grants (hv : v.Consistent) {orderType : PaymentOrderType} {orderID row : String}
    (hpending : v.order orderType orderID = some .pending) : ¬v.grants orderType row orderID := by
  intro hgrants
  have hpaid := (hv.granted_iff orderType orderID).mpr ⟨row, hgrants⟩
  rw [hpending] at hpaid
  cases hpaid

/-- A pending order has no payment. -/
theorem not_hasPayment (hv : v.Consistent) {orderType : PaymentOrderType} {orderID : String}
    (hpending : v.order orderType orderID = some .pending) : ¬v.HasPayment orderType orderID := by
  intro hpayment
  have hpaid := (hv.paid_iff orderType orderID).mpr hpayment
  rw [hpending] at hpaid
  cases hpaid

/-- **A pending order is paid.**  Its transaction, its status and its entitlement move together. -/
theorem pay (hv : v.Consistent) {id row : String} {t t' : PaymentTransaction}
    (ht : v.transaction id = some t) (hsame : t'.SameOrder t)
    (hpaid : t'.status = .paid) (hpending : v.order t.orderType t.orderID = some .pending) :
    (((v.setTransaction id t').setOrder t.orderType t.orderID .paid).addGrant t.orderType row
      t.orderID).Consistent := by
  have hunpaid : t'.status.isPayable = false := by rw [hpaid]; rfl
  have hclosed : ¬t'.IsOpen := by rw [PaymentTransaction.IsOpen, hpaid]; decide
  have hnone := hv.not_hasPayment hpending
  have hsole : ∀ id₁ t₁, v.transaction id₁ = some t₁ → t₁.SameOrder t' → t₁.status ≠ .paid :=
    fun id₁ t₁ h₁ hsame₁ hpaid₁ ↦
      hnone ⟨id₁, t₁, h₁, hsame₁.1.trans hsame.1, hsame₁.2.trans hsame.2, hpaid₁⟩
  have horder : ∀ type oid, (((v.setTransaction id t').setOrder t.orderType t.orderID
      .paid).addGrant t.orderType row t.orderID).order type oid =
      if type = t.orderType ∧ oid = t.orderID then some .paid else v.order type oid :=
    fun _ _ ↦ rfl
  have hother : ∀ type oid, ¬(type = t.orderType ∧ oid = t.orderID) →
      ((v.setTransaction id t').HasPayment type oid ↔ v.HasPayment type oid) := by
    intro type oid hne
    constructor
    · rintro ⟨id₁, t₁, h₁, htype, hoid, hpaid₁⟩
      rcases transaction_setTransaction.mp h₁ with ⟨-, rfl⟩ | ⟨-, hold⟩
      · exact absurd ⟨htype.symm.trans hsame.1, hoid.symm.trans hsame.2⟩ hne
      · exact ⟨id₁, t₁, hold, htype, hoid, hpaid₁⟩
    · rintro ⟨id₁, t₁, h₁, htype, hoid, hpaid₁⟩
      have hid : id₁ ≠ id := by
        rintro rfl
        cases ht.symm.trans h₁
        exact hne ⟨htype.symm, hoid.symm⟩
      exact ⟨id₁, t₁, transaction_setTransaction.mpr (.inr ⟨hid, h₁⟩), htype, hoid, hpaid₁⟩
  refine ⟨fun id₁ id₂ t₁ t₂ h₁ h₂ hsame₁ hpay₁ hpay₂ ↦ ?_,
    fun id₁ id₂ t₁ t₂ h₁ h₂ hsame₁ hpaid₁ hpaid₂ ↦ ?_, fun type oid ↦ ?_, fun type oid ↦ ?_,
    fun type oid row₁ row₂ h₁ h₂ ↦ ?_, fun cid c hc hstatus id₁ t₁ h₁ htype hoid hopen ↦ ?_,
    fun id₁ t₁ h₁ ↦ ?_, fun oid ↦ ?_, hv.sole⟩
  · rcases transaction_setTransaction.mp h₁ with ⟨-, rfl⟩ | ⟨-, hold₁⟩
    · rw [hunpaid] at hpay₁
      cases hpay₁
    · rcases transaction_setTransaction.mp h₂ with ⟨-, rfl⟩ | ⟨-, hold₂⟩
      · rw [hunpaid] at hpay₂
        cases hpay₂
      · exact hv.slot id₁ id₂ t₁ t₂ hold₁ hold₂ hsame₁ hpay₁ hpay₂
  · rcases transaction_setTransaction.mp h₁ with ⟨rfl, rfl⟩ | ⟨-, hold₁⟩ <;>
      rcases transaction_setTransaction.mp h₂ with ⟨rfl, rfl⟩ | ⟨-, hold₂⟩
    · rfl
    · exact absurd hpaid₂ (hsole id₂ t₂ hold₂ ⟨hsame₁.1.symm, hsame₁.2.symm⟩)
    · exact absurd hpaid₁ (hsole id₁ t₁ hold₁ hsame₁)
    · exact hv.once id₁ id₂ t₁ t₂ hold₁ hold₂ hsame₁ hpaid₁ hpaid₂
  · rw [horder]
    by_cases hthis : type = t.orderType ∧ oid = t.orderID
    · rw [if_pos hthis]
      refine ⟨fun _ ↦ ⟨id, t', transaction_setTransaction.mpr (.inl ⟨rfl, rfl⟩),
        hsame.1.trans hthis.1.symm, hsame.2.trans hthis.2.symm, hpaid⟩, fun _ ↦ rfl⟩
    · rw [if_neg hthis, hv.paid_iff]
      exact (hother type oid hthis).symm
  · rw [horder]
    by_cases hthis : type = t.orderType ∧ oid = t.orderID
    · rw [if_pos hthis]
      exact ⟨fun _ ↦ ⟨row, .inr ⟨hthis.1, rfl, hthis.2⟩⟩, fun _ ↦ rfl⟩
    · rw [if_neg hthis, hv.granted_iff]
      exact ⟨fun ⟨row', h⟩ ↦ ⟨row', .inl h⟩, fun ⟨row', h⟩ ↦ ⟨row', h.resolve_right fun h ↦
        hthis ⟨h.1, h.2.2⟩⟩⟩
  · rcases h₁ with h₁ | ⟨rfl, rfl, rfl⟩ <;> rcases h₂ with h₂ | ⟨htype, rfl, hoid⟩
    · exact hv.granted_once type oid row₁ row₂ h₁ h₂
    · exact absurd h₁ (by rw [htype, hoid]; exact hv.not_grants hpending)
    · exact absurd h₂ (hv.not_grants hpending)
    · rfl
  · rcases transaction_setTransaction.mp h₁ with ⟨-, rfl⟩ | ⟨-, hold₁⟩
    · exact hclosed hopen
    · exact hv.inactive cid c hc hstatus id₁ t₁ hold₁ htype hoid hopen
  · rw [horder]
    split
    · rfl
    · rcases transaction_setTransaction.mp h₁ with ⟨-, rfl⟩ | ⟨-, hold₁⟩
      · rename_i hne
        exact absurd hsame hne
      · exact hv.known id₁ t₁ hold₁
  · rw [horder, horder]
    by_cases hoid : oid = t.orderID
    · have hexists := hv.known id t ht
      have hapart := hv.apart t.orderID
      subst hoid
      cases htype : t.orderType <;> simp_all
    · simpa [hoid] using hv.apart oid

/-- Orders are placed, and nothing else happens. -/
theorem place (hv : v.Consistent) {w : PaymentView} (htransaction : w.transaction = v.transaction)
    (hcheckout : w.checkout = v.checkout) (hgrants : w.grants = v.grants)
    (horder : ∀ type oid, w.order type oid = v.order type oid ∨
      v.order type oid = none ∧ w.order type oid = some .pending)
    (hapart : ∀ oid, w.order .membership oid = none ∨ w.order .creditTopup oid = none) :
    w.Consistent := by
  have hpaid : ∀ type oid, w.order type oid = some .paid ↔ v.order type oid = some .paid := by
    intro type oid
    rcases horder type oid with h | ⟨hnone, h⟩
    · rw [h]
    · simp [h, hnone]
  obtain ⟨transaction, checkout, order, grants⟩ := w
  cases htransaction
  cases hcheckout
  cases hgrants
  refine ⟨hv.slot, hv.once, fun type oid ↦ (hpaid type oid).trans (hv.paid_iff type oid),
    fun type oid ↦ (hpaid type oid).trans (hv.granted_iff type oid), hv.granted_once, hv.inactive,
    fun id t ht ↦ ?_, hapart, hv.sole⟩
  rcases horder t.orderType t.orderID with h | ⟨-, h⟩
  · exact (congrArg Option.isSome h).trans (hv.known id t ht)
  · exact congrArg Option.isSome h

end Consistent

end PaymentView

end HMaigc
