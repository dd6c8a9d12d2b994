import HMaigc.Repository.TokenBilling

/-!
# What a token settlement does to the balances

`settleTokenBillingTx` computes the new balances in Go: it takes the reservation `R` off what is
reserved and gives `R - C` back to what is available, `C` being the charge.  Two entries tell the
ledger — what was consumed and, when something is left of the reservation, what was released — and
the balances after the first are computed backwards from the final ones.

* `Chain` — ledger entries that lead from one balance to another, each telling its step.
* `Settling` — a settlement of an open token order, with the account it is charged to.
* `Settling.transact_prog_of_chargeable`, `…_of_over`, `…_of_insufficient` — the three ways it goes:
  charged, parked as uncertain, refused.
* `tokenSettlement_arithmetic` — the sums are the mathematical ones exactly when giving the rest
  back stays within 64 bits; the source does not look, and the refund of the same order does.
-/

set_option autoImplicit false

namespace HMaigc

open Sql Go Prog

/-! ## Chains of entries -/

attribute [ext] CreditAccount

/-- The balances an entry says the account had afterwards. -/
def CreditLedgerEntry.balance (entry : CreditLedgerEntry) : CreditAccount :=
  ⟨entry.availableAfterMicrocredits, entry.reservedAfterMicrocredits⟩

/-- `entries` lead from the balances `a` to the balances `b`: each says by how much the running
balances change, and what they are then. -/
def Chain : CreditAccount → List CreditLedgerEntry → CreditAccount → Prop
  | a, [], b => a = b
  | a, entry :: entries, b =>
    entry.availableAfterMicrocredits =
      a.availableMicrocredits + entry.availableDeltaMicrocredits ∧
    entry.reservedAfterMicrocredits = a.reservedMicrocredits + entry.reservedDeltaMicrocredits ∧
    Chain entry.balance entries b

/-! ## Settlements of open orders -/

/-- A call of `settleTokenBillingTx`, with the order it finds and the account of its payer. -/
structure Settling where
  id : String
  settlement : TokenBillingSettlement
  allowChargeAboveReservation : Bool
  consumeEntryID : String
  releaseEntryID : String
  order : BillingOrder
  account : CreditAccount

namespace Settling

variable (x : Settling)

def prog : DbTx Unit :=
  settleTokenBillingTx x.id x.settlement x.allowChargeAboveReservation x.consumeEntryID
    x.releaseEntryID

def reservation : ℤ := x.order.reservedAmountMicrocredits

def charge : ℤ := x.settlement.amountMicrocredits

abbrev accountKey : RowKey := .creditAccount x.order.payer

abbrev consumeKey : RowKey := .creditLedgerEntry x.order.payer.book x.consumeEntryID

abbrev releaseKey : RowKey := .creditLedgerEntry x.order.payer.book x.releaseEntryID

/-- The ledger holds nothing of the settlement: the identifiers drawn for its entries are new, and
so are the references, which no other function writes. -/
structure Unposted (s : Store) : Prop where
  consumeEntryID : s.lookup x.consumeKey = none
  releaseEntryID : s.lookup x.releaseKey = none
  distinct : x.consumeEntryID ≠ x.releaseEntryID
  consume : ledgerReferenceTaken x.order.payer.book
    (some ("token:settle:" ++ x.id ++ ":consume")) s = false
  release : ledgerReferenceTaken x.order.payer.book
    (some ("token:settle:" ++ x.id ++ ":release")) s = false

/-- The order is an open token order with a reservation, which the account covers, and the
settlement charges it some amount. -/
structure Opens (s : Store) : Prop where
  order : s.lookup (.billingOrder x.id) = some x.order
  billingMode : x.order.billingMode = "token_usage"
  isOpen : x.order.status.isOpen = true
  reservation_pos : 0 < x.reservation
  reservation_eq : x.reservation = x.order.amountMicrocredits
  matches_request : contradictsResponse x.order x.settlement = false
  account : s.lookup x.accountKey = some x.account
  isInt64_available : IsInt64 x.account.availableMicrocredits
  isInt64_reserved : IsInt64 x.account.reservedMicrocredits
  reservation_le : x.reservation ≤ x.account.reservedMicrocredits
  charge_nonneg : 0 ≤ x.charge
  charge_le : x.charge ≤ maxInt64
  unposted : x.Unposted s

/-! ## What is promised -/

/-- The charge is within the reservation, or above it with leave and credits to pay it from. -/
def Chargeable : Prop :=
  x.charge ≤ x.reservation ∨
    x.allowChargeAboveReservation = true ∧ x.reservation < x.charge ∧
      x.charge - x.reservation ≤ x.account.availableMicrocredits

/-- The charge is above the reservation and must not be. -/
def OverReservation : Prop :=
  x.reservation < x.charge ∧ x.allowChargeAboveReservation = false

instance : Decidable x.OverReservation :=
  inferInstanceAs (Decidable (_ ∧ _))

instance : Decidable x.Chargeable :=
  inferInstanceAs (Decidable (_ ∨ _))

/-- The order is settled and the account charged, and the ledger tells how. -/
structure Charged (s s' : Store) : Prop where
  account : ∃ account', s'.lookup x.accountKey = some account' ∧
    account'.availableMicrocredits =
      x.account.availableMicrocredits + x.reservation - x.charge ∧
    account'.reservedMicrocredits = x.account.reservedMicrocredits - x.reservation ∧
    0 ≤ account'.availableMicrocredits ∧ 0 ≤ account'.reservedMicrocredits ∧
    ∃ consume : CreditLedgerEntry, s'.lookup x.consumeKey = some consume ∧
      consume.type = .consume ∧ consume.billingOrderID = x.id ∧
      (x.reservation ≤ x.charge → s'.lookup x.releaseKey = none ∧
        Chain x.account [consume] account') ∧
      (x.charge < x.reservation → ∃ release : CreditLedgerEntry,
        s'.lookup x.releaseKey = some release ∧ release.type = .release ∧
          release.billingOrderID = x.id ∧ Chain x.account [consume, release] account')
  order : ∃ order', s'.lookup (.billingOrder x.id) = some order' ∧ order'.status = .settled ∧
    order'.amountMicrocredits = x.charge
  others : ∀ k, k ≠ x.accountKey → k ≠ .billingOrder x.id → k ≠ x.consumeKey →
    k ≠ x.releaseKey → s'.lookup k = s.lookup k

/-- The order is uncertain, with the amount it holds; no other row has changed, so neither has an
account or a ledger. -/
structure Parked (s s' : Store) : Prop where
  order : ∃ order', s'.lookup (.billingOrder x.id) = some order' ∧ order'.status = .uncertain ∧
    order'.amountMicrocredits = x.order.amountMicrocredits
  others : ∀ k, k ≠ .billingOrder x.id → s'.lookup k = s.lookup k

/-- What a settlement is to do: charge the account, park the order, or refuse and change nothing —
and the same to a team's account as to a user's. -/
structure SettlesExactly (s : Store) : Prop where
  charged : x.Chargeable → ∃ s', x.prog.transact none s = (.ok (), s') ∧ x.Charged s s'
  parked : x.OverReservation → ∃ s', x.prog.transact none s = (.ok (), s') ∧ x.Parked s s'
  refused : ¬x.Chargeable → ¬x.OverReservation →
    ∃ e, x.prog.transact none s = (.error (.returned e), s)
  unchanged : ∀ fault e s', x.prog.transact fault s = (.error e, s') → s' = s
  same : ∀ (y : Settling) t, y.Opens t → y.account = x.account → y.reservation = x.reservation →
    y.charge = x.charge → y.allowChargeAboveReservation = x.allowChargeAboveReservation →
    (y.prog.transact none t).2.lookup y.accountKey =
      (x.prog.transact none s).2.lookup x.accountKey

/-- Giving back what is left of the reservation keeps the balance within its range. -/
def RestFits : Prop :=
  x.charge ≤ x.reservation →
    0 ≤ x.account.availableMicrocredits + (x.reservation - x.charge) ∧
      x.account.availableMicrocredits + (x.reservation - x.charge) ≤ maxInt64

end Settling

/-! ## What the code does -/

/-- Another row does not take a reference of the ledger. -/
theorem ledgerReferenceTaken_insert {book : Book} {reference : Option String} {s : Store}
    (h : ledgerReferenceTaken book reference s = false) {k : RowKey} {r : Row k}
    (hr : ∀ id (e : CreditLedgerEntry), (⟨k, r⟩ : Sigma Row) = ⟨.creditLedgerEntry book id, e⟩ →
      e.referenceKey ≠ reference) :
    ledgerReferenceTaken book reference (s.insert k r) = false := by
  rw [ledgerReferenceTaken, Db.any_eq_false_iff] at h ⊢
  intro k' v hv
  rcases Db.lookup_insert_cases hv with heq | ⟨-, hold⟩
  · cases heq
    cases k with
    | creditLedgerEntry b id =>
      by_cases hb : b = book
      · subst hb
        simp [hr id r rfl]
      · simp [hb]
    | _ => rfl
  · exact h k' v hold

theorem run_createLedgerEntry {id : String} {entry : CreditLedgerEntry} {s : Store}
    (h : s.lookup (.creditLedgerEntry entry.payer.book id) = none)
    (hfree : ledgerReferenceTaken entry.payer.book entry.referenceKey s = false) :
    (createLedgerEntry id entry).run s =
      .ok ((), s.insert (.creditLedgerEntry entry.payer.book id) entry) :=
  run_create h hfree _

namespace Settling

variable (x : Settling)

/-- The account as the code leaves it. -/
def newAccount : CreditAccount := x.account.settleToken x.reservation x.charge

def consume : CreditLedgerEntry :=
  tokenConsumeEntry x.id x.order x.settlement x.reservation x.newAccount

def release : CreditLedgerEntry :=
  tokenReleaseEntry x.id x.order x.settlement x.reservation x.newAccount

/-- The database with the charge entered. -/
def consumed (s : Store) : Store :=
  ((s.insert x.accountKey x.newAccount).insert (.billingOrder x.id)
    (x.order.settleToken x.settlement)).insert x.consumeKey x.consume

/-- The database after the settlement. -/
def after (s : Store) : Store :=
  if x.reservation ≤ x.charge then x.consumed s else (x.consumed s).insert x.releaseKey x.release

variable {x} {s : Store}

theorem lookup_releaseKey_consumed (h : x.Opens s) : (x.consumed s).lookup x.releaseKey = none := by
  rw [consumed, AList.lookup_insert_ne (by simp [h.unposted.distinct.symm]),
    AList.lookup_insert_ne (by simp), AList.lookup_insert_ne (by simp), h.unposted.releaseEntryID]

theorem run_settleAccount (h : x.Opens s) (hc : x.Chargeable) :
    (settleAccountTokenBillingTx x.order.payer x.id x.order x.settlement x.reservation
      x.consumeEntryID x.releaseEntryID).run s = .ok ((), x.after s) := by
  have hpay : ¬(x.reservation - x.settlement.amountMicrocredits < 0 ∧
      x.account.availableMicrocredits < -(x.reservation - x.settlement.amountMicrocredits)) := by
    rcases hc with hle | ⟨-, -, hle⟩ <;> rw [charge] at hle <;> omega
  have hfree : ∀ reference, ledgerReferenceTaken x.order.payer.book reference s = false →
      ledgerReferenceTaken x.order.payer.book reference ((s.insert x.accountKey x.newAccount).insert
        (.billingOrder x.id) (x.order.settleToken x.settlement)) = false :=
    fun reference hreference ↦ ledgerReferenceTaken_insert (ledgerReferenceTaken_insert hreference
      fun _ _ heq ↦ by cases heq) fun _ _ heq ↦ by cases heq
  rw [settleAccountTokenBillingTx, run_bind_of_ok (run_firstForUpdate h.account rfl _),
    if_neg (by have := h.reservation_le; omega)]
  dsimp only
  rw [if_neg hpay]
  have hupdate : (Prog.update x.accountKey (fun _ ↦ true) fun _ ↦ .ok x.newAccount : DbTx ℕ).run
      s = .ok (1, s.insert x.accountKey x.newAccount) := run_update h.account rfl rfl
  have hsettle : (updateSettledTokenOrderTx x.id x.settlement).run
      (s.insert x.accountKey x.newAccount) = .ok ((), (s.insert x.accountKey x.newAccount).insert
        (.billingOrder x.id) (x.order.settleToken x.settlement)) :=
    run_updateOne (by rw [AList.lookup_insert_ne (by simp), h.order]) h.isOpen _ _
  have hcreate : (createLedgerEntry x.consumeEntryID x.consume).run
      ((s.insert x.accountKey x.newAccount).insert (.billingOrder x.id)
        (x.order.settleToken x.settlement)) = .ok ((), x.consumed s) :=
    run_createLedgerEntry (by simp [consume, tokenConsumeEntry, h.unposted.consumeEntryID,
      BillingOrder.ledgerEntry]) (hfree _ h.unposted.consume)
  refine (run_bind_of_ok hupdate _).trans ((run_bind_of_ok hsettle _).trans
    ((run_bind_of_ok hcreate _).trans ?_))
  rw [after]
  by_cases hle : x.reservation ≤ x.charge
  · rw [if_pos hle, if_pos (by rw [charge] at hle; omega)]
    rfl
  · rw [if_neg hle, if_neg (by rw [charge] at hle; omega)]
    refine run_createLedgerEntry (lookup_releaseKey_consumed h) ?_
    refine ledgerReferenceTaken_insert (hfree _ h.unposted.release) fun id e heq ↦ ?_
    cases heq
    simp [consume, tokenConsumeEntry, String.ext_iff]

/-- Past the checks the order meets, the code parks the order or charges the account. -/
theorem run_prog (h : x.Opens s) :
    x.prog.run s = (if x.OverReservation then
        markTokenBillingOverReservationTx x.id x.settlement
      else
        settleAccountTokenBillingTx x.order.payer x.id x.order x.settlement x.reservation
          x.consumeEntryID x.releaseEntryID).run s := by
  have hsettled : x.order.status ≠ .settled := fun hs ↦ by simpa [hs] using h.isOpen
  have hpos := h.reservation_pos
  have heq := h.reservation_eq
  rw [reservation] at hpos heq
  rw [prog, settleTokenBillingTx, run_bind_of_ok (run_firstForUpdate h.order rfl _),
    if_neg (not_not.mpr h.billingMode), if_neg (by simp [h.matches_request]), if_neg hsettled,
    if_neg (by simp [h.isOpen])]
  dsimp only
  rw [if_neg (by omega)]
  by_cases hover : x.OverReservation
  · rw [if_pos hover, if_pos ⟨hover.1, by simp [hover.2]⟩]
  · rw [if_neg hover, if_neg (by simpa [OverReservation, reservation, charge] using hover)]
    by_cases hteam : x.order.teamID = ""
    · rw [if_neg (not_not.mpr hteam), settlePersonalTokenBillingTx, BillingOrder.payer,
        if_neg (not_not.mpr hteam)]
      rfl
    · rw [if_pos hteam, settleTeamTokenBillingTx, BillingOrder.payer, if_pos hteam]
      rfl

/-- A charge there are credits for is made. -/
theorem transact_prog_of_chargeable (h : x.Opens s) (hc : x.Chargeable) :
    x.prog.transact none s = (.ok (), x.after s) := by
  refine transact_of_run ?_
  have hover : ¬x.OverReservation := by
    rintro ⟨hlt, hallow⟩
    rcases hc with hle | ⟨hallow', -⟩
    · omega
    · simp [hallow] at hallow'
  rw [run_prog h, if_neg hover, run_settleAccount h hc]

/-- A charge above the reservation that must not be parks the order. -/
theorem transact_prog_of_over (h : x.Opens s) (hover : x.OverReservation) :
    x.prog.transact none s =
      (.ok (), s.insert (.billingOrder x.id) (x.order.overReservation x.settlement)) := by
  refine transact_of_run ?_
  rw [run_prog h, if_pos hover]
  exact run_updateOne h.order h.isOpen _ _

/-- A charge there are no credits for is refused. -/
theorem transact_prog_of_insufficient (h : x.Opens s) (hover : ¬x.OverReservation)
    (hc : ¬x.Chargeable) :
    x.prog.transact none s = (.error (.returned errInsufficientCredits), s) := by
  refine transact_of_run_error ?_
  have hpay : x.reservation - x.settlement.amountMicrocredits < 0 ∧
      x.account.availableMicrocredits < -(x.reservation - x.settlement.amountMicrocredits) := by
    rw [Chargeable, charge] at hc
    rw [OverReservation, charge] at hover
    grind
  rw [run_prog h, if_neg hover, settleAccountTokenBillingTx,
    run_bind_of_ok (run_firstForUpdate h.account rfl _),
    if_neg (by have := h.reservation_le; omega)]
  dsimp only
  rw [if_pos hpay]
  rfl

/-! ## The sums -/

theorem lookup_account_after (s : Store) : (x.after s).lookup x.accountKey = some x.newAccount := by
  have hconsumed : (x.consumed s).lookup x.accountKey = some x.newAccount := by
    rw [consumed, AList.lookup_insert_ne (by simp), AList.lookup_insert_ne (by simp),
      AList.lookup_insert]
  rw [after]
  split
  · exact hconsumed
  · rw [AList.lookup_insert_ne (by simp), hconsumed]

/-- What is reserved never wraps around. -/
theorem newAccount_reserved (h : x.Opens s) :
    x.newAccount.reservedMicrocredits = x.account.reservedMicrocredits - x.reservation := by
  have hmin : minInt64 ≤ 0 := by decide
  exact wrap64_eq_self ⟨by linarith [h.reservation_le],
    by linarith [h.reservation_pos, h.isInt64_reserved.2]⟩

/-- The sum of a charge that is made is the mathematical one when the rest fits. -/
theorem newAccount_available (h : x.Opens s) (hc : x.Chargeable) (hfits : x.RestFits) :
    x.newAccount.availableMicrocredits =
        x.account.availableMicrocredits + (x.reservation - x.charge) ∧
      0 ≤ x.newAccount.availableMicrocredits := by
  have hrange : 0 ≤ x.account.availableMicrocredits + (x.reservation - x.charge) ∧
      x.account.availableMicrocredits + (x.reservation - x.charge) ≤ maxInt64 := by
    rcases hc with hle | ⟨-, hlt, hle⟩
    · exact hfits hle
    · exact ⟨by omega, by linarith [h.isInt64_available.2]⟩
  have heq : x.newAccount.availableMicrocredits =
      x.account.availableMicrocredits + (x.reservation - x.charge) :=
    wrap64_eq_self ⟨by linarith [show minInt64 ≤ 0 by decide], hrange.2⟩
  exact ⟨heq, heq ▸ hrange.1⟩

/-- The consume entry starts from the balances the account had, and the release entry, or the end of
the chain when there is none, goes on from what it leaves. -/
theorem chain_entries (h : x.Opens s)
    (havailable : x.newAccount.availableMicrocredits =
      x.account.availableMicrocredits + (x.reservation - x.charge)) :
    (x.reservation ≤ x.charge → Chain x.account [x.consume] x.newAccount) ∧
    (x.charge < x.reservation → Chain x.account [x.consume, x.release] x.newAccount) := by
  have hreserved := newAccount_reserved h
  -- the balances computed backwards
  have hbackAvailable : wrap64 (x.newAccount.availableMicrocredits -
      (x.reservation - x.charge)) = x.account.availableMicrocredits := by
    rw [havailable, add_sub_cancel_right, wrap64_eq_self h.isInt64_available]
  have hbackReserved : x.charge ≤ x.reservation → wrap64 (x.newAccount.reservedMicrocredits +
      (x.reservation - x.charge)) = x.account.reservedMicrocredits - x.charge := by
    intro hle
    rw [hreserved, sub_add_sub_cancel]
    exact wrap64_eq_self ⟨by linarith [h.reservation_le, show minInt64 ≤ 0 by decide],
      by linarith [h.charge_nonneg, h.isInt64_reserved.2]⟩
  have hcharge : x.settlement.amountMicrocredits = x.charge := rfl
  constructor
  · intro hle
    by_cases heq : x.reservation - x.charge < 0
    · simp only [Chain, consume, tokenConsumeEntry, hcharge, if_pos heq, havailable, hreserved,
        CreditLedgerEntry.balance]
      exact ⟨trivial, by omega, CreditAccount.ext havailable.symm hreserved.symm⟩
    · simp only [Chain, consume, tokenConsumeEntry, hcharge, if_neg heq, hbackAvailable,
        hbackReserved (by omega), CreditLedgerEntry.balance]
      exact ⟨by omega, by omega, by ext <;> dsimp only <;> omega⟩
  · intro hlt
    have hnot : ¬x.reservation - x.charge < 0 := by omega
    simp only [Chain, consume, release, tokenConsumeEntry, tokenReleaseEntry, hcharge, if_neg hnot,
      hbackAvailable, hbackReserved hlt.le, CreditLedgerEntry.balance]
    exact ⟨by omega, by omega, by omega, by omega, trivial⟩

/-- **The outcome of a charge.** -/
theorem charged_after (h : x.Opens s) (hc : x.Chargeable) (hfits : x.RestFits) :
    x.Charged s (x.after s) := by
  obtain ⟨havailable, hnonneg⟩ := newAccount_available h hc hfits
  have hreserved := newAccount_reserved h
  obtain ⟨hchain, hchain'⟩ := chain_entries h havailable
  have hconsumed : (x.consumed s).lookup x.consumeKey = some x.consume := AList.lookup_insert _
  have hconsume : (x.after s).lookup x.consumeKey = some x.consume := by
    rw [after]
    split
    · exact hconsumed
    · rw [AList.lookup_insert_ne (by simp [h.unposted.distinct]), hconsumed]
  refine ⟨⟨x.newAccount, lookup_account_after s, by omega, hreserved, hnonneg,
    by linarith [h.reservation_le], x.consume, hconsume, rfl, rfl, fun hle ↦ ⟨?_, hchain hle⟩,
    fun hlt ↦ ⟨x.release, ?_, rfl, rfl, hchain' hlt⟩⟩, ⟨x.order.settleToken x.settlement, ?_, rfl,
    rfl⟩, fun k haccount horder hconsume hrelease ↦ ?_⟩
  · rw [after, if_pos hle, lookup_releaseKey_consumed h]
  · rw [after, if_neg (by omega), AList.lookup_insert]
  · have hconsumed : (x.consumed s).lookup (.billingOrder x.id) =
        some (x.order.settleToken x.settlement) := by
      rw [consumed, AList.lookup_insert_ne (by simp), AList.lookup_insert]
    rw [after]
    split
    · exact hconsumed
    · rw [AList.lookup_insert_ne (by simp), hconsumed]
  · have hconsumed : (x.consumed s).lookup k = s.lookup k := by
      rw [consumed, AList.lookup_insert_ne hconsume, AList.lookup_insert_ne horder,
        AList.lookup_insert_ne haccount]
    rw [after]
    split
    · exact hconsumed
    · rw [AList.lookup_insert_ne hrelease, hconsumed]

/-- The account after the settlement depends on the account, the reservation, the charge and the
leave to charge above it only. -/
theorem lookup_account_of_transact (h : x.Opens s) :
    (x.prog.transact none s).2.lookup x.accountKey =
      some (if x.OverReservation ∨ ¬x.Chargeable then x.account else x.newAccount) := by
  by_cases hover : x.OverReservation
  · rw [if_pos (.inl hover), transact_prog_of_over h hover, AList.lookup_insert_ne (by simp),
      h.account]
  · by_cases hc : x.Chargeable
    · rw [if_neg (by tauto), transact_prog_of_chargeable h hc, lookup_account_after]
    · rw [if_pos (.inr hc), transact_prog_of_insufficient h hover hc, h.account]

/-- A settlement that does what it is to do stores a balance the account has. -/
theorem restFits_of_settlesExactly (h : x.Opens s) (hexact : x.SettlesExactly s) : x.RestFits := by
  intro hle
  obtain ⟨s', hs', ⟨account', haccount, havailable, -, hnonneg, -⟩, -⟩ := hexact.charged (.inl hle)
  cases (transact_prog_of_chargeable h (.inl hle)).symm.trans hs'
  cases (lookup_account_after s).symm.trans haccount
  -- the balance stored is an `int64`
  have hrange : x.newAccount.availableMicrocredits ≤ maxInt64 := (isInt64_wrap64 _).2
  omega

end Settling

/-- **The arithmetic of a token settlement.**  A settlement of an open token order does exactly what
it is to do when giving back what is left of the reservation stays within 64 bits; otherwise the
code's sum wraps around, and a balance is stored that the account does not have. -/
theorem tokenSettlement_arithmetic {x : Settling} {s : Store} (h : x.Opens s) :
    x.SettlesExactly s ↔ x.RestFits := by
  constructor
  · exact Settling.restFits_of_settlesExactly h
  · intro hfits
    have hparked : x.Parked s (s.insert (.billingOrder x.id)
        (x.order.overReservation x.settlement)) :=
      ⟨⟨_, AList.lookup_insert s, rfl, rfl⟩, fun k hk ↦ AList.lookup_insert_ne hk⟩
    refine ⟨fun hc ↦ ⟨_, Settling.transact_prog_of_chargeable h hc, Settling.charged_after h hc
      hfits⟩, fun hover ↦ ⟨_, Settling.transact_prog_of_over h hover, hparked⟩,
      fun hc hover ↦ ⟨_, Settling.transact_prog_of_insufficient h hover hc⟩,
      fun _ _ _ ↦ transact_error, fun y t hy haccount hreservation hcharge hallow ↦ ?_⟩
    have hover : y.OverReservation ↔ x.OverReservation := by
      rw [Settling.OverReservation, Settling.OverReservation, hreservation, hcharge, hallow]
    have hc : y.Chargeable ↔ x.Chargeable := by
      rw [Settling.Chargeable, Settling.Chargeable, hreservation, hcharge, hallow, haccount]
    have hnew : y.newAccount = x.newAccount := by
      rw [Settling.newAccount, Settling.newAccount, hreservation, hcharge, haccount]
    rw [Settling.lookup_account_of_transact h, Settling.lookup_account_of_transact hy, haccount,
      hnew]
    simp only [hover, hc]

/-! ### A charge below the reservation -/

/-- A reservation of 5 microcredits, of which the provider charged 3. -/
def cheapSettling (available : ℤ) : Settling where
  id := "o"
  settlement :=
    { providerBillingAmount := 3
      providerBillingStatus := "succeeded"
      providerBillingUnit := "microcredit"
      providerBillingTotalTokens := 2
      providerTaskStatus := "succeeded"
      usage := ⟨1, 0, 1⟩
      usageStatus := "reported"
      amountMicrocredits := 3
      settledAt := 1 }
  allowChargeAboveReservation := true
  consumeEntryID := "c"
  releaseEntryID := "r"
  order :=
    { userID := "u"
      billingMode := "token_usage"
      amountMicrocredits := 5
      reservedAmountMicrocredits := 5 }
  account := ⟨available, 5⟩

def cheapStore (available : ℤ) : Store :=
  (AList.insert (.creditAccount (.user "u")) (cheapSettling available).account ∅ : Store).insert
    (.billingOrder "o") (cheapSettling available).order

theorem opens_cheapSettling {available : ℤ} (h : IsInt64 available) :
    (cheapSettling available).Opens (cheapStore available) where
  order := rfl
  billingMode := rfl
  isOpen := rfl
  reservation_pos := show (0 : ℤ) < 5 by decide
  reservation_eq := rfl
  matches_request := rfl
  account := rfl
  isInt64_available := h
  isInt64_reserved := show IsInt64 5 by decide
  reservation_le := le_rfl
  charge_nonneg := show (0 : ℤ) ≤ 3 by decide
  charge_le := show (3 : ℤ) ≤ maxInt64 by decide
  unposted := ⟨rfl, rfl, show "c" ≠ "r" by decide, rfl, rfl⟩

theorem tokenSettlement_arithmetic_cheap : (cheapSettling 10).SettlesExactly (cheapStore 10) :=
  (tokenSettlement_arithmetic (opens_cheapSettling (by decide))).mpr fun _ ↦ by decide

/-- With the largest balance available, what is left of the reservation wraps it around: the account
is charged 3 microcredits and left with a negative balance. -/
theorem tokenSettlement_wraps :
    (cheapSettling maxInt64).Opens (cheapStore maxInt64) ∧
      ((cheapSettling maxInt64).prog.transact none (cheapStore maxInt64)).2.lookup
        (.creditAccount (.user "u")) = some ⟨minInt64 + 1, 0⟩ ∧
      ¬(cheapSettling maxInt64).SettlesExactly (cheapStore maxInt64) := by
  have hopens : (cheapSettling maxInt64).Opens (cheapStore maxInt64) :=
    opens_cheapSettling (by decide)
  refine ⟨hopens, ?_, fun hexact ↦ ?_⟩
  · exact (Settling.lookup_account_of_transact hopens).trans (by decide)
  · exact absurd (Settling.restFits_of_settlesExactly hopens hexact (by decide)) (by decide)

end HMaigc
