import HMaigc.Sql.RowStep
import HMaigc.Sql.Serial
import HMaigc.Repository.TokenBilling

/-!
# Submitting a settlement again

A worker that lost its connection submits the settlement of a token order again, and so does the
reconciliation that comes after it.  `settledTokenBillingMatches` is what recognises the repetition:
it compares a dozen columns of the settled order with the fact.

* `TokenSubmission` is one call of either settlement, `TokenSubmission.Settles` says that it found the
  order open and settled it.
* `lookup_settled` — the row such a call leaves is `BillingOrder.settleToken`.
* `settledTokenBillingMatches_settleToken` — that row matches the settlement it came from in every
  column but one: the warning is stored trimmed and cut off at 1000 characters, and compared as it
  came.
* `tokenSettlement_replays` puts these together for every run that leaves the row alone.
-/

set_option autoImplicit false

namespace HMaigc

open Sql Go Prog

/-! ## Submissions -/

/-- A fact, as one of the two settlements takes it. -/
inductive TokenFact where
  | provider (fact : TokenSettlementFact)
  | response (fact : ResponseUsageSettlementFact)

/-- A call of `SettleTokenBilling` or of `SettleTokenBillingFromResponseUsage`, with the identifiers
it draws for ledger entries. -/
structure TokenSubmission where
  id : String
  fact : TokenFact
  consumeEntryID : String
  releaseEntryID : String

namespace TokenSubmission

def prog (x : TokenSubmission) : DbTx Unit :=
  match x.fact with
  | .provider fact => settleTokenBilling x.id fact x.consumeEntryID x.releaseEntryID
  | .response fact =>
    settleTokenBillingFromResponseUsage x.id fact x.consumeEntryID x.releaseEntryID

/-- The order the call looks up. -/
def orderID (x : TokenSubmission) : String :=
  match x.fact with
  | .provider _ => x.id
  | .response _ => trimSpace x.id

/-- The settlement, or the error the checks of the fact return. -/
def settlement (x : TokenSubmission) : Except RepoError TokenBillingSettlement :=
  match x.fact with
  | .provider fact => fact.settlement x.id
  | .response fact => fact.settlement x.id

/-- Only an amount from the response may exceed the reservation. -/
def allowsChargeAboveReservation (x : TokenSubmission) : Bool :=
  match x.fact with
  | .provider _ => false
  | .response _ => true

/-- The call, run alone on `s`, finds the order open and leaves it settled. -/
structure Settles (x : TokenSubmission) (s s' : Store) : Prop where
  ran : x.prog.run s = .ok ((), s')
  opened : ∃ o, s.lookup (.billingOrder x.orderID) = some o ∧ o.status.isOpen = true
  settled : ∃ o, s'.lookup (.billingOrder x.orderID) = some o ∧ o.status = .settled

variable {x y : TokenSubmission} {st : TokenBillingSettlement}

theorem prog_of_settlement (h : x.settlement = .ok st) :
    x.prog = settleTokenBillingTx x.orderID st x.allowsChargeAboveReservation x.consumeEntryID
      x.releaseEntryID := by
  obtain ⟨id, fact | fact, consume, release⟩ := x
  · have hfact : fact.settlement id = .ok st := h
    show settleTokenBilling id fact consume release = _
    unfold settleTokenBilling
    rw [hfact]
    rfl
  · have hfact : fact.settlement id = .ok st := h
    show settleTokenBillingFromResponseUsageTx id fact consume release = _
    unfold settleTokenBillingFromResponseUsageTx
    rw [hfact]
    rfl

theorem prog_of_error {e : RepoError} (h : x.settlement = .error e) : x.prog = .fail e := by
  obtain ⟨id, fact | fact, consume, release⟩ := x
  · have hfact : fact.settlement id = .error e := h
    show settleTokenBilling id fact consume release = _
    unfold settleTokenBilling
    rw [hfact]
    rfl
  · have hfact : fact.settlement id = .error e := h
    show settleTokenBillingFromResponseUsageTx id fact consume release = _
    unfold settleTokenBillingFromResponseUsageTx
    rw [hfact]
    rfl

theorem Settles.settlement {s s' : Store} (h : x.Settles s s') : ∃ st, x.settlement = .ok st := by
  cases hst : x.settlement with
  | ok st => exact ⟨st, rfl⟩
  | error e =>
    have hran := h.ran
    rw [prog_of_error hst] at hran
    cases hran

end TokenSubmission

/-! ## What a settled order keeps of the fact -/

/-- The settlements agree in every column a repetition is recognised by, the warning aside. -/
structure TokenBillingSettlement.SameCharge (st st' : TokenBillingSettlement) : Prop where
  amount : st.amountMicrocredits = st'.amountMicrocredits
  orderID : st.providerBillingOrderID = st'.providerBillingOrderID
  billed : st.providerBillingAmount = st'.providerBillingAmount
  billingStatus : st.providerBillingStatus = st'.providerBillingStatus
  unit : st.providerBillingUnit = st'.providerBillingUnit
  totalTokens : st.providerBillingTotalTokens = st'.providerBillingTotalTokens
  taskStatus : st.providerTaskStatus = st'.providerTaskStatus
  usage : st.usage = st'.usage
  usageStatus : st.usageStatus = st'.usageStatus

/-- The settlements differ in what is charged or observed, or in the warning. -/
def TokenBillingSettlement.Differs (st st' : TokenBillingSettlement) : Prop :=
  ¬st.SameCharge st' ∨ st.reconciliationWarning ≠ st'.reconciliationWarning

/-- **The comparison** of a settled order with another fact: everything but the warning is compared
with what was submitted. -/
theorem settledTokenBillingMatches_settleToken (o : BillingOrder)
    (st st' : TokenBillingSettlement) :
    settledTokenBillingMatches (o.settleToken st) st' = true ↔
      (st'.providerRequestID = "" ∨
        (o.settleToken st).providerRequestID = st'.providerRequestID) ∧
      st.SameCharge st' ∧
      truncateText st.reconciliationWarning 1000 = st'.reconciliationWarning := by
  obtain ⟨⟨input, cached, output⟩, h⟩ : ∃ u, st.usage = u := ⟨_, rfl⟩
  obtain ⟨⟨input', cached', output'⟩, h'⟩ : ∃ u, st'.usage = u := ⟨_, rfl⟩
  simp only [settledTokenBillingMatches, BillingOrder.settleToken, BillingOrder.observe, h, h',
    Bool.and_eq_true, Bool.or_eq_true, decide_eq_true_eq]
  constructor
  · rintro ⟨⟨⟨⟨⟨⟨⟨⟨⟨⟨⟨⟨hreq, ha⟩, ho⟩, hb⟩, hs⟩, hu⟩, ht⟩, htt⟩, hus⟩, hi⟩, hc⟩, hou⟩, hw⟩
    have husage : st.usage = st'.usage := by rw [h, h', hi, hc, hou]
    exact ⟨hreq, ⟨ha, ho, hb, hs, hu, htt, ht, husage, hus⟩, hw⟩
  · rintro ⟨hreq, ⟨ha, ho, hb, hs, hu, htt, ht, husage, hus⟩, hw⟩
    obtain ⟨hi, hc, hou⟩ : input = input' ∧ cached = cached' ∧ output = output' := by
      simpa [h, h'] using husage
    exact ⟨⟨⟨⟨⟨⟨⟨⟨⟨⟨⟨⟨hreq, ha⟩, ho⟩, hb⟩, hs⟩, hu⟩, ht⟩, htt⟩, hus⟩, hi⟩, hc⟩, hou⟩, hw⟩

/-! ## A settlement leaves the settled row -/

theorem post_settleAccountTokenBillingTx {s : Store} {id : String} {o : BillingOrder}
    (ho : s.lookup (.billingOrder id) = some o) (payer : Payer) (order : BillingOrder)
    (st : TokenBillingSettlement) (reservedAmount : ℤ) (consumeEntryID releaseEntryID : String) :
    (settleAccountTokenBillingTx payer id order st reservedAmount consumeEntryID
      releaseEntryID).Post s
      fun _ s' ↦ s'.lookup (.billingOrder id) = some (o.settleToken st) := by
  have hentry : ∀ (e : CreditLedgerEntry) (entryID : String) (t : Store),
      t.lookup (.billingOrder id) = some (o.settleToken st) →
      (createLedgerEntry entryID e).Post t
        fun _ t' ↦ t'.lookup (.billingOrder id) = some (o.settleToken st) := by
    intro e entryID t ht
    rw [createLedgerEntry, post_create]
    intro _ _
    rw [AList.lookup_insert_ne (by simp), ht]
  rw [settleAccountTokenBillingTx, post_bind, post_firstForUpdate]
  intro account haccount _
  simp only [post_bind, post_ite, throw_eq_fail, post_fail, pure_eq_done, post_done]
  refine ⟨fun _ ↦ trivial, fun _ ↦ ⟨fun _ ↦ trivial, fun _ ↦ ?_⟩⟩
  -- the account is another row
  have hupdate : ∀ t : Store, t.lookup (.billingOrder id) = some o →
      (updateSettledTokenOrderTx id st).Post t
        fun _ t' ↦ t'.lookup (.billingOrder id) = some (o.settleToken st) := by
    intro t ht
    rw [updateSettledTokenOrderTx, post_updateOne]
    intro r hr _
    cases ht.symm.trans hr
    exact AList.lookup_insert t
  have hrest : ∀ t : Store, t.lookup (.billingOrder id) = some o →
      (updateSettledTokenOrderTx id st).Post t fun _ t' ↦
        (createLedgerEntry consumeEntryID (tokenConsumeEntry id order st reservedAmount
          (account.settleToken reservedAmount st.amountMicrocredits))).Post t' fun _ t' ↦
          (reservedAmount - st.amountMicrocredits ≤ 0 →
            t'.lookup (.billingOrder id) = some (o.settleToken st)) ∧
          (¬reservedAmount - st.amountMicrocredits ≤ 0 →
            (createLedgerEntry releaseEntryID (tokenReleaseEntry id order st reservedAmount
              (account.settleToken reservedAmount st.amountMicrocredits))).Post t'
              fun _ t' ↦ t'.lookup (.billingOrder id) = some (o.settleToken st)) :=
    fun t ht ↦ (hupdate t ht).mono fun _ t₁ ht₁ ↦ (hentry _ _ t₁ ht₁).mono fun _ t₂ ht₂ ↦
      ⟨fun _ ↦ ht₂, fun _ ↦ hentry _ _ t₂ ht₂⟩
  rw [post_update]
  refine ⟨fun r _ _ r' _ ↦ hrest _ ?_, fun _ ↦ hrest s ho⟩
  rw [AList.lookup_insert_ne (by simp), ho]

theorem lookup_settled {x : TokenSubmission} {s s' : Store} (h : x.Settles s s') :
    ∃ st o, x.settlement = .ok st ∧ s.lookup (.billingOrder x.orderID) = some o ∧
      o.billingMode = "token_usage" ∧ contradictsResponse o st = false ∧
      s'.lookup (.billingOrder x.orderID) = some (o.settleToken st) := by
  obtain ⟨st, hst⟩ := h.settlement
  obtain ⟨o, ho, hopen⟩ := h.opened
  obtain ⟨o', ho', hsettled⟩ := h.settled
  have hpost : (settleTokenBillingTx x.orderID st x.allowsChargeAboveReservation x.consumeEntryID
      x.releaseEntryID).Post s fun _ s' ↦ o.billingMode = "token_usage" ∧
        contradictsResponse o st = false ∧
        (s'.lookup (.billingOrder x.orderID) = some (o.overReservation st) ∨
          s'.lookup (.billingOrder x.orderID) = some (o.settleToken st)) := by
    rw [settleTokenBillingTx, post_bind, post_firstForUpdate]
    intro o₁ ho₁ _
    cases ho.symm.trans ho₁
    simp only [post_bind, post_ite, throw_eq_fail, post_fail, pure_eq_done, post_done]
    refine ⟨fun _ ↦ trivial, fun hmode ↦ ⟨fun _ ↦ trivial, fun hresponse ↦
      ⟨fun hs ↦ absurd hopen (by rw [hs]; simp), fun _ ↦ ⟨fun _ ↦ trivial, fun _ ↦
      ⟨fun _ ↦ trivial, fun _ ↦ ⟨fun _ ↦ ?_, fun _ ↦ ?_⟩⟩⟩⟩⟩⟩
    · rw [markTokenBillingOverReservationTx, post_updateOne]
      intro r hr _
      cases ho.symm.trans hr
      exact ⟨not_not.mp hmode, by simpa using hresponse, .inl (AList.lookup_insert s)⟩
    · have hpaid := fun payer ↦ (post_settleAccountTokenBillingTx ho payer o st
        o.reservedAmountMicrocredits x.consumeEntryID x.releaseEntryID).mono fun _ t ht ↦
        (⟨not_not.mp hmode, by simpa using hresponse, .inr ht⟩ : o.billingMode = "token_usage" ∧
          contradictsResponse o st = false ∧
          (t.lookup (.billingOrder x.orderID) = some (o.overReservation st) ∨
            t.lookup (.billingOrder x.orderID) = some (o.settleToken st)))
      exact ⟨fun _ ↦ hpaid _, fun _ ↦ hpaid _⟩
  have hran := h.ran
  rw [TokenSubmission.prog_of_settlement hst] at hran
  obtain ⟨hmode, hresponse, hover | hrow⟩ := hpost () s' hran
  · cases ho'.symm.trans hover
    simp at hsettled
  · exact ⟨st, o, hst, ho, hmode, hresponse, hrow⟩

/-! ## Submissions to a settled order -/

/-- What a submission to a settled token order returns. -/
theorem run_settleTokenBillingTx_of_settled {t : Store} {id : String} {r : BillingOrder}
    (hr : t.lookup (.billingOrder id) = some r) (hmode : r.billingMode = "token_usage")
    (hsettled : r.status = .settled) (st : TokenBillingSettlement) (allows : Bool)
    (consumeEntryID releaseEntryID : String) :
    (settleTokenBillingTx id st allows consumeEntryID releaseEntryID).transact none t =
      (if contradictsResponse r st = false ∧ settledTokenBillingMatches r st = true then .ok ()
        else .error (.returned errBillingStateConflict), t) := by
  have hrun : (settleTokenBillingTx id st allows consumeEntryID releaseEntryID).runWith none t =
      if contradictsResponse r st = false ∧ settledTokenBillingMatches r st = true then .ok ((), t)
        else .error (.returned errBillingStateConflict) := by
    rw [settleTokenBillingTx, runWith_firstForUpdate_bind hr rfl]
    cases contradictsResponse r st <;> cases settledTokenBillingMatches r st <;>
      simp [hmode, hsettled, runWith]
  rw [transact, hrun]
  by_cases h : contradictsResponse r st = false ∧ settledTokenBillingMatches r st = true
  · rw [if_pos h, if_pos h]
  · rw [if_neg h, if_neg h]

/-- A submission to another order leaves the row. -/
theorem writes_settleTokenBillingTx {id id' : String} (hne : id' ≠ id)
    (st : TokenBillingSettlement) (allows : Bool) (consumeEntryID releaseEntryID : String) :
    (settleTokenBillingTx id' st allows consumeEntryID releaseEntryID).WritesOnly
      (· ≠ .billingOrder id) := by
  simp [settleTokenBillingTx, markTokenBillingOverReservationTx, settleTeamTokenBillingTx,
    settlePersonalTokenBillingTx, settleAccountTokenBillingTx, updateSettledTokenOrderTx,
    createLedgerEntry, WritesOnly, keeps_ite, hne]

section Settled

variable {x y : TokenSubmission} {s s' t : Store} {o : BillingOrder}
  {st st' : TokenBillingSettlement}

/-- The order is stored as the settlement left it. -/
def IsSettledWith (id : String) (o : BillingOrder) (st : TokenBillingSettlement) (t : Store) :
    Prop :=
  o.billingMode = "token_usage" ∧ t.lookup (.billingOrder id) = some (o.settleToken st)

/-- What a submission with the settlement `st'` returns once the order is settled with `st`. -/
theorem transact_of_isSettledWith (h : IsSettledWith x.orderID o st t) (hy : y.orderID = x.orderID)
    (hst' : y.settlement = .ok st') :
    y.prog.transact none t =
      (if contradictsResponse (o.settleToken st) st' = false ∧
          settledTokenBillingMatches (o.settleToken st) st' = true then .ok ()
        else .error (.returned errBillingStateConflict), t) := by
  rw [TokenSubmission.prog_of_settlement hst', hy]
  exact run_settleTokenBillingTx_of_settled h.2 (by exact h.1) rfl _ _ _ _

/-- **A settled order stays as it is**, whatever is submitted. -/
theorem IsSettledWith.post (h : IsSettledWith x.orderID o st t) :
    y.prog.Post t fun _ t' ↦ IsSettledWith x.orderID o st t' := by
  cases hst' : y.settlement with
  | error e =>
    rw [TokenSubmission.prog_of_error hst']
    exact (post_fail _ _ _).mpr trivial
  | ok st' =>
    by_cases hy : y.orderID = x.orderID
    · -- the run leaves the database
      intro a t' hrun
      have hret := transact_of_isSettledWith h hy hst'
      have htrans : y.prog.transact none t = (.ok a, t') := by
        have hwith := runWith_of_run hrun
        rw [transact, hwith]
      rw [htrans] at hret
      obtain rfl : t' = t := (Prod.ext_iff.mp hret).2
      exact h
    · rw [TokenSubmission.prog_of_settlement hst']
      refine (post_of_keeps (T := fun k _ _ ↦ k ≠ .billingOrder x.orderID)
        (fun _ _ _ _ _ hk ↦ by exact hk) (writes_settleTokenBillingTx hy _ _ _ _) t).mono ?_
      rintro a t' ⟨hrows, -⟩
      refine ⟨h.1, ?_⟩
      rcases hrows (.billingOrder x.orderID) with heq | ⟨r, -, hne⟩
      · rw [heq, h.2]
      · exact absurd rfl hne

/-- A move of anything else: the row of the order stays. -/
def KeepsOrder (id : String) (t u : Store) : Prop :=
  u.lookup (.billingOrder id) = t.lookup (.billingOrder id)

/-- Any number of submissions, for this order or another, among moves of anything else. -/
abbrev Submitting (id : String) : Store → Store → Prop :=
  Serial TokenSubmission.prog (fun _ _ ↦ True) (KeepsOrder id)

theorem IsSettledWith.submitting (h : IsSettledWith x.orderID o st s)
    (hrun : Submitting x.orderID s t) : IsSettledWith x.orderID o st t :=
  hrun.invariant (fun _ _ ht _ ↦ ht.post) (fun _ _ ht hkeep ↦ ⟨ht.1, hkeep.trans ht.2⟩) h

/-- A submission that leaves the database when nothing fails leaves it when something does. -/
theorem transact_snd_of_transact_none {e : Except (Failure RepoError) Unit}
    (h : y.prog.transact none t = (e, t)) (fault : Option ℕ) : (y.prog.transact fault t).2 = t := by
  rcases hfault : y.prog.transact fault t with ⟨e' | a, t'⟩
  · exact transact_error hfault
  · have hnone : y.prog.transact none t = (.ok a, t') := by
      rw [transact, runWith_of_run (run_of_transact hfault)]
    exact (Prod.ext_iff.mp (hnone.symm.trans h)).2

end Settled

/-! ## Replays -/

/-- `y` repeats `x`: the same fact for the same order, under whatever identifiers it draws. -/
def TokenSubmission.Repeats (y x : TokenSubmission) : Prop :=
  y.id = x.id ∧ y.fact = x.fact

theorem TokenSubmission.Repeats.orderID {x y : TokenSubmission} (h : y.Repeats x) :
    y.orderID = x.orderID := by
  rw [TokenSubmission.orderID, TokenSubmission.orderID, h.1, h.2]

theorem TokenSubmission.Repeats.settlement {x y : TokenSubmission} (h : y.Repeats x) :
    y.settlement = x.settlement := by
  rw [TokenSubmission.settlement, TokenSubmission.settlement, h.1, h.2]

/-- After `x` settled its order, repetitions of it succeed, other facts for the order are refused as
a conflict, and neither changes anything. -/
structure Replayable (x : TokenSubmission) (s' : Store) : Prop where
  repeated : ∀ t, Submitting x.orderID s' t → ∀ y : TokenSubmission, y.Repeats x →
    y.prog.transact none t = (.ok (), t) ∧ ∀ fault, (y.prog.transact fault t).2 = t
  refused : ∀ t, Submitting x.orderID s' t → ∀ y : TokenSubmission, y.orderID = x.orderID →
    ∀ st st', x.settlement = .ok st → y.settlement = .ok st' → st.Differs st' →
    y.prog.transact none t = (.error (.returned errBillingStateConflict), t) ∧
      ∀ fault, (y.prog.transact fault t).2 = t

/-- The warning of the submission's settlement is stored as it is. -/
def TokenSubmission.WarnsVerbatim (x : TokenSubmission) : Prop :=
  ∀ st, x.settlement = .ok st →
    truncateText st.reconciliationWarning 1000 = st.reconciliationWarning

/-- **Replays of a token settlement.**  Once a submission has settled its order, submitting it again
succeeds and changes nothing, and any other fact is refused and changes nothing, exactly when the
warning it carried is one the database stores as it is. -/
theorem tokenSettlement_replays {x : TokenSubmission} {s s' : Store} (h : x.Settles s s') :
    Replayable x s' ↔ x.WarnsVerbatim := by
  obtain ⟨st, o, hst, -, hmode, hresponse, hrow⟩ := lookup_settled h
  have hsettled : IsSettledWith x.orderID o st s' := ⟨hmode, hrow⟩
  have hself : contradictsResponse (o.settleToken st) st = false := by
    revert hresponse
    by_cases hreq : st.providerRequestID = "" <;>
      simp [contradictsResponse, BillingOrder.settleToken, BillingOrder.observe,
        BillingOrder.stopReconciling, hreq]
    exact fun hendpoint hcredential _ ↦ ⟨hendpoint, hcredential⟩
  constructor
  · rintro ⟨hrepeated, -⟩ st₁ hst₁
    cases hst.symm.trans hst₁
    have hreturned := (hrepeated s' .refl x ⟨rfl, rfl⟩).1
    rw [transact_of_isSettledWith hsettled rfl hst] at hreturned
    by_contra hwarning
    rw [if_neg fun hmatch ↦ hwarning
      ((settledTokenBillingMatches_settleToken o st st).mp hmatch.2).2.2] at hreturned
    cases (Prod.ext_iff.mp hreturned).1
  · intro hverbatim
    have hwarning := hverbatim st hst
    refine ⟨fun t ht y hy ↦ ?_, fun t ht y hy st₁ st' hst₁ hst' hdiffers ↦ ?_⟩
    · have hreturned := transact_of_isSettledWith (hsettled.submitting ht) hy.orderID
        (hy.settlement.trans hst)
      have hrequest : st.providerRequestID = "" ∨
          (o.settleToken st).providerRequestID = st.providerRequestID := by
        by_cases hreq : st.providerRequestID = ""
        · exact .inl hreq
        · exact .inr (if_pos hreq)
      have hmatch : settledTokenBillingMatches (o.settleToken st) st = true :=
        (settledTokenBillingMatches_settleToken o st st).mpr
          ⟨hrequest, ⟨rfl, rfl, rfl, rfl, rfl, rfl, rfl, rfl, rfl⟩, hwarning⟩
      rw [if_pos ⟨hself, hmatch⟩] at hreturned
      exact ⟨hreturned, transact_snd_of_transact_none hreturned⟩
    · cases hst.symm.trans hst₁
      have hreturned := transact_of_isSettledWith (hsettled.submitting ht) hy hst'
      have hnot : ¬(contradictsResponse (o.settleToken st) st' = false ∧
          settledTokenBillingMatches (o.settleToken st) st' = true) := by
        rintro ⟨-, hmatch⟩
        obtain ⟨-, hsame, hstored⟩ := (settledTokenBillingMatches_settleToken o st st').mp hmatch
        rcases hdiffers with hcharge | htext
        · exact hcharge hsame
        · exact htext (hwarning.symm.trans hstored)
      rw [if_neg hnot] at hreturned
      exact ⟨hreturned, transact_snd_of_transact_none hreturned⟩

/-! ### An order settled with a warning -/

/-- A store with one reserved token order of 1000000 microcredits and its payer's account. -/
def tokenOrderStore : Store :=
  (AList.insert (.creditAccount (.user "u")) { reservedMicrocredits := 1000000 } ∅ : Store).insert
    (.billingOrder "o")
    { userID := "u"
      billingMode := "token_usage"
      amountMicrocredits := 1000000
      reservedAmountMicrocredits := 1000000 }

/-- The provider charged the whole reservation; `warning` goes with the settlement. -/
def tokenSubmission (warning : String) : TokenSubmission where
  id := "o"
  fact := .provider
    { providerOrderID := "p"
      providerAmountSubunits := 1
      providerTaskStatus := "succeeded"
      providerTotalTokens := 0
      usage := ⟨0, 0, 0⟩
      usageStatus := "missing"
      reconciliationWarning := warning
      settledAt := 1 }
  consumeEntryID := "c"
  releaseEntryID := "r"

/-- The submission finds its order open, commits, and leaves the order settled. -/
def TokenSubmission.settlesOn (x : TokenSubmission) (s : Store) : Bool :=
  (s.lookup (.billingOrder x.orderID)).any (·.status.isOpen) &&
    match x.prog.run s with
    | .ok (_, s') => (s'.lookup (.billingOrder x.orderID)).any fun o ↦ o.status = .settled
    | .error _ => false

theorem settles_of_settlesOn {x : TokenSubmission} {s : Store} (h : x.settlesOn s = true) :
    x.Settles s (x.prog.transact none s).2 := by
  rw [TokenSubmission.settlesOn, Bool.and_eq_true] at h
  obtain ⟨hopened, h⟩ := h
  obtain ⟨o, ho, hopen⟩ := (Option.any_eq_true _ _).mp hopened
  cases hrun : x.prog.run s with
  | error e =>
    rw [hrun] at h
    cases h
  | ok r =>
    obtain ⟨a, s'⟩ := r
    rw [hrun] at h
    obtain ⟨o', ho', hsettled⟩ := (Option.any_eq_true _ _).mp h
    have hs' : (x.prog.transact none s).2 = s' := by
      rw [transact, runWith_of_run hrun]
    rw [hs']
    exact ⟨hrun, ⟨o, ho, hopen⟩, o', ho', of_decide_eq_true hsettled⟩

theorem tokenSettlement_replays_verbatim :
    Replayable (tokenSubmission "late")
      ((tokenSubmission "late").prog.transact none tokenOrderStore).2 :=
  (tokenSettlement_replays (settles_of_settlesOn (by decide))).mpr fun st hst ↦ by
    cases hst
    decide

/-- Does the submission, run alone, commit? -/
def TokenSubmission.commitsOn (x : TokenSubmission) (s : Store) : Bool :=
  match (x.prog.transact none s).1 with
  | .ok _ => true
  | .error _ => false

/-- The warning ` late` settles the order, is stored as `late`, and is refused when it comes
again. -/
theorem exists_settlement_not_replayable :
    ∃ x s s', TokenSubmission.Settles x s s' ∧ ¬Replayable x s' := by
  refine ⟨tokenSubmission " late", tokenOrderStore, _,
    settles_of_settlesOn (by decide), fun h ↦ ?_⟩
  have hcommits : (tokenSubmission " late").commitsOn
      ((tokenSubmission " late").prog.transact none tokenOrderStore).2 = false := by
    decide
  rw [TokenSubmission.commitsOn, (h.repeated _ .refl _ ⟨rfl, rfl⟩).1] at hcommits
  cases hcommits

end HMaigc
