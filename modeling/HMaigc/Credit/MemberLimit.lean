import HMaigc.Credit.Release
import HMaigc.Go.Checks

/-!
# The monthly credit limit of a team member

A reservation on a team's account is checked against the monthly limit of the member it is for:
while the member's row is locked, the amounts of the member's orders of the month are summed up.
The orders themselves are not locked, so that they may be settled and refunded meanwhile.

* `WithinLimit` — what is to hold of a reservation: once it has committed, the sum is within the
  limit.
* `heeding` — the runs in which it does.  Go's addition must not wrap around, the month must not
  turn while a reservation is under way, and an order that is settled or refunded has to be open
  still, and is charged its amount at most.
* `usage_le_of_heeds` — such a release takes nothing into the sum, which therefore has not grown
  since a reservation that commits has read it (`Read.rely`).
* `reservations_withinLimit` — the limit holds in these runs, and `exists_reservation_beyond_limit`
  that it does not in others.
-/

set_option autoImplicit false

namespace HMaigc

open Sql Go Prog

/-! ## Calls -/

/-- The calendar where the server runs: the bounds of the month a time is in. -/
structure Months where
  monthOf : Time → Month
  mem_iff : ∀ t u, (monthOf t).start ≤ u ∧ u < (monthOf t).stop ↔ monthOf u = monthOf t

/-- Reserving at the time `now`, or one of the operations that settle and refund orders. -/
inductive MemberLimitCall where
  | reserve (id : String) (order : BillingOrder) (now : Time) (entryID : String)
  | release (c : ReleaseCall) (hc : c.isNamed = true)

def MemberLimitCall.prog (months : Months) : MemberLimitCall → DbTx Unit
  | .reserve id order now entryID => reserveBillingOrder id order (months.monthOf now) entryID
  | .release c _ => c.prog

/-! ## Rows -/

/-- What a reservation writes. -/
def ReserveStep (id : String) (order : BillingOrder) : ∀ k, Option (Row k) → Row k → Prop
  | .billingOrder id', old, o => old = none ∧ id' = id ∧ o = order
  | .teamMember _ _, _, _ => False
  | _, _, _ => True

/-- What a write of the call does to a row. -/
def MemberLimitCall.step : MemberLimitCall → ∀ k, Option (Row k) → Row k → Prop
  | .reserve id order _ _ => ReserveStep id order
  | .release c _ => OrderWrite c.releases c.charges

theorem rowTrans_orderWrite (target : Option String) (charge : Option ℤ) :
    RowTrans (OrderWrite target charge) := by
  intro k o r r' h h'
  cases k with
  | billingOrder id =>
    obtain ⟨o₀, ho₀, horigin, hopen, hother, hamount⟩ := h
    obtain ⟨o₁, ho₁, horigin', hopen', hother', hamount'⟩ := h'
    cases ho₁
    refine ⟨o₀, ho₀, horigin'.trans horigin, fun hr' ↦ ?_, fun hne ↦ ?_, ?_⟩
    · obtain ⟨hr, heq⟩ := hopen' hr'
      exact ⟨(hopen hr).1, heq.trans (hopen hr).2⟩
    · obtain ⟨hiff, hstatus, heq⟩ := hother hne
      obtain ⟨hiff', hstatus', heq'⟩ := hother' hne
      exact ⟨hiff'.trans hiff, fun hclosed ↦
        (hstatus' (hiff.trans hclosed)).trans (hstatus hclosed), heq'.trans heq⟩
    · rcases hamount' with heq' | hcharge
      · exact hamount.imp heq'.trans fun hcharge ↦ hcharge.trans (congrArg some heq'.symm)
      · exact .inr hcharge
  | creditAccount p => exact h'
  | teamMember => exact h'.elim
  | _ => trivial

theorem rowTrans_memberLimitStep (c : MemberLimitCall) : RowTrans c.step := by
  cases c with
  | reserve id order =>
    intro k o r r' h h'
    cases k with
    | billingOrder id' => cases h'.1
    | teamMember => exact h'.elim
    | _ => trivial
  | release c => exact rowTrans_orderWrite _ _

theorem MemberLimitCall.keeps_prog (months : Months) (c : MemberLimitCall) :
    (c.prog months).Keeps c.step fun _ ↦ True := by
  cases c with
  | reserve id order now entryID =>
    have hreserve : (reserveFromAccount id order entryID).Keeps (ReserveStep id order)
        fun _ ↦ True := by
      simp [reserveFromAccount, createAccountIfMissing, readAccount, createBillingOrder,
        createLedgerEntry, keeps_ite, ReserveStep]
    rw [prog, reserveBillingOrder]
    split
    · exact (readOnly_checkMemberLimit order _).keeps.bind fun _ ↦ hreserve
    · exact hreserve
  | release c hc => exact c.keeps_orderWrite hc

/-! ## The sum -/

/-- What a row adds to the usage of a team member in a month. -/
def countedIn (teamID userID : String) (month : Month) : ∀ k, Row k → ℤ
  | .billingOrder _, o =>
    if o.teamID = teamID ∧ o.userID = userID ∧ month.start ≤ o.createdAt ∧
        o.createdAt < month.stop ∧ o.status ≠ .refunded then
      o.amountMicrocredits
    else 0
  | _, _ => 0

section Usage

variable {team user : String} {month : Month} {s t : Store}

theorem countedIn_of_not_order {k : RowKey} (h : ∀ id, k ≠ .billingOrder id) (r : Row k) :
    countedIn team user month k r = 0 := by
  cases k with
  | billingOrder id => exact absurd rfl (h id)
  | _ => rfl

/-- An order that differs neither in its origin, nor in its amount, nor in being refunded. -/
theorem countedIn_congr {id : String} {o o' : BillingOrder} (horigin : o.origin = o'.origin)
    (hamount : o.amountMicrocredits = o'.amountMicrocredits)
    (hstatus : o.status ≠ .refunded ↔ o'.status ≠ .refunded) :
    countedIn team user month (.billingOrder id) o =
      countedIn team user month (.billingOrder id) o' := by
  simp only [BillingOrder.origin, Prod.mk.injEq] at horigin
  obtain ⟨hteam, huser, hcreated⟩ := horigin
  simp only [countedIn, hteam, huser, hcreated, hamount, hstatus]

theorem ne_refunded_of_isOpen {o : BillingOrder} (h : o.status.isOpen = true) :
    o.status ≠ .refunded := by
  intro heq
  rw [heq] at h
  cases h

/-- The open orders of a member are for amounts that are not negative. -/
def NonnegOpen (team user : String) (s : Store) : Prop :=
  ∀ id o, s.lookup (.billingOrder id) = some o → o.teamID = team → o.userID = user →
    o.status.isOpen = true → 0 ≤ o.amountMicrocredits

/-- What is counted of an open order of a member is not negative. -/
theorem countedIn_nonneg (hs : NonnegOpen team user s) {id : String} {o : BillingOrder}
    (ho : s.lookup (.billingOrder id) = some o) (hopen : o.status.isOpen = true) :
    0 ≤ countedIn team user month (.billingOrder id) o := by
  rw [countedIn]
  split
  · rename_i hcounts
    exact hs id o ho hcounts.1 hcounts.2.1 hopen
  · exact le_rfl

theorem countedIn_le_amount (id : String) {o : BillingOrder} (h : 0 ≤ o.amountMicrocredits) :
    countedIn team user month (.billingOrder id) o ≤ o.amountMicrocredits := by
  rw [countedIn]
  split
  · exact le_rfl
  · exact h

/-- An order settled at its amount at most. -/
theorem countedIn_mono {id : String} {o o' : BillingOrder} (horigin : o'.origin = o.origin)
    (hamount : o'.amountMicrocredits ≤ o.amountMicrocredits) (ho : o.status ≠ .refunded)
    (ho' : o'.status ≠ .refunded) :
    countedIn team user month (.billingOrder id) o' ≤
      countedIn team user month (.billingOrder id) o := by
  simp only [BillingOrder.origin, Prod.mk.injEq] at horigin
  obtain ⟨hteam, huser, hcreated⟩ := horigin
  simp only [countedIn, hteam, huser, hcreated]
  split
  · rename_i hcounts
    rw [if_pos ⟨hcounts.1, hcounts.2.1, hcounts.2.2.1, hcounts.2.2.2.1, ho⟩]
    exact hamount
  · rename_i hnot
    rw [if_neg fun h ↦ hnot ⟨h.1, h.2.1, h.2.2.1, h.2.2.2.1, ho'⟩]

end Usage

/-! ## What the calls have to heed -/

/-- What the call has to heed on committing `ws` on the database `s`; the members' limits are those
of `s₀`, where the run began. -/
def MemberLimitCall.Heeds (months : Months) (s₀ : Store) :
    MemberLimitCall → List (Sigma Row) → Store → Prop
  | .reserve _ order now _, _, _ => order.teamID ≠ "" → 0 ≤ order.amountMicrocredits ∧
      ∀ m, s₀.lookup (.teamMember order.teamID order.userID) = some m →
        0 < m.monthlyCreditLimitMicrocredits →
          months.monthOf order.createdAt = months.monthOf now ∧
          max m.monthlyCreditLimitMicrocredits
            (monthlyUsage order.teamID order.userID (months.monthOf now) s₀) +
              order.amountMicrocredits ≤ maxInt64
  | .release c _, ws, s => ∀ id, c.releases = some id → .billingOrder id ∈ keysOf ws →
      ∃ o, s.lookup (.billingOrder id) = some o ∧ o.status.isOpen = true ∧
        ∀ o', (s.apply ws).lookup (.billingOrder id) = some o' → o'.status = .settled →
          ∀ x, c.charges = some x → x ≤ o.amountMicrocredits

/-- The runs of reservations, settlements and refunds in which the calls heed it. -/
def heeding (months : Months) (s₀ : Store) : System MemberLimitCall Row RepoError Unit where
  prog c := c.prog months
  admits c := c.Heeds months s₀

section Heeds

variable {months : Months} {s₀ s : Store} {team user : String} {month : Month}
  {ws : List (Sigma Row)}

theorem share_le_of_heeds {c : ReleaseCall} {hc : c.isNamed = true} (hs : NonnegOpen team user s)
    (hheeds : (MemberLimitCall.release c hc).Heeds months s₀ ws s)
    (hrow : RowStep (OrderWrite c.releases c.charges) s (s.apply ws)) (k : RowKey) :
    Db.share (countedIn team user month) (s.apply ws) k ≤
      Db.share (countedIn team user month) s k := by
  by_cases hk : ∃ id, k = .billingOrder id
  swap
  · have hzero : ∀ r, countedIn team user month k r = 0 :=
      countedIn_of_not_order (not_exists.mp hk)
    rw [Db.share_of_zero hzero, Db.share_of_zero hzero]
  obtain ⟨id, rfl⟩ := hk
  rcases hrow (.billingOrder id) with heq | ⟨o', ho', o, ho, horigin, hopen, hother, hamount⟩
  · rw [Db.share, heq, Db.share]
  rw [Db.share_of_some ho', Db.share_of_some ho]
  cases hopen' : o'.status.isOpen with
  | true =>
    obtain ⟨ho₁, heq⟩ := hopen hopen'
    exact (countedIn_congr horigin heq
      (iff_of_true (ne_refunded_of_isOpen hopen') (ne_refunded_of_isOpen ho₁))).le
  | false =>
    by_cases htarget : c.releases = some id
    · by_cases hws : .billingOrder id ∈ keysOf ws
      · obtain ⟨o₁, ho₁, hwas, hcharge⟩ := hheeds id htarget hws
        cases ho.symm.trans ho₁
        cases hstatus : o'.status with
        | settled =>
          refine countedIn_mono horigin ?_ (ne_refunded_of_isOpen hwas) (by rw [hstatus]; decide)
          rcases hamount with heq | hx
          · exact heq.le
          · exact hcharge o' ho' hstatus _ hx
        | refunded =>
          have hzero : countedIn team user month (.billingOrder id) o' = 0 := by
            simp [countedIn, hstatus]
          rw [hzero]
          exact countedIn_nonneg hs ho hwas
        | _ => simp [hstatus] at hopen'
      · rw [Db.lookup_apply_of_notMem hws, ho] at ho'
        cases ho'
        exact le_rfl
    · obtain ⟨hiff, hstatus, heq⟩ := hother htarget
      rw [countedIn_congr horigin heq (by rw [hstatus (hiff.symm.trans hopen')])]

/-- **A release that heeds takes nothing into the sum.** -/
theorem usage_le_of_heeds {c : ReleaseCall} {hc : c.isNamed = true} (hs : NonnegOpen team user s)
    (hheeds : (MemberLimitCall.release c hc).Heeds months s₀ ws s)
    (hrow : RowStep (OrderWrite c.releases c.charges) s (s.apply ws)) :
    monthlyUsage team user month (s.apply ws) ≤ monthlyUsage team user month s :=
  Db.total_mono _ (share_le_of_heeds hs hheeds hrow)

/-- What a reservation does to the rows other than its own. -/
theorem share_reserve_of_ne {t : Store} {id : String} {order : BillingOrder}
    (hrow : RowStep (ReserveStep id order) s t) {k : RowKey} (hk : k ≠ .billingOrder id) :
    Db.share (countedIn team user month) t k = Db.share (countedIn team user month) s k := by
  by_cases horder : ∃ id', k = .billingOrder id'
  · obtain ⟨id', rfl⟩ := horder
    rcases hrow (.billingOrder id') with heq | ⟨o, -, -, rfl, -⟩
    · rw [Db.share, heq, Db.share]
    · exact absurd rfl hk
  · have hzero : ∀ r, countedIn team user month k r = 0 :=
      countedIn_of_not_order (not_exists.mp horder)
    rw [Db.share_of_zero hzero, Db.share_of_zero hzero]

/-- **A reservation adds at most the amount of its order**, -/
theorem usage_le_add_of_reserve {t : Store} {id : String} {order : BillingOrder}
    (hrow : RowStep (ReserveStep id order) s t) (hamount : 0 ≤ order.amountMicrocredits) :
    monthlyUsage team user month t ≤
      monthlyUsage team user month s + order.amountMicrocredits := by
  refine Db.total_le_add _ (.billingOrder id) (fun k hk ↦ (share_reserve_of_ne hrow hk).le) ?_
  rcases hrow (.billingOrder id) with heq | ⟨o, ho, hnone, -, horder⟩
  · rw [Db.share, heq]
    exact le_add_of_nonneg_right hamount
  · rw [Db.share_of_some ho, Db.share_of_none hnone, zero_add, horder]
    exact countedIn_le_amount id hamount

/-- and nothing to the usage of another member, or in another month. -/
theorem usage_le_of_reserve {t : Store} {id : String} {order : BillingOrder}
    (hrow : RowStep (ReserveStep id order) s t)
    (hnot : countedIn team user month (.billingOrder id) order = 0) :
    monthlyUsage team user month t ≤ monthlyUsage team user month s := by
  refine Db.total_mono _ fun k ↦ ?_
  by_cases hk : k = .billingOrder id
  · subst hk
    rcases hrow (.billingOrder id) with heq | ⟨o, ho, hnone, -, horder⟩
    · rw [Db.share, heq, Db.share]
    · rw [Db.share_of_some ho, Db.share_of_none hnone, horder]
      exact hnot.le
  · exact (share_reserve_of_ne hrow hk).le

end Heeds

/-! ## The contract -/

/-- The call reserves for the member, with an order of the month. -/
def MemberLimitCall.IsFor (team user : String) (month : Month) : MemberLimitCall → Prop
  | .reserve _ order _ _ => order.teamID = team ∧ order.userID = user ∧
      month.start ≤ order.createdAt ∧ order.createdAt < month.stop
  | .release _ _ => False

/-- The order a reservation enters. -/
def MemberLimitCall.Enters (s : Store) : MemberLimitCall → Prop
  | .reserve id order _ _ => s.lookup (.billingOrder id) = some order
  | .release _ _ => True

section Contract

variable (months : Months) (s₀ : Store) (team user : String) (month : Month)

/-- The member's usage in the month is within the limit, if there is one. -/
def Within (s : Store) : Prop :=
  ∀ m, s₀.lookup (.teamMember team user) = some m → 0 < m.monthlyCreditLimitMicrocredits →
    monthlyUsage team user month s ≤ m.monthlyCreditLimitMicrocredits

/-- What holds between transactions. -/
structure MemberLimitTables (s : Store) : Prop where
  member : s.lookup (.teamMember team user) = s₀.lookup (.teamMember team user)
  amounts : NonnegOpen team user s
  usage : ∀ m, s₀.lookup (.teamMember team user) = some m → 0 < m.monthlyCreditLimitMicrocredits →
    monthlyUsage team user month s ≤
      max m.monthlyCreditLimitMicrocredits (monthlyUsage team user month s₀)

/-- What a committed call did to the usage of the member in the month. -/
structure MemberLimitPost (c : MemberLimitCall) (locks : List RowKey) (s s' : Store) : Prop where
  others : ¬c.IsFor team user month →
    monthlyUsage team user month s' ≤ monthlyUsage team user month s
  own : c.IsFor team user month →
    .teamMember team user ∈ locks ∧ c.Enters s' ∧ Within s₀ team user month s'

/-- What the transactions promise one another about the member and the month. -/
def memberLimitContract : Contract RowKey MemberLimitCall Row Unit where
  inv := MemberLimitTables s₀ team user month
  row c := c.step
  post c locks _ := MemberLimitPost s₀ team user month c locks

/-- The check has read the sum, and has passed; `order` is what it was for. -/
structure Checked (order : BillingOrder) (now : Time) (locks : List RowKey) (s : Store) : Prop where
  locked : .teamMember team user ∈ locks
  passed : ∀ m, s₀.lookup (.teamMember team user) = some m → 0 < m.monthlyCreditLimitMicrocredits →
    months.monthOf now = month → ∃ used, IsInt64 used ∧ monthlyUsage team user month s ≤ used ∧
      used ≤ max m.monthlyCreditLimitMicrocredits (monthlyUsage team user month s₀) ∧
      wrap64 (used + order.amountMicrocredits) ≤ m.monthlyCreditLimitMicrocredits

end Contract

section Meets

variable {months : Months} {s₀ s t : Store} {team user : String} {month : Month}
  {locks locks' : List RowKey} {ws : List (Sigma Row)} {order : BillingOrder} {now : Time}

/-- **Nobody adds to the sum while the member's row is locked.** -/
theorem usage_le_of_rely (h : (memberLimitContract s₀ team user month).Rely locks s t)
    (hlocked : .teamMember team user ∈ locks) :
    monthlyUsage team user month t ≤ monthlyUsage team user month s := by
  refine h.lift (P := fun u v : Store ↦
    monthlyUsage team user month v ≤ monthlyUsage team user month u) (fun _ ↦ le_rfl)
    (fun _ _ _ h h' ↦ h'.trans h) fun c locks' _ u v hdisj hcommit ↦ ?_
  by_cases hfor : c.IsFor team user month
  · exact absurd (hcommit.post.own hfor).1 (hdisj hlocked)
  · exact hcommit.post.others hfor

theorem Checked.rely (h : Checked months s₀ team user month order now locks s)
    (hr : (memberLimitContract s₀ team user month).Rely locks s t) :
    Checked months s₀ team user month order now locks t := by
  refine ⟨h.locked, fun m hm hpos hmonth ↦ ?_⟩
  obtain ⟨used, hint, hused, hrest⟩ := h.passed m hm hpos hmonth
  exact ⟨used, hint, (usage_le_of_rely hr h.locked).trans hused, hrest⟩

theorem Checked.mono (h : Checked months s₀ team user month order now locks s)
    (hsub : locks ⊆ locks') : Checked months s₀ team user month order now locks' s :=
  ⟨hsub h.locked, h.passed⟩

theorem meets_checkMemberLimit (hteam : order.teamID = team) (huser : order.userID = user) :
    (checkMemberLimit order (months.monthOf now)).Meets (memberLimitContract s₀ team user month)
      (fun _ locks _ s ↦ Checked months s₀ team user month order now locks s) locks [] s := by
  rw [checkMemberLimit, meets_bind, hteam, huser]
  refine meets_firstForUpdate fun s₁ hs₁ member hmember _ ↦ ?_
  have hmember₀ : s₀.lookup (.teamMember team user) = some member :=
    hs₁.2.member.symm.trans hmember
  refine meets_ite (fun _ ↦ ?_) fun hnot ↦ meets_pure ⟨by simp, fun m hm hpos ↦ ?_⟩
  · rw [meets_bind]
    refine meets_statement fun s₂ hs₂ ws' used hact ↦ meets_ite (fun _ ↦ by simp) fun hle ↦ ?_
    obtain ⟨x, hx, heq⟩ := map_eq_ok.mp hact
    cases heq
    obtain ⟨rfl, hint⟩ := bigint_ok hx
    refine meets_pure ⟨by simp, fun m hm hpos hmonth ↦ ?_⟩
    cases hmember₀.symm.trans hm
    rw [hmonth] at hint hle
    exact ⟨_, hint, le_rfl, hs₂.2.usage _ hm hpos, not_lt.mp hle⟩
  · cases hmember₀.symm.trans hm
    exact absurd hpos hnot

/-- The order is entered, and so it will be when the transaction commits. -/
def Entered (id : String) (order : BillingOrder) (locks : List RowKey) (ws : List (Sigma Row))
    (s : Store) : Prop :=
  ∃ old, Pinned locks ws s (.billingOrder id) old (some order)

theorem meets_reserveFromAccount {id : String} (entryID : String)
    (hs : MemberLimitTables s₀ team user month s)
    (h : Checked months s₀ team user month order now locks s) :
    (reserveFromAccount id order entryID).Meets (memberLimitContract s₀ team user month)
      (fun _ locks ws s ↦ Checked months s₀ team user month order now locks s ∧
        Entered id order locks ws s) locks ws s := by
  -- what the statements before the order is entered do does not matter
  have hany : ∀ {α : Type} (p : DbTx α) {locks ws s}, MemberLimitTables s₀ team user month s →
      Checked months s₀ team user month order now locks s →
      p.Meets (memberLimitContract s₀ team user month) (fun _ locks _ s ↦
        MemberLimitTables s₀ team user month s ∧
        Checked months s₀ team user month order now locks s) locks ws s :=
    fun p _ _ _ hs h ↦ meets_of_rely hs fun _ _ _ _ hsub hr ↦ ⟨hr.2, (h.rely hr).mono hsub⟩
  rw [reserveFromAccount, meets_bind]
  refine (hany _ hs h).imp fun _ locks₁ ws₁ s₁ h₁ ↦ ?_
  rw [meets_bind]
  refine (hany _ h₁.1 h₁.2).imp fun updated locks₂ ws₂ s₂ h₂ ↦ ?_
  refine meets_ite (fun _ ↦ by simp) fun _ ↦ ?_
  rw [meets_bind]
  refine (hany _ h₂.1 h₂.2).imp fun account locks₃ ws₃ s₃ h₃ ↦ ?_
  rw [meets_bind, createBillingOrder]
  refine meets_create fun s₄ hs₄ _ _ ↦ ?_
  obtain ⟨old, hold⟩ : ∃ old, s₄.lookup (.billingOrder id) = old := ⟨_, rfl⟩
  have hpinned : Pinned (locks₃ ++ (.billingOrder id ::
      [.index (.billingIdempotency order.userID order.idempotencyKey)] ++ [.billingOrder id]))
      (ws₃ ++ [⟨.billingOrder id, order⟩]) s₄ (.billingOrder id) old (some order) :=
    .write hold (by simp) order
  have hledger : (createLedgerEntry entryID (order.reserveEntry id account)).WritesOnly
      (· ≠ .billingOrder id) := by
    simp [createLedgerEntry]
  refine meets_of_writesOnly hledger hs₄.2 fun _ locks₅ ws₅ s₅ hsub hws hr ↦ ?_
  refine ⟨(((h₃.2.rely hs₄).mono (by simp)).rely hr).mono hsub, old, ?_⟩
  exact (hpinned.rely hr).append hsub fun hmem ↦ hws _ hmem rfl

/-- **A reservation for the member that has checked the limit keeps it.** -/
theorem usage_le_of_checked {m : TeamMember} {id : String}
    (hm : s₀.lookup (.teamMember team user) = some m) (hpos : 0 < m.monthlyCreditLimitMicrocredits)
    (h : Checked months s₀ team user month order now locks s) (hmonth : months.monthOf now = month)
    (hrow : RowStep (ReserveStep id order) s t) (hamount : 0 ≤ order.amountMicrocredits)
    (hfits : max m.monthlyCreditLimitMicrocredits (monthlyUsage team user month s₀) +
      order.amountMicrocredits ≤ maxInt64) :
    monthlyUsage team user month t ≤ m.monthlyCreditLimitMicrocredits := by
  obtain ⟨used, ⟨hlow, -⟩, hused, hmax, hle⟩ := h.passed m hm hpos hmonth
  have hint : IsInt64 (used + order.amountMicrocredits) := ⟨by omega, by omega⟩
  rw [wrap64_eq_self hint] at hle
  exact (usage_le_add_of_reserve hrow hamount).trans (by omega)

theorem nonnegOpen_step {c : MemberLimitCall} (hteam : team ≠ "") (hs : NonnegOpen team user s)
    (hheeds : c.Heeds months s₀ ws s) (hrow : RowStep c.step s t) : NonnegOpen team user t := by
  intro id o' ho' hto huo hopen
  rcases hrow (.billingOrder id) with heq | ⟨r, hr, hstep⟩
  · exact hs id o' (heq.symm.trans ho') hto huo hopen
  cases hr.symm.trans ho'
  cases c with
  | reserve id' order =>
    obtain ⟨-, -, rfl⟩ := hstep
    exact (hheeds (by rwa [hto])).1
  | release c =>
    obtain ⟨o, ho, horigin, hsame, -⟩ := hstep
    obtain ⟨hwas, hamount⟩ := hsame hopen
    simp only [BillingOrder.origin, Prod.mk.injEq] at horigin
    rw [hamount]
    exact hs id o ho (horigin.1.symm.trans hto) (horigin.2.1.symm.trans huo) hwas

/-- No call writes the rows of members. -/
theorem not_step_teamMember (c : MemberLimitCall) (o : Option (Row (.teamMember team user)))
    (r : Row (.teamMember team user)) : ¬c.step (.teamMember team user) o r := by
  cases c with
  | reserve => exact id
  | release => exact id

/-- What is left to show of a transaction that is about to commit. -/
theorem commits_of_memberLimitPost {c : MemberLimitCall} (hteam : team ≠ "")
    (h : ∀ t, (memberLimitContract s₀ team user month).Rely locks s t → c.Heeds months s₀ ws t →
      RowStep c.step t (t.apply ws) → MemberLimitPost s₀ team user month c locks t (t.apply ws)) :
    Commits (heeding months s₀) (memberLimitContract s₀ team user month) c () locks ws s := by
  intro t hr hheeds _ hrow
  have hpost := h t hr hheeds hrow
  refine ⟨hpost, ?_, nonnegOpen_step hteam hr.2.amounts hheeds hrow, fun m hm hpos ↦ ?_⟩
  · exact ((hrow (.teamMember team user)).resolve_right fun ⟨_, _, hstep⟩ ↦
      not_step_teamMember c _ _ hstep).trans hr.2.member
  · by_cases hfor : c.IsFor team user month
    · exact ((hpost.own hfor).2.2 m hm hpos).trans (le_max_left _ _)
    · exact (hpost.others hfor).trans (hr.2.usage m hm hpos)

theorem commits_of_release {c : ReleaseCall} {hc : c.isNamed = true} (hteam : team ≠ "") :
    Commits (heeding months s₀) (memberLimitContract s₀ team user month) (.release c hc) () locks ws
      s :=
  commits_of_memberLimitPost hteam fun _ hr hheeds hrow ↦
    ⟨fun _ ↦ usage_le_of_heeds hr.2.amounts hheeds hrow, fun hfor ↦ hfor.elim⟩

/-- A reservation that is not for the member, or not in the month, adds nothing. -/
theorem usage_le_of_not_isFor {id entryID : String}
    (hnot : ¬(MemberLimitCall.reserve id order now entryID).IsFor team user month)
    (hrow : RowStep (ReserveStep id order) s t) :
    monthlyUsage team user month t ≤ monthlyUsage team user month s := by
  refine usage_le_of_reserve hrow (if_neg fun h ↦ hnot ?_)
  exact ⟨h.1, h.2.1, h.2.2.1, h.2.2.2.1⟩

theorem commits_of_checked {id entryID : String} (hteam : team ≠ "") {at' : Time}
    (hmonth : months.monthOf at' = month)
    (h : Checked months s₀ team user month order now locks s)
    (hentered : Entered id order locks ws s) :
    Commits (heeding months s₀) (memberLimitContract s₀ team user month)
      (.reserve id order now entryID) () locks ws s := by
  refine commits_of_memberLimitPost hteam fun t hr hheeds hrow ↦
    ⟨fun hnot ↦ usage_le_of_not_isFor hnot hrow, fun hfor ↦ ⟨h.locked, ?_, fun m hm hpos ↦ ?_⟩⟩
  · obtain ⟨old, hpinned⟩ := hentered
    exact (hpinned.rely hr).view
  · obtain ⟨rfl, rfl, hin⟩ := hfor
    obtain ⟨hamount, hfits⟩ := hheeds hteam
    obtain ⟨hsame, hfits⟩ := hfits m hm hpos
    subst hmonth
    have hnow : months.monthOf now = months.monthOf at' :=
      hsame.symm.trans ((months.mem_iff at' order.createdAt).mp hin)
    rw [hnow] at hfits
    exact usage_le_of_checked hm hpos (h.rely hr) hnow hrow hamount hfits

/-- **Every call meets the contract.** -/
theorem MemberLimitCall.meets_prog (hteam : team ≠ "") {at' : Time}
    (hmonth : months.monthOf at' = month) (c : MemberLimitCall)
    (hs : MemberLimitTables s₀ team user month s) :
    (c.prog months).Meets (memberLimitContract s₀ team user month)
      (Commits (heeding months s₀) (memberLimitContract s₀ team user month) c) [] [] s := by
  cases c with
  | release c hc =>
    exact meets_of_rely hs fun _ _ _ _ _ _ ↦ commits_of_release hteam
  | reserve id order now entryID =>
    by_cases hfor : order.teamID = team ∧ order.userID = user
    · obtain ⟨hto, huo⟩ := hfor
      rw [prog, reserveBillingOrder, if_pos (by rwa [hto]), meets_bind]
      refine ((meets_checkMemberLimit hto huo).inv hs).imp fun _ locks ws s₁ h ↦ ?_
      exact (meets_reserveFromAccount entryID h.2 h.1).imp fun _ _ _ _ hend ↦
        commits_of_checked hteam hmonth hend.1 hend.2
    · refine meets_of_rely hs fun _ locks ws s₁ _ _ ↦
        commits_of_memberLimitPost hteam fun t hr _ hrow ↦ ?_
      have hnot : ¬(MemberLimitCall.reserve id order now entryID).IsFor team user month :=
        fun h ↦ hfor ⟨h.1, h.2.1⟩
      exact ⟨fun _ ↦ usage_le_of_not_isFor hnot hrow, fun h ↦ absurd h hnot⟩

end Meets

/-! ## Runs -/

/-- What is to hold of a reservation on the account of a team with a member whose usage is limited:
once it has committed, its order is there, and the member's orders of the month are within the
limit. -/
def WithinLimit (months : Months) (e : Ended MemberLimitCall Row Unit) : Prop :=
  ∀ id order now entryID, e.call = .reserve id order now entryID → order.teamID ≠ "" →
    e.result.isSome = true → e.after.lookup (.billingOrder id) = some order ∧
      ∀ m, e.after.lookup (.teamMember order.teamID order.userID) = some m →
        0 < m.monthlyCreditLimitMicrocredits →
          monthlyUsage order.teamID order.userID (months.monthOf order.createdAt) e.after ≤
            m.monthlyCreditLimitMicrocredits

/-- **Reservations stay within the limit.** -/
theorem reservations_withinLimit (months : Months) {s₀ : Store}
    (hs₀ : ∀ team user, team ≠ "" → NonnegOpen team user s₀)
    {cfg : Config MemberLimitCall Row RepoError Unit}
    (h : Reach (heeding months s₀) (.init s₀) cfg) : ∀ e ∈ cfg.log, WithinLimit months e := by
  intro e he id order now entryID hcall hteam hsome
  have hok := Contract.sound (C := memberLimitContract s₀ order.teamID order.userID
    (months.monthOf order.createdAt)) rowTrans_memberLimitStep
    (MemberLimitCall.keeps_prog months)
    (fun c _ hs ↦ c.meets_prog hteam rfl hs)
    ⟨rfl, hs₀ _ _ hteam, fun _ _ _ ↦ le_max_right _ _⟩ h
  have hfulfilled := hok.log e he
  rw [Contract.Fulfilled] at hfulfilled
  cases hres : e.result with
  | none =>
    rw [hres] at hsome
    cases hsome
  | some a =>
    rw [hres] at hfulfilled
    obtain ⟨locks, hcommit⟩ := hfulfilled
    have hpost := hcommit.post
    rw [hcall] at hpost
    obtain ⟨-, hentered, hwithin⟩ := hpost.own ⟨rfl, rfl, (months.mem_iff _ _).mpr rfl⟩
    exact ⟨hentered, fun m hm ↦ hwithin m (hcommit.after.member.symm.trans hm)⟩

/-! ### Two reservations of one member -/

/-- Months of ten nanoseconds. -/
def decades : Months where
  monthOf t := ⟨t / 10 * 10, t / 10 * 10 + 10⟩
  mem_iff t u := by
    simp only [Month.mk.injEq, Time] at *
    omega

/-- An order of the member that has been settled. -/
def settledOrder (amount : ℤ) : BillingOrder where
  teamID := "t"
  userID := "u"
  amountMicrocredits := amount
  status := .settled
  createdAt := 1

/-- A member with a limit, an order of the month that is settled, and what the team has left. -/
def limitedMember (limit spent available : ℤ) : Store :=
  AList.insert (.teamMember "t" "u") { monthlyCreditLimitMicrocredits := limit } <|
    AList.insert (.creditAccount (.team "t")) ⟨available, 0⟩ <|
      AList.insert (.billingOrder "o") (settledOrder spent) ∅

/-- The order a member reserves for. -/
def memberOrder (amount : ℤ) : BillingOrder where
  teamID := "t"
  userID := "u"
  idempotencyKey := "k"
  amountMicrocredits := amount
  createdAt := 2

def reservation (amount : ℤ) : MemberLimitCall := .reserve "p" (memberOrder amount) 2 "e"

theorem nonnegOpen_limitedMember (limit spent available : ℤ) (team user : String) :
    NonnegOpen team user (limitedMember limit spent available) := by
  intro id o ho _ _ hopen
  rcases Db.lookup_insert_cases ho with heq | ⟨-, ho⟩
  · cases heq
  rcases Db.lookup_insert_cases ho with heq | ⟨-, ho⟩
  · cases heq
  rcases Db.lookup_insert_cases ho with heq | ⟨-, ho⟩
  · cases heq
    cases hopen
  · cases ho

/-- The member has spent 60 credits of 100, and reserves 40 more. -/
def fullyReserved : Store :=
  (((reservation 40).prog decades).transact none (limitedMember 100 60 50)).2

theorem run_reservation :
    ((reservation 40).prog decades).run (limitedMember 100 60 50) = .ok ((), fullyReserved) := by
  have h : ((reservation 40).prog decades).transact none (limitedMember 100 60 50) =
      (.ok (), fullyReserved) := rfl
  exact run_of_transact h

theorem reservations_withinLimit_fullyReserved :
    WithinLimit decades ⟨reservation 40, some (), limitedMember 100 60 50, fullyReserved⟩ := by
  refine reservations_withinLimit decades
    (fun team user _ ↦ nonnegOpen_limitedMember 100 60 50 team user)
    (reach_of_run (c := reservation 40) (fun _ _ ↦ ⟨by decide, fun m hm _ ↦ ?_⟩) run_reservation)
    _ List.mem_cons_self
  cases hm
  exact ⟨rfl, by decide⟩

/-- What is left where the amounts are half of what an `int64` holds. -/
def overspent : Store :=
  (((reservation (2 ^ 62)).prog decades).transact none (limitedMember (2 ^ 62) (2 ^ 62) (2 ^ 62))).2

theorem run_reservation_overspent :
    ((reservation (2 ^ 62)).prog decades).run (limitedMember (2 ^ 62) (2 ^ 62) (2 ^ 62)) =
      .ok ((), overspent) := by
  have h : ((reservation (2 ^ 62)).prog decades).transact none
      (limitedMember (2 ^ 62) (2 ^ 62) (2 ^ 62)) = (.ok (), overspent) := rfl
  exact run_of_transact h

/-- **A member who has used up the limit, and reserves as much again**: the sum wraps around. -/
theorem exists_reservation_beyond_limit :
    ∃ cfg, Reach (.free (MemberLimitCall.prog decades))
      (.init (limitedMember (2 ^ 62) (2 ^ 62) (2 ^ 62))) cfg ∧
      ∃ e ∈ cfg.log, ¬WithinLimit decades e := by
  refine ⟨_, reach_of_run (S := .free (MemberLimitCall.prog decades)) (c := reservation (2 ^ 62))
    (fun _ ↦ trivial) run_reservation_overspent, _, List.mem_cons_self, fun h ↦ ?_⟩
  obtain ⟨-, hwithin⟩ := h "p" (memberOrder (2 ^ 62)) 2 "e" rfl (by decide) rfl
  have hle := hwithin { monthlyCreditLimitMicrocredits := 2 ^ 62 } rfl (by decide)
  exact absurd hle (by decide)

end HMaigc
