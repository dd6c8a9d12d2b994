import HMaigc.Credit.Postings
import HMaigc.Repository.Footprint

/-!
# Programs that keep the books

* `Sound` — the amounts an operation reads back from the database are non-negative: those of open
  orders, of redeem codes and of top-up orders.
* `Neutral` — writes that the books do not notice: other tables, and orders that keep payer, amount
  and openness.  Most statements of most operations are of this kind (`books_of_neutral`).
* `Conserves p` — the program `p` keeps the books balanced and the amounts sound.  It composes
  (`Conserves.bind`), holds of neutral programs (`Conserves.of_neutral`), and of programs that make a
  posting (`Kept.posts`).
-/

set_option autoImplicit false

namespace HMaigc

open Sql Go Prog

/-! ## Sound amounts -/

/-- The amounts a row carries are non-negative. -/
def Sane : ∀ k, Row k → Prop
  | .billingOrder _, o => o.status.isOpen = true → 0 ≤ o.amountMicrocredits
  | .redeemCode _, c => 0 ≤ c.amountMicrocredits
  | .creditTopupOrder _, o => 0 ≤ o.totalMicrocredits
  | _, _ => True

/-- Every stored amount is non-negative. -/
def Sound (s : Store) : Prop := ∀ k r, s.lookup k = some r → Sane k r

/-- A write that puts no negative amount where there was none. -/
def StaysSane (k : RowKey) (old : Option (Row k)) (new : Row k) : Prop :=
  (∀ r, old = some r → Sane k r) → Sane k new

theorem rowTrans_staysSane : RowTrans StaysSane := by
  intro k o r r' h h' hold
  refine h' fun r'' hr'' ↦ ?_
  cases hr''
  exact h hold

theorem Sound.rowStep {s s' : Store} (hs : Sound s) (h : RowStep StaysSane s s') : Sound s' := by
  intro k r hr
  rcases h k with heq | ⟨r', hr', hsane⟩
  · exact hs k r (heq ▸ hr)
  · rw [hr'] at hr
    cases hr
    exact hsane fun r hold ↦ hs k r hold

/-! ## Neutral writes -/

/-- A write the books do not notice. -/
def Neutral : ∀ k, Option (Row k) → Row k → Prop
  | .creditAccount _, _, _ => False
  | .creditLedgerEntry _ _, _, _ => False
  | .billingOrder _, old, o => ∃ o', old = some o' ∧ o.payer = o'.payer ∧
      o.amountMicrocredits = o'.amountMicrocredits ∧ o.status.isOpen = o'.status.isOpen
  | .redeemCode id, old, c => StaysSane (.redeemCode id) old c
  | .creditTopupOrder id, old, o => StaysSane (.creditTopupOrder id) old o
  | _, _, _ => True

theorem rowTrans_neutral : RowTrans Neutral := by
  intro k o r r' h h'
  cases k with
  | creditAccount q => exact h
  | creditLedgerEntry b id => exact h
  | billingOrder id =>
    obtain ⟨o', rfl, hp, ha, hs⟩ := h
    obtain ⟨o'', heq, hp', ha', hs'⟩ := h'
    cases heq
    exact ⟨o', rfl, hp'.trans hp, ha'.trans ha, hs'.trans hs⟩
  | redeemCode id => exact rowTrans_staysSane _ _ _ _ h h'
  | creditTopupOrder id => exact rowTrans_staysSane _ _ _ _ h h'
  | _ => trivial

theorem Neutral.staysSane {k : RowKey} {old : Option (Row k)} {new : Row k}
    (h : Neutral k old new) : StaysSane k old new := by
  intro hold
  cases k with
  | billingOrder id =>
    obtain ⟨o', rfl, -, hamount, hopen⟩ := h
    exact fun hnew ↦ hamount ▸ hold o' rfl (hopen ▸ hnew)
  | redeemCode id => exact h hold
  | creditTopupOrder id => exact h hold
  | creditAccount q => trivial
  | creditLedgerEntry b id => trivial
  | _ => trivial

/-- Rows of tasks are neutral. -/
theorem neutral_of_taskSide {α : Type} {p : DbTx α} (h : p.WritesOnly (·.isTaskSide)) :
    p.Keeps Neutral fun _ ↦ True :=
  h.imp fun k old new hk ↦ by
    cases k <;> trivial

/-- Checkouts and audit events are neutral. -/
theorem neutral_of_orderSide {α : Type} {p : DbTx α} (h : p.WritesOnly (·.isOrderSide)) :
    p.Keeps Neutral fun _ ↦ True :=
  h.imp fun k old new hk ↦ by
    cases k <;> trivial

/-- **Neutral writes leave everybody's books as they were.** -/
theorem books_of_neutral {s s' : Store} (h : RowStep Neutral s s') (p : Payer) :
    books p s' = books p s := by
  have haccount : s'.lookup (.creditAccount p) = s.lookup (.creditAccount p) := by
    rcases h (.creditAccount p) with heq | ⟨_, _, hfalse⟩
    · exact heq
    · exact hfalse.elim
  have hentry : ∀ f, Db.total (postedBy p f) s' = Db.total (postedBy p f) s := fun f ↦ by
    refine Db.total_congr _ fun k ↦ ?_
    rcases h k with heq | ⟨r, hr, hn⟩
    · rw [Db.share, Db.share, heq]
    · cases k with
      | creditLedgerEntry b id => exact hn.elim
      | _ => rw [Db.share_of_zero fun _ ↦ rfl, Db.share_of_zero fun _ ↦ rfl]
  have horder : Db.total (heldBy p) s' = Db.total (heldBy p) s := by
    refine Db.total_congr _ fun k ↦ ?_
    rcases h k with heq | ⟨r, hr, hn⟩
    · rw [Db.share, Db.share, heq]
    · cases k with
      | billingOrder id =>
        obtain ⟨o', ho', hp, ha, hs⟩ := hn
        rw [Db.share_of_some hr, Db.share_of_some ho']
        simp [heldBy, BillingOrder.holds, hp, ha, hs]
      | _ => rw [Db.share_of_zero fun _ ↦ rfl, Db.share_of_zero fun _ ↦ rfl]
  simp only [books, ledgerAvailable, ledgerReserved, heldByOrders, hentry, horder, accountOf,
    haccount]

/-! ## Conserving programs -/

/-- What every operation keeps. -/
structure Kept (s : Store) : Prop where
  conserved : Conserved s
  sound : Sound s

/-- A program that keeps the books balanced and the amounts sound. -/
def Conserves {α : Type} (p : DbTx α) : Prop := ∀ s, Kept s → p.Post s fun _ s' ↦ Kept s'

section Conserves

variable {α γ : Type} {p : DbTx α} {s : Store}

theorem Kept.neutral {s' : Store} (hs : Kept s) (h : RowStep Neutral s s') : Kept s' where
  conserved := hs.conserved.congr (books_of_neutral h)
  sound := hs.sound.rowStep fun k ↦ (h k).imp_right fun ⟨r, hr, hn⟩ ↦ ⟨r, hr, hn.staysSane⟩

theorem Kept.insert (hs : Kept s) {k : RowKey} {r : Row k} (h : Neutral k (s.lookup k) r) :
    Kept (s.insert k r) :=
  hs.neutral (rowStep_insert h)

theorem Conserves.of_neutral (h : p.Keeps Neutral fun _ ↦ True) : Conserves p := fun s hs ↦
  (post_of_keeps rowTrans_neutral h s).mono fun _ _ hstep ↦ hs.neutral hstep.1

theorem Conserves.bind {f : α → DbTx γ} (hp : Conserves p) (hf : ∀ a, Conserves (f a)) :
    Conserves (p >>= f) := by
  intro s hs
  rw [post_bind]
  exact (hp s hs).mono fun a s' hs' ↦ hf a s' hs'

theorem Conserves.done (a : α) : Conserves (.done a : DbTx α) := fun s hs ↦ by simpa using hs

theorem Conserves.fail (e : RepoError) : Conserves (.fail e : DbTx α) := fun s _ ↦ by simp

theorem Conserves.ite {c : Prop} [Decidable c] {q : DbTx α} (hp : c → Conserves p)
    (hq : ¬c → Conserves q) : Conserves (if c then p else q) := by
  by_cases h : c
  · rw [if_pos h]
    exact hp h
  · rw [if_neg h]
    exact hq h

/-- A program that posts keeps what is kept, if the amounts it writes are sound. -/
theorem Kept.posts (hs : Kept s) (hsane : p.Keeps StaysSane fun _ ↦ True) {q : Payer}
    {available reserved : ℤ} (hposts : p.Post s fun _ s' ↦ Posts q available reserved s s') :
    p.Post s fun _ s' ↦ Kept s' := fun a s' hrun ↦
  ⟨(hposts a s' hrun).conserved hs.conserved,
    hs.sound.rowStep (post_of_keeps rowTrans_staysSane hsane s a s' hrun).1⟩

end Conserves

end HMaigc
