import HMaigc.Credit.Books
import HMaigc.Repository.Membership
import HMaigc.Repository.TokenBilling

/-!
# What each piece of the repository posts

The pieces of code that move credits, one lemma each: run alone on a database whose books are
balanced, the piece makes exactly one posting on one payer's books.  `reserveFromAccount` moves the
order's amount from available to reserved, `settleReservation` takes it away, `refundBillingOrderTx`
moves it back, a token settlement takes the reservation away and returns the rest, and the grants
add to what is available.

The proofs have one shape.  The rules of `Prog.Post` execute the piece; each write is a change of
the payer's books (`HMaigc.Credit.Books`); the changes are added up.  Whether the posting is covered
comes from the statement's own condition and from the range check of the columns — except in a
token settlement, which computes in Go: there it has to be assumed (`posts_settleAccount`).
-/

set_option autoImplicit false

namespace HMaigc

open Sql Go Prog

variable {s : Store} {q : Payer}

/-! ## Moving an account -/

theorem changes_move {a a' : CreditAccount} {x y : ℤ} (ha : s.lookup (.creditAccount q) = some a)
    (hmove : a.move x y = .ok a') :
    Changes q ⟨x, y, 0, 0, 0⟩ s (s.insert (.creditAccount q) a') := by
  obtain ⟨hx, hy, -⟩ := CreditAccount.move_ok hmove
  simpa [hx, hy] using changes_account ha a'

theorem books_available {a : CreditAccount} (ha : s.lookup (.creditAccount q) = some a) :
    (books q s).available = a.availableMicrocredits := by
  rw [books, accountOf_of_some ha]

theorem books_reserved {a : CreditAccount} (ha : s.lookup (.creditAccount q) = some a) :
    (books q s).reserved = a.reservedMicrocredits := by
  rw [books, accountOf_of_some ha]

/-- The database does not store a balance that is out of range. -/
theorem covers_of_move {a a' : CreditAccount} {x y : ℤ} (ha : s.lookup (.creditAccount q) = some a)
    (hmove : a.move x y = .ok a') (hx : 0 ≤ a.availableMicrocredits + x)
    (hy : 0 ≤ a.reservedMicrocredits + y) : (books q s).Covers x y := by
  obtain ⟨hax, hry, ⟨-, hmax⟩, -, hmax'⟩ := CreditAccount.move_ok hmove
  constructor <;> simp only [books_available ha, books_reserved ha] <;> omega

/-- From `s` to `s'` a missing account row was created, or nothing happened. -/
structure Opened (q : Payer) (s s' : Store) : Prop where
  changes : Changes q 0 s s'
  others : ∀ k, k ≠ .creditAccount q → s'.lookup k = s.lookup k

theorem Opened.conserved {s' : Store} (h : Opened q s s') (hs : Conserved s) : Conserved s' :=
  hs.congr h.changes.books_eq

theorem post_createAccountIfMissing {Q : ℕ → Store → Prop}
    (h : ∀ n s', Opened q s s' → Q n s') : (createAccountIfMissing q).Post s Q := by
  rw [createAccountIfMissing, post_createIgnore]
  exact ⟨fun hnone _ ↦ h _ _ ⟨changes_newAccount hnone, fun k hk ↦ AList.lookup_insert_ne hk⟩,
    fun _ ↦ h _ _ ⟨.refl q s, fun _ _ ↦ rfl⟩⟩

/-- A ledger entry is posted to its payer's ledger. -/
theorem post_createLedgerEntry {id : String} {entry : CreditLedgerEntry} {Q : Unit → Store → Prop}
    (h : ∀ s', Changes entry.payer ⟨0, 0, entry.availableDeltaMicrocredits,
      entry.reservedDeltaMicrocredits, 0⟩ s s' → Q () s') :
    (createLedgerEntry id entry).Post s Q := by
  rw [createLedgerEntry, post_create]
  exact fun hnone _ ↦ h _ (changes_entry _ _ hnone)

/-! ## Reserving and releasing -/

theorem posts_reserveFromAccount (hs : Conserved s) {order : BillingOrder}
    (hopen : order.status.isOpen = true) (hamount : 0 ≤ order.amountMicrocredits)
    (id entryID : String) :
    (reserveFromAccount id order entryID).Post s fun _ s' ↦
      Posts order.payer (-order.amountMicrocredits) order.amountMicrocredits s s' := by
  rw [reserveFromAccount, post_bind]
  refine post_createAccountIfMissing fun _ t ht ↦ ?_
  simp [post_ite, readAccount, createBillingOrder, createLedgerEntry]
  intro a ha hle a' hmove hnew _ hentry _
  have hres : 0 ≤ a.reservedMicrocredits :=
    books_reserved ha ▸ (ht.conserved hs order.payer).reserved_nonneg
  refine ⟨?_, ht.changes.books_eq _ ▸ covers_of_move ha hmove (by omega) (by omega)⟩
  have hchanges := ((ht.changes.trans (changes_move ha hmove)).trans
    (changes_newOrder id (by simpa using hnew) hopen)).trans
    (changes_entry entryID (order.reserveEntry id a') (by simpa using hentry))
  exact hchanges.of_eq (by ext <;> simp [posting, BillingOrder.reserveEntry])

/-- The row an order was read from still holds the order's reservation. -/
structure Holds (s : Store) (id : String) (order row : BillingOrder) : Prop where
  lookup : s.lookup (.billingOrder id) = some row
  isOpen : row.status.isOpen = true
  payer : row.payer = order.payer
  amount : row.amountMicrocredits = order.amountMicrocredits

theorem posts_settleReservation (hs : Conserved s) {id : String} {order row : BillingOrder}
    (hrow : Holds s id order row) (providerRequestID entryID : String) (now : Time) :
    (settleReservation id order providerRequestID entryID now).Post s fun _ s' ↦
      Posts order.payer 0 (-order.amountMicrocredits) s s' := by
  obtain ⟨hlookup, hopen, hpayer, hamount⟩ := hrow
  rw [settleReservation]
  simp [post_ite, readAccount, createLedgerEntry, hlookup]
  intro a ha hle a' hmove hentry _
  have hav : 0 ≤ a.availableMicrocredits :=
    books_available ha ▸ (hs order.payer).available_nonneg
  refine ⟨?_, covers_of_move ha hmove (by omega) (by omega)⟩
  have hclose := changes_closeOrder (s := s.insert (.creditAccount order.payer) a') id
    (row.settle providerRequestID now) (by simpa using hlookup) hopen rfl
  rw [hpayer, hamount] at hclose
  have hchanges := ((changes_move ha hmove).trans hclose).trans
    (changes_entry entryID (order.consumeEntry id a') (by simpa using hentry))
  exact hchanges.of_eq (by
    ext <;> simp [posting, BillingOrder.consumeEntry, BillingOrder.ledgerEntry])

theorem posts_refundBillingOrderTx (hs : Conserved s) {id : String} {order row : BillingOrder}
    (hrow : Holds s id order row) (hnonneg : 0 ≤ order.amountMicrocredits)
    (errorText entryID : String) (now : Time) :
    (refundBillingOrderTx id order errorText entryID now).Post s fun _ s' ↦
      Posts order.payer order.amountMicrocredits (-order.amountMicrocredits) s s' := by
  obtain ⟨hlookup, hopen, hpayer, hamount⟩ := hrow
  rw [refundBillingOrderTx]
  simp [post_ite, readAccount, createLedgerEntry, hlookup]
  intro a ha hle a' hmove hentry _
  have hav : 0 ≤ a.availableMicrocredits :=
    books_available ha ▸ (hs order.payer).available_nonneg
  refine ⟨?_, covers_of_move ha hmove (by omega) (by omega)⟩
  have hclose := changes_closeOrder (s := s.insert (.creditAccount order.payer) a') id
    (row.refund errorText now) (by simpa using hlookup) hopen rfl
  rw [hpayer, hamount] at hclose
  have hchanges := ((changes_move ha hmove).trans hclose).trans
    (changes_entry entryID (order.refundEntry id a' errorText)
      (by simpa using hentry))
  exact hchanges.of_eq (by ext <;> simp [posting, BillingOrder.refundEntry])

/-! ## Token settlements -/

/-- The amounts a token settlement moves, as the entries it posts say them. -/
theorem tokenEntries_deltas (id : String) (order : BillingOrder)
    (settlement : TokenBillingSettlement) (amount : ℤ) (a : CreditAccount) :
    let consume := tokenConsumeEntry id order settlement amount a
    let release := tokenReleaseEntry id order settlement amount a
    let difference := amount - settlement.amountMicrocredits
    (difference ≤ 0 → consume.availableDeltaMicrocredits = difference ∧
      consume.reservedDeltaMicrocredits = -amount) ∧
    (0 < difference → consume.availableDeltaMicrocredits + release.availableDeltaMicrocredits =
        difference ∧
      consume.reservedDeltaMicrocredits + release.reservedDeltaMicrocredits = -amount) := by
  dsimp only [tokenConsumeEntry, tokenReleaseEntry]
  constructor <;> intro h <;> split <;> constructor <;> omega

/-- **A token settlement posts what it should, if Go's addition does not wrap around.**  The charge
may be below, equal to or above the reservation. -/
theorem posts_settleAccount (hs : Conserved s) {id : String} {order : BillingOrder}
    (horder : s.lookup (.billingOrder id) = some order) (hopen : order.status.isOpen = true)
    (hpos : 0 < order.amountMicrocredits) {settlement : TokenBillingSettlement}
    (hfits : ∀ a, s.lookup (.creditAccount order.payer) = some a →
      a.availableMicrocredits + (order.amountMicrocredits - settlement.amountMicrocredits) ≤
        maxInt64)
    (consumeEntryID releaseEntryID : String) :
    (settleAccountTokenBillingTx order.payer id order settlement order.amountMicrocredits
      consumeEntryID releaseEntryID).Post s fun _ s' ↦
        Posts order.payer (order.amountMicrocredits - settlement.amountMicrocredits)
          (-order.amountMicrocredits) s s' := by
  rw [settleAccountTokenBillingTx]
  simp [post_ite, updateSettledTokenOrderTx, horder, hopen]
  intro a ha hres hcov
  have hb := hs order.payer
  have hav : 0 ≤ a.availableMicrocredits := books_available ha ▸ hb.available_nonneg
  have hale : a.availableMicrocredits ≤ maxInt64 := books_available ha ▸ hb.available_le
  have hre : 0 ≤ a.reservedMicrocredits := books_reserved ha ▸ hb.reserved_nonneg
  have hrle : a.reservedMicrocredits ≤ maxInt64 := books_reserved ha ▸ hb.reserved_le
  -- neither new balance leaves the range, so Go's sums are the true ones
  have hwrapA : (a.settleToken order.amountMicrocredits settlement.amountMicrocredits
      ).availableMicrocredits = a.availableMicrocredits +
        (order.amountMicrocredits - settlement.amountMicrocredits) :=
    wrap64_eq_self ⟨by rw [minInt64]; omega, hfits a ha⟩
  have hwrapR : (a.settleToken order.amountMicrocredits settlement.amountMicrocredits
      ).reservedMicrocredits = a.reservedMicrocredits - order.amountMicrocredits :=
    wrap64_eq_self ⟨by rw [minInt64]; omega, by omega⟩
  have hcovers : (books order.payer s).Covers
      (order.amountMicrocredits - settlement.amountMicrocredits) (-order.amountMicrocredits) := by
    have hfit := hfits a ha
    constructor <;> simp only [books_available ha, books_reserved ha] <;> omega
  generalize ha' : a.settleToken order.amountMicrocredits settlement.amountMicrocredits = a' at *
  obtain ⟨hle, hlt⟩ := tokenEntries_deltas id order settlement order.amountMicrocredits a'
  have hmoved := (changes_account ha a').trans
    (changes_closeOrder id (order.settleToken settlement) (by simpa using horder)
      hopen rfl)
  constructor
  · intro _ _
    refine post_createLedgerEntry fun t ht ↦ ⟨fun h ↦ ⟨?_, hcovers⟩, fun h ↦ ?_⟩
    · obtain ⟨hx, hy⟩ := hle (by omega)
      refine (hmoved.trans ht).of_eq ?_
      ext <;> simp [posting, hx, hy, hwrapA, hwrapR]
    · obtain ⟨hx, hy⟩ := hlt (by omega)
      refine post_createLedgerEntry fun u hu ↦ ⟨?_, hcovers⟩
      refine ((hmoved.trans ht).trans hu).of_eq ?_
      ext <;> simp [posting, hx, hy, hwrapA, hwrapR]
  · intro hnone
    exact absurd ha (hnone a)

/-! ## Grants -/

theorem posts_grantToAccount (hs : Conserved s) {amount : ℤ} (hamount : 0 ≤ amount)
    {post : CreditAccount → CreditLedgerEntry}
    (hpost : ∀ a, (post a).payer = q ∧ (post a).availableDeltaMicrocredits = amount ∧
      (post a).reservedDeltaMicrocredits = 0) (entryID : String) :
    (grantToAccount q amount entryID post).Post s fun _ s' ↦ Posts q amount 0 s s' := by
  rw [grantToAccount, post_bind]
  refine post_createAccountIfMissing fun _ t ht ↦ ?_
  simp [readAccount, createLedgerEntry]
  have hnonneg := ht.conserved hs q
  constructor
  · intro a ha a' hmove hentry _
    have hav : 0 ≤ a.availableMicrocredits := books_available ha ▸ hnonneg.available_nonneg
    have hre : 0 ≤ a.reservedMicrocredits := books_reserved ha ▸ hnonneg.reserved_nonneg
    refine ⟨?_, ht.changes.books_eq _ ▸ covers_of_move ha hmove (by omega) (by omega)⟩
    obtain ⟨hpayer, hx, hy⟩ := hpost a'
    have hentry' := changes_entry entryID (post a')
      (s := t.insert (.creditAccount q) a') (by simpa using hentry)
    rw [hpayer] at hentry' ⊢
    exact ((ht.changes.trans (changes_move ha hmove)).trans hentry').of_eq (by
      ext <;> simp [posting, hx, hy])
  · intro hnone a ha
    exact absurd ha (hnone a)

theorem posts_adjustCredits (hs : Conserved s) (userID actorUserID : String) (amount : ℤ)
    (note entryID : String) :
    (adjustCredits userID actorUserID amount note entryID).Post s fun _ s' ↦
      Posts (.user userID) amount 0 s s' := by
  rw [adjustCredits, post_bind]
  refine post_createAccountIfMissing fun _ t ht ↦ ?_
  simp [post_ite, readAccount]
  intro a ha hcond a' hmove
  refine post_createLedgerEntry fun u hu ↦ ⟨?_, ?_⟩
  · exact ((ht.changes.trans (changes_move ha hmove)).trans hu).of_eq (by
      ext <;> simp [posting, adjustEntry])
  · have hre : 0 ≤ a.reservedMicrocredits :=
      books_reserved ha ▸ (ht.conserved hs _).reserved_nonneg
    exact ht.changes.books_eq _ ▸ covers_of_move ha hmove hcond (by omega)

/-- `GrantCreditsOnce` posts its amount, or finds that it has been posted and does nothing. -/
theorem posts_grantCreditsOnce (hs : Conserved s) (userID : String) (entryType : CreditLedgerType)
    {amount : ℤ} (hamount : 0 ≤ amount) (referenceKey note entryID : String) :
    (grantCreditsOnce userID entryType amount referenceKey note entryID).Post s fun _ s' ↦
      Posts (.user userID) amount 0 s s' ∨ Changes (.user userID) 0 s s' := by
  rw [grantCreditsOnce, post_bind]
  refine post_createAccountIfMissing fun _ t ht ↦ ?_
  simp [readAccount, post_ite]
  refine ⟨fun _ _ _ ↦ .inr ht.changes, fun _ hnone ↦ ?_⟩
  constructor
  · intro a ha a' hmove
    refine .inl ⟨?_, ?_⟩
    · have hnew := changes_entry entryID (grantEntry userID entryType amount referenceKey note) hnone
      have hmoved := changes_move (s := t.insert (.creditLedgerEntry .personal entryID)
        (grantEntry userID entryType amount referenceKey note)) (by simpa using ha) hmove
      have hfilled := changes_overwriteEntry (s := (t.insert (.creditLedgerEntry .personal entryID)
        (grantEntry userID entryType amount referenceKey note)).insert
          (.creditAccount (.user userID)) a') entryID
        (e := grantEntry userID entryType amount referenceKey note)
        ((grantEntry userID entryType amount referenceKey note).fillIn amount a')
        (by simp [grantEntry, Payer.book]) rfl
      exact (((ht.changes.trans hnew).trans hmoved).trans hfilled).of_eq (by
        ext <;> simp [posting, grantEntry, CreditLedgerEntry.fillIn])
    · have hb := ht.conserved hs (.user userID)
      have hav : 0 ≤ a.availableMicrocredits := books_available ha ▸ hb.available_nonneg
      have hre : 0 ≤ a.reservedMicrocredits := books_reserved ha ▸ hb.reserved_nonneg
      exact ht.changes.books_eq _ ▸ covers_of_move ha hmove (by omega) (by omega)
  · intro hnone a ha
    exact absurd ha (hnone a)

/-- `RedeemCode` posts the amount of the code. -/
theorem posts_redeemCode (hs : Conserved s)
    (hcodes : ∀ id code, s.lookup (.redeemCode id) = some code → 0 ≤ code.amountMicrocredits)
    (userID codeHash redeemedIP entryID : String) (now : Time) :
    (redeemCode userID codeHash redeemedIP entryID now).Post s fun _ s' ↦
      ∃ amount, Posts (.user userID) amount 0 s s' := by
  rw [redeemCode]
  simp only [post_bind, post_query]
  cases hcode : redeemCodeByHash codeHash s with
  | none => simp
  | some found =>
    obtain ⟨id, code⟩ := found
    obtain ⟨k, c, hlookup, hc⟩ := Db.mem_select.mp (List.mem_of_head? hcode)
    have hcode' : s.lookup (.redeemCode id) = some code := by
      cases k with
      | redeemCode id' =>
        dsimp only at hc
        split at hc <;> cases hc
        exact hlookup
      | _ => cases hc
    have hamount := hcodes id code hcode'
    simp [post_ite, hcode']
    intro _ _
    have hmarked : Changes (.user userID) 0 s
        (s.insert (.redeemCode id) (code.redeem userID redeemedIP now)) := changes_other rfl _
    refine post_createAccountIfMissing fun _ t ht ↦ ?_
    have hopened := hmarked.trans ht.changes
    simp [readAccount]
    constructor
    · intro a ha a' hmove
      refine post_createLedgerEntry fun u hu ↦ ⟨code.amountMicrocredits, ?_, ?_⟩
      · exact ((hopened.trans (changes_move ha hmove)).trans hu).of_eq (by
          ext <;> simp [posting, redeemEntry])
      · have hb := (hs.congr hopened.books_eq) (.user userID)
        have hav : 0 ≤ a.availableMicrocredits := books_available ha ▸ hb.available_nonneg
        have hre : 0 ≤ a.reservedMicrocredits := books_reserved ha ▸ hb.reserved_nonneg
        exact hopened.books_eq _ ▸ covers_of_move ha hmove (by omega) (by omega)
    · intro hnone a ha
      exact absurd ha (hnone a)

end HMaigc
