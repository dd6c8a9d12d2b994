import HMaigc.Repository.Finance

/-!
# Books: what an account says, what its ledger says, what its orders hold

Three different tables speak about a payer's credits: the account row with its two balances, the
ledger with two deltas an entry, and the billing orders that are still open.  `Books` is what they
say, five numbers a payer, added componentwise.

* `Books.Balanced` — the tables agree, and the balances are non-negative `int64`s.
* `posting a r` — the change of a *posting*: both balances and both ledger sums move by the same
  amounts, and what open orders hold moves with the reserved balance.  A posting that leaves the new
  balances in range keeps the books balanced (`Books.Balanced.post`); nothing else about an
  operation matters.
* `books p s` — the books of the payer `p` in the database `s`, and `Changes p d s s'`: from `s` to
  `s'` the books of `p` change by `d` and everybody else's do not.  There is one lemma for each kind
  of row written (`changes_account`, `changes_entry`, …), and changes compose (`Changes.trans`), so
  an operation is accounted for by adding up its writes.
-/

set_option autoImplicit false

namespace HMaigc

open Sql Go

/-! ## Double entry -/

/-- What account, ledger and orders of one payer say, or a change of it. -/
@[ext] structure Books where
  available : ℤ
  reserved : ℤ
  ledgerAvailable : ℤ
  ledgerReserved : ℤ
  held : ℤ

namespace Books

instance : Zero Books := ⟨⟨0, 0, 0, 0, 0⟩⟩

instance : Add Books := ⟨fun b c ↦ ⟨b.available + c.available, b.reserved + c.reserved,
  b.ledgerAvailable + c.ledgerAvailable, b.ledgerReserved + c.ledgerReserved, b.held + c.held⟩⟩

section Add

variable (b c : Books)

@[simp] theorem zero_available : (0 : Books).available = 0 := rfl
@[simp] theorem zero_reserved : (0 : Books).reserved = 0 := rfl
@[simp] theorem zero_ledgerAvailable : (0 : Books).ledgerAvailable = 0 := rfl
@[simp] theorem zero_ledgerReserved : (0 : Books).ledgerReserved = 0 := rfl
@[simp] theorem zero_held : (0 : Books).held = 0 := rfl
@[simp] theorem add_available : (b + c).available = b.available + c.available := rfl
@[simp] theorem add_reserved : (b + c).reserved = b.reserved + c.reserved := rfl
@[simp] theorem add_ledgerAvailable :
    (b + c).ledgerAvailable = b.ledgerAvailable + c.ledgerAvailable := rfl
@[simp] theorem add_ledgerReserved :
    (b + c).ledgerReserved = b.ledgerReserved + c.ledgerReserved := rfl
@[simp] theorem add_held : (b + c).held = b.held + c.held := rfl

@[simp] protected theorem add_zero : b + 0 = b := by ext <;> simp

protected theorem add_assoc (d : Books) : b + c + d = b + (c + d) := by
  ext <;> simp [Int.add_assoc]

end Add

/-- The three tables agree, and the balances are non-negative numbers an account row can hold. -/
structure Balanced (b : Books) : Prop where
  available : b.available = b.ledgerAvailable
  reserved : b.reserved = b.ledgerReserved
  held : b.reserved = b.held
  available_nonneg : 0 ≤ b.available
  reserved_nonneg : 0 ≤ b.reserved
  available_le : b.available ≤ maxInt64
  reserved_le : b.reserved ≤ maxInt64

/-- Nobody can spend what is not there, and no balance overflows. -/
structure Covers (b : Books) (available reserved : ℤ) : Prop where
  available_nonneg : 0 ≤ b.available + available
  reserved_nonneg : 0 ≤ b.reserved + reserved
  available_le : b.available + available ≤ maxInt64
  reserved_le : b.reserved + reserved ≤ maxInt64

end Books

/-- The change of one posting. -/
def posting (available reserved : ℤ) : Books :=
  ⟨available, reserved, available, reserved, reserved⟩

/-- **A covered posting keeps the books balanced.** -/
theorem Books.Balanced.post {b : Books} (h : b.Balanced) {available reserved : ℤ}
    (hc : b.Covers available reserved) : (b + posting available reserved).Balanced where
  available := congrArg (· + available) h.available
  reserved := congrArg (· + reserved) h.reserved
  held := congrArg (· + reserved) h.held
  available_nonneg := hc.available_nonneg
  reserved_nonneg := hc.reserved_nonneg
  available_le := hc.available_le
  reserved_le := hc.reserved_le

/-! ## The books in the database -/

/-- The rows the books are read from. -/
def RowKey.isCredit : RowKey → Bool
  | .creditAccount _ | .creditLedgerEntry _ _ | .billingOrder _ => true
  | _ => false

/-- What a ledger row contributes to the ledger of `p`. -/
def postedBy (p : Payer) (f : CreditLedgerEntry → ℤ) : ∀ k, Row k → ℤ
  | .creditLedgerEntry b _, e => if b = p.book ∧ e.payer = p then f e else 0
  | _, _ => 0

/-- What the order holds of its payer's reserved balance. -/
def BillingOrder.holds (order : BillingOrder) (p : Payer) : ℤ :=
  if order.payer = p ∧ order.status.isOpen then order.amountMicrocredits else 0

/-- What an order row contributes to what the orders of `p` hold. -/
def heldBy (p : Payer) : ∀ k, Row k → ℤ
  | .billingOrder _, o => o.holds p
  | _, _ => 0

/-- The account row of a payer; a payer without one has nothing. -/
def accountOf (p : Payer) (s : Store) : CreditAccount := (s.lookup (.creditAccount p)).getD ({} : CreditAccount)

/-- The sum of `AvailableDelta` over the ledger entries of an account. -/
def ledgerAvailable (p : Payer) (s : Store) : ℤ :=
  s.total (postedBy p (·.availableDeltaMicrocredits))

/-- The sum of `ReservedDelta` over the ledger entries of an account. -/
def ledgerReserved (p : Payer) (s : Store) : ℤ :=
  s.total (postedBy p (·.reservedDeltaMicrocredits))

/-- The sum of the amounts of an account's reserved, running and uncertain orders. -/
def heldByOrders (p : Payer) (s : Store) : ℤ := s.total (heldBy p)

def books (p : Payer) (s : Store) : Books where
  available := (accountOf p s).availableMicrocredits
  reserved := (accountOf p s).reservedMicrocredits
  ledgerAvailable := ledgerAvailable p s
  ledgerReserved := ledgerReserved p s
  held := heldByOrders p s

section Insert

variable {s : Store} {p q : Payer}

theorem accountOf_of_some {a : CreditAccount} (h : s.lookup (.creditAccount p) = some a) :
    accountOf p s = a := by
  simp [accountOf, h]

/-- Rows of other tables say nothing about credits. -/
theorem books_insert_other {k : RowKey} (hk : k.isCredit = false) (r : Row k) :
    books p (s.insert k r) = books p s := by
  have hentry : ∀ f, Db.total (postedBy p f) (s.insert k r) = Db.total (postedBy p f) s := fun f ↦
    Db.total_insert_of_zero _ s k r fun r' ↦ by
      cases k with
      | creditLedgerEntry b id => cases hk
      | _ => rfl
  have horder : Db.total (heldBy p) (s.insert k r) = Db.total (heldBy p) s :=
    Db.total_insert_of_zero _ s k r fun r' ↦ by
      cases k with
      | billingOrder id => cases hk
      | _ => rfl
  have hne : RowKey.creditAccount p ≠ k := fun h ↦ by subst h; cases hk
  simp only [books, ledgerAvailable, ledgerReserved, heldByOrders, hentry, horder, accountOf,
    AList.lookup_insert_ne hne]

/-- Writing an account moves the balances of its payer. -/
theorem books_insert_account (a : CreditAccount) :
    books p (s.insert (.creditAccount q) a) =
      if p = q then
        { books p s with available := a.availableMicrocredits, reserved := a.reservedMicrocredits }
      else books p s := by
  have htotal : ∀ f : ∀ k, Row k → ℤ, (∀ r, f (.creditAccount q) r = 0) →
      Db.total f (s.insert (.creditAccount q) a) = Db.total f s := fun f hf ↦
    Db.total_insert_of_zero f s _ a hf
  have hledger : ∀ f, Db.total (postedBy p f) (s.insert (.creditAccount q) a) =
      Db.total (postedBy p f) s := fun f ↦ htotal _ fun _ ↦ rfl
  have hheld : Db.total (heldBy p) (s.insert (.creditAccount q) a) = Db.total (heldBy p) s :=
    htotal _ fun _ ↦ rfl
  split
  · rename_i hpq
    subst hpq
    simp [books, ledgerAvailable, ledgerReserved, heldByOrders, hledger, hheld, accountOf]
  · rename_i hpq
    have hne : RowKey.creditAccount p ≠ .creditAccount q := by simpa using hpq
    simp [books, ledgerAvailable, ledgerReserved, heldByOrders, hledger, hheld, accountOf,
      AList.lookup_insert_ne hne]

/-- Writing a ledger entry moves the ledger of its payer. -/
theorem books_insert_entry {b : Book} {id : String} (e : CreditLedgerEntry) :
    books p (s.insert (.creditLedgerEntry b id) e) =
      { books p s with
        ledgerAvailable := (books p s).ledgerAvailable +
          postedBy p (·.availableDeltaMicrocredits) (.creditLedgerEntry b id) e -
          Db.share (postedBy p (·.availableDeltaMicrocredits)) s (.creditLedgerEntry b id)
        ledgerReserved := (books p s).ledgerReserved +
          postedBy p (·.reservedDeltaMicrocredits) (.creditLedgerEntry b id) e -
          Db.share (postedBy p (·.reservedDeltaMicrocredits)) s (.creditLedgerEntry b id) } := by
  have hheld : Db.total (heldBy p) (s.insert (.creditLedgerEntry b id) e) = Db.total (heldBy p) s :=
    Db.total_insert_of_zero _ s (RowKey.creditLedgerEntry b id) e fun _ ↦ rfl
  simp [books, ledgerAvailable, ledgerReserved, heldByOrders, hheld, Db.total_insert, accountOf]

/-- Writing an order moves what orders hold. -/
theorem books_insert_order {id : String} (o : BillingOrder) :
    books p (s.insert (.billingOrder id) o) =
      { books p s with
        held := (books p s).held + o.holds p - Db.share (heldBy p) s (.billingOrder id) } := by
  have hentry : ∀ f, Db.total (postedBy p f) (s.insert (.billingOrder id) o) =
      Db.total (postedBy p f) s := fun f ↦
    Db.total_insert_of_zero _ s (RowKey.billingOrder id) o fun _ ↦ rfl
  simp [books, ledgerAvailable, ledgerReserved, heldByOrders, hentry, Db.total_insert, heldBy,
    accountOf]

end Insert

/-! ## Changes -/

/-- From `s` to `s'` the books of `q` change by `d`, and nobody else's change. -/
def Changes (q : Payer) (d : Books) (s s' : Store) : Prop :=
  ∀ p, books p s' = if p = q then books p s + d else books p s

section Changes

variable {q : Payer} {d d' : Books} {s t u : Store}

theorem Changes.refl (q : Payer) (s : Store) : Changes q 0 s s := fun p ↦ by simp

theorem Changes.trans (h : Changes q d s t) (h' : Changes q d' t u) :
    Changes q (d + d') s u := by
  intro p
  rw [h' p, h p]
  split <;> simp [Books.add_assoc]

theorem Changes.of_eq (h : Changes q d s t) (hd : d = d') : Changes q d' s t := hd ▸ h

theorem Changes.books_eq (h : Changes q 0 s t) (p : Payer) : books p t = books p s := by
  rw [h p, Books.add_zero, ite_self]

theorem changes_other {k : RowKey} (hk : k.isCredit = false) (r : Row k) :
    Changes q 0 s (s.insert k r) := fun p ↦ by
  rw [books_insert_other hk, Books.add_zero, ite_self]

/-- The account row moves by what the `UPDATE` adds. -/
theorem changes_account {a : CreditAccount} (ha : s.lookup (.creditAccount q) = some a)
    (a' : CreditAccount) :
    Changes q ⟨a'.availableMicrocredits - a.availableMicrocredits,
      a'.reservedMicrocredits - a.reservedMicrocredits, 0, 0, 0⟩ s
      (s.insert (.creditAccount q) a') := by
  intro p
  rw [books_insert_account]
  split
  · rename_i hpq
    subst hpq
    ext <;> simp [books, accountOf_of_some ha]
  · rfl

/-- A payer's first account row says what its absence said. -/
theorem changes_newAccount (ha : s.lookup (.creditAccount q) = none) :
    Changes q 0 s (s.insert (.creditAccount q) ({} : CreditAccount)) := by
  intro p
  rw [books_insert_account]
  split
  · rename_i hpq
    subst hpq
    ext <;> simp [books, accountOf, ha]
  · rfl

/-- A new ledger entry of the payer. -/
theorem changes_entry (id : String) (e : CreditLedgerEntry)
    (he : s.lookup (.creditLedgerEntry e.payer.book id) = none) :
    Changes e.payer ⟨0, 0, e.availableDeltaMicrocredits, e.reservedDeltaMicrocredits, 0⟩ s
      (s.insert (.creditLedgerEntry e.payer.book id) e) := by
  intro p
  rw [books_insert_entry, Db.share_of_none he, Db.share_of_none he]
  by_cases hp : p = e.payer
  · subst hp
    rw [if_pos rfl]
    ext <;> simp [postedBy]
  · rw [if_neg hp]
    ext <;> simp [postedBy, Ne.symm hp]

/-- A ledger entry filled in afterwards. -/
theorem changes_overwriteEntry (id : String) {e : CreditLedgerEntry} (e' : CreditLedgerEntry)
    (he : s.lookup (.creditLedgerEntry e.payer.book id) = some e) (hpayer : e'.payer = e.payer) :
    Changes e.payer ⟨0, 0, e'.availableDeltaMicrocredits - e.availableDeltaMicrocredits,
      e'.reservedDeltaMicrocredits - e.reservedDeltaMicrocredits, 0⟩ s
      (s.insert (.creditLedgerEntry e.payer.book id) e') := by
  intro p
  rw [books_insert_entry, Db.share_of_some he, Db.share_of_some he]
  by_cases hp : p = e.payer
  · subst hp
    rw [if_pos rfl]
    ext <;> simp [postedBy, hpayer] <;> omega
  · rw [if_neg hp]
    ext <;> simp [postedBy, hpayer, Ne.symm hp]

/-- A new open order. -/
theorem changes_newOrder (id : String) {o : BillingOrder}
    (ho : s.lookup (.billingOrder id) = none) (hopen : o.status.isOpen = true) :
    Changes o.payer ⟨0, 0, 0, 0, o.amountMicrocredits⟩ s (s.insert (.billingOrder id) o) := by
  intro p
  rw [books_insert_order, Db.share_of_none ho]
  by_cases hp : p = o.payer
  · subst hp
    rw [if_pos rfl]
    ext <;> simp [BillingOrder.holds, hopen]
  · rw [if_neg hp]
    ext <;> simp [BillingOrder.holds, Ne.symm hp]

/-- An order that leaves the open statuses. -/
theorem changes_closeOrder (id : String) {o : BillingOrder} (o' : BillingOrder)
    (ho : s.lookup (.billingOrder id) = some o) (hopen : o.status.isOpen = true)
    (hclosed : o'.status.isOpen = false) :
    Changes o.payer ⟨0, 0, 0, 0, -o.amountMicrocredits⟩ s (s.insert (.billingOrder id) o') := by
  intro p
  rw [books_insert_order, Db.share_of_some ho]
  by_cases hp : p = o.payer
  · subst hp
    rw [if_pos rfl]
    ext <;> simp [BillingOrder.holds, heldBy, hopen, hclosed]
    omega
  · rw [if_neg hp]
    ext <;> simp [BillingOrder.holds, heldBy, hclosed, Ne.symm hp]

end Changes

/-! ## Conservation -/

/-- **The books of every payer are balanced.** -/
def Conserved (s : Store) : Prop := ∀ p, (books p s).Balanced

/-- From `s` to `s'` the payer's books take one covered posting. -/
structure Posts (q : Payer) (available reserved : ℤ) (s s' : Store) : Prop where
  changes : Changes q (posting available reserved) s s'
  covers : (books q s).Covers available reserved

theorem Posts.conserved {q : Payer} {available reserved : ℤ} {s s' : Store}
    (h : Posts q available reserved s s') (hs : Conserved s) : Conserved s' := by
  intro p
  rw [h.changes p]
  split
  · rename_i hpq
    subst hpq
    exact (hs p).post h.covers
  · exact hs p

theorem Conserved.congr {s s' : Store} (hs : Conserved s) (h : ∀ p, books p s' = books p s) :
    Conserved s' :=
  fun p ↦ h p ▸ hs p

end HMaigc
