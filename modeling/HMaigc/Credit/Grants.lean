import HMaigc.Credit.Books
import HMaigc.Repository.Membership
import HMaigc.Sql.Unique

/-!
# Grants are made once

Credits are granted for a reference key (`GrantCreditsOnce`), for a redeem code and for the order of
a membership subscription, and each kind of grant keeps from being made twice in its own way: by the
unique index on reference keys, by a conditional `UPDATE` of the code's row, and by looking for the
entry while the subscription's row is locked.  `GrantCall` is these calls, in any interleaving under
READ COMMITTED.

* `referenceIndex` and `citationIndex` — an entry of the ledger occupies its reference key, and it
  occupies the redeem code it cites.  The second is no index of the database: its entries are the
  rows of codes, and what locks them is the `UPDATE` that redeems the code.
* `Credited`, `Untouched` — the two things a committed call may have done.
* `GrantCall.Post` — which of them it did, and what it found.
* `grants_exactlyOnce` — in every run, each grant is applied by one transaction at most, it is
  recorded exactly once as soon as a call for it has succeeded, and a transaction that does not apply
  it leaves the balances, the ledger and the codes as they were.
-/

set_option autoImplicit false

namespace HMaigc

open Sql Go Prog

/-! ## Calls -/

/-- The reference key of the grant that comes with a membership order. -/
def membershipOrderReference (orderID : String) : String := "membership-order:" ++ orderID

/-- The entry `reconcileMembershipLifecycle` makes out for a subscription. -/
def membershipOrderEntry (subscription : MembershipSubscription) (grant : ℤ) :
    CreditLedgerEntry where
  payer := .user subscription.userID
  type := .membership
  amountMicrocredits := grant
  availableDeltaMicrocredits := grant
  actorUserID := systemActorID
  scene := "membership"
  note := "会员套餐积分到账"
  referenceKey := some (membershipOrderReference subscription.orderID)

/-- What `reconcileMembershipLifecycle` does with one of the subscriptions that it has read and that
await a grant. -/
def reconcileSubscription (id : String) (grant : ℤ) (ledgerID : String) (now : Time) :
    DbTx Unit := do
  let subscription ← first (.membershipSubscription id)
  grantMembershipSubscriptionCredits id ledgerID (membershipOrderEntry subscription grant) now

inductive GrantCall where
  | grantCreditsOnce (userID : String) (entryType : CreditLedgerType) (amount : ℤ)
    (referenceKey note entryID : String)
  | redeemCode (userID codeHash redeemedIP entryID : String) (now : Time)
  | reconcileSubscription (id : String) (grant : ℤ) (ledgerID : String) (now : Time)

/-- The transaction; the result is the flag `GrantCreditsOnce` returns. -/
def GrantCall.prog : GrantCall → DbTx (Option Bool)
  | .grantCreditsOnce userID entryType amount referenceKey note entryID => do
    let r ← HMaigc.grantCreditsOnce userID entryType amount referenceKey note entryID
    return some r.2
  | .redeemCode userID codeHash redeemedIP entryID now => do
    let _ ← HMaigc.redeemCode userID codeHash redeemedIP entryID now
    return none
  | .reconcileSubscription id grant ledgerID now => do
    HMaigc.reconcileSubscription id grant ledgerID now
    return none

/-! ## Rows -/

/-- What a write of any of the calls does to a row. -/
def GrantStep : ∀ k, Option (Row k) → Row k → Prop
  | .creditLedgerEntry _ _, old, e => ∀ e₀, old = some e₀ →
      e.referenceKey = e₀.referenceKey ∧ e.redeemCodeID = e₀.redeemCodeID
  | .redeemCode _, old, c => ∃ c₀, old = some c₀ ∧ c.codeHash = c₀.codeHash ∧
      c₀.status = .unused ∧ c.status = .redeemed
  | .creditAccount _, _, _ => True
  | _, _, _ => False

theorem rowTrans_grantStep : RowTrans GrantStep := by
  intro k o r r' h h'
  cases k with
  | creditLedgerEntry b id =>
    intro e₀ he₀
    obtain ⟨hreference, hcode⟩ := h e₀ he₀
    obtain ⟨hreference', hcode'⟩ := h' r rfl
    exact ⟨hreference'.trans hreference, hcode'.trans hcode⟩
  | redeemCode id =>
    obtain ⟨c₀, rfl, hhash, hunused, hredeemed⟩ := h
    obtain ⟨c₁, hc₁, -, hunused', -⟩ := h'
    cases hc₁
    exact absurd (hredeemed.symm.trans hunused') (by decide)
  | creditAccount p => trivial
  | _ => exact h'.elim

attribute [local simp] GrantStep in
theorem grantStep_grantToAccount (p : Payer) (amount : ℤ) (entryID : String)
    (post : CreditAccount → CreditLedgerEntry) :
    (grantToAccount p amount entryID post).Keeps GrantStep fun _ ↦ True := by
  simp [grantToAccount, createAccountIfMissing, readAccount, createLedgerEntry]

attribute [local simp] GrantStep in
theorem GrantCall.keeps_prog (c : GrantCall) : c.prog.Keeps GrantStep fun _ ↦ True := by
  cases c with
  | grantCreditsOnce userID entryType amount referenceKey note entryID =>
    simp [prog, HMaigc.grantCreditsOnce, createAccountIfMissing, readAccount, keeps_ite,
      CreditLedgerEntry.fillIn]
  | redeemCode userID codeHash redeemedIP entryID now =>
    rw [prog, HMaigc.redeemCode]
    simp only [keeps_bind, keeps_query]
    intro v
    cases redeemCodeByHash codeHash v with
    | none => simp
    | some found =>
      simp [createAccountIfMissing, readAccount, createLedgerEntry, keeps_ite, RedeemCode.redeem]
      tauto
  | reconcileSubscription id grant ledgerID now =>
    simp [prog, HMaigc.reconcileSubscription, grantMembershipSubscriptionCredits,
      membershipOrderEntry, keeps_ite, grantStep_grantToAccount]

/-! ## What entries occupy -/

/-- The unique indexes on `reference_key`. -/
def referenceIndex : ∀ k, Row k → Option RowKey
  | .creditLedgerEntry b _, e => e.referenceKey.map fun key ↦ .index (.creditLedgerReference b key)
  | _, _ => none

/-- The redeem code a personal entry cites. -/
def citationIndex : ∀ k, Row k → Option RowKey
  | .creditLedgerEntry .personal _, e =>
    if e.redeemCodeID = "" then none else some (.redeemCode e.redeemCodeID)
  | _, _ => none

theorem referenceIndex_eq_some {k : RowKey} {r : Row k} {i : RowKey}
    (h : referenceIndex k r = some i) : ∃ b id, k = .creditLedgerEntry b id := by
  cases k with
  | creditLedgerEntry b id => exact ⟨b, id, rfl⟩
  | _ => cases h

theorem referenceIndex_of_key {b : Book} {id key : String} {e : CreditLedgerEntry}
    (h : e.referenceKey = some key) :
    referenceIndex (.creditLedgerEntry b id) e = some (.index (.creditLedgerReference b key)) := by
  rw [referenceIndex, h]
  rfl

theorem citationIndex_of_code {id code : String} {e : CreditLedgerEntry}
    (h : e.redeemCodeID = code) (hne : code ≠ "") :
    citationIndex (.creditLedgerEntry .personal id) e = some (.redeemCode code) := by
  rw [citationIndex, h, if_neg hne]

theorem citationIndex_eq_some {k : RowKey} {r : Row k} {i : RowKey}
    (h : citationIndex k r = some i) : ∃ id, k = .creditLedgerEntry .personal id := by
  cases k with
  | creditLedgerEntry b id =>
    cases b with
    | personal => exact ⟨id, rfl⟩
    | team => cases h
  | _ => cases h

/-- What the tables satisfy between transactions: the indexes on `reference_key`, `code_hash` and
`order_id` are unique, every code has an identifier, and it is cited once at most, and not at all as
long as it is unused. -/
structure GrantTables (s : Store) : Prop where
  references : Unique referenceIndex s
  citations : Unique citationIndex s
  hashes : ∀ id id' c c', s.lookup (.redeemCode id) = some c → s.lookup (.redeemCode id') = some c' →
    c.codeHash = c'.codeHash → id = id'
  orders : ∀ id id' m m', s.lookup (.membershipSubscription id) = some m →
    s.lookup (.membershipSubscription id') = some m' → m.orderID = m'.orderID → id = id'
  named : s.lookup (.redeemCode "") = none
  uncited : ∀ id c, s.lookup (.redeemCode id) = some c → c.status = .unused →
    Unoccupied citationIndex (.redeemCode id) s

/-! ## What a call does -/

/-- The payer's account was credited with the amount, and the ledger has one more entry. -/
structure Credited (p : Payer) (amount : ℤ) (id : String) (entry : CreditLedgerEntry)
    (s s' : Store) : Prop where
  new : s.lookup (.creditLedgerEntry p.book id) = none
  entered : s'.lookup (.creditLedgerEntry p.book id) = some entry
  entries : ∀ b i, RowKey.creditLedgerEntry b i ≠ .creditLedgerEntry p.book id →
    s'.lookup (.creditLedgerEntry b i) = s.lookup (.creditLedgerEntry b i)
  account : accountOf p s' =
    { accountOf p s with availableMicrocredits := (accountOf p s).availableMicrocredits + amount }
  accounts : ∀ q, q ≠ p → accountOf q s' = accountOf q s

/-- No code has changed. -/
def SameCodes (s s' : Store) : Prop :=
  ∀ id, s'.lookup (.redeemCode id) = s.lookup (.redeemCode id)

/-- Neither a balance nor an entry nor a code has changed. -/
structure Untouched (s s' : Store) : Prop where
  entries : ∀ b i, s'.lookup (.creditLedgerEntry b i) = s.lookup (.creditLedgerEntry b i)
  accounts : ∀ p, accountOf p s' = accountOf p s
  codes : SameCodes s s'

/-- The payer a subscription's grant goes to. -/
def MembershipSubscription.payer (subscription : MembershipSubscription) : Payer :=
  if subscription.teamID = "" then .user subscription.userID else .team subscription.teamID

/-- The reference key, if the call makes out its entry for one; `s` has the subscriptions. -/
def GrantCall.reference (s : Store) : GrantCall → Option RowKey
  | .grantCreditsOnce _ _ _ referenceKey _ _ =>
    some (.index (.creditLedgerReference .personal referenceKey))
  | .redeemCode _ _ _ _ _ => none
  | .reconcileSubscription id _ _ _ => (s.lookup (.membershipSubscription id)).map fun m ↦
      .index (.creditLedgerReference m.payer.book (membershipOrderReference m.orderID))

/-- The call applies its grant. -/
def GrantCall.Applies (s s' : Store) : GrantCall → Prop
  | .grantCreditsOnce userID _ amount referenceKey _ entryID =>
    SameCodes s s' ∧ ∃ entry, Credited (.user userID) amount entryID entry s s' ∧
      entry.referenceKey = some referenceKey
  | .redeemCode userID codeHash redeemedIP entryID now =>
    ∃ id c, s.lookup (.redeemCode id) = some c ∧ c.codeHash = codeHash ∧ c.status = .unused ∧
      s'.lookup (.redeemCode id) = some (c.redeem userID redeemedIP now) ∧
      (∀ id', id' ≠ id → s'.lookup (.redeemCode id') = s.lookup (.redeemCode id')) ∧
      ∃ entry, Credited (.user userID) c.amountMicrocredits entryID entry s s' ∧
        entry.redeemCodeID = id
  | .reconcileSubscription id grant ledgerID _ =>
    SameCodes s s' ∧ ∃ m entry, s.lookup (.membershipSubscription id) = some m ∧
      Credited m.payer grant ledgerID entry s s' ∧
      entry.referenceKey = some (membershipOrderReference m.orderID)

/-- What a committed call did. -/
structure GrantCall.Post (c : GrantCall) (locks : List RowKey) (a : Option Bool)
    (s s' : Store) : Prop where
  references : Enters referenceIndex locks s s'
  citations : Enters citationIndex locks s s'
  effect : c.Applies s s' ∧ a ≠ some false ∧
      (∀ i, c.reference s = some i → Unoccupied referenceIndex i s) ∨
    Untouched s s' ∧ a ≠ some true ∧
      ∃ i, c.reference s = some i ∧ ¬Unoccupied referenceIndex i s

def grantContract : Contract RowKey GrantCall Row (Option Bool) where
  inv := GrantTables
  row _ := GrantStep
  post := GrantCall.Post

section Meets

variable {c : GrantCall} {locks : List RowKey} {ws : List (Sigma Row)} {s t : Store}
  {p : Payer} {amount : ℤ} {id : String} {entry : CreditLedgerEntry}

/-! ## Crediting an account -/

/-- The account row once it is credited; there may have been none. -/
def creditedRow (old : Option CreditAccount) (amount : ℤ) : CreditAccount :=
  { old.getD {} with availableMicrocredits := (old.getD {}).availableMicrocredits + amount }

/-- The transaction sees an account of the payer; it is its own, if it has written one. -/
structure HasAccount (p : Payer) (locks : List RowKey) (ws : List (Sigma Row)) (s : Store) :
    Prop where
  view : ∃ a, (s.apply ws).lookup (.creditAccount p) = some a
  own : RowKey.creditAccount p ∈ keysOf ws → Pinned locks ws s (.creditAccount p) none (some {})

theorem HasAccount.rely (h : HasAccount p locks ws s) (ht : grantContract.Rely locks s t) :
    HasAccount p locks ws t where
  view := by
    by_cases hk : RowKey.creditAccount p ∈ keysOf ws
    · exact ⟨_, ((h.own hk).rely ht).view⟩
    · obtain ⟨a, ha⟩ := h.view
      rw [Db.lookup_apply_of_notMem hk] at ha ⊢
      exact ht.exists_lookup ha
  own := fun hk ↦ (h.own hk).rely ht

theorem HasAccount.append {locks' : List RowKey} {ws' : List (Sigma Row)}
    (h : HasAccount p locks ws s) (hlocks : locks ⊆ locks')
    (hk : RowKey.creditAccount p ∉ keysOf ws') : HasAccount p locks' (ws ++ ws') s where
  view := by
    rw [Db.apply_append, Db.lookup_apply_of_notMem hk]
    exact h.view
  own := fun hmem ↦ by
    rw [keysOf, List.map_append, List.mem_append] at hmem
    exact (h.own (hmem.resolve_right hk)).append hlocks hk

theorem meets_createAccountIfMissing {Q : ℕ → List RowKey → List (Sigma Row) → Store → Prop}
    (hnew : RowKey.creditAccount p ∉ keysOf ws)
    (h : ∀ n locks' ws' s', grantContract.Rely locks s s' → locks ⊆ locks' →
      (∀ k ∈ keysOf ws', k = .creditAccount p) → HasAccount p locks' (ws ++ ws') s' →
        Q n locks' (ws ++ ws') s') :
    (createAccountIfMissing p).Meets grantContract Q locks ws s := by
  refine meets_createIgnore (fun s' hs' hnone _ ↦ ?_) fun s' hs' hsome ↦ ?_
  · rw [Db.lookup_apply_of_notMem hnew] at hnone
    have hpinned : Pinned (locks ++ [RowKey.creditAccount p, .creditAccount p])
        (ws ++ [⟨.creditAccount p, ({} : CreditAccount)⟩]) s' (.creditAccount p) none (some {}) :=
      .write hnone (by simp) _
    exact h 1 _ _ s' hs' (List.subset_append_left _ _) (by simp [keysOf])
      ⟨⟨_, hpinned.view⟩, fun _ ↦ hpinned⟩
  · have hsome' := Option.isSome_iff_exists.mp (hsome.resolve_right (by simp))
    have hQ := h 0 locks [] s' hs' (fun _ hk ↦ hk) (by simp [keysOf])
      (by simpa using ⟨hsome', fun hk ↦ absurd hk hnew⟩)
    simpa using hQ

theorem meets_creditAccount {Q : ℕ → List RowKey → List (Sigma Row) → Store → Prop}
    (hacc : HasAccount p locks ws s)
    (h : ∀ s' old, grantContract.Rely locks s s' →
      Pinned (locks ++ [.creditAccount p]) (ws ++ [⟨.creditAccount p, creditedRow old amount⟩]) s'
        (.creditAccount p) old (some (creditedRow old amount)) →
      Q 1 (locks ++ [.creditAccount p]) (ws ++ [⟨.creditAccount p, creditedRow old amount⟩]) s') :
    (Prog.update (.creditAccount p) (fun _ ↦ true) fun a ↦ a.move amount 0 : DbTx ℕ).Meets
      grantContract Q locks ws s := by
  refine meets_update (fun s' hs' a ha _ a' ha' ↦ ?_) fun s' hs' hnone ↦ ?_
  · have hacc' := hacc.rely hs'
    have hold : accountOf p s' = a := by
      rw [accountOf]
      by_cases hk : RowKey.creditAccount p ∈ keysOf ws
      · have hown := hacc'.own hk
        rw [hown.committed]
        exact Option.some.inj (hown.view.symm.trans ha)
      · rw [Db.lookup_apply_of_notMem hk] at ha
        rw [ha, Option.getD_some]
    obtain ⟨havailable, hreserved, -⟩ := CreditAccount.move_ok ha'
    obtain rfl : a' = creditedRow (s'.lookup (.creditAccount p)) amount := by
      rw [creditedRow, show (s'.lookup (.creditAccount p)).getD ({} : CreditAccount) = a from hold]
      cases a'
      simp_all
    exact h s' _ hs' (.write rfl (by simp) _)
  · obtain ⟨a, ha⟩ := (hacc.rely hs').view
    exact absurd (hnone a ha) (by simp)

theorem meets_readAccount {Q : CreditAccount → List RowKey → List (Sigma Row) → Store → Prop}
    {old : Option CreditAccount} {a : CreditAccount}
    (hacc : Pinned locks ws s (.creditAccount p) old (some a))
    (h : ∀ s', grantContract.Rely locks s s' → Q a locks ws s') :
    (readAccount p).Meets grantContract Q locks ws s :=
  meets_first fun s' hs' r hr ↦ by
    cases (hacc.rely hs').view.symm.trans hr
    exact h s' hs'

/-! ## Granting -/

/-- The pending writes credit the account and post the entry, under a reference key that is free and
that nobody else can take; if the entry cites a code, they redeem it, and nobody else can. -/
structure Granting (p : Payer) (amount : ℤ) (id : String) (entry : CreditLedgerEntry)
    (locks : List RowKey) (ws : List (Sigma Row)) (s : Store) : Prop where
  posted : Pinned locks ws s (.creditLedgerEntry p.book id) none (some entry)
  entries : ∀ b i, RowKey.creditLedgerEntry b i ≠ .creditLedgerEntry p.book id →
    RowKey.creditLedgerEntry b i ∉ keysOf ws
  account : ∃ old, Pinned locks ws s (.creditAccount p) old (some (creditedRow old amount))
  accounts : ∀ q, q ≠ p → RowKey.creditAccount q ∉ keysOf ws
  reference : ∀ key, entry.referenceKey = some key →
    .index (.creditLedgerReference p.book key) ∈ locks ∧
      Unoccupied referenceIndex (.index (.creditLedgerReference p.book key)) s
  citation : entry.redeemCodeID ≠ "" → ∃ c c',
    Pinned locks ws s (.redeemCode entry.redeemCodeID) (some c) (some c') ∧ c.status = .unused ∧
      c'.status ≠ .unused

theorem unoccupied_of_rely (ht : grantContract.Rely locks s t) {i : RowKey} (hi : i ∈ locks)
    (h : Unoccupied referenceIndex i s) : Unoccupied referenceIndex i t :=
  ht.unoccupied (fun _ _ _ _ _ hcommit ↦ hcommit.post.references) hi h

theorem Granting.rely (h : Granting p amount id entry locks ws s)
    (ht : grantContract.Rely locks s t) : Granting p amount id entry locks ws t where
  posted := h.posted.rely ht
  entries := h.entries
  account := h.account.imp fun _ hold ↦ hold.rely ht
  accounts := h.accounts
  reference := fun key hkey ↦
    ⟨(h.reference key hkey).1, unoccupied_of_rely ht (h.reference key hkey).1 (h.reference key hkey).2⟩
  citation := fun hcode ↦ by
    obtain ⟨c, c', hpinned, hunused, hused⟩ := h.citation hcode
    exact ⟨c, c', hpinned.rely ht, hunused, hused⟩

/-- What commits credits the payer. -/
theorem Granting.credited (h : Granting p amount id entry locks ws s) :
    Credited p amount id entry s (s.apply ws) where
  new := h.posted.committed
  entered := h.posted.view
  entries := fun b i hne ↦ Db.lookup_apply_of_notMem (h.entries b i hne) s
  account := by
    obtain ⟨old, hold⟩ := h.account
    rw [accountOf, hold.view, accountOf, hold.committed]
    rfl
  accounts := fun q hq ↦ by
    rw [accountOf, Db.lookup_apply_of_notMem (h.accounts q hq) s, accountOf]

/-- A row of the ledger after the commit is the new entry, or it was there before. -/
theorem Granting.cases_lookup (h : Granting p amount id entry locks ws s) {b : Book} {i : String}
    {e : CreditLedgerEntry} (he : (s.apply ws).lookup (.creditLedgerEntry b i) = some e) :
    (b = p.book ∧ i = id ∧ e = entry) ∨ s.lookup (.creditLedgerEntry b i) = some e := by
  by_cases hk : RowKey.creditLedgerEntry b i = .creditLedgerEntry p.book id
  · cases hk
    exact .inl ⟨rfl, rfl, Option.some.inj (he.symm.trans h.posted.view)⟩
  · exact .inr ((h.credited.entries b i hk).symm.trans he)

theorem Granting.cases_reference (h : Granting p amount id entry locks ws s) {k : RowKey}
    {r : Row k} {i : RowKey} (hr : (s.apply ws).lookup k = some r)
    (hi : referenceIndex k r = some i) :
    (k = .creditLedgerEntry p.book id ∧ i ∈ locks ∧ Unoccupied referenceIndex i s) ∨
      s.lookup k = some r := by
  obtain ⟨b, j, rfl⟩ := referenceIndex_eq_some hi
  rcases h.cases_lookup hr with ⟨rfl, rfl, rfl⟩ | hold
  · obtain ⟨key, hkey, rfl⟩ := Option.map_eq_some_iff.mp hi
    exact .inl ⟨rfl, h.reference key hkey⟩
  · exact .inr hold

theorem Granting.cases_citation (h : Granting p amount id entry locks ws s) (hs : GrantTables s)
    {k : RowKey} {r : Row k} {i : RowKey} (hr : (s.apply ws).lookup k = some r)
    (hi : citationIndex k r = some i) :
    (k = .creditLedgerEntry p.book id ∧ (i ∈ locks ∧ Unoccupied citationIndex i s) ∧
      ∃ code c', i = .redeemCode code ∧ (s.apply ws).lookup (.redeemCode code) = some c' ∧
        c'.status ≠ .unused) ∨ s.lookup k = some r := by
  obtain ⟨j, rfl⟩ := citationIndex_eq_some hi
  rcases h.cases_lookup hr with ⟨hbook, rfl, rfl⟩ | hold
  · rw [citationIndex] at hi
    split at hi
    · cases hi
    · rename_i hcode
      cases hi
      obtain ⟨c, c', hpinned, hunused, hused⟩ := h.citation hcode
      exact .inl ⟨by rw [hbook], ⟨hpinned.locked, hs.uncited _ c hpinned.committed hunused⟩,
        _, c', rfl, hpinned.view, hused⟩
  · exact .inr hold

/-- A code after a commit was there before, with the same hash, and unused if it is unused. -/
theorem code_of_grantStep (h : RowStep GrantStep s t) {code : String} {c' : RedeemCode}
    (hc' : t.lookup (.redeemCode code) = some c') :
    ∃ c, s.lookup (.redeemCode code) = some c ∧ c'.codeHash = c.codeHash ∧
      (c'.status = .unused → c = c') := by
  rcases h (.redeemCode code) with heq | ⟨r, hr, c, hc, hhash, -, hredeemed⟩
  · exact ⟨c', heq.symm.trans hc', rfl, fun _ ↦ rfl⟩
  · cases hr.symm.trans hc'
    exact ⟨c, hc, hhash, fun hunused ↦ absurd (hredeemed.symm.trans hunused) (by decide)⟩

/-- No call writes a subscription. -/
theorem subscription_of_grantStep (h : RowStep GrantStep s t) (id : String) :
    t.lookup (.membershipSubscription id) = s.lookup (.membershipSubscription id) :=
  (h (.membershipSubscription id)).resolve_right fun ⟨_, _, hfalse⟩ ↦ hfalse

/-- What is left of the tables' properties, once the indexes are taken care of. -/
theorem GrantTables.of_step (hs : GrantTables s) (hrow : RowStep GrantStep s t)
    (hreferences : Unique referenceIndex t) (hcitations : Unique citationIndex t)
    (huncited : ∀ code c, t.lookup (.redeemCode code) = some c → c.status = .unused →
      Unoccupied citationIndex (.redeemCode code) s →
        Unoccupied citationIndex (.redeemCode code) t) : GrantTables t where
  references := hreferences
  citations := hcitations
  hashes := fun code code' c c' hc hc' heq ↦ by
    obtain ⟨c₀, hc₀, hhash, -⟩ := code_of_grantStep hrow hc
    obtain ⟨c₀', hc₀', hhash', -⟩ := code_of_grantStep hrow hc'
    exact hs.hashes code code' c₀ c₀' hc₀ hc₀' (hhash.symm.trans (heq.trans hhash'))
  orders := fun id id' m m' hm hm' ↦
    hs.orders id id' m m' ((subscription_of_grantStep hrow id).symm.trans hm)
      ((subscription_of_grantStep hrow id').symm.trans hm')
  named := by
    cases hc : t.lookup (.redeemCode "") with
    | none => rfl
    | some c =>
      obtain ⟨c₀, hc₀, -⟩ := code_of_grantStep hrow hc
      exact absurd (hs.named.symm.trans hc₀) (by simp)
  uncited := fun code c hc hunused ↦ by
    obtain ⟨c₀, hc₀, -, hsame⟩ := code_of_grantStep hrow hc
    obtain rfl := hsame hunused
    exact huncited code _ hc hunused (hs.uncited code _ hc₀ hunused)

theorem Granting.tables (h : Granting p amount id entry locks ws s) (hs : GrantTables s)
    (hrow : RowStep GrantStep s (s.apply ws)) : GrantTables (s.apply ws) := by
  refine hs.of_step hrow ?_ ?_ fun code c hc hunused hfree k r hr hi ↦ ?_
  · refine hs.references.extend (.creditLedgerEntry p.book id) (fun k r i hr hi ↦ ?_)
      fun r i hr hi k r₁ hr₁ hi₁ ↦ ?_
    · exact (h.cases_reference hr hi).imp (fun h ↦ h.1) fun hold ↦ ⟨r, hold, hi⟩
    · rcases h.cases_reference hr hi with ⟨-, -, hfree⟩ | hold
      · exact absurd hi₁ (hfree k r₁ hr₁)
      · cases h.posted.committed.symm.trans hold
  · refine hs.citations.extend (.creditLedgerEntry p.book id) (fun k r i hr hi ↦ ?_)
      fun r i hr hi k r₁ hr₁ hi₁ ↦ ?_
    · exact (h.cases_citation hs hr hi).imp (fun h ↦ h.1) fun hold ↦ ⟨r, hold, hi⟩
    · rcases h.cases_citation hs hr hi with ⟨-, ⟨-, hfree⟩, -⟩ | hold
      · exact absurd hi₁ (hfree k r₁ hr₁)
      · cases h.posted.committed.symm.trans hold
  · rcases h.cases_citation hs hr hi with ⟨-, -, code', c', hcode, hc', hused⟩ | hold
    · cases hcode
      cases hc.symm.trans hc'
      exact hused hunused
    · exact hfree k r hold hi

/-- **Granting commits well.** -/
theorem Granting.commits {a : Option Bool} (h : Granting p amount id entry locks ws s)
    (ha : a ≠ some false)
    (heffect : ∀ t, grantContract.Rely locks s t → Credited p amount id entry t (t.apply ws) →
      c.Applies t (t.apply ws))
    (hreference : ∀ t, grantContract.Rely locks s t → ∀ i, c.reference t = some i →
      ∃ key, entry.referenceKey = some key ∧ i = .index (.creditLedgerReference p.book key)) :
    Commits (.free GrantCall.prog) grantContract c a locks ws s := by
  intro t ht _ _ hrow
  replace h := h.rely ht
  refine ⟨⟨fun k r i hr hi ↦ ?_, fun k r i hr hi ↦ ?_,
    .inl ⟨heffect t ht h.credited, ha, fun i hi ↦ ?_⟩⟩, h.tables ht.2 hrow⟩
  · rcases h.cases_reference hr hi with ⟨-, hlocked, -⟩ | hold
    · exact .inr hlocked
    · exact .inl ⟨r, hold, hi⟩
  · rcases h.cases_citation ht.2 hr hi with ⟨-, ⟨hlocked, -⟩, -⟩ | hold
    · exact .inr hlocked
    · exact .inl ⟨r, hold, hi⟩
  · obtain ⟨key, hkey, rfl⟩ := hreference t ht i hi
    exact (h.reference key hkey).2

/-- An entry keeps what it occupies. -/
theorem occupied_of_grantStep (h : RowStep GrantStep s t) {i : RowKey}
    (hs : ¬Unoccupied referenceIndex i s) : ¬Unoccupied referenceIndex i t := by
  intro hfree
  refine hs fun k r hr hi ↦ ?_
  obtain ⟨b, j, rfl⟩ := referenceIndex_eq_some hi
  rcases h (.creditLedgerEntry b j) with heq | ⟨e, he, hstep⟩
  · exact hfree _ r (heq.trans hr) hi
  · refine hfree _ e he ?_
    rw [referenceIndex, (hstep r hr).1]
    exact hi

theorem occupied_of_rely (ht : grantContract.Rely locks s t) {i : RowKey}
    (h : ¬Unoccupied referenceIndex i s) : ¬Unoccupied referenceIndex i t :=
  ht.lift (P := fun u v ↦ ¬Unoccupied referenceIndex i u → ¬Unoccupied referenceIndex i v)
    (fun _ h ↦ h) (fun _ _ _ h h' hu ↦ h' (h hu))
    (fun _ _ _ _ _ _ hcommit ↦ occupied_of_grantStep hcommit.row) h

/-- The pending writes open an account, at most. -/
theorem untouched_of_account (hws : ∀ k ∈ keysOf ws, k = .creditAccount p)
    (hown : RowKey.creditAccount p ∈ keysOf ws →
      Pinned locks ws s (.creditAccount p) none (some {})) : Untouched s (s.apply ws) := by
  have hsame : ∀ k : RowKey, k ≠ .creditAccount p → (s.apply ws).lookup k = s.lookup k :=
    fun k hk ↦ Db.lookup_apply_of_notMem (fun hmem ↦ hk (hws k hmem)) s
  refine ⟨fun b i ↦ hsame _ (by simp), fun q ↦ ?_, fun code ↦ hsame _ (by simp)⟩
  by_cases hq : RowKey.creditAccount q ∈ keysOf ws
  · cases hws _ hq
    rw [accountOf, accountOf, (hown hq).view, (hown hq).committed]
    rfl
  · rw [accountOf, accountOf, Db.lookup_apply_of_notMem hq]

/-- **Not granting commits well**, if the grant had been made. -/
theorem commits_of_taken {a : Option Bool} (ha : a ≠ some true) {i : RowKey}
    (hws : ∀ k ∈ keysOf ws, k = .creditAccount p)
    (hown : RowKey.creditAccount p ∈ keysOf ws →
      Pinned locks ws s (.creditAccount p) none (some {}))
    (hi : ∀ t, grantContract.Rely locks s t → c.reference t = some i)
    (htaken : ¬Unoccupied referenceIndex i s) :
    Commits (.free GrantCall.prog) grantContract c a locks ws s := by
  intro t ht _ _ hrow
  have huntouched := untouched_of_account hws fun hk ↦ (hown hk).rely ht
  have hrows : ∀ k r, (t.apply ws).lookup k = some r → ∀ b j, k = .creditLedgerEntry b j →
      t.lookup k = some r := by
    rintro k r hr b j rfl
    exact (huntouched.entries b j).symm.trans hr
  have hreference : ∀ k r, (t.apply ws).lookup k = some r → ∀ i, referenceIndex k r = some i →
      ∃ r, t.lookup k = some r ∧ referenceIndex k r = some i := fun k r hr i hi ↦ by
    obtain ⟨b, j, hk⟩ := referenceIndex_eq_some hi
    exact ⟨r, hrows k r hr b j hk, hi⟩
  have hcitation : ∀ k r, (t.apply ws).lookup k = some r → ∀ i, citationIndex k r = some i →
      ∃ r, t.lookup k = some r ∧ citationIndex k r = some i := fun k r hr i hi ↦ by
    obtain ⟨j, hk⟩ := citationIndex_eq_some hi
    exact ⟨r, hrows k r hr _ j hk, hi⟩
  refine ⟨⟨fun k r i hr hi ↦ .inl (hreference k r hr i hi),
    fun k r i hr hi ↦ .inl (hcitation k r hr i hi),
    .inr ⟨huntouched, ha, i, hi t ht, occupied_of_rely ht htaken⟩⟩,
    ht.2.of_step hrow (ht.2.references.of_rows hreference) (ht.2.citations.of_rows hcitation)
      fun code _ _ _ hfree k r hr hkr ↦ ?_⟩
  obtain ⟨r', hr', hkr'⟩ := hcitation k r hr _ hkr
  exact hfree k r' hr' hkr'

/-! ## The calls -/

theorem unoccupied_of_not_taken {b : Book} {key : String}
    (h : ledgerReferenceTaken b (some key) s = false) :
    Unoccupied referenceIndex (.index (.creditLedgerReference b key)) s := by
  intro k r hr hi
  obtain ⟨b', j, rfl⟩ := referenceIndex_eq_some hi
  obtain ⟨key', hkey, heq⟩ := Option.map_eq_some_iff.mp hi
  cases heq
  have hnot := Db.any_eq_false_iff.mp h _ r hr
  simp [hkey] at hnot

theorem occupied_of_entry {b : Book} {key j : String} {e : CreditLedgerEntry}
    (he : s.lookup (.creditLedgerEntry b j) = some e) (hkey : e.referenceKey = some key) :
    ¬Unoccupied referenceIndex (.index (.creditLedgerReference b key)) s := by
  intro hfree
  exact hfree (.creditLedgerEntry b j) e he (referenceIndex_of_key hkey)

theorem occupied_of_taken {b : Book} {key : String}
    (h : ledgerReferenceTaken b (some key) s = true) :
    ¬Unoccupied referenceIndex (.index (.creditLedgerReference b key)) s := by
  obtain ⟨k, r, hr, hk⟩ := Db.any_iff.mp h
  cases k with
  | creditLedgerEntry b' j =>
    simp only [Bool.and_eq_true, decide_eq_true_eq] at hk
    obtain ⟨⟨rfl, -⟩, hkey⟩ := hk
    exact occupied_of_entry hr hkey
  | _ => cases hk

theorem occupied_of_granted {b : Book} {key : String} (h : membershipGrantExists b key s = true) :
    ¬Unoccupied referenceIndex (.index (.creditLedgerReference b key)) s := by
  obtain ⟨k, r, hr, hk⟩ := Db.any_iff.mp h
  cases k with
  | creditLedgerEntry b' j =>
    simp only [Bool.and_eq_true, decide_eq_true_eq] at hk
    obtain ⟨⟨rfl, hkey⟩, -⟩ := hk
    exact occupied_of_entry hr hkey
  | _ => cases hk

/-- Writes to other tables leave the entries occupied as they are. -/
theorem unoccupied_apply {i : RowKey} (hws : ∀ b j, RowKey.creditLedgerEntry b j ∉ keysOf ws) :
    Unoccupied referenceIndex i (s.apply ws) ↔ Unoccupied referenceIndex i s := by
  have hsame : ∀ b j, (s.apply ws).lookup (.creditLedgerEntry b j) =
      s.lookup (.creditLedgerEntry b j) := fun b j ↦ Db.lookup_apply_of_notMem (hws b j) s
  constructor
  · intro h k r hr hi
    obtain ⟨b, j, rfl⟩ := referenceIndex_eq_some hi
    exact h _ r ((hsame b j).trans hr) hi
  · intro h k r hr hi
    obtain ⟨b, j, rfl⟩ := referenceIndex_eq_some hi
    exact h _ r ((hsame b j).symm.trans hr) hi

theorem meets_grantCreditsOnce (userID : String) (entryType : CreditLedgerType) (amount : ℤ)
    (referenceKey note entryID : String) :
    (GrantCall.grantCreditsOnce userID entryType amount referenceKey note entryID).prog.Meets
      grantContract (Commits (.free GrantCall.prog) grantContract
        (.grantCreditsOnce userID entryType amount referenceKey note entryID)) [] [] s := by
  rw [GrantCall.prog, meets_bind, HMaigc.grantCreditsOnce, meets_bind]
  refine meets_createAccountIfMissing (by simp [keysOf]) fun _ locks ws s₁ _ _ hws hacc ↦ ?_
  rw [List.nil_append] at hacc ⊢
  have hledger : ∀ b j, RowKey.creditLedgerEntry b j ∉ keysOf ws := fun b j hmem ↦ by
    cases hws _ hmem
  rw [meets_bind]
  refine meets_createUnlessTaken (fun s₂ h₂ htaken hnone _ ↦ ?_) fun s₂ h₂ htaken ↦ ?_
  · rw [if_neg (by simp), meets_bind]
    rw [Db.lookup_apply_of_notMem (hledger _ _)] at hnone
    have hfree := (unoccupied_apply hledger).mp (unoccupied_of_not_taken htaken)
    -- what the statement has locked is all there is to know of the locks
    generalize hlocks : locks ++ (RowKey.creditLedgerEntry .personal entryID ::
      [.index (.creditLedgerReference .personal referenceKey)] ++
        [.creditLedgerEntry .personal entryID]) = locks₂
    have hsub : locks ⊆ locks₂ := hlocks ▸ List.subset_append_left _ _
    have hindex : .index (.creditLedgerReference .personal referenceKey) ∈ locks₂ := by
      simp [← hlocks]
    have hposted : Pinned locks₂ (ws ++ [⟨.creditLedgerEntry .personal entryID,
        grantEntry userID entryType amount referenceKey note⟩]) s₂
        (.creditLedgerEntry .personal entryID) none _ := .write hnone (by simp [← hlocks]) _
    refine meets_creditAccount ((hacc.rely h₂).append hsub (by simp [keysOf]))
      fun s₃ old h₃ hcredited ↦ ?_
    rw [meets_bind]
    refine meets_readAccount hcredited fun s₄ h₄ ↦ ?_
    rw [meets_bind]
    have hposted₄ : Pinned (locks₂ ++ [.creditAccount (.user userID)])
        (ws ++ [⟨.creditLedgerEntry .personal entryID,
          grantEntry userID entryType amount referenceKey note⟩] ++
          [⟨.creditAccount (.user userID), creditedRow old amount⟩]) s₄
        (.creditLedgerEntry .personal entryID) none _ :=
      ((hposted.rely h₃).append (List.subset_append_left _ _) (by simp [keysOf])).rely h₄
    refine meets_update (fun s₅ h₅ e he _ e' he' ↦ ?_) fun s₅ h₅ hgone ↦ ?_
    · cases (hposted₄.rely h₅).view.symm.trans he
      cases he'
      refine meets_pure (meets_pure ((⟨?_, ?_, ?_, ?_, ?_, ?_⟩ : Granting (.user userID) amount entryID
        ((grantEntry userID entryType amount referenceKey note).fillIn amount
          (creditedRow old amount)) _ _ s₅).commits (by simp) ?_ ?_))
      · exact .write (hposted₄.rely h₅).committed (by simp) _
      · intro b j hne hmem
        have hmem' : RowKey.creditLedgerEntry b j ∈ keysOf ws ∨ b = .personal ∧ j = entryID := by
          simpa [keysOf] using hmem
        rcases hmem' with hmem' | ⟨rfl, rfl⟩
        · exact hledger b j hmem'
        · exact hne rfl
      · exact ⟨old, ((hcredited.rely h₄).rely h₅).append (List.subset_append_left _ _)
          (by simp [keysOf])⟩
      · intro q hq hmem
        have hmem' : RowKey.creditAccount q ∈ keysOf ws ∨ q = .user userID := by
          simpa [keysOf] using hmem
        rcases hmem' with hmem' | hmem'
        · cases hws _ hmem'
          exact hq rfl
        · exact hq hmem'
      · rintro key hkey
        cases hkey
        have hindex' := List.mem_append_left [RowKey.creditAccount (.user userID)] hindex
        exact ⟨List.mem_append_left _ hindex', unoccupied_of_rely h₅ hindex'
          (unoccupied_of_rely h₄ hindex' (unoccupied_of_rely h₃ hindex hfree))⟩
      · exact fun hcode ↦ absurd rfl hcode
      · intro t _ hcredit
        refine ⟨fun code ↦ Db.lookup_apply_of_notMem (fun hmem ↦ ?_) t, _, hcredit, rfl⟩
        have hmem' : RowKey.redeemCode code ∈ keysOf ws := by simpa [keysOf] using hmem
        cases hws _ hmem'
      · intro t _ i hi
        cases hi
        exact ⟨referenceKey, rfl, rfl⟩
    · cases hgone _ (hposted₄.rely h₅).view
  · rw [if_pos rfl, meets_bind, readAccount]
    refine meets_first (k := RowKey.creditAccount (.user userID)) fun s₃ h₃ a _ ↦
      meets_pure (meets_pure ?_)
    have htaken' : ¬Unoccupied referenceIndex
        (.index (.creditLedgerReference .personal referenceKey)) s₂ :=
      mt (unoccupied_apply hledger).mpr (occupied_of_taken htaken)
    exact commits_of_taken (by simp) hws (fun hk ↦ ((hacc.own hk).rely h₂).rely h₃)
      (fun _ _ ↦ rfl) (occupied_of_rely h₃ htaken')

/-- What `grantToAccount` and the end of `RedeemCode` have in common. -/
theorem meets_granting (post : CreditAccount → CreditLedgerEntry)
    {Q : CreditAccount → List RowKey → List (Sigma Row) → Store → Prop}
    (hws : ∀ k ∈ keysOf ws, ∃ code, k = .redeemCode code) (hpost : ∀ a, (post a).payer = p)
    (hcode : ∀ a, (post a).redeemCodeID ≠ "" → ∃ c c',
      Pinned locks ws s (.redeemCode (post a).redeemCodeID) (some c) (some c') ∧
        c.status = .unused ∧ c'.status ≠ .unused)
    (h : ∀ a locks' ws' s', grantContract.Rely locks s s' → locks ⊆ locks' →
      (∀ k ∈ keysOf ws', k = .creditAccount p ∨ k = .creditLedgerEntry p.book id) →
      Granting p amount id (post a) locks' (ws ++ ws') s' → Q a locks' (ws ++ ws') s') :
    (createAccountIfMissing p).Meets grantContract (fun _ ↦
      (Prog.update (.creditAccount p) (fun _ ↦ true) fun a ↦ a.move amount 0).Meets grantContract
        fun _ ↦ (readAccount p).Meets grantContract fun a ↦
          (createLedgerEntry id (post a)).Meets grantContract fun _ ↦ Q a) locks ws s := by
  refine meets_createAccountIfMissing (fun hmem ↦ ?_) fun _ locks₁ ws₁ s₁ h₁ hlocks₁ hws₁ hacc ↦ ?_
  · obtain ⟨code, hcode⟩ := hws _ hmem
    cases hcode
  refine meets_creditAccount hacc fun s₂ old h₂ hcredited ↦ ?_
  refine meets_readAccount hcredited fun s₃ h₃ ↦ ?_
  rw [createLedgerEntry, hpost]
  refine meets_create fun s₄ h₄ hnone hfree ↦ ?_
  have hledger : ∀ b j, RowKey.creditLedgerEntry b j ∉ keysOf ((ws ++ ws₁) ++
      [⟨.creditAccount p, creditedRow old amount⟩]) := by
    intro b j hmem
    have hmem' : RowKey.creditLedgerEntry b j ∈ keysOf ws ∨
        RowKey.creditLedgerEntry b j ∈ keysOf ws₁ := by
      simpa [keysOf] using hmem
    rcases hmem' with hmem' | hmem'
    · obtain ⟨code, hcode⟩ := hws _ hmem'
      cases hcode
    · cases hws₁ _ hmem'
  rw [Db.lookup_apply_of_notMem (hledger _ _)] at hnone
  have hlocks₂ : locks ⊆ locks₁ ++ [RowKey.creditAccount p] :=
    List.Subset.trans hlocks₁ (List.subset_append_left _ _)
  have hrely : grantContract.Rely locks s s₄ :=
    ((h₁.trans (h₂.mono hlocks₁)).trans (h₃.mono hlocks₂)).trans (h₄.mono hlocks₂)
  generalize hlocks : locks₁ ++ [RowKey.creditAccount p] ++ (RowKey.creditLedgerEntry p.book id ::
    ledgerReferenceIndex p.book (post (creditedRow old amount)).referenceKey ++
      [.creditLedgerEntry p.book id]) = locks₄
  have hsub : locks₁ ++ [RowKey.creditAccount p] ⊆ locks₄ := hlocks ▸ List.subset_append_left _ _
  have hposted : Pinned locks₄ (ws ++ ws₁ ++ [⟨.creditAccount p, creditedRow old amount⟩] ++
      [⟨.creditLedgerEntry p.book id, post (creditedRow old amount)⟩]) s₄
      (.creditLedgerEntry p.book id) none (some (post (creditedRow old amount))) :=
    .write hnone (by simp [← hlocks]) _
  have hcredited₄ : Pinned locks₄ (ws ++ ws₁ ++ [⟨.creditAccount p, creditedRow old amount⟩] ++
      [⟨.creditLedgerEntry p.book id, post (creditedRow old amount)⟩]) s₄ (.creditAccount p) old
      (some (creditedRow old amount)) :=
    ((hcredited.rely h₃).rely h₄).append hsub (by simp [keysOf])
  have hassoc : ws ++ ws₁ ++ [⟨.creditAccount p, creditedRow old amount⟩] ++
      [⟨.creditLedgerEntry p.book id, post (creditedRow old amount)⟩] =
      ws ++ (ws₁ ++ [⟨.creditAccount p, creditedRow old amount⟩] ++
        [⟨.creditLedgerEntry p.book id, post (creditedRow old amount)⟩]) := by
    simp
  rw [hassoc] at hposted hcredited₄ ⊢
  generalize hws' : ws₁ ++ [(⟨.creditAccount p, creditedRow old amount⟩ : Sigma Row)] ++
    [⟨.creditLedgerEntry p.book id, post (creditedRow old amount)⟩] = ws'
    at hposted hcredited₄ ⊢
  have hkeys : ∀ k ∈ keysOf ws', k = .creditAccount p ∨ k = .creditLedgerEntry p.book id := by
    intro k hk
    rw [← hws', keysOf, List.map_append, List.map_append, List.mem_append, List.mem_append] at hk
    rcases hk with (hk | hk) | hk
    · exact .inl (hws₁ k hk)
    · exact .inl (by simpa using hk)
    · exact .inr (by simpa using hk)
  have hlocks₄ : locks ⊆ locks₄ := List.Subset.trans hlocks₂ hsub
  refine h _ _ _ _ hrely hlocks₄ hkeys
    ⟨hposted, fun b j hne hmem ↦ ?_, ⟨old, hcredited₄⟩, fun q hq hmem ↦ ?_, fun key hkey ↦ ?_,
      fun hne ↦ ?_⟩
  · rw [keysOf, List.map_append, List.mem_append] at hmem
    rcases hmem with hmem | hmem
    · obtain ⟨code, hcode⟩ := hws _ hmem
      cases hcode
    · rcases hkeys _ hmem with hk | hk
      · cases hk
      · exact hne hk
  · rw [keysOf, List.map_append, List.mem_append] at hmem
    rcases hmem with hmem | hmem
    · obtain ⟨code, hcode⟩ := hws _ hmem
      cases hcode
    · rcases hkeys _ hmem with hk | hk
      · cases hk
        exact hq rfl
      · cases hk
  · rw [hkey] at hfree
    exact ⟨by simp [← hlocks, hkey, ledgerReferenceIndex],
      (unoccupied_apply hledger).mp (unoccupied_of_not_taken hfree)⟩
  · obtain ⟨c₀, c₁, hpinned, hunused, hused⟩ := hcode _ hne
    refine ⟨c₀, c₁, (hpinned.rely hrely).append hlocks₄ (fun hmem ↦ ?_), hunused, hused⟩
    rcases hkeys _ hmem with hk | hk <;> cases hk

theorem redeemCodeByHash_some {codeHash : String} {found : String × RedeemCode}
    (h : redeemCodeByHash codeHash s = some found) :
    s.lookup (.redeemCode found.1) = some found.2 ∧ found.2.codeHash = codeHash := by
  obtain ⟨k, c, hlookup, hc⟩ := Db.mem_select.mp (List.mem_of_head? h)
  cases k with
  | redeemCode id =>
    dsimp only at hc
    split at hc
    · rename_i hhash
      cases hc
      exact ⟨hlookup, hhash⟩
    · cases hc
  | _ => cases hc

/-- A code that is unused has not changed. -/
theorem unused_of_rely (ht : grantContract.Rely locks s t) {code : String} {c : RedeemCode}
    (hc : t.lookup (.redeemCode code) = some c) (hunused : c.status = .unused) :
    s.lookup (.redeemCode code) = some c := by
  have hlift : t.lookup (.redeemCode code) = some c → s.lookup (.redeemCode code) = some c := by
    refine ht.lift (P := fun u v : Store ↦ v.lookup (.redeemCode code) = some c →
      u.lookup (.redeemCode code) = some c) (fun _ h ↦ h) (fun u v w h h' hw ↦ h (h' hw)) ?_
    intro _ _ _ u v _ hcommit hv
    obtain ⟨c₀, hc₀, -, hsame⟩ := code_of_grantStep hcommit.row hv
    rw [hc₀, hsame hunused]
  exact hlift hc

theorem meets_redeemCode (userID codeHash redeemedIP entryID : String) (now : Time) :
    (GrantCall.redeemCode userID codeHash redeemedIP entryID now).prog.Meets grantContract
      (Commits (.free GrantCall.prog) grantContract
        (.redeemCode userID codeHash redeemedIP entryID now)) [] [] s := by
  rw [GrantCall.prog, meets_bind, HMaigc.redeemCode, meets_bind]
  refine meets_query fun s₁ h₁ ↦ ?_
  rw [Db.apply_nil]
  cases hfound : redeemCodeByHash codeHash s₁ with
  | none => exact (meets_fail _ _ _ _ _).mpr trivial
  | some found =>
    obtain ⟨code, c⟩ := found
    obtain ⟨hcode, hhash⟩ := redeemCodeByHash_some hfound
    dsimp only at hcode hhash ⊢
    have hne : code ≠ "" := by
      rintro rfl
      exact absurd (h₁.2.named.symm.trans hcode) (by simp)
    rw [meets_bind]
    refine meets_update (fun s₂ h₂ c₂ hc₂ hcond c' hc' ↦ ?_) fun s₂ h₂ _ ↦ ?_
    · rw [if_neg (by simp)]
      have hunused : c₂.status = .unused := by
        simp only [Bool.and_eq_true, decide_eq_true_eq] at hcond
        exact hcond.1
      cases hcode.symm.trans (unused_of_rely h₂ hc₂ hunused)
      cases hc'
      have hpinned : Pinned [.redeemCode code] [⟨.redeemCode code, c.redeem userID redeemedIP now⟩]
        s₂ (.redeemCode code) (some c) (some (c.redeem userID redeemedIP now)) :=
        .first hc₂ (by simp) _
      have hcited : ∀ a, (redeemEntry userID code c.amountMicrocredits a).redeemCodeID ≠ "" →
          ∃ c₀ c₁, Pinned [.redeemCode code] [⟨.redeemCode code, c.redeem userID redeemedIP now⟩] s₂
            (.redeemCode code) (some c₀) (some c₁) ∧ c₀.status = .unused ∧ c₁.status ≠ .unused :=
        fun _ _ ↦ ⟨c, _, hpinned, hunused, by simp [RedeemCode.redeem]⟩
      have hwritten : ∀ k ∈ keysOf [(⟨.redeemCode code, c.redeem userID redeemedIP now⟩ :
          Sigma Row)], ∃ code, k = .redeemCode code := by
        simp [keysOf]
      simp only [meets_bind_eq, List.nil_append]
      refine meets_granting (redeemEntry userID code c.amountMicrocredits) hwritten (fun _ ↦ rfl) hcited
        fun _ locks ws s₃ h₃ hlocks hkeys hgranting ↦ meets_pure (meets_pure ?_)
      have hnot : RowKey.redeemCode code ∉ keysOf ws := fun hmem ↦ by
        rcases hkeys _ hmem with hk | hk <;> cases hk
      have hpinned₃ := (hpinned.rely h₃).append hlocks hnot
      refine hgranting.commits (by simp) (fun t ht hcredited ↦ ?_) (fun t ht i hi ↦ by cases hi)
      refine ⟨code, c, (hpinned₃.rely ht).committed, hhash, hunused, (hpinned₃.rely ht).view,
        fun code' hne' ↦ Db.lookup_apply_of_notMem (fun hmem ↦ ?_) t, _, hcredited, rfl⟩
      have hmem' : code' = code ∨ RowKey.redeemCode code' ∈ keysOf ws := by
        simpa [keysOf] using hmem
      rcases hmem' with hk | hmem
      · exact hne' hk
      · rcases hkeys _ hmem with hk | hk <;> cases hk
    · rw [if_pos (by simp)]
      exact (meets_fail _ _ _ _ _).mpr trivial

theorem subscription_of_rely (ht : grantContract.Rely locks s t) (id : String) :
    t.lookup (.membershipSubscription id) = s.lookup (.membershipSubscription id) :=
  ht.lookup_eq_of_row fun _ _ _ h ↦ h

/-- `GrantMembershipSubscriptionCredits`, once it has found the entry missing. -/
theorem meets_grantSubscription {m : MembershipSubscription} {grant : ℤ} {ledgerID : String}
    {now : Time} (hm : s.lookup (.membershipSubscription id) = some m)
    {post : CreditAccount → CreditLedgerEntry}
    (hpost : ∀ a, (post a).payer = m.payer ∧ (post a).redeemCodeID = "" ∧
      (post a).referenceKey = some (membershipOrderReference m.orderID)) :
    (grantToAccount m.payer grant ledgerID post).Meets grantContract (fun _ ↦
      (pure none : DbTx (Option Bool)).Meets grantContract
        (Commits (.free GrantCall.prog) grantContract
          (.reconcileSubscription id grant ledgerID now))) locks [] s := by
  have hwritten : ∀ k ∈ keysOf ([] : List (Sigma Row)), ∃ code, k = .redeemCode code := by
    simp [keysOf]
  rw [grantToAccount]
  simp only [meets_bind_eq]
  refine meets_granting post hwritten (fun a ↦ (hpost a).1)
    (fun a hne ↦ absurd (hpost a).2.1 hne)
    fun _ locks ws s₁ h₁ _ hkeys hgranting ↦ meets_pure ?_
  have hm₁ : ∀ t, grantContract.Rely locks s₁ t →
      t.lookup (.membershipSubscription id) = some m := fun t ht ↦
    (subscription_of_rely ht id).trans ((subscription_of_rely h₁ id).trans hm)
  refine hgranting.commits (by simp) (fun t ht hcredited ↦ ?_) fun t ht i hi ↦ ?_
  · refine ⟨fun code ↦ Db.lookup_apply_of_notMem (fun hmem ↦ ?_) t, m, _, hm₁ t ht, hcredited,
      (hpost _).2.2⟩
    rcases hkeys _ hmem with hk | hk <;> cases hk
  · rw [GrantCall.reference, hm₁ t ht] at hi
    cases hi
    exact ⟨_, (hpost _).2.2, rfl⟩

/-- `GrantMembershipSubscriptionCredits`, if it finds the entry. -/
theorem commits_of_granted {m : MembershipSubscription} {grant : ℤ} {ledgerID : String}
    {now : Time} (hm : s.lookup (.membershipSubscription id) = some m)
    (h : membershipGrantExists m.payer.book (membershipOrderReference m.orderID) s = true) :
    Commits (.free GrantCall.prog) grantContract (.reconcileSubscription id grant ledgerID now)
      none locks [] s := by
  refine commits_of_taken (p := m.payer) (by simp) (by simp [keysOf]) (by simp [keysOf])
    (fun t ht ↦ ?_) (occupied_of_granted h)
  rw [GrantCall.reference, subscription_of_rely ht id, hm]
  rfl

theorem meets_reconcileSubscription (id : String) (grant : ℤ) (ledgerID : String) (now : Time) :
    (GrantCall.reconcileSubscription id grant ledgerID now).prog.Meets grantContract
      (Commits (.free GrantCall.prog) grantContract
        (.reconcileSubscription id grant ledgerID now)) [] [] s := by
  rw [GrantCall.prog, meets_bind, HMaigc.reconcileSubscription, meets_bind]
  refine meets_first (k := RowKey.membershipSubscription id) fun s₁ h₁ m hm ↦ ?_
  rw [grantMembershipSubscriptionCredits]
  refine meets_ite (fun _ ↦ (meets_fail _ _ _ _ _).mpr trivial) fun _ ↦ ?_
  dsimp only [membershipOrderEntry]
  refine meets_ite (fun _ ↦ ?_) fun _ ↦ ?_
  · rw [meets_bind]
    exact (meets_fail _ _ _ _ _).mpr trivial
  rw [meets_bind]
  refine meets_firstForUpdate (k := RowKey.membershipSubscription id) fun s₂ h₂ current hcurrent _ ↦ ?_
  rw [Db.apply_nil] at hm hcurrent
  obtain rfl : current = m :=
    Option.some.inj (hcurrent.symm.trans ((subscription_of_rely h₂ id).trans hm))
  refine meets_ite (fun _ ↦ ?_) fun _ ↦ meets_ite (fun hteam ↦ ?_) fun hteam ↦ ?_
  · rw [meets_bind]
    exact (meets_fail _ _ _ _ _).mpr trivial
  · have hpayer : current.payer = .team current.teamID := if_neg hteam
    rw [meets_bind]
    refine meets_query fun s₃ h₃ ↦ ?_
    have hm₃ := (subscription_of_rely h₃ id).trans hcurrent
    refine meets_ite (fun hgranted ↦ meets_pure (meets_pure (commits_of_granted hm₃ ?_))) fun _ ↦ ?_
    · rwa [hpayer]
    · rw [← hpayer]
      exact meets_grantSubscription hm₃ fun _ ↦ ⟨hpayer.symm, rfl, rfl⟩
  · rw [not_ne_iff] at hteam
    have hpayer : current.payer = .user current.userID := if_pos hteam
    rw [meets_bind]
    refine meets_query fun s₃ h₃ ↦ ?_
    have hm₃ := (subscription_of_rely h₃ id).trans hcurrent
    refine meets_ite (fun hgranted ↦ meets_pure (meets_pure (commits_of_granted hm₃ ?_))) fun _ ↦ ?_
    · rwa [hpayer]
    · rw [← hpayer]
      exact meets_grantSubscription hm₃ fun _ ↦ ⟨by rw [hpayer]; rfl, rfl, rfl⟩

theorem GrantCall.meets_prog (c : GrantCall) :
    c.prog.Meets grantContract (Commits (.free GrantCall.prog) grantContract c) [] [] s := by
  cases c with
  | grantCreditsOnce => exact meets_grantCreditsOnce _ _ _ _ _ _
  | redeemCode => exact meets_redeemCode _ _ _ _ _
  | reconcileSubscription => exact meets_reconcileSubscription _ _ _ _

end Meets

/-! ## Grants -/

/-- What is to be granted once: the reference key of a bonus, a redeem code, the order of a
membership. -/
inductive Grant where
  | reference (key : String)
  | code (id : String)
  | order (id : String)

/-- The call is to make the grant, according to the codes and subscriptions in `s`. -/
def GrantCall.IsFor (s : Store) : GrantCall → Grant → Prop
  | .grantCreditsOnce _ _ _ referenceKey _ _, .reference key => referenceKey = key
  | .redeemCode _ codeHash _ _ _, .code id =>
    ∃ c, s.lookup (.redeemCode id) = some c ∧ c.codeHash = codeHash
  | .reconcileSubscription id _ _ _, .order orderID =>
    ∃ m, s.lookup (.membershipSubscription id) = some m ∧ m.orderID = orderID
  | _, _ => False

/-- The entry of the book records the grant. -/
def Grant.RecordedBy (s : Store) (b : Book) (e : CreditLedgerEntry) : Grant → Prop
  | .reference key => b = .personal ∧ e.referenceKey = some key
  | .code id => b = .personal ∧ e.redeemCodeID = id ∧ id ≠ ""
  | .order orderID => e.referenceKey = some (membershipOrderReference orderID) ∧
    ∃ id m, s.lookup (.membershipSubscription id) = some m ∧ m.orderID = orderID ∧
      b = m.payer.book

/-- The ledger has an entry for the grant. -/
def Grant.Recorded (g : Grant) (s : Store) : Prop :=
  ∃ b id e, s.lookup (.creditLedgerEntry b id) = some e ∧ g.RecordedBy s b e

/-- The code is used. -/
def Redeemed (id : String) (s : Store) : Prop :=
  ∃ c, s.lookup (.redeemCode id) = some c ∧ c.status = .redeemed

/-- The grant is present exactly once. -/
structure Grant.Made (g : Grant) (s : Store) : Prop where
  recorded : g.Recorded s
  once : ∀ b id e b' id' e', s.lookup (.creditLedgerEntry b id) = some e → g.RecordedBy s b e →
    s.lookup (.creditLedgerEntry b' id') = some e' → g.RecordedBy s b' e' → b = b' ∧ id = id'
  redeemed : ∀ id, g = .code id → Redeemed id s

/-- The transaction is for the grant, and applied it. -/
def Grant.AppliedBy (g : Grant) (e : Ended GrantCall Row (Option Bool)) : Prop :=
  e.call.IsFor e.before g ∧ e.call.Applies e.before e.after

/-- What holds of all transactions together when the grant is made once. -/
structure GrantedOnce (g : Grant) (cfg : Config GrantCall Row RepoError (Option Bool)) : Prop where
  /-- At most one transaction applies the grant. -/
  once : cfg.log.Pairwise fun e e' ↦ ¬(g.AppliedBy e ∧ g.AppliedBy e')
  /-- As soon as a call for it has succeeded, it is there exactly once. -/
  made : (∃ e ∈ cfg.log, e.call.IsFor e.before g ∧ e.result.isSome) → g.Made cfg.db
  /-- What does not apply a grant changes nothing. -/
  untouched : ∀ e ∈ cfg.log, ¬e.call.Applies e.before e.after → Untouched e.before e.after
  /-- `GrantCreditsOnce` says whether it applied the grant. -/
  flag : ∀ e ∈ cfg.log, ∀ granted, e.result = some (some granted) →
    (granted = true ↔ e.call.Applies e.before e.after)

section Grants

variable {s t : Store} {c : GrantCall} {g : Grant} {locks : List RowKey} {a : Option Bool}

theorem Credited.not_untouched {p : Payer} {amount : ℤ} {id : String} {entry : CreditLedgerEntry}
    (h : Credited p amount id entry s t) : ¬Untouched s t := fun hsame ↦ by
  have hnone := (hsame.entries p.book id).trans h.new
  exact absurd (hnone.symm.trans h.entered) (by simp)

theorem GrantCall.Applies.not_untouched (h : c.Applies s t) : ¬Untouched s t := by
  cases c with
  | grantCreditsOnce =>
    obtain ⟨-, entry, hcredited, -⟩ := h
    exact hcredited.not_untouched
  | redeemCode =>
    obtain ⟨id, c, -, -, -, -, -, entry, hcredited, -⟩ := h
    exact hcredited.not_untouched
  | reconcileSubscription =>
    obtain ⟨-, m, entry, -, hcredited, -⟩ := h
    exact hcredited.not_untouched

/-- The reference key was free where the call has applied its grant. -/
theorem GrantCall.Post.unoccupied (h : c.Post locks a s t) (happlies : c.Applies s t) {i : RowKey}
    (hi : c.reference s = some i) : Unoccupied referenceIndex i s := by
  rcases h.effect with ⟨-, -, hfree⟩ | ⟨huntouched, -⟩
  · exact hfree i hi
  · exact absurd huntouched happlies.not_untouched

theorem Grant.Recorded.step (h : RowStep GrantStep s t) (hs : g.Recorded s) : g.Recorded t := by
  obtain ⟨b, id, e, he, hby⟩ := hs
  have hstays : ∃ e', t.lookup (.creditLedgerEntry b id) = some e' ∧
      e'.referenceKey = e.referenceKey ∧ e'.redeemCodeID = e.redeemCodeID := by
    rcases h (.creditLedgerEntry b id) with heq | ⟨e', he', hstep⟩
    · exact ⟨e, heq.trans he, rfl, rfl⟩
    · exact ⟨e', he', hstep e he⟩
  obtain ⟨e', he', hreference, hcode⟩ := hstays
  refine ⟨b, id, e', he', ?_⟩
  cases g with
  | reference key => exact ⟨hby.1, hreference.trans hby.2⟩
  | code code => exact ⟨hby.1, hcode.trans hby.2.1, hby.2.2⟩
  | order orderID =>
    obtain ⟨hkey, sub, m, hm, hrest⟩ := hby
    exact ⟨hreference.trans hkey, sub, m, (subscription_of_grantStep h sub).trans hm, hrest⟩

theorem Redeemed.step {id : String} (h : RowStep GrantStep s t) (hs : Redeemed id s) :
    Redeemed id t := by
  obtain ⟨c, hc, hredeemed⟩ := hs
  rcases h (.redeemCode id) with heq | ⟨c', hc', -, -, -, -, hredeemed'⟩
  · exact ⟨c, heq.trans hc, hredeemed⟩
  · exact ⟨c', hc', hredeemed'⟩

/-- **An entry records a grant alone.** -/
theorem Grant.once_of_tables (hs : GrantTables s) {b b' : Book} {id id' : String}
    {e e' : CreditLedgerEntry} (he : s.lookup (.creditLedgerEntry b id) = some e)
    (hby : g.RecordedBy s b e) (he' : s.lookup (.creditLedgerEntry b' id') = some e')
    (hby' : g.RecordedBy s b' e') : b = b' ∧ id = id' := by
  cases g with
  | reference key =>
    obtain ⟨rfl, hkey⟩ := hby
    obtain ⟨rfl, hkey'⟩ := hby'
    cases hs.references _ _ _ e e' he he' (referenceIndex_of_key hkey) (referenceIndex_of_key hkey')
    exact ⟨rfl, rfl⟩
  | code code =>
    obtain ⟨rfl, hcode, hne⟩ := hby
    obtain ⟨rfl, hcode', -⟩ := hby'
    cases hs.citations _ _ _ e e' he he' (citationIndex_of_code hcode hne)
      (citationIndex_of_code hcode' hne)
    exact ⟨rfl, rfl⟩
  | order orderID =>
    obtain ⟨hkey, sub, m, hm, horder, rfl⟩ := hby
    obtain ⟨hkey', sub', m', hm', horder', rfl⟩ := hby'
    obtain rfl := hs.orders sub sub' m m' hm hm' (horder.trans horder'.symm)
    cases hm.symm.trans hm'
    cases hs.references _ _ _ e e' he he' (referenceIndex_of_key hkey) (referenceIndex_of_key hkey')
    exact ⟨rfl, rfl⟩

/-- **What a call that applies its grant finds and leaves.** -/
theorem Grant.recorded_of_applies (hs : GrantTables s) (hpost : c.Post locks a s t)
    (hrow : RowStep GrantStep s t) (hfor : c.IsFor s g) (happlies : c.Applies s t) :
    ¬g.Recorded s ∧ g.Recorded t := by
  cases c with
  | grantCreditsOnce userID entryType amount referenceKey note entryID =>
    cases g with
    | reference key =>
      obtain rfl : referenceKey = key := hfor
      have hfree := hpost.unoccupied happlies rfl
      obtain ⟨-, entry, hcredited, hkey⟩ := happlies
      refine ⟨?_, .personal, entryID, entry, hcredited.entered, rfl, hkey⟩
      rintro ⟨b, id, e, he, rfl, hkey'⟩
      exact occupied_of_entry he hkey' hfree
    | _ => exact hfor.elim
  | redeemCode userID codeHash redeemedIP entryID now =>
    cases g with
    | code code =>
      obtain ⟨c, hc, hhash⟩ := hfor
      obtain ⟨code', c', hc', hhash', hunused, -, -, entry, hcredited, hcites⟩ := happlies
      obtain rfl := hs.hashes code code' c c' hc hc' (hhash.trans hhash'.symm)
      have hne : code ≠ "" := by
        rintro rfl
        exact absurd (hs.named.symm.trans hc) (by simp)
      refine ⟨?_, .personal, entryID, entry, hcredited.entered, rfl, hcites, hne⟩
      rintro ⟨b, id, e, he, rfl, hcites', -⟩
      exact hs.uncited code c' hc' hunused _ e he (citationIndex_of_code hcites' hne)
    | _ => exact hfor.elim
  | reconcileSubscription id grant ledgerID now =>
    cases g with
    | order orderID =>
      obtain ⟨m, hm, rfl⟩ := hfor
      have hfree := hpost.unoccupied happlies (by rw [GrantCall.reference, hm]; rfl)
      obtain ⟨-, m', entry, hm', hcredited, hkey⟩ := happlies
      cases hm.symm.trans hm'
      refine ⟨?_, m.payer.book, ledgerID, entry, hcredited.entered, hkey, id, m,
        (subscription_of_grantStep hrow id).trans hm, rfl, rfl⟩
      rintro ⟨b, j, e, he, hkey', id', m', hm'', horder, rfl⟩
      obtain rfl := hs.orders id id' m m' hm hm'' horder.symm
      cases hm.symm.trans hm''
      exact occupied_of_entry he hkey' hfree
    | _ => exact hfor.elim

/-- **What a call that has succeeded leaves.** -/
theorem Grant.recorded_of_post (hs : GrantTables s) (hpost : c.Post locks a s t)
    (hrow : RowStep GrantStep s t) (hfor : c.IsFor s g) : g.Recorded t := by
  rcases hpost.effect with ⟨happlies, -⟩ | ⟨-, -, i, hi, htaken⟩
  · exact (Grant.recorded_of_applies hs hpost hrow hfor happlies).2
  · refine Grant.Recorded.step hrow ?_
    by_contra hnot
    refine htaken fun k r hr hkr ↦ hnot ?_
    obtain ⟨b, j, rfl⟩ := referenceIndex_eq_some hkr
    obtain ⟨key, hkey, heq⟩ := Option.map_eq_some_iff.mp hkr
    subst heq
    cases c with
    | grantCreditsOnce userID entryType amount referenceKey note entryID =>
      cases g with
      | reference key' =>
        obtain rfl : referenceKey = key' := hfor
        cases hi
        exact ⟨_, j, r, hr, rfl, hkey⟩
      | _ => exact hfor.elim
    | redeemCode => cases hi
    | reconcileSubscription id grant ledgerID now =>
      cases g with
      | order orderID =>
        obtain ⟨m, hm, rfl⟩ := hfor
        rw [GrantCall.reference, hm] at hi
        cases hi
        exact ⟨_, j, r, hr, hkey, id, m, hm, rfl, rfl⟩
      | _ => exact hfor.elim

/-- A call that has redeemed a code leaves it used. -/
theorem redeemed_of_post {id : String} (hs : GrantTables s) (hpost : c.Post locks a s t)
    (hfor : c.IsFor s (.code id)) : Redeemed id t := by
  cases c with
  | redeemCode userID codeHash redeemedIP entryID now =>
    obtain ⟨c, hc, hhash⟩ := hfor
    rcases hpost.effect with ⟨happlies, -⟩ | ⟨-, -, i, hi, -⟩
    · obtain ⟨code', c', hc', hhash', -, hafter, -⟩ := happlies
      obtain rfl := hs.hashes id code' c c' hc hc' (hhash.trans hhash'.symm)
      exact ⟨_, hafter, rfl⟩
    · cases hi
  | _ => exact hfor.elim

end Grants

/-! ## Runs -/

/-- A transaction that ended committed as the contract says, or left everything as it was. -/
theorem cases_fulfilled {e : Ended GrantCall Row (Option Bool)} (h : grantContract.Fulfilled e) :
    (∃ a locks, e.result = some a ∧ grantContract.Commit e.call locks a e.before e.after) ∨
      e.result = none ∧ e.after = e.before := by
  rw [Contract.Fulfilled] at h
  cases hres : e.result with
  | none =>
    rw [hres] at h
    exact .inr ⟨rfl, h⟩
  | some a =>
    rw [hres] at h
    obtain ⟨locks, hcommit⟩ := h
    exact .inl ⟨a, locks, rfl, hcommit⟩

theorem Untouched.refl (s : Store) : Untouched s s := ⟨fun _ _ ↦ rfl, fun _ ↦ rfl, fun _ ↦ rfl⟩

theorem rowStep_of_fulfilled {e : Ended GrantCall Row (Option Bool)}
    (h : grantContract.Fulfilled e) : RowStep GrantStep e.before e.after := by
  rcases cases_fulfilled h with ⟨a, locks, -, hcommit⟩ | ⟨-, heq⟩
  · exact hcommit.row
  · exact heq ▸ .refl _ _

theorem grantedOnce_of_ok {s : Store} {cfg : Config GrantCall Row RepoError (Option Bool)}
    (hlinked : Linked s cfg.log cfg.db)
    (hok : Contract.Ok (.free GrantCall.prog) grantContract cfg) (g : Grant) :
    GrantedOnce g cfg where
  once := by
    refine hlinked.atMostOnce (P := g.Recorded)
      (fun e he hrecorded ↦ hrecorded.step (rowStep_of_fulfilled (hok.log e he)))
      fun e he ⟨hfor, happlies⟩ ↦ ?_
    rcases cases_fulfilled (hok.log e he) with ⟨a, locks, -, hcommit⟩ | ⟨-, heq⟩
    · exact Grant.recorded_of_applies hcommit.before hcommit.post hcommit.row hfor happlies
    · exact absurd (heq ▸ .refl e.before) happlies.not_untouched
  made := by
    rintro ⟨e, he, hfor, hsome⟩
    rcases cases_fulfilled (hok.log e he) with ⟨a, locks, -, hcommit⟩ | ⟨hnone, -⟩
    · refine ⟨?_, fun _ _ _ _ _ _ ↦ Grant.once_of_tables hok.inv, ?_⟩
      · exact hlinked.established
          (fun e' he' hrecorded ↦ hrecorded.step (rowStep_of_fulfilled (hok.log e' he')))
          ⟨e, he, Grant.recorded_of_post hcommit.before hcommit.post hcommit.row hfor⟩
      · rintro id rfl
        exact hlinked.established
          (fun e' he' hredeemed ↦ hredeemed.step (rowStep_of_fulfilled (hok.log e' he')))
          ⟨e, he, redeemed_of_post hcommit.before hcommit.post hfor⟩
    · rw [hnone] at hsome
      cases hsome
  untouched := by
    intro e he hnot
    rcases cases_fulfilled (hok.log e he) with ⟨a, locks, -, hcommit⟩ | ⟨-, heq⟩
    · rcases hcommit.post.effect with ⟨happlies, -⟩ | ⟨huntouched, -⟩
      · exact absurd happlies hnot
      · exact huntouched
    · exact heq ▸ .refl e.before
  flag := by
    intro e he granted hres
    rcases cases_fulfilled (hok.log e he) with ⟨a, locks, ha, hcommit⟩ | ⟨hnone, -⟩
    · cases hres.symm.trans ha
      rcases hcommit.post.effect with ⟨happlies, hflag, -⟩ | ⟨huntouched, hflag, -⟩
      · exact ⟨fun _ ↦ happlies, fun _ ↦ by simpa using hflag⟩
      · exact ⟨fun htrue ↦ absurd (by rw [htrue]) hflag, fun happlies ↦
          absurd huntouched happlies.not_untouched⟩
    · rw [hnone] at hres
      cases hres

/-- **Grants are made exactly once.**  In every run of the three kinds of calls, however their
transactions interleave. -/
theorem grants_exactlyOnce {s : Store} (hs : GrantTables s)
    {cfg : Config GrantCall Row RepoError (Option Bool)}
    (h : Reach (.free GrantCall.prog) (.init s) cfg) (g : Grant) : GrantedOnce g cfg :=
  grantedOnce_of_ok (linked_of_reach h) (Contract.sound (fun _ ↦ rowTrans_grantStep)
    GrantCall.keeps_prog (fun c _ _ ↦ c.meets_prog) hs h) g

/-! ### Two users and one code -/

/-- An unused code. -/
def oneCode : Store :=
  AList.insert (.redeemCode "c") { codeHash := "h", amountMicrocredits := 100 } ∅

theorem grantTables_oneCode : GrantTables oneCode := by
  have hledger : ∀ b i, oneCode.lookup (.creditLedgerEntry b i) = none := fun b i ↦
    AList.lookup_insert_ne (by simp)
  have hcode : ∀ id c, oneCode.lookup (.redeemCode id) = some c → id = "c" := by
    intro id c hc
    by_contra hne
    rw [oneCode, AList.lookup_insert_ne (by simpa using hne)] at hc
    cases hc
  refine ⟨fun i k k' r r' hr _ hi _ ↦ ?_, fun i k k' r r' hr _ hi _ ↦ ?_,
    fun id id' c c' hc hc' _ ↦ (hcode id c hc).trans (hcode id' c' hc').symm, fun id id' m m' hm ↦ ?_,
    rfl, fun id c _ _ k r hr hi ↦ ?_⟩
  · obtain ⟨b, j, rfl⟩ := referenceIndex_eq_some hi
    cases (hledger b j).symm.trans hr
  · obtain ⟨j, rfl⟩ := citationIndex_eq_some hi
    cases (hledger _ j).symm.trans hr
  · rw [oneCode, AList.lookup_insert_ne (by simp)] at hm
    cases hm
  · obtain ⟨j, rfl⟩ := citationIndex_eq_some hi
    cases (hledger _ j).symm.trans hr

/-- Both users find the code unused before either redeems it. -/
def overlappingRedemptions : List (Action GrantCall) :=
  [.start 0 (.redeemCode "u" "h" "" "e0" 1), .start 1 (.redeemCode "v" "h" "" "e1" 1),
    .step 0, .step 1, .step 0, .step 0, .step 0, .step 0, .step 0, .commit 0, .step 1, .abort 1]

theorem play_overlappingRedemptions :
    (play GrantCall.prog (.init oneCode) overlappingRedemptions).map
      (fun cfg ↦ cfg.log.map fun e ↦ (e.result.isSome,
        (accountOf (.user "u") e.after).availableMicrocredits,
        (accountOf (.user "v") e.after).availableMicrocredits)) =
      some [(false, 100, 0), (true, 100, 0)] := by
  decide

theorem grants_exactlyOnce_overlapping :
    ∃ cfg, Reach (.free GrantCall.prog) (.init oneCode) cfg ∧
      cfg.log.map (·.result.isSome) = [false, true] ∧ GrantedOnce (.code "c") cfg := by
  obtain ⟨cfg, hplay, hlog⟩ := Option.map_eq_some_iff.mp play_overlappingRedemptions
  have hreach := reach_of_play hplay
  refine ⟨cfg, hreach, ?_, grants_exactlyOnce grantTables_oneCode hreach _⟩
  simpa [Function.comp_def] using congrArg (List.map Prod.fst) hlog

end HMaigc
