import HMaigc.Sql.Db

/-!
# Transactions as programs of SQL statements

A transaction is written here as a program whose only effects are SQL statements.  A statement sees
one *view* of the database and does three things with it: it names the row locks it needs, it names
the rows it writes, and it decides how the transaction goes on.  Everything a particular kind of
statement is about — a `WHERE` clause, a unique index, a row count — is a function of the view.

* `Prog β ε α` — a program that returns an `α` or rolls back with an error `ε`; it is a monad, so a
  transaction body reads as a `do` block.
* `Prog.statement` — the one statement the others are cases of: `query` and `first` (plain
  `SELECT`), `firstForUpdate` (`SELECT … FOR UPDATE`), `update` (`UPDATE … WHERE key = ? AND …`,
  returning the number of rows affected), `create` and `createIgnore` (`INSERT`, the second with
  `ON CONFLICT DO NOTHING`).
* `Prog.run` — the program alone on the database, one statement after another.  This is the meaning
  of a transaction in a serial execution; `Sql.ReadCommitted` gives the concurrent one.
* `Prog.transact` — the same, with an arbitrary statement or the commit itself failing, and the
  roll back a failure causes.
* `Prog.Post` — partial correctness over `run`, with one rule for each statement.
-/

set_option autoImplicit false

namespace Sql

variable {κ : Type} {β : κ → Type} {ε α γ : Type}

/-- Rows written one after another, the last write to a key winning. -/
def Db.apply [DecidableEq κ] (writes : List (Sigma β)) (s : Db β) : Db β :=
  writes.foldl (fun s w ↦ s.insert w.1 w.2) s

/-- A transaction body.  A statement reads the view it is given: `locks` are the rows it locks for
the rest of the transaction besides the ones it writes, `writes` are the new rows. -/
inductive Prog (β : κ → Type) (ε α : Type) : Type where
  | done (a : α)
  | fail (e : ε)
  | stmt (locks : Db β → List κ) (writes : Db β → List (Sigma β)) (next : Db β → Prog β ε α)

/-- The rows an `UPDATE` without a key rewrites. -/
def Db.changes (new : ∀ k, β k → Option (β k)) (s : Db β) : List (Sigma β) :=
  s.entries.filterMap fun e ↦ (new e.1 e.2).map (Sigma.mk e.1)

namespace Db

theorem keys_changes (new : ∀ k, β k → Option (β k)) (s : Db β) :
    (s.changes new).map Sigma.fst = (s.entries.filter fun e ↦ (new e.1 e.2).isSome).map
      Sigma.fst := by
  rw [changes]
  induction s.entries with
  | nil => rfl
  | cons e l ih => cases h : new e.1 e.2 <;> simp [h, ih]

variable [DecidableEq κ]

@[simp] theorem apply_nil (s : Db β) : apply [] s = s := rfl

@[simp] theorem apply_cons (w : Sigma β) (ws : List (Sigma β)) (s : Db β) :
    apply (w :: ws) s = apply ws (s.insert w.1 w.2) := rfl

theorem apply_append (ws ws' : List (Sigma β)) (s : Db β) :
    apply (ws ++ ws') s = apply ws' (apply ws s) :=
  List.foldl_append

/-- Rows that are not written keep their value. -/
theorem lookup_apply_of_notMem {ws : List (Sigma β)} {k : κ} (h : k ∉ ws.map Sigma.fst)
    (s : Db β) : (apply ws s).lookup k = s.lookup k := by
  induction ws generalizing s with
  | nil => rfl
  | cons w ws ih =>
    rw [List.map_cons, List.mem_cons, not_or] at h
    rw [apply_cons, ih h.2, AList.lookup_insert_ne h.1]

/-- Writes delete nothing. -/
theorem exists_lookup_apply (ws : List (Sigma β)) {k : κ} {s : Db β} {r : β k}
    (h : s.lookup k = some r) : ∃ r', (apply ws s).lookup k = some r' := by
  induction ws generalizing s r with
  | nil => exact ⟨r, h⟩
  | cons w ws ih =>
    by_cases hk : k = w.1
    · subst hk
      exact ih (AList.lookup_insert s)
    · exact ih ((AList.lookup_insert_ne hk).trans h)

/-- What a list of writes leaves under a written key does not depend on what was there. -/
theorem lookup_apply_congr {ws : List (Sigma β)} {k : κ} {s t : Db β}
    (h : s.lookup k = t.lookup k) : (apply ws s).lookup k = (apply ws t).lookup k := by
  induction ws generalizing s t with
  | nil => exact h
  | cons w ws ih =>
    refine ih ?_
    by_cases hk : k = w.1
    · subst hk
      rw [AList.lookup_insert, AList.lookup_insert]
    · rw [AList.lookup_insert_ne hk, AList.lookup_insert_ne hk, h]

/-- A row written once, by a list of writes to different rows, has the value written. -/
theorem lookup_apply_of_mem {ws : List (Sigma β)} (hnd : (ws.map Sigma.fst).Nodup) {k : κ}
    {v : β k} (h : ⟨k, v⟩ ∈ ws) (s : Db β) : (apply ws s).lookup k = some v := by
  induction ws generalizing s with
  | nil => simp at h
  | cons w ws ih =>
    rw [List.map_cons, List.nodup_cons] at hnd
    rcases List.mem_cons.mp h with rfl | h
    · rw [apply_cons, lookup_apply_of_notMem hnd.1, AList.lookup_insert]
    · exact ih hnd.2 h _

/-- **What an `UPDATE` without a key leaves under every key.** -/
theorem lookup_apply_changes (new : ∀ k, β k → Option (β k)) (s : Db β) (k : κ) :
    (s.apply (s.changes new)).lookup k = (s.lookup k).map fun r ↦ (new k r).getD r := by
  have hnd : ((s.changes new).map Sigma.fst).Nodup := by
    rw [keys_changes]
    exact s.nodupKeys.sublist List.filter_sublist
  have hmem : ∀ r, s.lookup k = some r → ⟨k, r⟩ ∈ s.entries := fun r ↦ mem_entries_iff.mpr
  cases hs : s.lookup k with
  | none =>
    rw [lookup_apply_of_notMem, hs, Option.map_none]
    rw [keys_changes]
    intro hk
    obtain ⟨⟨k', r⟩, he, rfl⟩ := List.mem_map.mp hk
    rw [mem_entries_iff.mp (List.mem_of_mem_filter he)] at hs
    cases hs
  | some r =>
    cases hn : new k r with
    | some r' =>
      rw [lookup_apply_of_mem hnd (v := r'), Option.map_some, hn, Option.getD_some]
      exact List.mem_filterMap.mpr ⟨⟨k, r⟩, hmem r hs, by simp [hn]⟩
    | none =>
      rw [lookup_apply_of_notMem, hs, Option.map_some, hn, Option.getD_none]
      rw [keys_changes]
      intro hk
      obtain ⟨⟨k', r'⟩, he, rfl⟩ := List.mem_map.mp hk
      obtain ⟨he, hsome⟩ := List.mem_filter.mp he
      rw [mem_entries_iff.mp he] at hs
      cases hs
      simp [hn] at hsome

end Db

namespace Prog

/-! ## Sequencing -/

/-- Run `p`, then go on with its result. -/
def bind : Prog β ε α → (α → Prog β ε γ) → Prog β ε γ
  | .done a, f => f a
  | .fail e, _ => .fail e
  | .stmt l w n, f => .stmt l w fun v ↦ (n v).bind f

instance : Monad (Prog β ε) where
  pure := .done
  bind := bind

instance : MonadExceptOf ε (Prog β ε) where
  throw := .fail
  tryCatch p _ := p

@[simp] theorem pure_eq_done (a : α) : (pure a : Prog β ε α) = .done a := rfl

@[simp] theorem throw_eq_fail (e : ε) : (throw e : Prog β ε α) = .fail e := rfl

@[simp] theorem done_bind (a : α) (f : α → Prog β ε γ) : (Prog.done a >>= f) = f a := rfl

@[simp] theorem fail_bind (e : ε) (f : α → Prog β ε γ) :
    ((Prog.fail e : Prog β ε α) >>= f) = .fail e := rfl

@[simp] theorem stmt_bind (l : Db β → List κ) (w : Db β → List (Sigma β))
    (n : Db β → Prog β ε α) (f : α → Prog β ε γ) :
    (Prog.stmt l w n >>= f) = .stmt l w fun v ↦ n v >>= f := rfl

/-! ## Statements -/

/-- How a statement's outcome continues the transaction. -/
def ofOutcome : Except ε (List (Sigma β) × α) → Prog β ε α
  | .ok (_, a) => .done a
  | .error e => .fail e

/-- The rows a statement's outcome writes. -/
def outcomeWrites : Except ε (List (Sigma β) × α) → List (Sigma β)
  | .ok (ws, _) => ws
  | .error _ => []

/-- One SQL statement: what it locks, and what it writes and returns — or the error it fails with —
as functions of the view it runs on. -/
def statement (locks : Db β → List κ) (act : Db β → Except ε (List (Sigma β) × α)) :
    Prog β ε α :=
  .stmt locks (fun v ↦ outcomeWrites (act v)) fun v ↦ ofOutcome (act v)

/-- A plain `SELECT`: no lock, no write. -/
def query (f : Db β → α) : Prog β ε α :=
  statement (fun _ ↦ []) fun v ↦ .ok ([], f v)

/-- A `SELECT … FOR UPDATE` that finds its rows by a search. -/
def queryForUpdate (locks : Db β → List κ) (f : Db β → α) : Prog β ε α :=
  statement locks fun v ↦ .ok ([], f v)

variable [DecidableEq κ]

/-- `SELECT` of one row by its key, failing with `missing` when there is none. -/
def first (k : κ) (missing : ε) : Prog β ε (β k) :=
  statement (fun _ ↦ []) fun v ↦
    match v.lookup k with
    | some r => .ok ([], r)
    | none => .error missing

/-- `SELECT … FOR UPDATE` of one row by its key and a further condition: the row is locked when it
is there and meets the condition, and the statement fails with `missing` otherwise. -/
def firstForUpdate (k : κ) (cond : β k → Bool) (missing : ε) : Prog β ε (β k) :=
  statement (fun v ↦ if (v.lookup k).any cond then [k] else []) fun v ↦
    match v.lookup k with
    | some r => if cond r then .ok ([], r) else .error missing
    | none => .error missing

/-- `UPDATE` of one row by its key and a further condition, returning the number of rows affected.
The new row may be an error of the statement itself, such as a number out of its column's range. -/
def update (k : κ) (cond : β k → Bool) (new : β k → Except ε (β k)) : Prog β ε ℕ :=
  statement (fun _ ↦ []) fun v ↦
    match v.lookup k with
    | some r => if cond r then (new r).map fun r' ↦ ([⟨k, r'⟩], 1) else .ok ([], 0)
    | none => .ok ([], 0)

/-- `UPDATE` of one row by its key that moves it within unique indexes: `unique` are the entries it
takes, and the statement fails with `duplicate` when `clash` finds another row there. -/
def updateUnique (k : κ) (cond : β k → Bool) (new : β k → β k) (duplicate : ε)
    (unique : β k → List κ) (clash : β k → Db β → Bool) : Prog β ε ℕ :=
  statement (fun v ↦ ((v.lookup k).filter cond).elim [] fun r ↦ k :: unique r) fun v ↦
    match v.lookup k with
    | some r =>
      if cond r then if clash r v then .error duplicate else .ok ([⟨k, new r⟩], 1)
      else .ok ([], 0)
    | none => .ok ([], 0)

/-- `UPDATE` of all rows `new` gives a new value for, returning their number. -/
def updateAll (new : ∀ k, β k → Option (β k)) : Prog β ε ℕ :=
  statement (fun _ ↦ []) fun v ↦ .ok (v.changes new, (v.changes new).length)

/-- `INSERT` of one row under a new key.  `unique` are the keys of the unique indexes the row enters,
locked like the row itself; the statement fails with `duplicate` when the key is taken or `clash`
finds another row that already occupies one of the indexes. -/
def create (k : κ) (r : β k) (duplicate : ε) (unique : List κ := [])
    (clash : Db β → Bool := fun _ ↦ false) : Prog β ε Unit :=
  statement (fun _ ↦ k :: unique) fun v ↦
    if (v.lookup k).isSome || clash v then .error duplicate else .ok ([⟨k, r⟩], ())

/-- `INSERT … ON CONFLICT DO NOTHING`, returning the number of rows inserted. -/
def createIgnore (k : κ) (r : β k) (unique : List κ := [])
    (clash : Db β → Bool := fun _ ↦ false) : Prog β ε ℕ :=
  statement (fun v ↦ if (v.lookup k).isSome || clash v then [] else k :: unique) fun v ↦
    if (v.lookup k).isSome || clash v then .ok ([], 0) else .ok ([⟨k, r⟩], 1)

/-- `INSERT … ON CONFLICT (column) DO NOTHING`, returning the number of rows inserted: `taken` asks
whether the column has the value already, and any other conflict is an error. -/
def createUnlessTaken (k : κ) (r : β k) (duplicate : ε) (unique : List κ) (taken : Db β → Bool)
    (clash : Db β → Bool := fun _ ↦ false) : Prog β ε ℕ :=
  statement (fun v ↦ if taken v then [] else k :: unique) fun v ↦
    if taken v then .ok ([], 0)
    else if (v.lookup k).isSome || clash v then .error duplicate
    else .ok ([⟨k, r⟩], 1)

/-! ## The program alone on the database -/

/-- The program run on its own: every statement sees the writes of the ones before it. -/
def run : Prog β ε α → Db β → Except ε (α × Db β)
  | .done a, s => .ok (a, s)
  | .fail e, _ => .error e
  | .stmt _ w n, s => (n s).run (s.apply (w s))

/-- Why a transaction did not commit: its body returned an error, or the database failed. -/
inductive Failure (ε : Type) : Type where
  | returned (e : ε)
  | driver

/-- `run` with a failure of the database: under `some n` the statement number `n` fails, the commit
counting as the statement after the last. -/
def runWith : Option ℕ → Prog β ε α → Db β → Except (Failure ε) (α × Db β)
  | some 0, .done _, _ => .error .driver
  | _, .done a, s => .ok (a, s)
  | _, .fail e, _ => .error (.returned e)
  | some 0, .stmt _ _ _, _ => .error .driver
  | some (n + 1), .stmt _ w next, s => (next s).runWith (some n) (s.apply (w s))
  | none, .stmt _ w next, s => (next s).runWith none (s.apply (w s))

/-- **A transaction**: commit the program's writes when it returns, keep the database as it was when
it does not. -/
def transact (fault : Option ℕ) (p : Prog β ε α) (s : Db β) :
    Except (Failure ε) α × Db β :=
  match p.runWith fault s with
  | .ok (a, s') => (.ok a, s')
  | .error e => (.error e, s)

/-- **Roll back**: a transaction that does not return a value leaves the database as it was. -/
theorem transact_error {fault : Option ℕ} {p : Prog β ε α} {s s' : Db β} {e : Failure ε}
    (h : p.transact fault s = (.error e, s')) : s' = s := by
  unfold transact at h
  split at h
  · cases (Prod.ext_iff.mp h).1
  · exact (Prod.ext_iff.mp h).2.symm

/-- A run that a database failure does not stop is the run without failures. -/
theorem run_of_runWith {fault : Option ℕ} {p : Prog β ε α} {s s' : Db β} {a : α}
    (h : p.runWith fault s = .ok (a, s')) : p.run s = .ok (a, s') := by
  induction p generalizing fault s with
  | done b =>
    rcases fault with _ | _ | n
    · simpa [runWith, run] using h
    · simp [runWith] at h
    · simpa [runWith, run] using h
  | fail e => rcases fault with _ | _ | n <;> simp [runWith] at h
  | stmt l w next ih =>
    rcases fault with _ | _ | n
    · exact ih s h
    · simp [runWith] at h
    · exact ih s h

theorem run_of_transact {fault : Option ℕ} {p : Prog β ε α} {s s' : Db β} {a : α}
    (h : p.transact fault s = (.ok a, s')) : p.run s = .ok (a, s') := by
  unfold transact at h
  split at h
  · rename_i b t hrun
    obtain ⟨hb, ht⟩ := Prod.ext_iff.mp h
    cases hb
    cases ht
    exact run_of_runWith hrun
  · cases (Prod.ext_iff.mp h).1

theorem runWith_of_run {p : Prog β ε α} {s s' : Db β} {a : α} (h : p.run s = .ok (a, s')) :
    p.runWith none s = .ok (a, s') := by
  induction p generalizing s with
  | done b => simpa [runWith, run] using h
  | fail e => cases h
  | stmt l w next ih => exact ih s h

theorem runWith_firstForUpdate_bind {k : κ} {cond : β k → Bool} {missing : ε} {r : β k} {s : Db β}
    (h : s.lookup k = some r) (hc : cond r = true) (f : β k → Prog β ε α) :
    (firstForUpdate k cond missing >>= f).runWith none s = (f r).runWith none s := by
  simp [firstForUpdate, statement, runWith, h, hc, outcomeWrites, ofOutcome]

/-! ### What statements do where nothing is in their way -/

theorem run_bind_of_ok {p : Prog β ε α} {s s' : Db β} {a : α} (h : p.run s = .ok (a, s'))
    (f : α → Prog β ε γ) : (p >>= f).run s = (f a).run s' := by
  induction p generalizing s with
  | done b =>
    cases h
    rfl
  | fail e => cases h
  | stmt l w next ih => exact ih s h

theorem run_query_bind (f : Db β → α) (g : α → Prog β ε γ) (s : Db β) :
    (query f >>= g).run s = (g (f s)).run s := rfl

theorem run_firstForUpdate {k : κ} {cond : β k → Bool} {r : β k} {s : Db β}
    (h : s.lookup k = some r) (hc : cond r = true) (missing : ε) :
    (firstForUpdate k cond missing).run s = .ok (r, s) := by
  simp [firstForUpdate, statement, run, h, hc, outcomeWrites, ofOutcome]

theorem run_update {k : κ} {cond : β k → Bool} {r r' : β k} {s : Db β}
    (h : s.lookup k = some r) (hc : cond r = true) {new : β k → Except ε (β k)}
    (hnew : new r = .ok r') : (update k cond new).run s = .ok (1, s.insert k r') := by
  simp [update, statement, run, h, hc, hnew, outcomeWrites, ofOutcome, Except.map]

theorem run_updateOne {k : κ} {cond : β k → Bool} {r : β k} {s : Db β}
    (h : s.lookup k = some r) (hc : cond r = true) (f : β k → β k) (e : ε) :
    (do
      let rows ← update k cond fun r ↦ .ok (f r)
      if rows ≠ 1 then throw e : Prog β ε Unit).run s = .ok ((), s.insert k (f r)) := by
  have hrun : (update k cond fun r ↦ .ok (f r) : Prog β ε ℕ).run s = .ok (1, s.insert k (f r)) :=
    run_update h hc rfl
  rw [run_bind_of_ok hrun]
  rfl

theorem run_create {k : κ} {r : β k} {unique : List κ} {clash : Db β → Bool} {s : Db β}
    (h : s.lookup k = none) (hc : clash s = false) (duplicate : ε) :
    (create k r duplicate unique clash).run s = .ok ((), s.insert k r) := by
  simp [create, statement, run, h, hc, outcomeWrites, ofOutcome]

theorem transact_of_run {p : Prog β ε α} {s s' : Db β} {a : α} (h : p.run s = .ok (a, s')) :
    p.transact none s = (.ok a, s') := by
  rw [transact, runWith_of_run h]

theorem transact_of_run_error {p : Prog β ε α} {s : Db β} {e : ε} (h : p.run s = .error e) :
    p.transact none s = (.error (.returned e), s) := by
  have hwith : ∀ (q : Prog β ε α) (t : Db β), q.run t = .error e →
      q.runWith none t = .error (.returned e) := by
    intro q
    induction q with
    | done b => exact fun t ht ↦ by cases ht
    | fail e' => exact fun t ht ↦ by cases ht; rfl
    | stmt l w next ih => exact fun t ht ↦ ih t _ ht
  rw [transact, hwith p s h]

/-! ## Partial correctness -/

/-- If the program, run alone on `s`, returns `a` and leaves `s'`, then `Q a s'`. -/
def Post (p : Prog β ε α) (s : Db β) (Q : α → Db β → Prop) : Prop :=
  ∀ a s', p.run s = .ok (a, s') → Q a s'

theorem Post.mono {p : Prog β ε α} {s : Db β} {Q Q' : α → Db β → Prop} (h : p.Post s Q)
    (hQ : ∀ a s', Q a s' → Q' a s') : p.Post s Q' :=
  fun a s' hrun ↦ hQ a s' (h a s' hrun)

@[simp] theorem post_done (a : α) (s : Db β) (Q : α → Db β → Prop) :
    (Prog.done a : Prog β ε α).Post s Q ↔ Q a s := by
  simp [Post, run]

@[simp] theorem post_fail (e : ε) (s : Db β) (Q : α → Db β → Prop) :
    (Prog.fail e : Prog β ε α).Post s Q ↔ True := by
  simp [Post, run]

theorem post_stmt (l : Db β → List κ) (w : Db β → List (Sigma β)) (n : Db β → Prog β ε α)
    (s : Db β) (Q : α → Db β → Prop) :
    (Prog.stmt l w n).Post s Q ↔ (n s).Post (s.apply (w s)) Q := Iff.rfl

/-- **The sequencing rule.** -/
@[simp] theorem post_bind (p : Prog β ε α) (f : α → Prog β ε γ) (s : Db β)
    (Q : γ → Db β → Prop) :
    (p >>= f).Post s Q ↔ p.Post s fun a s' ↦ (f a).Post s' Q := by
  induction p generalizing s with
  | done a => rw [done_bind, post_done]
  | fail e => rw [fail_bind, post_fail, post_fail]
  | stmt l w n ih => rw [stmt_bind, post_stmt, post_stmt, ih]

/-- What a sequence did, its two parts did one after the other. -/
theorem run_bind_eq_ok {p : Prog β ε α} {f : α → Prog β ε γ} {s s' : Db β} {c : γ}
    (h : (p >>= f).run s = .ok (c, s')) :
    ∃ a t, p.run s = .ok (a, t) ∧ (f a).run t = .ok (c, s') :=
  (post_bind p f s fun c s' ↦ ∃ a t, p.run s = .ok (a, t) ∧ (f a).run t = .ok (c, s')).mpr
    (fun a t hp _ _ hf ↦ ⟨a, t, hp, hf⟩) c s' h

/-- The rule for one statement: nothing to show where it fails. -/
theorem post_statement (locks : Db β → List κ)
    (act : Db β → Except ε (List (Sigma β) × α)) (s : Db β) (Q : α → Db β → Prop) :
    (statement locks act).Post s Q ↔ ∀ ws a, act s = .ok (ws, a) → Q a (s.apply ws) := by
  rw [statement, post_stmt]
  cases h : act s with
  | error e => simp [ofOutcome]
  | ok r =>
    obtain ⟨ws, a⟩ := r
    simp [ofOutcome, outcomeWrites]

@[simp] theorem post_query (f : Db β → α) (s : Db β) (Q : α → Db β → Prop) :
    (query f : Prog β ε α).Post s Q ↔ Q (f s) s := by
  simp [query, post_statement]

@[simp] theorem post_first (k : κ) (e : ε) (s : Db β) (Q : β k → Db β → Prop) :
    (first k e).Post s Q ↔ ∀ r, s.lookup k = some r → Q r s := by
  rw [first, post_statement]
  cases s.lookup k <;> simp

@[simp] theorem post_firstForUpdate (k : κ) (cond : β k → Bool) (e : ε) (s : Db β)
    (Q : β k → Db β → Prop) :
    (firstForUpdate k cond e).Post s Q ↔ ∀ r, s.lookup k = some r → cond r = true → Q r s := by
  rw [firstForUpdate, post_statement]
  cases s.lookup k with
  | none => simp
  | some r => by_cases h : cond r = true <;> simp [h]

/-- The rule for `UPDATE`: the row meets the condition and is overwritten, or nothing happens. -/
@[simp] theorem post_update (k : κ) (cond : β k → Bool) (new : β k → Except ε (β k)) (s : Db β)
    (Q : ℕ → Db β → Prop) :
    (update k cond new).Post s Q ↔
      (∀ r, s.lookup k = some r → cond r = true → ∀ r', new r = .ok r' → Q 1 (s.insert k r')) ∧
      ((∀ r, s.lookup k = some r → cond r = false) → Q 0 s) := by
  rw [update, post_statement]
  cases s.lookup k with
  | none => simp
  | some r =>
    by_cases h : cond r = true
    · cases hn : new r <;> simp [h, hn, Except.map]
    · simp [h]

@[simp] theorem post_create (k : κ) (r : β k) (e : ε) (unique : List κ) (clash : Db β → Bool)
    (s : Db β) (Q : Unit → Db β → Prop) :
    (create k r e unique clash).Post s Q ↔
      (s.lookup k = none → clash s = false → Q () (s.insert k r)) := by
  rw [create, post_statement]
  rcases s.lookup k with _ | r' <;> rcases clash s with _ | _ <;> simp
  exact ⟨fun h ↦ h _ () rfl, fun h ws a hws ↦ hws ▸ h⟩

@[simp] theorem post_createIgnore (k : κ) (r : β k) (unique : List κ) (clash : Db β → Bool)
    (s : Db β) (Q : ℕ → Db β → Prop) :
    (createIgnore k r unique clash : Prog β ε ℕ).Post s Q ↔
      (s.lookup k = none → clash s = false → Q 1 (s.insert k r)) ∧
      ((s.lookup k).isSome = true ∨ clash s = true → Q 0 s) := by
  rw [createIgnore, post_statement]
  cases s.lookup k <;> cases clash s <;> simp

@[simp] theorem post_createUnlessTaken (k : κ) (r : β k) (e : ε) (unique : List κ)
    (taken clash : Db β → Bool) (s : Db β) (Q : ℕ → Db β → Prop) :
    (createUnlessTaken k r e unique taken clash).Post s Q ↔
      (taken s = true → Q 0 s) ∧
      (taken s = false → s.lookup k = none → clash s = false → Q 1 (s.insert k r)) := by
  rw [createUnlessTaken, post_statement]
  cases taken s <;> rcases s.lookup k with _ | r' <;> rcases clash s with _ | _ <;> simp

@[simp] theorem post_queryForUpdate (locks : Db β → List κ) (f : Db β → α) (s : Db β)
    (Q : α → Db β → Prop) : (queryForUpdate locks f : Prog β ε α).Post s Q ↔ Q (f s) s := by
  simp [queryForUpdate, post_statement]

@[simp] theorem post_updateUnique (k : κ) (cond : β k → Bool) (new : β k → β k) (e : ε)
    (unique : β k → List κ) (clash : β k → Db β → Bool) (s : Db β) (Q : ℕ → Db β → Prop) :
    (updateUnique k cond new e unique clash).Post s Q ↔
      (∀ r, s.lookup k = some r → cond r = true → clash r s = false →
        Q 1 (s.insert k (new r))) ∧
      ((∀ r, s.lookup k = some r → cond r = false) → Q 0 s) := by
  rw [updateUnique, post_statement]
  cases s.lookup k with
  | none => simp
  | some r =>
    by_cases h : cond r = true
    · cases hc : clash r s <;> simp [h, hc]
    · simp [h]

@[simp] theorem post_updateAll (new : ∀ k, β k → Option (β k)) (s : Db β)
    (Q : ℕ → Db β → Prop) :
    (updateAll new : Prog β ε ℕ).Post s Q ↔
      Q (s.changes new).length (s.apply (s.changes new)) := by
  simp [updateAll, post_statement]

theorem post_ite (c : Prop) [Decidable c] (p q : Prog β ε α) (s : Db β) (Q : α → Db β → Prop) :
    (if c then p else q).Post s Q ↔ (c → p.Post s Q) ∧ (¬c → q.Post s Q) := by
  by_cases h : c <;> simp [h]

/-- An `UPDATE` that must affect one row. -/
theorem post_updateOne (k : κ) (cond : β k → Bool) (f : β k → β k) (e : ε) (s : Db β)
    (Q : Unit → Db β → Prop) :
    (do
      let rows ← update k cond fun r ↦ .ok (f r)
      if rows ≠ 1 then throw e : Prog β ε Unit).Post s Q ↔
      ∀ r, s.lookup k = some r → cond r = true → Q () (s.insert k (f r)) := by
  simp [post_ite]

end Prog

end Sql
