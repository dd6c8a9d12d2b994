import HMaigc.Sql.ReadCommitted

/-!
# Contracts: reasoning about every interleaving, one transaction at a time

To know what a transaction does among others one has to say what the others may do meanwhile.  A
`Contract` says it once for a whole system, in three parts:

* `inv`, a property of the committed database;
* `row c`, what one write of the call `c` may do to one row;
* `post c`, what a committed call `c` did to the database, given the locks it held.

From these, `Contract.Interfere locks` is what a single commit of somebody else can do to a
transaction that holds `locks`: it meets *its* part of the contract, and it touches none of the
rows locked — because it can only touch rows it has locked itself.  `Contract.Rely` is any number of
such commits.

`Prog.Meets` is then a symbolic execution: run the program statement by statement, letting `Rely`
happen before each, and reach a state from which committing meets `post`.  Because it is defined by
recursion on the program, it has one rule per statement and a sequencing rule (`meets_bind`).

**`Contract.sound`** is the point: if every call's program keeps its `row` relation and meets the
contract when started on a database satisfying `inv`, then in every run, of any length and in any
interleaving, `inv` holds and every transaction in the log did what its `post` says.  The circularity
— each transaction relies on the others meeting the contract — is resolved there, once, by induction
on the run.
-/

set_option autoImplicit false

namespace Sql

variable {κ χ : Type} {β : κ → Type} {ε ω α γ : Type} [DecidableEq κ]

/-! ## Contracts -/

/-- What the calls of a system promise one another. -/
structure Contract (κ χ : Type) (β : κ → Type) (ω : Type) where
  inv : Db β → Prop
  row : χ → ∀ k, Option (β k) → β k → Prop
  post : χ → List κ → ω → Db β → Db β → Prop

namespace Contract

variable (C : Contract κ χ β ω)

/-- A commit of the call `c` holding `locks` that meets the contract. -/
structure Commit (c : χ) (locks : List κ) (a : ω) (s s' : Db β) : Prop where
  before : C.inv s
  after : C.inv s'
  frame : ∀ k, k ∉ locks → s'.lookup k = s.lookup k
  row : RowStep (C.row c) s s'
  post : C.post c locks a s s'

/-- One commit of somebody else while `locks` are held. -/
def Interfere (locks : List κ) (s s' : Db β) : Prop :=
  ∃ c locks' a, locks.Disjoint locks' ∧ C.Commit c locks' a s s'

/-- What may have happened to the committed database between two statements of a transaction that
holds `locks`. -/
def Rely (locks : List κ) (s s' : Db β) : Prop :=
  Relation.ReflTransGen (C.Interfere locks) s s' ∧ C.inv s'

variable {C} {locks : List κ} {s t u : Db β}

theorem Rely.refl (h : C.inv s) : C.Rely locks s s := ⟨.refl, h⟩

theorem Rely.trans (h : C.Rely locks s t) (h' : C.Rely locks t u) : C.Rely locks s u :=
  ⟨h.1.trans h'.1, h'.2⟩

/-- **Locked rows do not move.** -/
theorem Rely.lookup_eq (h : C.Rely locks s t) {k : κ} (hk : k ∈ locks) :
    t.lookup k = s.lookup k := by
  obtain ⟨h, -⟩ := h
  induction h with
  | refl => rfl
  | tail _ hstep ih =>
    obtain ⟨c, locks', a, hdisj, hcommit⟩ := hstep
    rw [hcommit.frame k fun hk' ↦ hdisj hk hk', ih]

/-- A relation that every interfering commit satisfies, and that composes, holds across all of
them. -/
theorem Rely.lift {P : Db β → Db β → Prop} (h : C.Rely locks s t) (hrefl : ∀ s, P s s)
    (htrans : ∀ s t u, P s t → P t u → P s u)
    (hstep : ∀ c locks' a s t, locks.Disjoint locks' → C.Commit c locks' a s t → P s t) :
    P s t := by
  obtain ⟨h, -⟩ := h
  induction h with
  | refl => exact hrefl s
  | tail _ hlast ih =>
    obtain ⟨c, locks', a, hdisj, hcommit⟩ := hlast
    exact htrans _ _ _ ih (hstep c locks' a _ _ hdisj hcommit)

/-- Rows stay, though they may change. -/
theorem Rely.exists_lookup (h : C.Rely locks s t) {k : κ} {r : β k} (hr : s.lookup k = some r) :
    ∃ r', t.lookup k = some r' := by
  refine h.lift (P := fun u v ↦ ∀ r, u.lookup k = some r → ∃ r', v.lookup k = some r')
    (fun _ r hr ↦ ⟨r, hr⟩) (fun _ _ _ h h' r hr ↦ (h r hr).elim h') (fun _ _ _ _ _ _ hcommit r hr ↦ ?_)
    r hr
  rcases hcommit.row k with heq | ⟨r', hr', -⟩
  · exact ⟨r, heq.trans hr⟩
  · exact ⟨r', hr'⟩

/-- A row no call of the system writes stays as it is. -/
theorem Rely.lookup_eq_of_row (h : C.Rely locks s t) {k : κ}
    (hrow : ∀ c (o : Option (β k)) r, ¬C.row c k o r) : t.lookup k = s.lookup k := by
  refine h.lift (P := fun u v ↦ v.lookup k = u.lookup k) (fun _ ↦ rfl)
    (fun _ _ _ h h' ↦ h'.trans h) fun c _ _ _ _ _ hcommit ↦ ?_
  exact (hcommit.row k).resolve_right fun ⟨r, _, hr⟩ ↦ hrow c _ r hr

/-- Fewer locks rely on less. -/
theorem Rely.mono {locks' : List κ} (h : C.Rely locks' s t) (hsub : locks ⊆ locks') :
    C.Rely locks s t :=
  ⟨Relation.ReflTransGen.mono (fun _ _ ⟨c, l, a, hdisj, hcommit⟩ ↦
    ⟨c, l, a, fun _ hk hk' ↦ hdisj (hsub hk) hk', hcommit⟩) _ _ h.1, h.2⟩

end Contract

/-! ## Rows that are settled -/

/-- The row under `k` is locked; committed it is `old`, and with the pending writes it is `new`. -/
structure Pinned (locks : List κ) (ws : List (Sigma β)) (s : Db β) (k : κ)
    (old new : Option (β k)) : Prop where
  locked : k ∈ locks
  committed : s.lookup k = old
  view : (s.apply ws).lookup k = new

namespace Pinned

variable {C : Contract κ χ β ω} {locks locks' : List κ} {ws ws' : List (Sigma β)} {s t : Db β}
  {k : κ} {old new : Option (β k)}

/-- Nobody else moves it. -/
theorem rely (h : Pinned locks ws s k old new) (hr : C.Rely locks s t) :
    Pinned locks ws t k old new where
  locked := h.locked
  committed := (hr.lookup_eq h.locked).trans h.committed
  view := (Db.lookup_apply_congr (hr.lookup_eq h.locked)).trans h.view

/-- Writes to other rows leave it. -/
theorem append (h : Pinned locks ws s k old new) (hlocks : locks ⊆ locks') (hk : k ∉ keysOf ws') :
    Pinned locks' (ws ++ ws') s k old new where
  locked := hlocks h.locked
  committed := h.committed
  view := by rw [Db.apply_append, Db.lookup_apply_of_notMem hk, h.view]

theorem write (hs : s.lookup k = old) (hk : k ∈ locks) (r : β k) :
    Pinned locks (ws ++ [⟨k, r⟩]) s k old (some r) where
  locked := hk
  committed := hs
  view := by rw [Db.apply_append]; exact AList.lookup_insert _

/-- The first write of a transaction. -/
theorem first (hs : s.lookup k = old) (hk : k ∈ locks) (r : β k) :
    Pinned locks [⟨k, r⟩] s k old (some r) where
  locked := hk
  committed := hs
  view := AList.lookup_insert s

end Pinned

/-! ## Symbolic execution under interference -/

namespace Prog

variable (S : System χ β ε ω) (C : Contract κ χ β ω) (c : χ)

/-- Executing the program — with the locks and pending writes the transaction has, on a database last
seen as `s`, and interference before each statement — ends in `Q`. -/
def Meets (Q : α → List κ → List (Sigma β) → Db β → Prop) :
    Prog β ε α → List κ → List (Sigma β) → Db β → Prop
  | .done a, locks, ws, s => Q a locks ws s
  | .fail _, _, _, _ => True
  | .stmt l w n, locks, ws, s => ∀ s', C.Rely locks s s' →
      (n (s'.apply ws)).Meets Q
        (locks ++ (l (s'.apply ws) ++ keysOf (w (s'.apply ws)))) (ws ++ w (s'.apply ws)) s'

/-- Committing now, after some more interference, meets the contract. -/
def Commits (a : ω) (locks : List κ) (ws : List (Sigma β)) (s : Db β) : Prop :=
  ∀ s', C.Rely locks s s' → S.admits c ws s' →
    (∀ k, k ∉ locks → (s'.apply ws).lookup k = s'.lookup k) → RowStep (C.row c) s' (s'.apply ws) →
    C.post c locks a s' (s'.apply ws) ∧ C.inv (s'.apply ws)

variable {S C c}

theorem Commits.mono {a : ω} {locks : List κ} {ws : List (Sigma β)} {s t : Db β}
    (h : Commits S C c a locks ws s) (hr : C.Rely locks s t) :
    Commits S C c a locks ws t :=
  fun s' hs' ↦ h s' (hr.trans hs')

/-- Interference before the execution starts makes no difference. -/
theorem Meets.mono {Q : α → List κ → List (Sigma β) → Db β → Prop}
    (hQ : ∀ a locks ws s t, Q a locks ws s → C.Rely locks s t →
      Q a locks ws t) {p : Prog β ε α} {locks : List κ}
    {ws : List (Sigma β)} {s t : Db β} (h : p.Meets C Q locks ws s)
    (hr : C.Rely locks s t) : p.Meets C Q locks ws t := by
  cases p with
  | done a => exact hQ _ _ _ _ _ h hr
  | fail e => trivial
  | stmt l w n => exact fun s' hs' ↦ h s' (hr.trans hs')

@[simp] theorem meets_done (Q : α → List κ → List (Sigma β) → Db β → Prop) (a : α)
    (locks : List κ) (ws : List (Sigma β)) (s : Db β) :
    (Prog.done a : Prog β ε α).Meets C Q locks ws s ↔ Q a locks ws s := Iff.rfl

@[simp] theorem meets_fail (Q : α → List κ → List (Sigma β) → Db β → Prop) (e : ε)
    (locks : List κ) (ws : List (Sigma β)) (s : Db β) :
    (Prog.fail e : Prog β ε α).Meets C Q locks ws s ↔ True := Iff.rfl

theorem meets_pure {Q : α → List κ → List (Sigma β) → Db β → Prop} {a : α} {locks : List κ}
    {ws : List (Sigma β)} {s : Db β} (h : Q a locks ws s) :
    (pure a : Prog β ε α).Meets C Q locks ws s := h

theorem meets_stmt (Q : α → List κ → List (Sigma β) → Db β → Prop) (l : Db β → List κ)
    (w : Db β → List (Sigma β)) (n : Db β → Prog β ε α) (locks : List κ) (ws : List (Sigma β))
    (s : Db β) :
    (Prog.stmt l w n).Meets C Q locks ws s ↔ ∀ s', C.Rely locks s s' → (n (s'.apply ws)).Meets C Q
      (locks ++ (l (s'.apply ws) ++ keysOf (w (s'.apply ws)))) (ws ++ w (s'.apply ws)) s' := Iff.rfl

/-- **The sequencing rule.** -/
@[simp] theorem meets_bind (Q : γ → List κ → List (Sigma β) → Db β → Prop)
    (p : Prog β ε α) (f : α → Prog β ε γ) (locks : List κ) (ws : List (Sigma β))
    (s : Db β) :
    (p >>= f).Meets C Q locks ws s ↔
      p.Meets C (fun a ↦ (f a).Meets C Q) locks ws s := by
  induction p generalizing locks ws s with
  | done a => rfl
  | fail e => rfl
  | stmt l w n ih => exact forall₂_congr fun s' _ ↦ ih _ _ _ _

/-- The sequencing rule, for rewriting inside of what an earlier part ends in. -/
theorem meets_bind_eq (Q : γ → List κ → List (Sigma β) → Db β → Prop) (p : Prog β ε α)
    (f : α → Prog β ε γ) :
    (p >>= f).Meets C Q = p.Meets C fun a ↦ (f a).Meets C Q :=
  funext fun locks ↦ funext fun ws ↦ funext fun s ↦ propext (meets_bind Q p f locks ws s)

/-- What a program ends in may be weakened. -/
theorem Meets.imp {Q Q' : α → List κ → List (Sigma β) → Db β → Prop} {p : Prog β ε α}
    {locks : List κ} {ws : List (Sigma β)} {s : Db β} (h : p.Meets C Q locks ws s)
    (hQ : ∀ a locks ws s, Q a locks ws s → Q' a locks ws s) : p.Meets C Q' locks ws s := by
  induction p generalizing locks ws s with
  | done a => exact hQ _ _ _ _ h
  | fail e => trivial
  | stmt l w n ih => exact fun s' hs' ↦ ih _ (h s' hs')

/-- The invariant holds wherever a program ends. -/
theorem Meets.inv {Q : α → List κ → List (Sigma β) → Db β → Prop} {p : Prog β ε α}
    {locks : List κ} {ws : List (Sigma β)} {s : Db β} (h : p.Meets C Q locks ws s)
    (hs : C.inv s) : p.Meets C (fun a locks ws s ↦ Q a locks ws s ∧ C.inv s) locks ws s := by
  induction p generalizing locks ws s with
  | done a => exact ⟨h, hs⟩
  | fail e => trivial
  | stmt l w n ih => exact fun s' hs' ↦ ih _ (h s' hs') hs'.2

/-- What the others do not disturb still holds wherever a program ends. -/
theorem Meets.stable {P : Db β → Prop} (hP : ∀ locks s t, P s → C.Rely locks s t → P t)
    {Q : α → List κ → List (Sigma β) → Db β → Prop} {p : Prog β ε α} {locks : List κ}
    {ws : List (Sigma β)} {s : Db β} (h : p.Meets C Q locks ws s) (hs : P s) :
    p.Meets C (fun a locks ws s ↦ Q a locks ws s ∧ P s) locks ws s := by
  induction p generalizing locks ws s with
  | done a => exact ⟨h, hs⟩
  | fail e => trivial
  | stmt l w n ih => exact fun s' hs' ↦ ih _ (h s' hs') (hP _ _ _ hs hs')

/-- **The frame rule**: a row locked before is, committed, the same afterwards. -/
theorem Meets.frame {Q : α → List κ → List (Sigma β) → Db β → Prop} {p : Prog β ε α}
    {locks : List κ} {ws : List (Sigma β)} {s : Db β} {k : κ} {r : Option (β k)}
    (h : p.Meets C Q locks ws s) (hk : k ∈ locks) (hr : s.lookup k = r) :
    p.Meets C (fun a locks ws s ↦ Q a locks ws s ∧ k ∈ locks ∧ s.lookup k = r) locks ws s := by
  induction p generalizing locks ws s with
  | done a => exact ⟨h, hk, hr⟩
  | fail e => trivial
  | stmt l w n ih =>
    exact fun s' hs' ↦ ih _ (h s' hs') (List.mem_append_left _ hk) ((hs'.lookup_eq hk).trans hr)

section Statements

variable {Q : α → List κ → List (Sigma β) → Db β → Prop} {locks : List κ}
  {ws : List (Sigma β)} {s : Db β}

/-- The rule for one statement: nothing to show where it fails. -/
theorem meets_statement {l : Db β → List κ} {act : Db β → Except ε (List (Sigma β) × α)}
    (h : ∀ s', C.Rely locks s s' → ∀ ws' a, act (s'.apply ws) = .ok (ws', a) →
      Q a (locks ++ (l (s'.apply ws) ++ keysOf ws')) (ws ++ ws') s') :
    (statement l act).Meets C Q locks ws s := by
  intro s' hs'
  specialize h s' hs'
  revert h
  show _ → (ofOutcome (act (s'.apply ws))).Meets C Q
    (locks ++ (l (s'.apply ws) ++ keysOf (outcomeWrites (act (s'.apply ws)))))
    (ws ++ outcomeWrites (act (s'.apply ws))) s'
  cases act (s'.apply ws) with
  | error e => exact fun _ ↦ trivial
  | ok r => exact fun h ↦ h r.1 r.2 rfl

theorem meets_query {f : Db β → α}
    (h : ∀ s', C.Rely locks s s' → Q (f (s'.apply ws)) locks ws s') :
    (query f : Prog β ε α).Meets C Q locks ws s :=
  meets_statement fun s' hs' ws' a hact ↦ by
    cases hact
    simpa [keysOf] using h s' hs'

theorem meets_ite {p : Prop} [Decidable p] {x y : Prog β ε α}
    (hx : p → x.Meets C Q locks ws s) (hy : ¬p → y.Meets C Q locks ws s) :
    (if p then x else y).Meets C Q locks ws s := by
  by_cases h : p
  · rw [if_pos h]
    exact hx h
  · rw [if_neg h]
    exact hy h

/-- A check that is made in one case only, and that the transaction goes on from unchanged. -/
theorem meets_check {p : Prop} [Decidable p] {f : Db β → Bool} {e : ε} {q : Unit → Prog β ε α}
    (hs : C.inv s) (h : ∀ s', C.Rely locks s s' → (q ()).Meets C Q locks ws s') :
    (if p then do
      let b ← query f
      if b = true then do
        let r ← throw e
        q r
      else q ()
    else q ()).Meets C Q locks ws s := by
  refine meets_ite (fun _ ↦ ?_) fun _ ↦ h s (.refl hs)
  rw [meets_bind]
  refine meets_query fun s' hs' ↦ meets_ite (fun _ ↦ ?_) fun _ ↦ h s' hs'
  rw [meets_bind]
  exact (meets_fail _ _ _ _ _).mpr trivial

end Statements

section Rows

variable {k : κ} {e : ε} {locks : List κ} {ws : List (Sigma β)} {s : Db β}

theorem meets_first {Q : β k → List κ → List (Sigma β) → Db β → Prop}
    (h : ∀ s', C.Rely locks s s' → ∀ r, (s'.apply ws).lookup k = some r →
      Q r locks ws s') :
    (first k e).Meets C Q locks ws s :=
  meets_statement fun s' hs' ws' a hact ↦ by
    split at hact
    · rename_i r hr
      cases hact
      simpa [keysOf] using h s' hs' _ hr
    · cases hact

theorem meets_firstForUpdate {cond : β k → Bool}
    {Q : β k → List κ → List (Sigma β) → Db β → Prop}
    (h : ∀ s', C.Rely locks s s' → ∀ r, (s'.apply ws).lookup k = some r →
      cond r = true → Q r (locks ++ [k]) ws s') :
    (firstForUpdate k cond e).Meets C Q locks ws s :=
  meets_statement fun s' hs' ws' a hact ↦ by
    split at hact
    · rename_i r hr
      split at hact
      · rename_i hc
        cases hact
        simpa [keysOf, hr, hc] using h s' hs' _ hr hc
      · cases hact
    · cases hact

theorem meets_update {cond : β k → Bool} {new : β k → Except ε (β k)}
    {Q : ℕ → List κ → List (Sigma β) → Db β → Prop}
    (h : ∀ s', C.Rely locks s s' → ∀ r, (s'.apply ws).lookup k = some r →
      cond r = true → ∀ r', new r = .ok r' → Q 1 (locks ++ [k]) (ws ++ [⟨k, r'⟩]) s')
    (h0 : ∀ s', C.Rely locks s s' →
      (∀ r, (s'.apply ws).lookup k = some r → cond r = false) → Q 0 locks ws s') :
    (update k cond new).Meets C Q locks ws s :=
  meets_statement fun s' hs' ws' a hact ↦ by
    split at hact
    · rename_i r hr
      split at hact
      · rename_i hc
        cases hn : new r with
        | error e => simp [hn, Except.map] at hact
        | ok r' =>
          obtain ⟨rfl, rfl⟩ : [⟨k, r'⟩] = ws' ∧ 1 = a := by simpa [hn, Except.map] using hact
          exact h s' hs' r hr hc r' hn
      · rename_i hc
        cases hact
        simpa [keysOf] using h0 s' hs' fun r' hr' ↦ by
          rw [hr] at hr'
          cases hr'
          simpa using hc
    · rename_i hr
      cases hact
      simpa [keysOf] using h0 s' hs' fun r' hr' ↦ by simp [hr] at hr'

/-- An `UPDATE` that must affect one row. -/
theorem meets_updateOne {cond : β k → Bool} {f : β k → β k}
    {Q : Unit → List κ → List (Sigma β) → Db β → Prop}
    (h : ∀ s', C.Rely locks s s' → ∀ r, (s'.apply ws).lookup k = some r → cond r = true →
      Q () (locks ++ [k]) (ws ++ [⟨k, f r⟩]) s') :
    (do
      let rows ← update k cond fun r ↦ .ok (f r)
      if rows ≠ 1 then throw e : Prog β ε Unit).Meets C Q locks ws s := by
  rw [meets_bind]
  refine meets_update (fun s' hs' r hr hc r' hr' ↦ ?_) fun _ _ _ ↦ ?_
  · cases hr'
    rw [if_neg (by simp)]
    exact meets_pure (h s' hs' r hr hc)
  · rw [if_pos (by simp)]
    exact (meets_fail _ _ _ _ _).mpr trivial

theorem meets_create {r : β k} {unique : List κ} {clash : Db β → Bool}
    {Q : Unit → List κ → List (Sigma β) → Db β → Prop}
    (h : ∀ s', C.Rely locks s s' → (s'.apply ws).lookup k = none →
      clash (s'.apply ws) = false →
      Q () (locks ++ (k :: unique ++ [k])) (ws ++ [⟨k, r⟩]) s') :
    (create k r e unique clash).Meets C Q locks ws s :=
  meets_statement fun s' hs' ws' a hact ↦ by
    split at hact
    · cases hact
    · rename_i hc
      cases hact
      rw [Bool.or_eq_true, not_or, Option.isSome_iff_ne_none, not_not, Bool.not_eq_true] at hc
      exact h s' hs' hc.1 hc.2

theorem meets_createIgnore {r : β k} {unique : List κ} {clash : Db β → Bool}
    {Q : ℕ → List κ → List (Sigma β) → Db β → Prop}
    (h : ∀ s', C.Rely locks s s' → (s'.apply ws).lookup k = none → clash (s'.apply ws) = false →
      Q 1 (locks ++ (k :: unique ++ [k])) (ws ++ [⟨k, r⟩]) s')
    (h0 : ∀ s', C.Rely locks s s' →
      ((s'.apply ws).lookup k).isSome = true ∨ clash (s'.apply ws) = true → Q 0 locks ws s') :
    (createIgnore k r unique clash : Prog β ε ℕ).Meets C Q locks ws s :=
  meets_statement fun s' hs' ws' a hact ↦ by
    split at hact
    · rename_i hc
      cases hact
      simpa [keysOf, hc] using h0 s' hs' (by simpa using hc)
    · rename_i hc
      cases hact
      have hfree := hc
      rw [Bool.or_eq_true, not_or, Option.isSome_iff_ne_none, not_not, Bool.not_eq_true] at hfree
      simpa [keysOf, hc] using h s' hs' hfree.1 hfree.2

theorem meets_createUnlessTaken {r : β k} {unique : List κ} {taken clash : Db β → Bool}
    {Q : ℕ → List κ → List (Sigma β) → Db β → Prop}
    (h : ∀ s', C.Rely locks s s' → taken (s'.apply ws) = false →
      (s'.apply ws).lookup k = none → clash (s'.apply ws) = false →
      Q 1 (locks ++ (k :: unique ++ [k])) (ws ++ [⟨k, r⟩]) s')
    (h0 : ∀ s', C.Rely locks s s' → taken (s'.apply ws) = true → Q 0 locks ws s') :
    (createUnlessTaken k r e unique taken clash).Meets C Q locks ws s :=
  meets_statement fun s' hs' ws' a hact ↦ by
    split at hact
    · rename_i ht
      cases hact
      simpa [keysOf, ht] using h0 s' hs' ht
    · rename_i ht
      split at hact
      · cases hact
      · rename_i hc
        cases hact
        rw [Bool.or_eq_true, not_or, Option.isSome_iff_ne_none, not_not, Bool.not_eq_true] at hc
        simpa [keysOf, ht] using h s' hs' (by simpa using ht) hc.1 hc.2

theorem meets_updateUnique {cond : β k → Bool} {new : β k → β k} {unique : β k → List κ}
    {clash : β k → Db β → Bool} {Q : ℕ → List κ → List (Sigma β) → Db β → Prop}
    (h : ∀ s', C.Rely locks s s' → ∀ r, (s'.apply ws).lookup k = some r → cond r = true →
      Q 1 (locks ++ (k :: unique r ++ [k])) (ws ++ [⟨k, new r⟩]) s')
    (h0 : ∀ s', C.Rely locks s s' →
      (∀ r, (s'.apply ws).lookup k = some r → cond r = false) → Q 0 locks ws s') :
    (updateUnique k cond new e unique clash).Meets C Q locks ws s :=
  meets_statement fun s' hs' ws' a hact ↦ by
    split at hact
    · rename_i r hr
      split at hact
      · rename_i hc
        split at hact
        · cases hact
        · cases hact
          simpa [keysOf, hr, hc, Option.filter] using h s' hs' r hr hc
      · rename_i hc
        cases hact
        simpa [keysOf, hr, hc, Option.filter] using h0 s' hs' fun r' hr' ↦ by
          rw [hr] at hr'
          cases hr'
          simpa using hc
    · rename_i hr
      cases hact
      simpa [keysOf, hr] using h0 s' hs' fun r' hr' ↦ by simp [hr] at hr'

theorem meets_updateAll {new : ∀ k, β k → Option (β k)}
    {Q : ℕ → List κ → List (Sigma β) → Db β → Prop}
    (h : ∀ s', C.Rely locks s s' → Q ((s'.apply ws).changes new).length
      (locks ++ keysOf ((s'.apply ws).changes new)) (ws ++ (s'.apply ws).changes new) s') :
    (updateAll new : Prog β ε ℕ).Meets C Q locks ws s :=
  meets_statement fun s' hs' ws' a hact ↦ by
    cases hact
    exact h s' hs'

theorem meets_queryForUpdate {l : Db β → List κ} {f : Db β → α}
    {Q : α → List κ → List (Sigma β) → Db β → Prop}
    (h : ∀ s', C.Rely locks s s' → Q (f (s'.apply ws)) (locks ++ l (s'.apply ws)) ws s') :
    (queryForUpdate l f : Prog β ε α).Meets C Q locks ws s :=
  meets_statement fun s' hs' ws' a hact ↦ by
    cases hact
    simpa [keysOf] using h s' hs'

end Rows

/-- **The rule for the rest of a transaction that only matters for the rows it writes.** -/
theorem meets_of_writesOnly {K : κ → Prop} {p : Prog β ε α}
    {Q : α → List κ → List (Sigma β) → Db β → Prop} {locks : List κ}
    {ws : List (Sigma β)} {s : Db β} (hK : p.WritesOnly K) (hs : C.inv s)
    (h : ∀ a locks' ws' s', locks ⊆ locks' → (∀ k ∈ keysOf ws', K k) →
      C.Rely locks s s' → Q a locks' (ws ++ ws') s') :
    p.Meets C Q locks ws s := by
  induction p generalizing locks ws s with
  | done a => simpa using h a locks [] s (fun _ hk ↦ hk) (by simp [keysOf]) (.refl hs)
  | fail e => trivial
  | stmt l w n ih =>
    intro s' hs'
    obtain ⟨hw, hn⟩ := (keeps_stmt l w n).mp hK (s'.apply ws)
    refine ih _ hn hs'.2 fun a locks' ws' s'' hsub hws' hrely ↦ ?_
    rw [List.append_assoc]
    refine h a locks' _ s'' (fun k hk ↦ hsub (List.mem_append_left _ hk)) ?_
      (hs'.trans (hrely.mono fun k hk ↦ List.mem_append_left _ hk))
    have hkeys : ∀ (us : List (Sigma β)) (v : Db β), WritesOk (fun k _ _ ↦ K k) v us →
        ∀ k ∈ keysOf us, K k := by
      intro us
      induction us with
      | nil => simp [keysOf]
      | cons u us ihu =>
        intro v hv k hk
        rcases List.mem_cons.mp hk with rfl | hk
        · exact hv.1
        · exact ihu _ hv.2 k hk
    intro k hk
    rw [keysOf, List.map_append, List.mem_append] at hk
    rcases hk with hk | hk
    · exact hkeys _ _ hw k hk
    · exact hws' k hk

/-- The rule for a part of a transaction whatever it does. -/
theorem meets_of_rely {p : Prog β ε α} {Q : α → List κ → List (Sigma β) → Db β → Prop}
    {locks : List κ} {ws : List (Sigma β)} {s : Db β} (hs : C.inv s)
    (h : ∀ a locks' ws' s', locks ⊆ locks' → C.Rely locks s s' → Q a locks' (ws ++ ws') s') :
    p.Meets C Q locks ws s :=
  meets_of_writesOnly (writesOnly_true p) hs fun a locks' ws' s' hsub _ ↦ h a locks' ws' s' hsub

-- from here on execution is only looked at through the rules
attribute [irreducible] Meets

end Prog

/-! ## Soundness -/

namespace Contract

variable {S : System χ β ε ω} {C : Contract κ χ β ω}

/-- What the contract says of a transaction that ended. -/
def Fulfilled (C : Contract κ χ β ω) (e : Ended χ β ω) : Prop :=
  match e.result with
  | some a => ∃ locks, C.Commit e.call locks a e.before e.after
  | none => e.after = e.before

/-- What is known of a transaction under way. -/
structure UnderWay (S : System χ β ε ω) (C : Contract κ χ β ω) (db : Db β)
    (tx : Tx χ β ε ω) : Prop where
  locked : keysOf tx.pending ⊆ tx.held
  row : RowStep (C.row tx.call) db (tx.view db)
  keeps : tx.rest.Keeps (C.row tx.call) fun _ ↦ True
  meets : tx.rest.Meets C (Prog.Commits S C tx.call) tx.held tx.pending db

/-- What is known of a configuration. -/
structure Ok (S : System χ β ε ω) (C : Contract κ χ β ω) (cfg : Config χ β ε ω) : Prop where
  inv : C.inv cfg.db
  log : ∀ e ∈ cfg.log, C.Fulfilled e
  txs : ∀ t tx, cfg.txs.lookup t = some tx → UnderWay S C cfg.db tx
  exclusive : ∀ t tx u tx', cfg.txs.lookup t = some tx → cfg.txs.lookup u = some tx' → t ≠ u →
    tx.held.Disjoint tx'.held

theorem UnderWay.frame {db : Db β} {tx : Tx χ β ε ω} (h : UnderWay S C db tx) {k : κ}
    (hk : k ∉ tx.held) : (tx.view db).lookup k = db.lookup k :=
  Db.lookup_apply_of_notMem (fun hk' ↦ hk (h.locked hk')) db

/-- Somebody else's commit leaves what is known of a transaction intact. -/
theorem UnderWay.interfere {db db' : Db β} {tx : Tx χ β ε ω} (h : UnderWay S C db tx)
    (hi : C.Interfere tx.held db db') (hinv : C.inv db') :
    UnderWay S C db' tx := by
  have hrely : C.Rely tx.held db db' := ⟨.single hi, hinv⟩
  refine ⟨h.locked, rowStep_apply_congr h.row fun k hk ↦ hrely.lookup_eq (h.locked hk), h.keeps,
    h.meets.mono (fun _ _ _ _ _ hc hr ↦ hc.mono hr) hrely⟩

/-- A transaction's own statement leaves what is known of it intact. -/
theorem UnderWay.advance (hT : ∀ c, RowTrans (C.row c)) {db : Db β} {tx : Tx χ β ε ω}
    {l : Db β → List κ} {w : Db β → List (Sigma β)} {n : Db β → Prog β ε ω}
    (h : UnderWay S C db tx) (hrest : tx.rest = .stmt l w n) (hinv : C.inv db) :
    UnderWay S C db (tx.advance db l w n) := by
  obtain ⟨hlocked, hrow, hkeeps, hmeets⟩ := h
  rw [hrest] at hkeeps hmeets
  rw [Prog.keeps_stmt] at hkeeps
  rw [Prog.meets_stmt] at hmeets
  refine ⟨fun k hk ↦ ?_, ?_, (hkeeps _).2, hmeets db (.refl hinv)⟩
  · simp only [Tx.advance, keysOf, List.map_append, List.mem_append] at hk ⊢
    exact hk.elim (fun hk ↦ .inl (hlocked hk)) fun hk ↦ .inr (.inr hk)
  · simp only [Tx.view, Tx.advance, Db.apply_append]
    exact hrow.trans (hT _) (rowStep_apply (hT _) (hkeeps _).1)

/-- **Soundness of contracts.**  If every call's writes keep its row relation, and every call's
program meets the contract from any database satisfying the invariant, then in every run the
invariant holds and every transaction that ended did what the contract says. -/
theorem sound (hT : ∀ c, RowTrans (C.row c))
    (hkeeps : ∀ c, (S.prog c).Keeps (C.row c) fun _ ↦ True)
    (hmeets : ∀ c s, C.inv s → (S.prog c).Meets C (Prog.Commits S C c) [] [] s)
    {s : Db β} (hs : C.inv s) {cfg : Config χ β ε ω} (h : Reach S (.init s) cfg) :
    Ok S C cfg := by
  induction h with
  | refl => exact ⟨hs, by simp [Config.init], by simp [Config.init], by simp [Config.init]⟩
  | @tail cfg cfg' _ hstep ih =>
    obtain ⟨hinv, hlog, htxs, hexc⟩ := ih
    cases hstep with
    | @start t c ht =>
      refine ⟨hinv, hlog, fun u tx hu ↦ ?_, fun u tx u' tx' hu hu' hne ↦ ?_⟩
      · rcases Db.lookup_insert_cases hu with heq | ⟨-, hu⟩
        · cases heq
          exact ⟨by simp [keysOf], .refl _ _, hkeeps c, hmeets c _ hinv⟩
        · exact htxs u tx hu
      · rcases Db.lookup_insert_cases hu with heq | ⟨-, hu⟩
        · cases heq
          simp
        · rcases Db.lookup_insert_cases hu' with heq | ⟨-, hu'⟩
          · cases heq
            simp
          · exact hexc u tx u' tx' hu hu' hne
    | @stmt t tx l w n ht hrest hfree =>
      -- the new locks are free, the old ones were exclusive
      have hadv : ∀ u tx', cfg.txs.lookup u = some tx' → u ≠ t →
          (tx.advance cfg.db l w n).held.Disjoint tx'.held := by
        intro u tx' hu hut k hk hk'
        rcases List.mem_append.mp hk with hk | hk
        · exact hexc t tx u tx' ht hu (Ne.symm hut) hk hk'
        · exact hfree u tx' hu hut hk hk'
      refine ⟨hinv, hlog, fun u tx' hu ↦ ?_, fun u tx' u' tx'' hu hu' hne ↦ ?_⟩
      · rcases Db.lookup_insert_cases hu with heq | ⟨-, hu⟩
        · cases heq
          exact (htxs _ _ ht).advance hT hrest hinv
        · exact htxs u tx' hu
      · rcases Db.lookup_insert_cases hu with heq | ⟨hut, hu⟩
        · cases heq
          rcases Db.lookup_insert_cases hu' with heq' | ⟨hut', hu'⟩
          · cases heq'
            exact absurd rfl hne
          · exact hadv u' tx'' hu' hut'
        · rcases Db.lookup_insert_cases hu' with heq' | ⟨-, hu'⟩
          · cases heq'
            exact fun k hk hk' ↦ hadv u tx' hu hut hk' hk
          · exact hexc u tx' u' tx'' hu hu' hne
    | @commit t tx a ht hrest hadm =>
      have htx := htxs t tx ht
      have hmeets := htx.meets
      rw [hrest, Prog.meets_done] at hmeets
      obtain ⟨hpost, hinv'⟩ := hmeets cfg.db (.refl hinv) hadm (fun k hk ↦ htx.frame hk) htx.row
      have hcommit : C.Commit tx.call tx.held a cfg.db (tx.view cfg.db) :=
        ⟨hinv, hinv', fun k hk ↦ htx.frame hk, htx.row, hpost⟩
      refine ⟨hinv', fun e he ↦ ?_, fun u tx' hu ↦ ?_, fun u tx' u' tx'' hu hu' hne ↦ ?_⟩
      · rcases List.mem_cons.mp he with rfl | he
        · exact ⟨tx.held, hcommit⟩
        · exact hlog e he
      · obtain ⟨hut, hu⟩ := Db.lookup_erase_cases hu
        exact (htxs u tx' hu).interfere ⟨tx.call, tx.held, a, hexc u tx' t tx hu ht hut, hcommit⟩
          hinv'
      · exact hexc u tx' u' tx'' (Db.lookup_erase_cases hu).2 (Db.lookup_erase_cases hu').2 hne
    | @abort t tx ht =>
      refine ⟨hinv, fun e he ↦ ?_, fun u tx' hu ↦ ?_, fun u tx' u' tx'' hu hu' hne ↦ ?_⟩
      · rcases List.mem_cons.mp he with rfl | he
        · rfl
        · exact hlog e he
      · exact htxs u tx' (Db.lookup_erase_cases hu).2
      · exact hexc u tx' u' tx'' (Db.lookup_erase_cases hu).2 (Db.lookup_erase_cases hu').2 hne

end Contract

end Sql
