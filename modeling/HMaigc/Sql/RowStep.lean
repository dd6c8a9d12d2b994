import HMaigc.Sql.Prog

/-!
# What a program's writes do to single rows

Much of what is to know about a transaction can be read off its statements one at a time: this table
is never written, a row of that table only ever moves from here to there.  A relation `T` between
the row a write finds and the row it leaves says so, `Prog.Keeps T Q` is that every write of the
program satisfies it and every result satisfies `Q`, whatever the statements see, and the rules
below reduce that to the rows each kind of statement writes.

For a relation that two writes in a row compose to (`RowTrans`), what holds of the single writes
holds of the whole transaction, `RowStep T`: run alone (`Prog.post_of_keeps`), and among others
(`Sql.Contract`).
-/

set_option autoImplicit false

namespace Sql

variable {κ : Type} {β : κ → Type} {ε α γ : Type} [DecidableEq κ]

/-- The rows a list of writes touches. -/
def keysOf (ws : List (Sigma β)) : List κ := ws.map Sigma.fst

/-! ## Relations on rows -/

/-- Every write of the list stands in the relation `T` to the row it overwrites. -/
def WritesOk (T : ∀ k, Option (β k) → β k → Prop) : Db β → List (Sigma β) → Prop
  | _, [] => True
  | v, w :: ws => T w.1 (v.lookup w.1) w.2 ∧ WritesOk T (v.insert w.1 w.2) ws

/-- Every row of `s'` is a row of `s`, or stands in the relation `T` to what `s` had there. -/
def RowStep (T : ∀ k, Option (β k) → β k → Prop) (s s' : Db β) : Prop :=
  ∀ k, s'.lookup k = s.lookup k ∨ ∃ r, s'.lookup k = some r ∧ T k (s.lookup k) r

/-- A relation on rows that two writes in a row compose to. -/
def RowTrans (T : ∀ k, Option (β k) → β k → Prop) : Prop :=
  ∀ k o r r', T k o r → T k (some r) r' → T k o r'

theorem RowStep.refl (T : ∀ k, Option (β k) → β k → Prop) (s : Db β) : RowStep T s s :=
  fun _ ↦ .inl rfl

theorem rowStep_insert {T : ∀ k, Option (β k) → β k → Prop} {s : Db β} {k : κ} {r : β k}
    (h : T k (s.lookup k) r) : RowStep T s (s.insert k r) := by
  intro k'
  by_cases hk : k' = k
  · subst hk
    exact .inr ⟨r, AList.lookup_insert s, h⟩
  · exact .inl (AList.lookup_insert_ne hk)

theorem RowStep.trans {T : ∀ k, Option (β k) → β k → Prop} (hT : RowTrans T) {s t u : Db β}
    (h : RowStep T s t) (h' : RowStep T t u) : RowStep T s u := by
  intro k
  rcases h' k with heq | ⟨r', hr', hT'⟩
  · rw [heq]
    exact h k
  · rcases h k with heq | ⟨r, hr, hTr⟩
    · exact .inr ⟨r', hr', heq ▸ hT'⟩
    · exact .inr ⟨r', hr', hT k _ _ _ hTr (hr ▸ hT')⟩

theorem rowStep_apply {T : ∀ k, Option (β k) → β k → Prop} (hT : RowTrans T) {s : Db β}
    {ws : List (Sigma β)} (h : WritesOk T s ws) : RowStep T s (s.apply ws) := by
  induction ws generalizing s with
  | nil => exact .refl T s
  | cons w ws ih => exact (rowStep_insert h.1).trans hT (ih h.2)

/-- What the writes keep of the rows there are is kept. -/
theorem RowStep.exists_row_iff {T : ∀ k, Option (β k) → β k → Prop} {s t : Db β} (h : RowStep T s t)
    {P : ∀ k, β k → Prop} (hP : ∀ k old new, T k old new → (P k new ↔ ∃ r, old = some r ∧ P k r)) :
    (∃ k r, t.lookup k = some r ∧ P k r) ↔ ∃ k r, s.lookup k = some r ∧ P k r := by
  refine exists_congr fun k ↦ ?_
  rcases h k with heq | ⟨r, hr, hT⟩
  · rw [heq]
  · simp [hr, hP k _ r hT]

/-- Whether pending writes are a `RowStep` depends only on the rows written. -/
theorem rowStep_apply_congr {T : ∀ k, Option (β k) → β k → Prop} {s t : Db β}
    {ws : List (Sigma β)} (h : RowStep T s (s.apply ws))
    (heq : ∀ k ∈ keysOf ws, t.lookup k = s.lookup k) : RowStep T t (t.apply ws) := by
  intro k
  by_cases hk : k ∈ keysOf ws
  · rw [Db.lookup_apply_congr (heq k hk), heq k hk]
    exact h k
  · exact .inl (Db.lookup_apply_of_notMem hk t)

namespace Prog

/-- Whatever its statements see, every write of the program stands in the relation `T` to the row it
overwrites, and every result of the program satisfies `Q`. -/
def Keeps : Prog β ε α → (T : ∀ k, Option (β k) → β k → Prop) → (Q : α → Prop) → Prop
  | .done a, _, Q => Q a
  | .fail _, _, _ => True
  | .stmt _ w n, T, Q => ∀ v, WritesOk T v (w v) ∧ (n v).Keeps T Q

/-- The program writes only rows whose key satisfies `K`. -/
abbrev WritesOnly (K : κ → Prop) (p : Prog β ε α) : Prop :=
  p.Keeps (fun k _ _ ↦ K k) fun _ ↦ True

/-- The program writes nothing. -/
abbrev ReadOnly (p : Prog β ε α) : Prop := p.WritesOnly fun _ ↦ False

section Keeps

variable {T : ∀ k, Option (β k) → β k → Prop} {Q : α → Prop}

@[simp] theorem keeps_done (a : α) : (Prog.done a : Prog β ε α).Keeps T Q ↔ Q a := Iff.rfl

@[simp] theorem keeps_fail (e : ε) : (Prog.fail e : Prog β ε α).Keeps T Q ↔ True := Iff.rfl

theorem keeps_stmt (l : Db β → List κ) (w : Db β → List (Sigma β)) (n : Db β → Prog β ε α) :
    (Prog.stmt l w n).Keeps T Q ↔ ∀ v, WritesOk T v (w v) ∧ (n v).Keeps T Q := Iff.rfl

/-- **The sequencing rule.** -/
@[simp] theorem keeps_bind (p : Prog β ε α) (f : α → Prog β ε γ) (Q : γ → Prop) :
    (p >>= f).Keeps T Q ↔ p.Keeps T fun a ↦ (f a).Keeps T Q := by
  induction p with
  | done a => rfl
  | fail e => rfl
  | stmt l w n ih => exact forall_congr' fun v ↦ and_congr_right fun _ ↦ ih v

theorem writesOnly_true (p : Prog β ε α) : p.WritesOnly fun _ ↦ True := by
  have hok : ∀ (ws : List (Sigma β)) (v : Db β), WritesOk (fun _ _ _ ↦ True) v ws := by
    intro ws
    induction ws with
    | nil => exact fun _ ↦ trivial
    | cons w ws ih => exact fun v ↦ ⟨trivial, ih _⟩
  induction p with
  | done a => trivial
  | fail e => trivial
  | stmt l w n ih => exact fun v ↦ ⟨hok _ v, ih v⟩

theorem Keeps.mono {Q' : α → Prop} {p : Prog β ε α} (h : p.Keeps T Q) (hQ : ∀ a, Q a → Q' a) :
    p.Keeps T Q' := by
  induction p with
  | done a => exact hQ a h
  | fail e => trivial
  | stmt l w n ih => exact fun v ↦ ⟨(h v).1, ih v (h v).2⟩

/-- Sequencing when the first program's results do not matter. -/
theorem Keeps.bind {p : Prog β ε α} {f : α → Prog β ε γ} {Q : γ → Prop}
    (hp : p.Keeps T fun _ ↦ True) (hf : ∀ a, (f a).Keeps T Q) : (p >>= f).Keeps T Q :=
  (keeps_bind p f Q).mpr (hp.mono fun a _ ↦ hf a)

theorem Keeps.imp {T' : ∀ k, Option (β k) → β k → Prop} {p : Prog β ε α}
    (h : p.Keeps T Q) (hT : ∀ k o r, T k o r → T' k o r) : p.Keeps T' Q := by
  have hok : ∀ (ws : List (Sigma β)) (v : Db β), WritesOk T v ws → WritesOk T' v ws := by
    intro ws
    induction ws with
    | nil => exact fun _ _ ↦ trivial
    | cons w ws ih => exact fun v h ↦ ⟨hT _ _ _ h.1, ih _ h.2⟩
  induction p with
  | done a => exact h
  | fail e => trivial
  | stmt l w n ih => exact fun v ↦ ⟨hok _ _ (h v).1, ih v (h v).2⟩

/-- Every program keeps what asks for nothing. -/
theorem keeps_trivial (p : Prog β ε α) : p.Keeps (fun _ _ _ ↦ True) fun _ ↦ True := by
  have hok : ∀ (ws : List (Sigma β)) (v : Db β), WritesOk (fun _ _ _ ↦ True) v ws := by
    intro ws
    induction ws with
    | nil => exact fun _ ↦ trivial
    | cons w ws ih => exact fun _ ↦ ⟨trivial, ih _⟩
  induction p with
  | done a => trivial
  | fail e => trivial
  | stmt l w n ih => exact fun v ↦ ⟨hok _ _, ih v⟩

private theorem lookup_singleton (k : κ) (r : β k) : (AList.singleton k r).lookup k = some r :=
  List.dlookup_cons_eq [] k r

theorem ReadOnly.keeps {p : Prog β ε α} (h : p.ReadOnly) : p.Keeps T fun _ ↦ True :=
  h.imp fun _ _ _ hfalse ↦ hfalse.elim

theorem keeps_statement (locks : Db β → List κ) (act : Db β → Except ε (List (Sigma β) × α)) :
    (statement locks act).Keeps T Q ↔ ∀ v ws a, act v = .ok (ws, a) → WritesOk T v ws ∧ Q a := by
  refine forall_congr' fun v ↦ ?_
  show WritesOk T v (outcomeWrites (act v)) ∧ (ofOutcome (act v)).Keeps T Q ↔ _
  cases act v with
  | error e => simp [outcomeWrites, ofOutcome, WritesOk]
  | ok r =>
    obtain ⟨ws, a⟩ := r
    simp [outcomeWrites, ofOutcome]

@[simp] theorem keeps_query (f : Db β → α) :
    (query f : Prog β ε α).Keeps T Q ↔ ∀ v, Q (f v) := by
  simp [query, keeps_statement, WritesOk]

@[simp] theorem keeps_queryForUpdate (locks : Db β → List κ) (f : Db β → α) :
    (queryForUpdate locks f : Prog β ε α).Keeps T Q ↔ ∀ v, Q (f v) := by
  simp [queryForUpdate, keeps_statement, WritesOk]

@[simp] theorem keeps_first (k : κ) (e : ε) (Q : β k → Prop) :
    (first k e : Prog β ε (β k)).Keeps T Q ↔ ∀ r, Q r := by
  rw [first, keeps_statement]
  constructor
  · intro h r
    exact (h (AList.singleton k r) [] r (by rw [lookup_singleton])).2
  · intro h v ws a hact
    split at hact <;> cases hact
    exact ⟨trivial, h _⟩

@[simp] theorem keeps_firstForUpdate (k : κ) (cond : β k → Bool) (e : ε) (Q : β k → Prop) :
    (firstForUpdate k cond e : Prog β ε (β k)).Keeps T Q ↔ ∀ r, cond r = true → Q r := by
  rw [firstForUpdate, keeps_statement]
  constructor
  · intro h r hr
    exact (h (AList.singleton k r) [] r (by simp only [lookup_singleton, hr, if_true])).2
  · intro h v ws a hact
    split at hact
    · split at hact <;> cases hact
      exact ⟨trivial, h _ ‹_›⟩
    · cases hact

/-- The rule for `UPDATE`: what it does to a row that meets the condition, and that it may find
none. -/
@[simp] theorem keeps_update (k : κ) (cond : β k → Bool) (new : β k → Except ε (β k))
    (Q : ℕ → Prop) :
    (update k cond new).Keeps T Q ↔
      (∀ r, cond r = true → ∀ r', new r = .ok r' → T k (some r) r' ∧ Q 1) ∧ Q 0 := by
  rw [update, keeps_statement]
  constructor
  · intro h
    refine ⟨fun r hr r' hr' ↦ ?_, (h ∅ [] 0 (by simp)).2⟩
    obtain ⟨hok, hQ⟩ := h (AList.singleton k r) [⟨k, r'⟩] 1
      (by simp only [lookup_singleton, hr, if_true, hr', Except.map])
    exact ⟨by simpa only [lookup_singleton] using hok.1, hQ⟩
  · rintro ⟨h, h0⟩ v ws a hact
    split at hact
    · rename_i r hr
      split at hact
      · rename_i hc
        cases hn : new r with
        | error e => simp [hn, Except.map] at hact
        | ok r' =>
          obtain ⟨rfl, rfl⟩ : [⟨k, r'⟩] = ws ∧ 1 = a := by simpa [hn, Except.map] using hact
          exact ⟨⟨hr ▸ (h r hc r' hn).1, trivial⟩, (h r hc r' hn).2⟩
      · cases hact
        exact ⟨trivial, h0⟩
    · cases hact
      exact ⟨trivial, h0⟩

@[simp] theorem keeps_updateUnique (k : κ) (cond : β k → Bool) (new : β k → β k) (e : ε)
    (unique : β k → List κ) (clash : β k → Db β → Bool) (Q : ℕ → Prop) :
    (updateUnique k cond new e unique clash).Keeps T Q ↔
      ∀ v, (∀ r, v.lookup k = some r → cond r = true → clash r v = false →
        T k (some r) (new r) ∧ Q 1) ∧
        ((∀ r, v.lookup k = some r → cond r = false) → Q 0) := by
  rw [updateUnique, keeps_statement]
  refine forall_congr' fun v ↦ ?_
  cases hv : v.lookup k with
  | none => simp [WritesOk]
  | some r =>
    by_cases hc : cond r = true
    · cases hcl : clash r v <;> simp [hc, hcl, WritesOk, hv]
    · simp [hc, WritesOk]

/-- The rows an `UPDATE` without a key rewrites are different ones, so each still is what the view
has. -/
private theorem writesOk_changes {new : ∀ k, β k → Option (β k)}
    (h : ∀ k r r', new k r = some r' → T k (some r) r') :
    ∀ (l : List (Sigma β)) (u : Db β), (l.map Sigma.fst).Nodup →
      (∀ e ∈ l, u.lookup e.1 = some e.2) →
      WritesOk T u (l.filterMap fun e ↦ (new e.1 e.2).map (Sigma.mk e.1)) := by
  intro l
  induction l with
  | nil => exact fun _ _ _ ↦ trivial
  | cons e l ih =>
    intro u hnd hu
    rw [List.map_cons, List.nodup_cons] at hnd
    have hrest := fun d hd ↦ hu d (List.mem_cons_of_mem _ hd)
    cases hn : new e.1 e.2 with
    | none => simpa [List.filterMap_cons, hn] using ih u hnd.2 hrest
    | some r' =>
      simp only [List.filterMap_cons, hn, Option.map_some]
      refine ⟨hu e (.head _) ▸ h _ _ _ hn, ih _ hnd.2 fun d hd ↦ ?_⟩
      have hne : d.1 ≠ e.1 := fun heq ↦ hnd.1 (heq ▸ List.mem_map_of_mem hd)
      rw [AList.lookup_insert_ne hne]
      exact hrest d hd

@[simp] theorem keeps_updateAll (new : ∀ k, β k → Option (β k)) (Q : ℕ → Prop) :
    (updateAll new : Prog β ε ℕ).Keeps T Q ↔
      (∀ k r r', new k r = some r' → T k (some r) r') ∧ ∀ v, Q (Db.changes new v).length := by
  rw [updateAll, keeps_statement]
  constructor
  · intro h
    refine ⟨fun k r r' hr ↦ ?_, fun v ↦ (h v _ _ rfl).2⟩
    have hok := (h (AList.singleton k r) _ _ rfl).1
    have hentries : (AList.singleton k r).entries = [⟨k, r⟩] := rfl
    simp only [Db.changes, hentries, List.filterMap_cons, hr, Option.map_some,
      List.filterMap_nil] at hok
    exact lookup_singleton k r ▸ hok.1
  · rintro ⟨h, hQ⟩ v ws a hact
    cases hact
    exact ⟨writesOk_changes h v.entries v v.nodupKeys fun e he ↦ Db.mem_entries_iff.mp he, hQ v⟩

@[simp] theorem keeps_create (k : κ) (r : β k) (e : ε) (unique : List κ) (clash : Db β → Bool)
    (Q : Unit → Prop) :
    (create k r e unique clash : Prog β ε Unit).Keeps T Q ↔
      ∀ v : Db β, v.lookup k = none → clash v = false → T k none r ∧ Q () := by
  rw [create, keeps_statement]
  refine forall_congr' fun v ↦ ?_
  rcases hv : v.lookup k with _ | r' <;> rcases hcl : clash v with _ | _ <;> simp
  constructor
  · intro h
    simpa [WritesOk, hv] using h [⟨k, r⟩] () rfl
  · rintro ⟨hT, hQ⟩ ws a rfl
    exact ⟨⟨hv ▸ hT, trivial⟩, hQ⟩

@[simp] theorem keeps_createIgnore (k : κ) (r : β k) (unique : List κ) (clash : Db β → Bool)
    (Q : ℕ → Prop) :
    (createIgnore k r unique clash : Prog β ε ℕ).Keeps T Q ↔
      ∀ v : Db β, (v.lookup k = none → clash v = false → T k none r ∧ Q 1) ∧
        ((v.lookup k).isSome = true ∨ clash v = true → Q 0) := by
  rw [createIgnore, keeps_statement]
  refine forall_congr' fun v ↦ ?_
  rcases hv : v.lookup k with _ | r' <;> rcases hcl : clash v with _ | _ <;>
    simp [WritesOk, hv]

@[simp] theorem keeps_createUnlessTaken (k : κ) (r : β k) (e : ε) (unique : List κ)
    (taken clash : Db β → Bool) (Q : ℕ → Prop) :
    (createUnlessTaken k r e unique taken clash).Keeps T Q ↔
      ∀ v : Db β, (taken v = true → Q 0) ∧
        (taken v = false → v.lookup k = none → clash v = false → T k none r ∧ Q 1) := by
  rw [createUnlessTaken, keeps_statement]
  refine forall_congr' fun v ↦ ?_
  rcases htaken : taken v <;> rcases hv : v.lookup k with _ | r' <;>
    rcases hcl : clash v with _ | _ <;> simp [WritesOk, hv]

theorem keeps_ite (c : Prop) [Decidable c] (p q : Prog β ε α) :
    (if c then p else q).Keeps T Q ↔ (c → p.Keeps T Q) ∧ (¬c → q.Keeps T Q) := by
  by_cases h : c <;> simp [h]

end Keeps

/-- **A program run alone rewrites rows only as its writes do.** -/
theorem post_of_keeps {T : ∀ k, Option (β k) → β k → Prop} (hT : RowTrans T) {Q : α → Prop}
    {p : Prog β ε α} (hp : p.Keeps T Q) (s : Db β) :
    p.Post s fun a s' ↦ RowStep T s s' ∧ Q a := by
  induction p generalizing s with
  | done a => simpa using ⟨RowStep.refl T s, hp⟩
  | fail e => simp
  | stmt l w n ih =>
    rw [post_stmt]
    exact (ih s (hp s).2 _).mono fun _ _ h ↦ ⟨(rowStep_apply hT (hp s).1).trans hT h.1, h.2⟩

-- from here on programs are only looked at through the rules
attribute [irreducible] Keeps

end Prog

end Sql
