import HMaigc.Sql.Preserves
import HMaigc.Sql.ReadCommitted

/-!
# Transactions that lock one row before they write

READ COMMITTED lets a transaction see a different database at each statement.  Transactions that all
lock the same row before they write anything take turns from there on: while one of them holds the
row nobody else commits a write, so what is left of it runs as if it were alone.

* `Prog.Locks k p` — `p` only reads until it locks the row `k`, which it does before it returns.
* `Prog.Rest k p q` — `q` is what is left of `p` after statements that neither wrote nor locked `k`.
* `serial_of_locks` — **what is left of a transaction when it comes to lock the row, run alone on
  the database it committed on, is what the transaction did.**
-/

set_option autoImplicit false

namespace Sql

variable {κ χ : Type} {β : κ → Type} {ε ω α γ : Type}

namespace Prog

/-- The program reads, then locks the row `k` or fails. -/
inductive Locks (k : κ) : Prog β ε α → Prop where
  | fail (e : ε) : Locks k (.fail e)
  | lock {l : Db β → List κ} {w : Db β → List (Sigma β)} {n : Db β → Prog β ε α}
      (h : ∀ v, k ∈ l v ∨ ∃ e, n v = .fail e) : Locks k (.stmt l w n)
  | read {l : Db β → List κ} {w : Db β → List (Sigma β)} {n : Db β → Prog β ε α}
      (hw : ∀ v, w v = []) (hn : ∀ v, Locks k (n v)) : Locks k (.stmt l w n)

/-- What may be left of the program while it has neither written nor locked the row `k`. -/
inductive Rest (k : κ) (p : Prog β ε α) : Prog β ε α → Prop where
  | refl : Rest k p p
  | stmt {l : Db β → List κ} {w : Db β → List (Sigma β)} {n : Db β → Prog β ε α}
      (h : Rest k p (.stmt l w n)) (v : Db β) (hw : w v = []) (hk : k ∉ l v) : Rest k p (n v)

/-- Of a program that locks the row at once all is left. -/
theorem Rest.of_lock {k : κ} {l : Db β → List κ} {w : Db β → List (Sigma β)}
    {n : Db β → Prog β ε α} {q : Prog β ε α} (h : Rest k (.stmt l w n) q)
    (hlock : ∀ v, k ∈ l v ∨ ∃ e, n v = .fail e) : q = .stmt l w n ∨ ∃ e, q = .fail e := by
  induction h with
  | refl => exact .inl rfl
  | stmt h v hw hk ih =>
    rcases ih with heq | ⟨e, heq⟩
    · cases heq
      exact .inr ((hlock v).resolve_left hk)
    · cases heq

/-- What is left of a sequence: of its first part, or of its second. -/
theorem Rest.of_bind {k : κ} {p : Prog β ε α} {f : α → Prog β ε γ} {q : Prog β ε γ}
    (h : Rest k (p >>= f) q) :
    (∃ p', Rest k p p' ∧ q = p' >>= f) ∨ ∃ a, Rest k (f a) q := by
  induction h with
  | refl => exact .inl ⟨p, .refl, rfl⟩
  | @stmt l w n h v hw hk ih =>
    rcases ih with ⟨p', hp', heq⟩ | ⟨a, ha⟩
    · cases p' with
      | done a =>
        have hfa : f a = .stmt l w n := heq.symm
        refine .inr ⟨a, ?_⟩
        rw [hfa]
        exact .stmt .refl v hw hk
      | fail e => cases heq
      | stmt l' w' n' =>
        cases heq
        exact .inl ⟨n' v, hp'.stmt v hw hk, rfl⟩
    · exact .inr ⟨a, ha.stmt v hw hk⟩

/-- The first statement of the program locks the row `k`, or fails. -/
def LocksFirst (k : κ) (p : Prog β ε α) : Prop :=
  ∃ l w n, p = .stmt l w n ∧ ∀ v, k ∈ l v ∨ ∃ e, n v = .fail e

theorem LocksFirst.locks {k : κ} {p : Prog β ε α} (h : LocksFirst k p) : Locks k p := by
  obtain ⟨l, w, n, rfl, hlock⟩ := h
  exact .lock hlock

theorem LocksFirst.bind {k : κ} {p : Prog β ε α} (h : LocksFirst k p) (f : α → Prog β ε γ) :
    LocksFirst k (p >>= f) := by
  obtain ⟨l, w, n, rfl, hlock⟩ := h
  refine ⟨l, w, _, stmt_bind l w n f, fun v ↦ (hlock v).imp_right ?_⟩
  rintro ⟨e, he⟩
  exact ⟨e, by rw [he, fail_bind]⟩

variable [DecidableEq κ]

theorem locksFirst_firstForUpdate (k : κ) (missing : ε) :
    LocksFirst k (firstForUpdate k (fun _ ↦ true) missing : Prog β ε (β k)) := by
  refine ⟨_, _, _, rfl, fun v ↦ ?_⟩
  cases h : v.lookup k with
  | none => exact .inr ⟨missing, by simp [h, ofOutcome]⟩
  | some r => exact .inl (by simp)

theorem writes_of_readOnly {l : Db β → List κ} {w : Db β → List (Sigma β)}
    {n : Db β → Prog β ε α} (h : (Prog.stmt l w n).ReadOnly) (v : Db β) :
    w v = [] ∧ (n v).ReadOnly := by
  obtain ⟨hw, hn⟩ := (keeps_stmt l w n).mp h v
  refine ⟨?_, hn⟩
  cases hwv : w v with
  | nil => rfl
  | cons x ws =>
    rw [hwv] at hw
    exact hw.1.elim

/-- Checks, then a program that locks the row first. -/
theorem ReadOnly.locks_bind {k : κ} {p : Prog β ε α} (hp : p.ReadOnly) {f : α → Prog β ε γ}
    (hf : ∀ a, LocksFirst k (f a)) : Locks k (p >>= f) := by
  induction p with
  | done a => exact (hf a).locks
  | fail e => exact .fail e
  | stmt l w n ih =>
    exact .read (fun v ↦ (writes_of_readOnly hp v).1) fun v ↦ ih v (writes_of_readOnly hp v).2

theorem Rest.readOnly {k : κ} {p q : Prog β ε α} (h : Rest k p q) (hp : p.ReadOnly) :
    q.ReadOnly := by
  induction h with
  | refl => exact hp
  | stmt _ v _ _ ih => exact (writes_of_readOnly ih v).2

/-- **Checks do not count**: what is left of checks and a program that locks the row first does, run
alone, what that program does. -/
theorem Rest.run_of_checks {k : κ} {p : Prog β ε α} {f : α → Prog β ε γ} {q : Prog β ε γ}
    (h : Rest k (p >>= f) q) (hp : p.ReadOnly) (hf : ∀ a, LocksFirst k (f a)) {s s' : Db β} {c : γ}
    (hrun : q.run s = .ok (c, s')) : ∃ a, (f a).run s = .ok (c, s') := by
  rcases h.of_bind with ⟨p', hp', rfl⟩ | ⟨a, ha⟩
  · have hpost := (post_bind p' f s fun c' t ↦ ∃ a, (f a).run s = .ok (c', t)).mpr
      ((post_of_readOnly (hp'.readOnly hp) s).mono ?_)
    · exact hpost c s' hrun
    · rintro a t rfl c' t' hrun'
      exact ⟨a, hrun'⟩
  · obtain ⟨l, w, n, heq, hlock⟩ := hf a
    rw [heq] at ha
    rcases ha.of_lock hlock with rfl | ⟨e, rfl⟩
    · exact ⟨a, heq ▸ hrun⟩
    · cases hrun

end Prog

/-! ## Taking turns -/

variable [DecidableEq κ]

/-- How far a transaction is, `db` being the committed database: before the lock, failed, or in its
turn, where what it does alone is what all that was left of it when it locked the row does alone. -/
inductive Turn (S : System χ β ε ω) (k : κ) (db : Db β) (tx : Tx χ β ε ω) : Prop where
  | before (hpending : tx.pending = []) (hrest : Prog.Rest k (S.prog tx.call) tx.rest)
      (hlocks : Prog.Locks k tx.rest)
  | failed {e : ε} (hfail : tx.rest = .fail e)
  | holding (hheld : k ∈ tx.held) {q : Prog β ε ω} (hrest : Prog.Rest k (S.prog tx.call) q)
      (hrun : tx.rest.run (tx.view db) = q.run db)

/-- What is known of a configuration. -/
structure TakesTurns (S : System χ β ε ω) (k : κ) (cfg : Config χ β ε ω) : Prop where
  turn : ∀ t tx, cfg.txs.lookup t = some tx → Turn S k cfg.db tx
  exclusive : ∀ t tx u tx', cfg.txs.lookup t = some tx → cfg.txs.lookup u = some tx' → t ≠ u →
    k ∈ tx.held → k ∉ tx'.held
  log : ∀ e ∈ cfg.log, match e.result with
    | some a => ∃ q, Prog.Rest k (S.prog e.call) q ∧ q.run e.before = .ok (a, e.after)
    | none => e.after = e.before

section

variable {S : System χ β ε ω} {k : κ} {db : Db β} {tx : Tx χ β ε ω} {l : Db β → List κ}
  {w : Db β → List (Sigma β)} {n : Db β → Prog β ε ω}

/-- One statement. -/
theorem Turn.advance (h : Turn S k db tx) (hstmt : tx.rest = .stmt l w n) :
    Turn S k db (tx.advance db l w n) := by
  have hview : (tx.advance db l w n).view db = (tx.view db).apply (w (tx.view db)) := by
    rw [Tx.view, Tx.advance, Db.apply_append]
    rfl
  cases h with
  | before hpending hrest hlocks =>
    have hdb : tx.view db = db := by rw [Tx.view, hpending, Db.apply_nil]
    rw [hstmt] at hrest hlocks
    by_cases hk : k ∈ l db
    · refine .holding ?_ hrest ?_
      · rw [Tx.advance, hdb]
        simp [hk]
      · rw [hview, hdb]
        show (n (tx.view db)).run _ = _
        rw [hdb]
        rfl
    cases hlocks with
    | lock h =>
      obtain ⟨e, he⟩ := (h db).resolve_left hk
      refine .failed (e := e) ?_
      show n (tx.view db) = _
      rw [hdb, he]
    | read hw hn =>
      refine .before ?_ ?_ ?_
      · show tx.pending ++ w (tx.view db) = []
        rw [hpending, hw, List.append_nil]
      · show Prog.Rest k _ (n (tx.view db))
        rw [hdb]
        exact hrest.stmt db (hw db) hk
      · exact hn _
  | failed hfail =>
    rw [hstmt] at hfail
    cases hfail
  | holding hheld hrest hrun =>
    refine .holding (List.mem_append_left _ hheld) hrest ?_
    rw [hview, ← hrun, hstmt]
    rfl

/-- A commit of the one whose turn it is leaves the others where they are. -/
theorem Turn.of_notMem {db' : Db β} (h : Turn S k db tx) (hk : k ∉ tx.held) : Turn S k db' tx := by
  cases h with
  | before hpending hrest hlocks => exact .before hpending hrest hlocks
  | failed hfail => exact .failed hfail
  | holding hheld => exact absurd hheld hk

/-- The one that commits had its turn. -/
theorem Turn.of_done {a : ω} (h : Turn S k db tx) (hdone : tx.rest = .done a) :
    k ∈ tx.held ∧ ∃ q, Prog.Rest k (S.prog tx.call) q ∧ q.run db = .ok (a, tx.view db) := by
  cases h with
  | before hpending hrest hlocks =>
    rw [hdone] at hlocks
    cases hlocks
  | failed hfail =>
    rw [hdone] at hfail
    cases hfail
  | holding hheld hrest hrun =>
    rw [hdone] at hrun
    exact ⟨hheld, _, hrest, hrun.symm⟩

/-- **Turns are taken in every run**, whatever the interleaving. -/
theorem takesTurns_of_reach (hlocks : ∀ c, Prog.Locks k (S.prog c)) {s : Db β}
    {cfg : Config χ β ε ω} (h : Reach S (.init s) cfg) : TakesTurns S k cfg := by
  induction h with
  | refl => exact ⟨by simp [Config.init], by simp [Config.init], by simp [Config.init]⟩
  | @tail cfg cfg' _ hstep ih =>
    obtain ⟨hturn, hexc, hlog⟩ := ih
    cases hstep with
    | @start t c ht =>
      refine ⟨fun u tx hu ↦ ?_, fun u tx u' tx' hu hu' hne ↦ ?_, hlog⟩
      · rcases Db.lookup_insert_cases hu with heq | ⟨-, hu⟩
        · cases heq
          exact .before rfl .refl (hlocks c)
        · exact hturn u tx hu
      · rcases Db.lookup_insert_cases hu with heq | ⟨-, hu⟩
        · cases heq
          simp
        · rcases Db.lookup_insert_cases hu' with heq | ⟨-, hu'⟩
          · cases heq
            simp
          · exact hexc u tx u' tx' hu hu' hne
    | @stmt t tx l w n ht hrest hfree =>
      -- the row is locked by nobody else, before and after
      have hadv : ∀ u tx', cfg.txs.lookup u = some tx' → u ≠ t →
          k ∈ (tx.advance cfg.db l w n).held → k ∉ tx'.held := by
        intro u tx' hu hut hk hk'
        rcases List.mem_append.mp hk with hk | hk
        · exact hexc t tx u tx' ht hu (Ne.symm hut) hk hk'
        · exact hfree u tx' hu hut hk hk'
      refine ⟨fun u tx' hu ↦ ?_, fun u tx' u' tx'' hu hu' hne ↦ ?_, hlog⟩
      · rcases Db.lookup_insert_cases hu with heq | ⟨-, hu⟩
        · cases heq
          exact (hturn _ _ ht).advance hrest
        · exact hturn u tx' hu
      · rcases Db.lookup_insert_cases hu with heq | ⟨hut, hu⟩
        · cases heq
          rcases Db.lookup_insert_cases hu' with heq' | ⟨hut', hu'⟩
          · cases heq'
            exact absurd rfl hne
          · exact hadv u' tx'' hu' hut'
        · rcases Db.lookup_insert_cases hu' with heq' | ⟨-, hu'⟩
          · cases heq'
            exact fun hk hk' ↦ hadv u tx' hu hut hk' hk
          · exact hexc u tx' u' tx'' hu hu' hne
    | @commit t tx a ht hrest hadm =>
      obtain ⟨hheld, hran⟩ := (hturn t tx ht).of_done hrest
      refine ⟨fun u tx' hu ↦ ?_, fun u tx' u' tx'' hu hu' hne ↦ ?_, fun e he ↦ ?_⟩
      · obtain ⟨hut, hu⟩ := Db.lookup_erase_cases hu
        exact (hturn u tx' hu).of_notMem (hexc t tx u tx' ht hu (Ne.symm hut) hheld)
      · exact hexc u tx' u' tx'' (Db.lookup_erase_cases hu).2 (Db.lookup_erase_cases hu').2 hne
      · rcases List.mem_cons.mp he with rfl | he
        · exact hran
        · exact hlog e he
    | @abort t tx ht =>
      refine ⟨fun u tx' hu ↦ ?_, fun u tx' u' tx'' hu hu' hne ↦ ?_, fun e he ↦ ?_⟩
      · exact hturn u tx' (Db.lookup_erase_cases hu).2
      · exact hexc u tx' u' tx'' (Db.lookup_erase_cases hu).2 (Db.lookup_erase_cases hu').2 hne
      · rcases List.mem_cons.mp he with rfl | he
        · rfl
        · exact hlog e he

/-- **What is left of a transaction when it comes to lock the row is what it did**, alone, on the
database it committed on. -/
theorem serial_of_locks (hlocks : ∀ c, Prog.Locks k (S.prog c)) {s : Db β}
    {cfg : Config χ β ε ω} (h : Reach S (.init s) cfg) {e : Ended χ β ω} (he : e ∈ cfg.log) {a : ω}
    (ha : e.result = some a) :
    ∃ q, Prog.Rest k (S.prog e.call) q ∧ q.run e.before = .ok (a, e.after) := by
  have hlog := (takesTurns_of_reach hlocks h).log e he
  rw [ha] at hlog
  exact hlog

theorem unchanged_of_locks (hlocks : ∀ c, Prog.Locks k (S.prog c)) {s : Db β}
    {cfg : Config χ β ε ω} (h : Reach S (.init s) cfg) {e : Ended χ β ω} (he : e ∈ cfg.log)
    (hnone : e.result = none) : e.after = e.before := by
  have hlog := (takesTurns_of_reach hlocks h).log e he
  rw [hnone] at hlog
  exact hlog

end

end Sql
