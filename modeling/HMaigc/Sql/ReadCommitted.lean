import HMaigc.Sql.RowStep
import Mathlib.Logic.Relation

/-!
# Concurrent transactions under READ COMMITTED

Any number of transactions run at once, their statements interleaved in any order.  What one of
them sees and when it waits is the isolation level, and this file fixes it to READ COMMITTED with
row locks.

* A statement runs on the *view* of its transaction: the database as last committed, overwritten by
  the transaction's own uncommitted writes (`Tx.view`).  Two statements of one transaction may
  therefore see different databases, and a plain `SELECT` waits for nobody.
* A row that is written, inserted or read `FOR UPDATE` is locked until the transaction ends.  A
  statement that needs a lock somebody else holds is not enabled (`Config.Free`): it waits.  When
  the holder ends the statement runs on the view of *that* moment, which is the re-evaluation of the
  `WHERE` clause on the committed row.
* Commit makes all writes visible at once; an abort, possible at any moment (a body that returned an
  error, a deadlock, a lost connection), drops them.

The log keeps every transaction that ended, with the database just before and just after
(`Ended`); it is what a property of a whole run is read from.  `System.admits` restricts which
writes may be committed on which database, so that "in every run in which …" can be said as
reachability in another system; `System.free` admits everything.

`reach_of_play` turns a schedule that computes into a run, and `reach_of_run` connects the two
semantics: a serial run of a program is the run here in which nobody else moves.
-/

set_option autoImplicit false

namespace Sql

/-- Transaction bodies by the call that starts them, and which of a call's writes may be committed
on which database. -/
structure System {κ : Type} (χ : Type) (β : κ → Type) (ε ω : Type) where
  prog : χ → Prog β ε ω
  admits : χ → List (Sigma β) → Db β → Prop

/-- The system in which everything may be committed. -/
def System.free {κ χ : Type} {β : κ → Type} {ε ω : Type} (prog : χ → Prog β ε ω) :
    System χ β ε ω :=
  ⟨prog, fun _ _ _ ↦ True⟩

/-- A transaction under way. -/
structure Tx {κ : Type} (χ : Type) (β : κ → Type) (ε ω : Type) where
  call : χ
  /-- The locks it holds. -/
  held : List κ
  /-- Its uncommitted writes, oldest first. -/
  pending : List (Sigma β)
  /-- What is left of its body. -/
  rest : Prog β ε ω

/-- A transaction that ended: with a result when it committed, with none when it rolled back. -/
structure Ended {κ : Type} (χ : Type) (β : κ → Type) (ω : Type) where
  call : χ
  result : Option ω
  before : Db β
  after : Db β

/-- The committed database, the transactions under way by session, and those that ended, the latest
first. -/
structure Config {κ : Type} (χ : Type) (β : κ → Type) (ε ω : Type) where
  db : Db β
  txs : Db fun _ : ℕ ↦ Tx χ β ε ω
  log : List (Ended χ β ω)

variable {κ χ : Type} {β : κ → Type} {ε ω : Type}

/-! ## The log as a history -/

/-- The log of a run that started on `s` and has the database `t` now. -/
inductive Linked (s : Db β) : List (Ended χ β ω) → Db β → Prop where
  | nil : Linked s [] s
  | cons {e : Ended χ β ω} {log : List (Ended χ β ω)} (h : Linked s log e.before) :
      Linked s (e :: log) e.after

/-- A log is what was done before one of its entries, and what has been done since. -/
theorem Linked.split {s t : Db β} {later earlier : List (Ended χ β ω)} {e : Ended χ β ω}
    (h : Linked s (later ++ e :: earlier) t) : Linked s earlier e.before ∧ Linked e.after later t := by
  induction later generalizing t with
  | nil =>
    cases h with
    | cons h => exact ⟨h, .nil⟩
  | cons x later ih =>
    cases h with
    | cons h => exact ⟨(ih h).1, .cons (ih h).2⟩

/-- What holds at the start and is kept by every transaction of the log holds now. -/
theorem Linked.invariant {P : Db β → Prop} {s t : Db β} {log : List (Ended χ β ω)}
    (h : Linked s log t) (hs : P s) (hkeep : ∀ e ∈ log, P e.before → P e.after) : P t := by
  induction h with
  | nil => exact hs
  | cons _ ih => exact hkeep _ (.head _) (ih fun e he ↦ hkeep e (.tail _ he))

/-- What some transaction of the log establishes and none undoes holds now. -/
theorem Linked.established {P : Db β → Prop} {s t : Db β} {log : List (Ended χ β ω)}
    (h : Linked s log t) (hkeep : ∀ e ∈ log, P e.before → P e.after)
    (hsome : ∃ e ∈ log, P e.after) : P t := by
  induction h with
  | nil => simp at hsome
  | cons _ ih =>
    obtain ⟨e, he, hP⟩ := hsome
    rcases List.mem_cons.mp he with rfl | he
    · exact hP
    · exact hkeep _ (.head _) (ih (fun e he ↦ hkeep e (.tail _ he)) ⟨e, he, hP⟩)

/-- **At most once.**  A kind of transaction that finds `P` false and makes it true, in a history
that never undoes `P`, occurs at most once. -/
theorem Linked.atMostOnce {P : Db β → Prop} {Hit : Ended χ β ω → Prop} {s t : Db β}
    {log : List (Ended χ β ω)} (h : Linked s log t)
    (hkeep : ∀ e ∈ log, P e.before → P e.after)
    (hhit : ∀ e ∈ log, Hit e → ¬P e.before ∧ P e.after) :
    log.Pairwise fun e e' ↦ ¬(Hit e ∧ Hit e') := by
  induction h with
  | nil => exact .nil
  | cons hlink ih =>
    have hkeep' := fun e he ↦ hkeep e (List.mem_cons_of_mem _ he)
    have hhit' := fun e he ↦ hhit e (List.mem_cons_of_mem _ he)
    refine .cons (fun e' he' ⟨hnow, hthen⟩ ↦ ?_) (ih hkeep' hhit')
    exact (hhit _ (.head _) hnow).1
      (hlink.established hkeep' ⟨e', he', (hhit' e' he' hthen).2⟩)

/-- **Once and for all.**  In a history that never undoes `P`, nothing that needs `P` to be false
happens after something that makes it true. -/
theorem Linked.since {P : Db β → Prop} {Makes Needs : Ended χ β ω → Prop} {s t : Db β}
    {log : List (Ended χ β ω)} (h : Linked s log t)
    (hkeep : ∀ e ∈ log, P e.before → P e.after) (hmakes : ∀ e ∈ log, Makes e → P e.after)
    (hneeds : ∀ e ∈ log, Needs e → ¬P e.before) :
    log.Pairwise fun later earlier ↦ Makes earlier → ¬Needs later := by
  induction h with
  | nil => exact .nil
  | cons hlink ih =>
    have hkeep' := fun e he ↦ hkeep e (List.mem_cons_of_mem _ he)
    have hmakes' := fun e he ↦ hmakes e (List.mem_cons_of_mem _ he)
    refine .cons (fun e' he' hmade hneed ↦ ?_)
      (ih hkeep' hmakes' fun e he ↦ hneeds e (List.mem_cons_of_mem _ he))
    exact hneeds _ (.head _) hneed (hlink.established hkeep' ⟨e', he', hmakes' e' he' hmade⟩)

/-! ## Runs -/

/-- The sessions when `tx` is the only transaction under way. -/
def alone (tx : Tx χ β ε ω) : Db fun _ : ℕ ↦ Tx χ β ε ω := AList.insert 0 tx ∅

theorem eq_of_lookup_alone {tx tx' : Tx χ β ε ω} {u : ℕ} (h : (alone tx).lookup u = some tx') :
    u = 0 := by
  by_contra hu
  rw [alone, AList.lookup_insert_ne hu] at h
  simp at h

theorem erase_alone (tx : Tx χ β ε ω) : (alone tx).erase 0 = ∅ := by
  have h : (alone tx).entries = [⟨0, tx⟩] := rfl
  refine AList.ext ?_
  show (alone tx).entries.kerase 0 = []
  rw [h]
  exact List.kerase_cons_eq rfl

variable [DecidableEq κ]

/-- What a transaction sees on the committed database `db`. -/
def Tx.view (tx : Tx χ β ε ω) (db : Db β) : Db β := db.apply tx.pending

/-- The transaction after its next statement ran on the committed database `db`. -/
def Tx.advance (tx : Tx χ β ε ω) (db : Db β) (locks : Db β → List κ)
    (writes : Db β → List (Sigma β)) (next : Db β → Prog β ε ω) : Tx χ β ε ω :=
  { tx with
    held := tx.held ++ (locks (tx.view db) ++ keysOf (writes (tx.view db)))
    pending := tx.pending ++ writes (tx.view db)
    rest := next (tx.view db) }

namespace Config

/-- Nothing has happened yet. -/
def init (s : Db β) : Config χ β ε ω := ⟨s, ∅, []⟩

/-- None of the rows `ks` is locked by a session other than `t`. -/
def Free (cfg : Config χ β ε ω) (t : ℕ) (ks : List κ) : Prop :=
  ∀ u tx, cfg.txs.lookup u = some tx → u ≠ t → ks.Disjoint tx.held

end Config

/-- One step of one session. -/
inductive Step (S : System χ β ε ω) : Config χ β ε ω → Config χ β ε ω → Prop where
  /-- A session opens a transaction. -/
  | start {cfg : Config χ β ε ω} {t : ℕ} (c : χ) (ht : cfg.txs.lookup t = none) :
      Step S cfg { cfg with txs := cfg.txs.insert t ⟨c, [], [], S.prog c⟩ }
  /-- A transaction executes its next statement, all the rows it locks being free. -/
  | stmt {cfg : Config χ β ε ω} {t : ℕ} {tx : Tx χ β ε ω} {locks : Db β → List κ}
      {writes : Db β → List (Sigma β)} {next : Db β → Prog β ε ω}
      (ht : cfg.txs.lookup t = some tx) (hrest : tx.rest = .stmt locks writes next)
      (hfree : cfg.Free t (locks (tx.view cfg.db) ++ keysOf (writes (tx.view cfg.db)))) :
      Step S cfg { cfg with txs := cfg.txs.insert t (tx.advance cfg.db locks writes next) }
  /-- A transaction whose body returned commits. -/
  | commit {cfg : Config χ β ε ω} {t : ℕ} {tx : Tx χ β ε ω} {a : ω}
      (ht : cfg.txs.lookup t = some tx) (hrest : tx.rest = .done a)
      (hadm : S.admits tx.call tx.pending cfg.db) :
      Step S cfg ⟨tx.view cfg.db, cfg.txs.erase t,
        ⟨tx.call, some a, cfg.db, tx.view cfg.db⟩ :: cfg.log⟩
  /-- A transaction rolls back. -/
  | abort {cfg : Config χ β ε ω} {t : ℕ} {tx : Tx χ β ε ω} (ht : cfg.txs.lookup t = some tx) :
      Step S cfg ⟨cfg.db, cfg.txs.erase t, ⟨tx.call, none, cfg.db, cfg.db⟩ :: cfg.log⟩

/-- The configurations runs of the system lead to from `cfg`. -/
def Reach (S : System χ β ε ω) : Config χ β ε ω → Config χ β ε ω → Prop :=
  Relation.ReflTransGen (Step S)

/-- **The log is a chain**: each transaction ended on the database its predecessor left. -/
theorem linked_of_reach {S : System χ β ε ω} {s : Db β} {cfg : Config χ β ε ω}
    (h : Reach S (.init s) cfg) : Linked s cfg.log cfg.db := by
  induction h with
  | refl => exact .nil
  | tail _ hstep ih =>
    cases hstep with
    | start => exact ih
    | stmt => exact ih
    | commit => exact .cons (e := ⟨_, _, _, _⟩) ih
    | abort => exact .cons (e := ⟨_, _, _, _⟩) ih

/-! ## Serial runs -/

theorem reach_of_run_from {S : System χ β ε ω} {c : χ} {a : ω} {s s' : Db β}
    {log : List (Ended χ β ω)} (hadm : ∀ ws, S.admits c ws s) (p : Prog β ε ω) (held : List κ)
    (pending : List (Sigma β)) (h : p.run (s.apply pending) = .ok (a, s')) :
    Reach S ⟨s, alone ⟨c, held, pending, p⟩, log⟩ ⟨s', ∅, ⟨c, some a, s, s'⟩ :: log⟩ := by
  induction p generalizing held pending with
  | done a' =>
    obtain ⟨rfl, rfl⟩ : a' = a ∧ s.apply pending = s' := by simpa [Prog.run] using h
    have hstep := @Step.commit κ χ β ε ω _ S ⟨s, alone ⟨c, held, pending, .done a'⟩, log⟩ 0 _ a'
      (AList.lookup_insert _) rfl (hadm pending)
    rw [erase_alone] at hstep
    exact .single hstep
  | fail e => simp [Prog.run] at h
  | stmt l w n ih =>
    have hstep := @Step.stmt κ χ β ε ω _ S ⟨s, alone ⟨c, held, pending, .stmt l w n⟩, log⟩ 0 _ l w n
      (AList.lookup_insert _) rfl fun u _ hu hne ↦ absurd (eq_of_lookup_alone hu) hne
    refine .head hstep ?_
    simp only [alone, AList.insert_insert]
    exact ih _ _ _ (by rw [Db.apply_append]; exact h)

/-- **A serial transaction is a concurrent one in which nobody else moves.** -/
theorem reach_of_run {S : System χ β ε ω} {c : χ} {a : ω} {s s' : Db β}
    {log : List (Ended χ β ω)} (hadm : ∀ ws, S.admits c ws s)
    (h : (S.prog c).run s = .ok (a, s')) :
    Reach S ⟨s, ∅, log⟩ ⟨s', ∅, ⟨c, some a, s, s'⟩ :: log⟩ :=
  .head (Step.start c (AList.lookup_empty 0)) (reach_of_run_from hadm _ [] [] h)

/-! ## Schedules -/

/-- What a schedule tells a session to do. -/
inductive Action (χ : Type) : Type where
  | start (t : ℕ) (c : χ)
  | step (t : ℕ)
  | commit (t : ℕ)
  | abort (t : ℕ)

/-- One scheduled action, or `none` when it is not enabled. -/
def Config.act (prog : χ → Prog β ε ω) (cfg : Config χ β ε ω) :
    Action χ → Option (Config χ β ε ω)
  | .start t c =>
    match cfg.txs.lookup t with
    | none => some { cfg with txs := cfg.txs.insert t ⟨c, [], [], prog c⟩ }
    | some _ => none
  | .step t =>
    match cfg.txs.lookup t with
    | some tx =>
      match tx.rest with
      | .stmt locks writes next =>
        if cfg.txs.entries.all fun e ↦ e.1 = t ∨
            ∀ k ∈ locks (tx.view cfg.db) ++ keysOf (writes (tx.view cfg.db)), k ∉ e.2.held then
          some { cfg with txs := cfg.txs.insert t (tx.advance cfg.db locks writes next) }
        else none
      | _ => none
    | none => none
  | .commit t =>
    match cfg.txs.lookup t with
    | some tx =>
      match tx.rest with
      | .done a => some ⟨tx.view cfg.db, cfg.txs.erase t,
          ⟨tx.call, some a, cfg.db, tx.view cfg.db⟩ :: cfg.log⟩
      | _ => none
    | none => none
  | .abort t =>
    match cfg.txs.lookup t with
    | some tx => some ⟨cfg.db, cfg.txs.erase t, ⟨tx.call, none, cfg.db, cfg.db⟩ :: cfg.log⟩
    | none => none

/-- A whole schedule. -/
def play (prog : χ → Prog β ε ω) (cfg : Config χ β ε ω) (as : List (Action χ)) :
    Option (Config χ β ε ω) :=
  as.foldlM (Config.act prog) cfg

theorem step_of_act {prog : χ → Prog β ε ω} {cfg cfg' : Config χ β ε ω} {a : Action χ}
    (h : cfg.act prog a = some cfg') : Step (.free prog) cfg cfg' := by
  cases a with
  | start t c =>
    simp only [Config.act] at h
    split at h
    · rename_i ht
      cases h
      exact .start (S := .free prog) c ht
    · cases h
  | step t =>
    simp only [Config.act] at h
    split at h
    · rename_i tx ht
      split at h
      · rename_i locks writes next hrest
        split at h
        · rename_i hfree
          cases h
          refine .stmt ht hrest fun u tx' hu hne ↦ ?_
          have hmem := List.all_eq_true.mp hfree ⟨u, tx'⟩ (Db.mem_entries_iff.mpr hu)
          intro k hk
          exact (of_decide_eq_true hmem).resolve_left hne k hk
        · cases h
      · cases h
    · cases h
  | commit t =>
    simp only [Config.act] at h
    split at h
    · rename_i tx ht
      split at h
      · rename_i a hrest
        cases h
        exact .commit ht hrest trivial
      · cases h
    · cases h
  | abort t =>
    simp only [Config.act] at h
    split at h
    · rename_i tx ht
      cases h
      exact .abort ht
    · cases h

/-- **A schedule that computes is a run.** -/
theorem reach_of_play {prog : χ → Prog β ε ω} {as : List (Action χ)} {cfg cfg' : Config χ β ε ω}
    (h : play prog cfg as = some cfg') : Reach (.free prog) cfg cfg' := by
  induction as generalizing cfg with
  | nil =>
    cases h
    exact .refl
  | cons a as ih =>
    rw [play, List.foldlM_cons] at h
    obtain ⟨mid, hact, hplay⟩ := Option.bind_eq_some_iff.mp h
    exact .head (step_of_act hact) (ih hplay)

end Sql
