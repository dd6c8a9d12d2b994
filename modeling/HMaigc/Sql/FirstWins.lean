import HMaigc.Sql.Contract
import Mathlib.Logic.Function.Basic

/-!
# Checking without a lock

A transaction that looks at the database first and writes afterwards, without having locked what it
looked at, may write on the strength of something that is no longer so.  Where only *contenders*
can spoil what the others saw, it is enough that the first of them to commit wins: that no contender
commits after another one has, since it looked.

* `FirstWins` — the runs in which that is the case; `fresh t` says that no contender has committed
  since the transaction of session `t` executed its first statement.
* `Checks gates p` — the program begins with plain reads, one for each gate, and goes on only if the
  database it sees then is in the gate.
* `FirstWins.invariant` — what contenders preserve from inside all their gates, and everybody else
  preserves anyway, holds throughout.
-/

set_option autoImplicit false

namespace Sql

variable {κ χ : Type} {β : κ → Type} {ε ω α : Type} [DecidableEq κ]

/-! ## Runs -/

/-- The transaction has not executed any statement. -/
def Tx.Untouched (S : System χ β ε ω) (tx : Tx χ β ε ω) : Prop :=
  tx.rest = S.prog tx.call ∧ tx.held = [] ∧ tx.pending = []

/-- A run in which no contender commits after another has, since it executed its first statement. -/
inductive FirstWins (S : System χ β ε ω) (contends : χ → Bool) (s : Db β) :
    Config χ β ε ω → (ℕ → Prop) → Prop where
  | init : FirstWins S contends s (.init s) fun _ ↦ True
  | start {cfg : Config χ β ε ω} {fresh : ℕ → Prop} {t : ℕ}
      (h : FirstWins S contends s cfg fresh) (c : χ) (ht : cfg.txs.lookup t = none) :
      FirstWins S contends s { cfg with txs := cfg.txs.insert t ⟨c, [], [], S.prog c⟩ } fresh
  | stmt {cfg : Config χ β ε ω} {fresh : ℕ → Prop} {t : ℕ} {tx : Tx χ β ε ω}
      {locks : Db β → List κ} {writes : Db β → List (Sigma β)} {next : Db β → Prog β ε ω}
      (h : FirstWins S contends s cfg fresh) (ht : cfg.txs.lookup t = some tx)
      (hrest : tx.rest = .stmt locks writes next)
      (hfree : cfg.Free t (locks (tx.view cfg.db) ++ keysOf (writes (tx.view cfg.db)))) :
      FirstWins S contends s
        { cfg with txs := cfg.txs.insert t (tx.advance cfg.db locks writes next) }
        (Function.update fresh t (tx.Untouched S ∨ fresh t))
  | commit {cfg : Config χ β ε ω} {fresh : ℕ → Prop} {t : ℕ} {tx : Tx χ β ε ω} {a : ω}
      (h : FirstWins S contends s cfg fresh) (ht : cfg.txs.lookup t = some tx)
      (hrest : tx.rest = .done a) (hadm : S.admits tx.call tx.pending cfg.db)
      (hfresh : contends tx.call = true → fresh t) :
      FirstWins S contends s
        ⟨tx.view cfg.db, cfg.txs.erase t, ⟨tx.call, some a, cfg.db, tx.view cfg.db⟩ :: cfg.log⟩
        fun u ↦ contends tx.call = false ∧ fresh u
  | abort {cfg : Config χ β ε ω} {fresh : ℕ → Prop} {t : ℕ} {tx : Tx χ β ε ω}
      (h : FirstWins S contends s cfg fresh) (ht : cfg.txs.lookup t = some tx) :
      FirstWins S contends s
        ⟨cfg.db, cfg.txs.erase t, ⟨tx.call, none, cfg.db, cfg.db⟩ :: cfg.log⟩ fresh

variable {S : System χ β ε ω} {contends : χ → Bool} {s : Db β} {cfg : Config χ β ε ω}
  {fresh : ℕ → Prop}

theorem FirstWins.run_from {c : χ} {a : ω} {s₀ s' : Db β} {log : List (Ended χ β ω)}
    (hadm : ∀ ws, S.admits c ws s₀) (p : Prog β ε ω) (held : List κ) (pending : List (Sigma β))
    (hrun : p.run (s₀.apply pending) = .ok (a, s')) (hfresh : fresh 0)
    (h : FirstWins S contends s ⟨s₀, alone ⟨c, held, pending, p⟩, log⟩ fresh) :
    ∃ fresh', FirstWins S contends s ⟨s', ∅, ⟨c, some a, s₀, s'⟩ :: log⟩ fresh' := by
  induction p generalizing held pending fresh with
  | done a' =>
    obtain ⟨rfl, rfl⟩ : a' = a ∧ s₀.apply pending = s' := by simpa [Prog.run] using hrun
    have hstep := h.commit (AList.lookup_insert _) rfl (hadm pending) fun _ ↦ hfresh
    rw [erase_alone] at hstep
    exact ⟨_, hstep⟩
  | fail e => simp [Prog.run] at hrun
  | stmt l w n ih =>
    have hstep := h.stmt (AList.lookup_insert _) rfl fun u _ hu hne ↦
      absurd (eq_of_lookup_alone hu) hne
    simp only [alone, AList.insert_insert] at hstep
    refine ih _ _ _ (by rw [Db.apply_append]; exact hrun) ?_ hstep
    rw [Function.update_self]
    exact .inr hfresh

/-- A transaction that nobody interrupts is such a run. -/
theorem FirstWins.of_run {c : χ} {a : ω} {s' : Db β} (hadm : ∀ ws, S.admits c ws s)
    (hrun : (S.prog c).run s = .ok (a, s')) :
    ∃ fresh, FirstWins S contends s ⟨s', ∅, [⟨c, some a, s, s'⟩]⟩ fresh :=
  (FirstWins.init.start c (AList.lookup_empty 0)).run_from hadm _ [] [] hrun trivial

/-- They are runs. -/
theorem FirstWins.reach (h : FirstWins S contends s cfg fresh) : Reach S (.init s) cfg := by
  induction h with
  | init => exact .refl
  | start _ c ht ih => exact ih.tail (.start c ht)
  | stmt _ ht hrest hfree ih => exact ih.tail (.stmt ht hrest hfree)
  | commit _ ht hrest hadm _ ih => exact ih.tail (.commit ht hrest hadm)
  | abort _ ht ih => exact ih.tail (.abort ht)

/-! ## Gates -/

namespace Prog

/-- The program never returns. -/
def Dead (p : Prog β ε α) : Prop := p.Keeps (fun _ _ _ ↦ True) fun _ ↦ False

/-- The program begins with one plain read for each gate, and goes on only from inside it. -/
def Checks : List (Db β → Prop) → Prog β ε α → Prop
  | [], _ => True
  | G :: gates, p => p.Dead ∨ ∃ l w n, p = .stmt l w n ∧
      ∀ v, w v = [] ∧ ((n v).Dead ∨ G v ∧ (n v).Checks gates)

theorem dead_fail (e : ε) : (Prog.fail e : Prog β ε α).Dead := (keeps_fail e).mpr trivial

theorem not_dead_done (a : α) : ¬(Prog.done a : Prog β ε α).Dead := fun h ↦ (keeps_done a).mp h

theorem Dead.bind {γ : Type} {p : Prog β ε α} (h : p.Dead) (f : α → Prog β ε γ) :
    (p >>= f).Dead :=
  (keeps_bind p f _).mpr (h.mono fun _ hfalse ↦ hfalse.elim)

theorem Checks.bind {γ : Type} {gates : List (Db β → Prop)} {p : Prog β ε α}
    (h : p.Checks gates) (f : α → Prog β ε γ) : (p >>= f).Checks gates := by
  induction gates generalizing p with
  | nil => trivial
  | cons G gates ih =>
    rcases h with hdead | ⟨l, w, n, rfl, h⟩
    · exact .inl (hdead.bind f)
    · refine .inr ⟨l, w, fun v ↦ n v >>= f, rfl, fun v ↦ ⟨(h v).1, ?_⟩⟩
      exact (h v).2.imp (fun hdead ↦ hdead.bind f) fun hG ↦ ⟨hG.1, ih hG.2⟩

/-- A plain read and what follows it. -/
theorem checks_query {γ : Type} {G : Db β → Prop} {gates : List (Db β → Prop)} {g : Db β → γ}
    {f : γ → Prog β ε α} (h : ∀ v, (f (g v)).Dead ∨ G v ∧ (f (g v)).Checks gates) :
    (query g >>= f).Checks (G :: gates) :=
  .inr ⟨_, _, fun v ↦ f (g v), rfl, fun v ↦ ⟨rfl, h v⟩⟩

end Prog

/-! ## The invariant -/

/-- Where a contender is: `seen` are the gates it has passed, and as long as nobody has spoilt
them, the database is inside. -/
def Passing (gates : List (Db β → Prop)) (fresh : Prop) (db : Db β) (tx : Tx χ β ε ω) : Prop :=
  tx.rest.Dead ∨ ∃ seen todo, gates = seen ++ todo ∧ tx.rest.Checks todo ∧
    (todo ≠ [] → tx.pending = []) ∧ (fresh → ∀ G ∈ seen, G db)

theorem Passing.mono {gates : List (Db β → Prop)} {fresh fresh' : Prop} {db db' : Db β}
    {tx : Tx χ β ε ω} (h : Passing gates fresh db tx)
    (hG : ∀ G ∈ gates, fresh' → fresh ∧ (G db → G db')) : Passing gates fresh' db' tx := by
  rcases h with hdead | ⟨seen, todo, rfl, hchecks, hpending, hseen⟩
  · exact .inl hdead
  · refine .inr ⟨seen, todo, rfl, hchecks, hpending, fun hfresh G hmem ↦ ?_⟩
    obtain ⟨hf, hstep⟩ := hG G (List.mem_append_left _ hmem) hfresh
    exact hstep (hseen hf G hmem)

/-- A contender's next statement. -/
theorem Passing.advance {gates : List (Db β → Prop)} {fresh : Prop} {db : Db β}
    {tx : Tx χ β ε ω} {l : Db β → List κ} {w : Db β → List (Sigma β)} {n : Db β → Prog β ε ω}
    (h : Passing gates fresh db tx) (hrest : tx.rest = .stmt l w n) :
    Passing gates fresh db (tx.advance db l w n) := by
  rcases h with hdead | ⟨seen, todo, rfl, hchecks, hpending, hseen⟩
  · rw [hrest] at hdead
    exact .inl ((Prog.keeps_stmt l w n).mp hdead _).2
  cases todo with
  | nil => exact .inr ⟨seen, [], rfl, trivial, fun hne ↦ absurd rfl hne, hseen⟩
  | cons G todo =>
    have hnone := hpending (by simp)
    have hview : tx.view db = db := by rw [Tx.view, hnone, Db.apply_nil]
    rw [hrest] at hchecks
    rcases hchecks with hdead | ⟨l', w', n', heq, hchecks⟩
    · exact .inl ((Prog.keeps_stmt l w n).mp hdead _).2
    cases heq
    obtain ⟨hw, hnext⟩ := hchecks db
    rcases hnext with hdead | ⟨hG, hnext⟩
    · exact .inl (by rw [Tx.advance, hview]; exact hdead)
    · refine .inr ⟨seen ++ [G], todo, by simp, ?_, fun _ ↦ ?_, fun hfresh G' hmem ↦ ?_⟩
      · rw [Tx.advance, hview]
        exact hnext
      · rw [Tx.advance, hview, hnone, hw, List.append_nil]
      · rcases List.mem_append.mp hmem with hmem | hmem
        · exact hseen hfresh G' hmem
        · rw [List.mem_singleton.mp hmem]
          exact hG

/-- A contender that returns is inside all its gates. -/
theorem Passing.done {gates : List (Db β → Prop)} {fresh : Prop} {db : Db β} {tx : Tx χ β ε ω}
    {a : ω} (h : Passing gates fresh db tx) (hrest : tx.rest = .done a) (hfresh : fresh) :
    ∀ G ∈ gates, G db := by
  rcases h with hdead | ⟨seen, todo, rfl, hchecks, -, hseen⟩
  · rw [hrest] at hdead
    exact absurd hdead (Prog.not_dead_done a)
  cases todo with
  | nil => simpa using hseen hfresh
  | cons G todo =>
    rw [hrest] at hchecks
    rcases hchecks with hdead | ⟨l, w, n, heq, -⟩
    · exact absurd hdead (Prog.not_dead_done a)
    · cases heq

/-- **The first committer wins.**  `C` says what single commits do.  If every contender begins by
checking the gates and preserves `P` from inside them, and everybody else preserves `P` and does
not leave a gate, then `P` holds throughout. -/
theorem FirstWins.invariant {C : Contract κ χ β ω} {P : Db β → Prop} (gates : List (Db β → Prop))
    (hok : ∀ {cfg}, Reach S (.init s) cfg → C.Ok S cfg)
    (hchecks : ∀ c, contends c = true → (S.prog c).Checks gates)
    (hcontender : ∀ c locks a t u, contends c = true → C.Commit c locks a t u → P t →
      (∀ G ∈ gates, G t) → P u)
    (hothers : ∀ c locks a t u, contends c = false → C.Commit c locks a t u →
      (P t → P u) ∧ ∀ G ∈ gates, G t → G u)
    (hs : P s) (h : FirstWins S contends s cfg fresh) : P cfg.db := by
  suffices hall : P cfg.db ∧ ∀ t tx, cfg.txs.lookup t = some tx → contends tx.call = true →
      Passing gates (fresh t) cfg.db tx from hall.1
  induction h with
  | init => exact ⟨hs, by simp [Config.init]⟩
  | @start cfg fresh t _ c _ ih =>
    refine ⟨ih.1, fun u tx hu hc ↦ ?_⟩
    rcases Db.lookup_insert_cases hu with heq | ⟨-, hu⟩
    · cases heq
      exact .inr ⟨[], gates, rfl, hchecks c hc, fun _ ↦ rfl, by simp⟩
    · exact ih.2 u tx hu hc
  | @stmt cfg fresh t tx l w n _ ht hrest _ ih =>
    refine ⟨ih.1, fun u tx' hu hc ↦ ?_⟩
    rcases Db.lookup_insert_cases hu with heq | ⟨hne, hu⟩
    · cases heq
      rw [Function.update_self]
      refine Passing.advance ?_ hrest
      by_cases huntouched : tx.Untouched S
      · refine .inr ⟨[], gates, rfl, ?_, fun _ ↦ huntouched.2.2, by simp⟩
        rw [huntouched.1]
        exact hchecks tx.call hc
      · exact (ih.2 t tx ht hc).mono fun G _ hfresh ↦ ⟨hfresh.resolve_left huntouched, fun h ↦ h⟩
    · rw [Function.update_of_ne hne]
      exact ih.2 u tx' hu hc
  | @commit cfg fresh t tx a h ht hrest hadm hfresh ih =>
    have hlog := (hok (h.commit ht hrest hadm hfresh).reach).log _ (.head _)
    obtain ⟨locks, hcommit⟩ := hlog
    dsimp only at hcommit
    cases hc : contends tx.call with
    | true =>
      have hgates := (ih.2 t tx ht hc).done hrest (hfresh hc)
      refine ⟨hcontender _ _ _ _ _ hc hcommit ih.1 hgates, fun u tx' hu hc' ↦ ?_⟩
      exact (ih.2 u tx' (Db.lookup_erase_cases hu).2 hc').mono fun G _ hfalse ↦ by
        cases hfalse.1
    | false =>
      obtain ⟨hP, hG⟩ := hothers _ _ _ _ _ hc hcommit
      refine ⟨hP ih.1, fun u tx' hu hc' ↦ ?_⟩
      exact (ih.2 u tx' (Db.lookup_erase_cases hu).2 hc').mono fun G hmem hfresh ↦
        ⟨hfresh.2, hG G hmem⟩
  | @abort cfg fresh t tx _ _ ih =>
    exact ⟨ih.1, fun u tx' hu hc ↦ ih.2 u tx' (Db.lookup_erase_cases hu).2 hc⟩

end Sql
