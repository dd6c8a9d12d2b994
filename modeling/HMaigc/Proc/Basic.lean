import Mathlib.Logic.Relation
import Mathlib.Order.Defs.PartialOrder

/-!
# Processes over a shared state

A process reads and changes a state it shares with others, one atomic step at a time, and now and
then asks its surroundings for an answer it cannot foresee.  Between two of its steps the others may
change the state, and it may die there: what it had in memory is lost, and the state stays.

* `Proc` — processes; a monad with errors.
* `View σ ω` — what is remembered of a run: an `ω` knows the state now, and how to go on with the
  next one.  `View.plain` remembers nothing else, `View.history` remembers every earlier state.
* `Proc.Safe V R G Q p w` — from `w`, while the others change it only as `R` allows, every step of
  `p` is one `G` allows and its outcome satisfies `Q`.  It holds of a process at every point of its
  life, so it says as much about one that dies as about one that ends.
* `Proc.Within V R G L p` — the same from everywhere: what is needed of a process that is of no
  account for `G`.
* `Proc.follow` — the steps of one run, which `Safe.follow` refutes a safety by.
* `Proc.Runs R p s r t` — `p` ran to its end from `s`, with the outcome `r` in the state `t`;
  `Proc.exec` computes such a run.
-/

set_option autoImplicit false

namespace Concurrent

/-- A process over the states `σ` that may fail with `ε` and asks for answers in `ο`. -/
inductive Proc (σ ε ο α : Type) : Type where
  | ret (r : Except ε α)
  /-- Change the state, and go on with what was read of it. -/
  | step (f : σ → σ) (k : σ → Proc σ ε ο α)
  | ask (k : ο → Proc σ ε ο α)

/-- What is remembered of a run. -/
structure View (σ ω : Type) where
  now : ω → σ
  next : ω → σ → ω

/-- Nothing but the state. -/
def View.plain (σ : Type) : View σ σ := ⟨fun s ↦ s, fun _ s ↦ s⟩

/-- A state and the ones before it, the latest first. -/
structure History (σ : Type) where
  now : σ
  past : List σ := []

/-- Every state there has been. -/
def View.history (σ : Type) : View σ (History σ) := ⟨(·.now), fun h s ↦ ⟨s, h.now :: h.past⟩⟩

/-- The states of a history. -/
def History.states {σ : Type} (h : History σ) : List σ := h.now :: h.past

namespace Proc

variable {σ ε ο α β : Type}

protected def bind : Proc σ ε ο α → (α → Proc σ ε ο β) → Proc σ ε ο β
  | ret (.ok a), f => f a
  | ret (.error e), _ => ret (.error e)
  | step g k, f => step g fun s ↦ (k s).bind f
  | ask k, f => ask fun o ↦ (k o).bind f

instance : Monad (Proc σ ε ο) where
  pure a := ret (.ok a)
  bind := Proc.bind

/-- End with an error. -/
def fail (e : ε) : Proc σ ε ο α := ret (.error e)

/-- What the shared state is now. -/
def look : Proc σ ε ο σ := step id fun s ↦ ret (.ok s)

/-- An answer of the surroundings. -/
def answer : Proc σ ε ο ο := ask fun o ↦ ret (.ok o)

/-- One atomic change with an outcome. -/
def atomic (f : σ → Except ε α × σ) : Proc σ ε ο α := step (fun s ↦ (f s).2) fun s ↦ ret (f s).1

/-- The error of a process as a value. -/
def observe : Proc σ ε ο α → Proc σ ε ο (Except ε α)
  | ret r => ret (.ok r)
  | step f k => step f fun s ↦ (k s).observe
  | ask k => ask fun o ↦ (k o).observe

/-- What reading reports, as the outcome of the process. -/
def ofExcept (r : Except ε α) : Proc σ ε ο α := ret r

/-! ## Every step of it -/

section Safe

variable {ω : Type} (V : View σ ω) (R G : ω → ω → Prop) (Q : Except ε α → ω → Prop)

/-- Every step of the process is allowed, and so is its outcome. -/
def Safe : Proc σ ε ο α → ω → Prop
  | ret r, s => ∀ t, R s t → Q r t
  | step f k, s => ∀ t, R s t →
    G t (V.next t (f (V.now t))) ∧ (k (V.now t)).Safe (V.next t (f (V.now t)))
  | ask k, s => ∀ t, R s t → ∀ o, (k o).Safe t

end Safe

variable {ω : Type} {V : View σ ω} {R G : ω → ω → Prop} {Q Q' : Except ε α → ω → Prop}
  {p : Proc σ ε ο α} {s t : ω}

/-- The others may move first. -/
theorem Safe.rely [IsTrans ω R] (h : p.Safe V R G Q s) (ht : R s t) : p.Safe V R G Q t := by
  cases p with
  | ret r => exact fun u hu ↦ h u (trans_of R ht hu)
  | step f k => exact fun u hu ↦ h u (trans_of R ht hu)
  | ask k => exact fun u hu ↦ h u (trans_of R ht hu)

/-- A weaker conclusion. -/
theorem Safe.imp (h : p.Safe V R G Q s) (hQ : ∀ r t, Q r t → Q' r t) : p.Safe V R G Q' s := by
  induction p generalizing s with
  | ret r => exact fun u hu ↦ hQ r u (h u hu)
  | step f k ih =>
    intro u hu
    have hk := h u hu
    exact ⟨hk.1, ih _ hk.2⟩
  | ask k ih => exact fun u hu o ↦ ih o (h u hu o)

theorem safe_pure {a : α} (h : ∀ t, R s t → Q (.ok a) t) :
    (pure a : Proc σ ε ο α).Safe V R G Q s := h

theorem safe_fail {e : ε} (h : ∀ t, R s t → Q (.error e) t) :
    (fail e : Proc σ ε ο α).Safe V R G Q s := h

/-- **Sequential composition.**  An error of the first process is the outcome of both. -/
theorem safe_bind [IsTrans ω R] [Std.Refl R] {f : α → Proc σ ε ο β}
    {P : Except ε β → ω → Prop}
    (h : p.Safe V R G (fun r t ↦ match r with
      | .ok a => (f a).Safe V R G P t
      | .error e => ∀ u, R t u → P (.error e) u) s) : (p >>= f).Safe V R G P s := by
  induction p generalizing s with
  | ret r =>
    have hs := h s (refl_of R s)
    cases r with
    | ok a => exact hs
    | error e => exact hs
  | step g k ih =>
    intro u hu
    have hk := h u hu
    exact ⟨hk.1, ih _ hk.2⟩
  | ask k ih => exact fun u hu o ↦ ih o (h u hu o)

theorem safe_look {Q : Except ε σ → ω → Prop}
    (h : ∀ t, R s t → G t (V.next t (V.now t)) ∧
      ∀ u, R (V.next t (V.now t)) u → Q (.ok (V.now t)) u) :
    (look : Proc σ ε ο σ).Safe V R G Q s :=
  fun t ht ↦ h t ht

theorem safe_answer {Q : Except ε ο → ω → Prop} (h : ∀ t, R s t → ∀ o u, R t u → Q (.ok o) u) :
    (answer : Proc σ ε ο ο).Safe V R G Q s :=
  h

theorem safe_atomic {f : σ → Except ε α × σ}
    (h : ∀ t, R s t → G t (V.next t (f (V.now t)).2) ∧
      ∀ u, R (V.next t (f (V.now t)).2) u → Q (f (V.now t)).1 u) :
    (atomic f : Proc σ ε ο α).Safe V R G Q s :=
  h

/-- A process whose error is observed ends with a value. -/
theorem safe_observe {P : Except ε (Except ε α) → ω → Prop}
    (h : p.Safe V R G (fun r t ↦ P (.ok r) t) s) : p.observe.Safe V R G P s := by
  induction p generalizing s with
  | ret r => exact h
  | step f k ih =>
    intro u hu
    have hk := h u hu
    exact ⟨hk.1, ih _ hk.2⟩
  | ask k ih => exact fun u hu o ↦ ih o (h u hu o)

theorem safe_ofExcept {r : Except ε α} (h : ∀ t, R s t → Q r t) :
    (ofExcept r : Proc σ ε ο α).Safe V R G Q s := h

/-! ## Wherever it starts -/

section Within

section

variable (V R G) (L : ω → ω → Prop)

/-- Wherever the process starts, `G` allows its steps, and it ends where `L` leads. -/
def Within (p : Proc σ ε ο α) : Prop := ∀ s, p.Safe V R G (fun _ t ↦ L s t) s

/-- `L` leads on over the moves of the others, and over a step that only looks, which `G` allows. -/
structure Tolerates : Prop where
  rely : ∀ s t, R s t → L s t
  look : ∀ s, G s (V.next s (V.now s)) ∧ L s (V.next s (V.now s))
  trans : ∀ s t u, L s t → L t u → L s u

end

variable {L : ω → ω → Prop}

theorem Within.safe (hp : p.Within V R G L) (hQ : ∀ r t, L s t → Q r t) : p.Safe V R G Q s :=
  (hp s).imp hQ

theorem within_ofExcept (hL : Tolerates V R G L) (r : Except ε α) :
    (ofExcept r : Proc σ ε ο α).Within V R G L :=
  hL.rely

theorem within_pure (hL : Tolerates V R G L) (a : α) :
    (pure a : Proc σ ε ο α).Within V R G L :=
  hL.rely

theorem within_fail (hL : Tolerates V R G L) (e : ε) :
    (fail e : Proc σ ε ο α).Within V R G L :=
  hL.rely

theorem within_atomic (hL : Tolerates V R G L) {f : σ → Except ε α × σ}
    (hf : ∀ s, G s (V.next s (f (V.now s)).2) ∧ L s (V.next s (f (V.now s)).2)) :
    (atomic f : Proc σ ε ο α).Within V R G L := fun s t ht ↦
  ⟨(hf t).1, fun u hu ↦ hL.trans s t u (hL.rely s t ht) (hL.trans t _ u (hf t).2 (hL.rely _ u hu))⟩

theorem within_look (hL : Tolerates V R G L) : (look : Proc σ ε ο σ).Within V R G L := fun s t ht ↦
  ⟨(hL.look t).1, fun u hu ↦
    hL.trans s t u (hL.rely s t ht) (hL.trans t _ u (hL.look t).2 (hL.rely _ u hu))⟩

theorem Within.observe (hp : p.Within V R G L) : p.observe.Within V R G L :=
  fun s ↦ safe_observe ((hp s).imp fun _ _ h ↦ h)

theorem Within.bind [IsTrans ω R] [Std.Refl R] (hL : Tolerates V R G L) (hp : p.Within V R G L)
    {f : α → Proc σ ε ο β} (hf : ∀ a, (f a).Within V R G L) : (p >>= f).Within V R G L := by
  refine fun s ↦ safe_bind (hp.safe fun r t ht ↦ ?_)
  cases r with
  | ok a => exact (hf a).safe fun _ u hu ↦ hL.trans s t u ht hu
  | error e => exact fun u hu ↦ hL.trans s t u ht (hL.rely t u hu)

end Within

/-! ## One run of it -/

variable (V) in
/-- What is remembered before and after every step of one run, in which the others move as `moves`
says, once before each step, and the surroundings answer as `answers` says. -/
def follow : Proc σ ε ο α → List (ω → ω) → List ο → ω → List (ω × ω)
  | ret _, _, _, _ => []
  | step f k, moves, answers, s =>
    let t := moves.headD id s
    let u := V.next t (f (V.now t))
    (t, u) :: (k (V.now t)).follow moves.tail answers u
  | ask _, _, [], _ => []
  | ask k, moves, o :: answers, s => (k o).follow moves answers s

/-- The steps of every run are allowed. -/
theorem Safe.follow [Std.Refl R] (h : p.Safe V R G Q s) {moves : List (ω → ω)}
    (hmoves : ∀ move ∈ moves, ∀ s, R s (move s)) (answers : List ο) {x : ω × ω}
    (hx : x ∈ p.follow V moves answers s) : G x.1 x.2 := by
  induction p generalizing s moves answers with
  | ret r => cases hx
  | step f k ih =>
    have hmove : R s (moves.headD id s) := by
      cases moves with
      | nil => exact refl_of R s
      | cons move moves => exact hmoves move List.mem_cons_self s
    obtain ⟨hG, hk⟩ := h _ hmove
    rcases List.mem_cons.mp hx with rfl | hx
    · exact hG
    · exact ih _ hk (fun move hmem ↦ hmoves move (List.mem_of_mem_tail hmem)) answers hx
  | ask k ih =>
    cases answers with
    | nil => cases hx
    | cons o answers => exact ih o (h s (refl_of R s) o) hmoves answers hx

/-! ## To the end -/

/-- The process ran to its end. -/
inductive Runs (R : σ → σ → Prop) : Proc σ ε ο α → σ → Except ε α → σ → Prop where
  | ret {r : Except ε α} {s t : σ} (h : R s t) : Runs R (ret r) s r t
  | step {f : σ → σ} {k : σ → Proc σ ε ο α} {s t u : σ} {r : Except ε α} (h : R s t)
      (hk : Runs R (k t) (f t) r u) : Runs R (step f k) s r u
  | ask {k : ο → Proc σ ε ο α} {s t u : σ} {r : Except ε α} (h : R s t) (o : ο)
      (hk : Runs R (k o) t r u) : Runs R (ask k) s r u

/-- A process that ran to its end ended as it should. -/
theorem Safe.runs {R G : σ → σ → Prop} {Q : Except ε α → σ → Prop} {r : Except ε α} {s t : σ}
    (h : p.Safe (View.plain σ) R G Q s) (hrun : Runs R p s r t) : Q r t := by
  induction hrun with
  | ret hR => exact h _ hR
  | step hR _ ih => exact ih (h _ hR).2
  | ask hR o _ ih => exact ih (h _ hR o)

/-- Every process can run to its end: it has no loop, and nothing it waits for. -/
theorem exists_runs {R : σ → σ → Prop} [Std.Refl R] [Inhabited ο] (p : Proc σ ε ο α) (s : σ) :
    ∃ r t, Runs R p s r t := by
  induction p generalizing s with
  | ret r => exact ⟨r, s, .ret (refl_of R s)⟩
  | step f k ih =>
    obtain ⟨r, t, h⟩ := ih s (f s)
    exact ⟨r, t, .step (refl_of R s) h⟩
  | ask k ih =>
    obtain ⟨r, t, h⟩ := ih default s
    exact ⟨r, t, .ask (refl_of R s) default h⟩

/-- The process alone, with the answers it will be given. -/
def exec : Proc σ ε ο α → List ο → σ → Option (Except ε α × σ)
  | ret r, _, s => some (r, s)
  | step f k, answers, s => (k s).exec answers (f s)
  | ask _, [], _ => none
  | ask k, o :: answers, s => (k o).exec answers s

theorem runs_of_exec {R : σ → σ → Prop} [Std.Refl R] {answers : List ο} {r : Except ε α}
    {s t : σ} (h : p.exec answers s = some (r, t)) : Runs R p s r t := by
  induction p generalizing answers s with
  | ret r' =>
    rw [exec, Option.some.injEq, Prod.mk.injEq] at h
    rw [← h.1, ← h.2]
    exact .ret (refl_of R s)
  | step f k ih => exact .step (refl_of R s) (ih s h)
  | ask k ih =>
    cases answers with
    | nil => cases h
    | cons o answers => exact .ask (refl_of R s) o (ih o h)

end Proc
end Concurrent
