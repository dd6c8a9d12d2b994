import Mathlib.Data.Nat.Notation
import Mathlib.Logic.Function.Basic
import HMaigc.Proc.Basic

/-!
# Systems of processes

A system has slots, in each of which at most one process runs at a time: a lock, a thread, a
container.  A call starts its process in its slot if the system admits it there and then; the
processes take their steps in any order; each can die at any point; and the surroundings may change
the state by moves of their own.

* `System.Step`, `System.Reach` — one step, and the configurations a run reaches.
* `System.invariant` — the rule: if every admitted process is safe under what the other slots and
  the surroundings guarantee, the invariant holds throughout, and
* `System.Reach.step` — every step of a run is one that was guaranteed.
* `System.reach_of_play` — a schedule that computes is a run.
-/

set_option autoImplicit false

namespace Concurrent

/-- The calls `χ` and their processes, the slots `τ`, and the moves `η` of the surroundings. -/
structure System (σ ε ο χ τ η : Type) where
  prog : χ → Proc σ ε ο Unit
  slot : χ → τ
  /-- Whether a call may start, given which slots are taken. -/
  admits : χ → (τ → Bool) → σ → Bool
  move : η → σ → Option σ

/-- The shared state, with what is remembered of the run, and the processes under way. -/
structure Config (ω σ ε ο τ : Type) where
  state : ω
  procs : τ → Option (Proc σ ε ο Unit)

namespace System

variable {ω σ ε ο χ τ η : Type} [DecidableEq τ] (S : System σ ε ο χ τ η) (V : View σ ω)

/-- The slots in use. -/
def taken (c : Config ω σ ε ο τ) (t : τ) : Bool := (c.procs t).isSome

/-- What may happen next. -/
inductive Action (ο χ τ η : Type) where
  | start (call : χ)
  /-- The process of a slot takes a step; `o` is the answer if it asks. -/
  | run (t : τ) (o : Option ο)
  /-- The process of a slot is gone: it ended, or it died. -/
  | stop (t : τ)
  | move (m : η)

/-- The configuration after an action, if it is possible. -/
def perform (c : Config ω σ ε ο τ) : Action ο χ τ η → Option (Config ω σ ε ο τ)
  | .start call =>
    if (c.procs (S.slot call)).isNone && S.admits call (taken c) (V.now c.state) then
      some { c with procs := Function.update c.procs (S.slot call) (some (S.prog call)) }
    else none
  | .run t o =>
    match c.procs t, o with
    | some (.step f k), none =>
      some ⟨V.next c.state (f (V.now c.state)),
        Function.update c.procs t (some (k (V.now c.state)))⟩
    | some (.ask k), some o => some { c with procs := Function.update c.procs t (some (k o)) }
    | _, _ => none
  | .stop t => some { c with procs := Function.update c.procs t none }
  | .move m => (S.move m (V.now c.state)).map fun s ↦ { c with state := V.next c.state s }

/-- One step of the system. -/
def Step (c d : Config ω σ ε ο τ) : Prop := ∃ a : Action ο χ τ η, S.perform V c a = some d

/-- A run from one configuration to another. -/
def Reach : Config ω σ ε ο τ → Config ω σ ε ο τ → Prop := Relation.ReflTransGen (S.Step V)

/-- Nothing is under way. -/
def idle (s : ω) : Config ω σ ε ο τ := ⟨s, fun _ ↦ none⟩

/-! ## Guarantees -/

/-- What every slot relies on, what its steps guarantee, and the invariant they share. -/
structure Contract (ω τ : Type) where
  rely : τ → ω → ω → Prop
  guar : τ → ω → ω → Prop
  inv : ω → Prop
  rely_refl : ∀ t s, rely t s s
  rely_trans : ∀ t s u v, rely t s u → rely t u v → rely t s v
  /-- A slot's steps are what the others rely on. -/
  guar_rely : ∀ t t' s u, t ≠ t' → guar t s u → rely t' s u
  /-- And they keep the invariant. -/
  guar_inv : ∀ t s u, inv s → guar t s u → inv u

variable {S V} {C : Contract ω τ}

instance (C : Contract ω τ) (t : τ) : Std.Refl (C.rely t) := ⟨C.rely_refl t⟩

instance (C : Contract ω τ) (t : τ) : IsTrans ω (C.rely t) := ⟨C.rely_trans t⟩

/-- The process is safe in its slot, whatever its outcome. -/
def Contract.SafeIn (C : Contract ω τ) (V : View σ ω) (t : τ) (p : Proc σ ε ο Unit) (s : ω) :
    Prop :=
  p.Safe V (C.rely t) (C.guar t) (fun _ _ ↦ True) s

variable (S V C)

/-- What is asked of the calls and the moves of a system to honour a contract. -/
structure Honours : Prop where
  call : ∀ call busy s, C.inv s → busy (S.slot call) = false →
    S.admits call busy (V.now s) = true → C.SafeIn V (S.slot call) (S.prog call) s
  move_rely : ∀ m t s u, C.inv s → S.move m (V.now s) = some u → C.rely t s (V.next s u)
  move_inv : ∀ m s u, C.inv s → S.move m (V.now s) = some u → C.inv (V.next s u)

/-- The invariant, and the safety of everything under way. -/
structure Sound (c : Config ω σ ε ο τ) : Prop where
  inv : C.inv c.state
  procs : ∀ t p, c.procs t = some p → C.SafeIn V t p c.state

variable {S V C} {c d : Config ω σ ε ο τ}

/-- One slot is filled anew, or emptied, in a state the other slots rely on. -/
theorem Sound.update (hc : Sound V C c) (t : τ) (p : Option (Proc σ ε ο Unit)) {s : ω} (hs : C.inv s)
    (hrely : ∀ t', t ≠ t' → C.rely t' c.state s) (hp : ∀ q, p = some q → C.SafeIn V t q s) :
    Sound V C ⟨s, Function.update c.procs t p⟩ where
  inv := hs
  procs t' q hq := by
    replace hq : Function.update c.procs t p t' = some q := hq
    by_cases ht : t' = t
    · subst ht
      rw [Function.update_self] at hq
      exact hp q hq
    · rw [Function.update_of_ne ht] at hq
      exact (hc.procs t' q hq).rely (hrely t' (Ne.symm ht))

/-- How the state changed in a step: not at all, by a slot, or by the surroundings. -/
theorem Sound.perform (h : Honours S V C) (hc : Sound V C c) {a : Action ο χ τ η}
    (ha : S.perform V c a = some d) : Sound V C d ∧
      (d.state = c.state ∨ (∃ t, C.guar t c.state d.state) ∨
        ∃ m u, S.move m (V.now c.state) = some u ∧ d.state = V.next c.state u) := by
  cases a with
  | start call =>
    simp only [System.perform, Bool.and_eq_true, Option.ite_none_right_eq_some,
      Option.some.injEq] at ha
    obtain ⟨⟨hfree, hadmits⟩, rfl⟩ := ha
    have hsafe := h.call call (taken c) c.state hc.inv (by simpa [taken] using hfree) hadmits
    refine ⟨hc.update _ _ hc.inv (fun t' _ ↦ C.rely_refl t' _) fun q hq ↦ ?_, .inl rfl⟩
    rw [← Option.some.inj hq]
    exact hsafe
  | run t o =>
    cases hp : c.procs t with
    | none => simp [System.perform, hp] at ha
    | some p =>
      have hsafe := hc.procs t p hp
      cases p with
      | ret r => simp [System.perform, hp] at ha
      | step f k =>
        cases o with
        | some o => simp [System.perform, hp] at ha
        | none =>
          simp only [System.perform, hp, Option.some.injEq] at ha
          subst ha
          have hstep := hsafe c.state (C.rely_refl t c.state)
          have hinv := C.guar_inv t _ _ hc.inv hstep.1
          refine ⟨hc.update t _ hinv (fun t' ht ↦ C.guar_rely t t' _ _ ht hstep.1) fun q hq ↦ ?_,
            .inr (.inl ⟨t, hstep.1⟩)⟩
          rw [← Option.some.inj hq]
          exact hstep.2
      | ask k =>
        cases o with
        | none => simp [System.perform, hp] at ha
        | some o =>
          simp only [System.perform, hp, Option.some.injEq] at ha
          subst ha
          refine ⟨hc.update t _ hc.inv (fun t' _ ↦ C.rely_refl t' _) fun q hq ↦ ?_, .inl rfl⟩
          rw [← Option.some.inj hq]
          exact hsafe c.state (C.rely_refl t c.state) o
  | stop t =>
    simp only [System.perform, Option.some.injEq] at ha
    subst ha
    exact ⟨hc.update t none hc.inv (fun t' _ ↦ C.rely_refl t' _) fun q hq ↦ by simp at hq,
      .inl rfl⟩
  | move m =>
    simp only [System.perform, Option.map_eq_some_iff] at ha
    obtain ⟨s, hs, rfl⟩ := ha
    refine ⟨⟨h.move_inv m _ _ hc.inv hs, fun t p hp ↦ ?_⟩, .inr (.inr ⟨m, s, hs, rfl⟩)⟩
    exact (hc.procs t p hp).rely (h.move_rely m t _ _ hc.inv hs)

theorem Sound.reach (h : Honours S V C) (hc : Sound V C c) (hreach : S.Reach V c d) : Sound V C d := by
  induction hreach with
  | refl => exact hc
  | tail _ hstep ih =>
    obtain ⟨a, ha⟩ := hstep
    exact (ih.perform h ha).1

omit [DecidableEq τ] in
theorem sound_idle {s : ω} (hs : C.inv s) : Sound V C (idle s : Config ω σ ε ο τ) :=
  ⟨hs, fun t p hp ↦ by simp [idle] at hp⟩

/-- **The invariant holds throughout.** -/
theorem invariant (h : Honours S V C) {s : ω} (hs : C.inv s) (hreach : S.Reach V (idle s) d) :
    C.inv d.state :=
  ((sound_idle hs).reach h hreach).inv

/-- **Every step of a run is one that was guaranteed.** -/
theorem Reach.step (h : Honours S V C) {s : ω} (hs : C.inv s) (hreach : S.Reach V (idle s) c)
    (hstep : S.Step V c d) : d.state = c.state ∨ (∃ t, C.guar t c.state d.state) ∨
      ∃ m u, S.move m (V.now c.state) = some u ∧ d.state = V.next c.state u := by
  obtain ⟨a, ha⟩ := hstep
  exact (((sound_idle hs).reach h hreach).perform h ha).2

/-! ## Schedules -/

variable (S V)

/-- A schedule, played from a configuration. -/
def play (c : Config ω σ ε ο τ) : List (Action ο χ τ η) → Option (Config ω σ ε ο τ)
  | [] => some c
  | a :: as => (S.perform V c a).bind fun d ↦ play d as

/-- A step of a slot, as often as given: how a process goes on when it asks nothing. -/
def steps (t : τ) (n : ℕ) : List (Action ο χ τ η) := List.replicate n (.run t none)

variable {S V}

theorem reach_of_play {as : List (Action ο χ τ η)} (h : S.play V c as = some d) : S.Reach V c d := by
  induction as generalizing c with
  | nil =>
    cases h
    exact .refl
  | cons a as ih =>
    rw [play, Option.bind_eq_some_iff] at h
    obtain ⟨c', ha, hd⟩ := h
    exact .head ⟨a, ha⟩ (ih hd)

end System
end Concurrent
