import HMaigc.Proc.Machine
import Mathlib.Algebra.Order.Ring.Int

/-!
# Slots the instances share

`service/coordination.go`: of the calls of a scope only so many may be under way.  With Redis the
slots of a scope are a sorted set of tokens, each with the time its lease ends, and the set itself
expires a minute after the lease that was taken last.  Times are milliseconds.

* `slots_withinLimit_iff` — **no more unexpired leases are held than the limit admits exactly if no
  lease is more than a minute longer than another**: else the set expires under the longer one.
-/

set_option autoImplicit false

namespace HMaigc.Coordination

open Machine

/-! ## The sorted set -/

structure Slot where
  token : String
  expiresAt : ℤ
  deriving DecidableEq

/-- A minute. -/
def minute : ℤ := 60000

/-- `ZREMRANGEBYSCORE key -inf now`. -/
def purge (now : ℤ) (slots : List Slot) : List Slot := slots.filter fun slot ↦ now < slot.expiresAt

/-- `ZREM key token`. -/
def remove (token : String) (slots : List Slot) : List Slot :=
  slots.filter fun slot ↦ slot.token ≠ token

/-- The sorted set of a scope, which is gone when its own time has come. -/
structure SortedSet where
  slots : List Slot
  expiresAt : ℤ

def SortedSet.members (set : SortedSet) (time : ℤ) : List Slot :=
  if time < set.expiresAt then set.slots else []

/-- `acquireSlotScript`, run by the server at `time` for an instance whose clock shows `now`. -/
def acquireSlotScript (time now ttl limit : ℤ) (token : String) (set : SortedSet) :
    Bool × SortedSet :=
  let slots := purge now (set.members time)
  if limit ≤ slots.length then (false, { set with slots := slots })
  else (true, ⟨⟨token, now + ttl⟩ :: remove token slots, time + (ttl + minute)⟩)

/-! ## Runs of the instances -/

/-- A scope in Redis, and the leases that were given out and not released. -/
structure Scope where
  time : ℤ
  set : SortedSet
  leases : List Slot

def Scope.new : Scope := ⟨0, ⟨[], 0⟩, []⟩

inductive Action
  | pass (time : ℤ)
  | acquire (now ttl limit : ℤ) (token : String)
  | release (token : String)

/-- An instance that dies releases nothing. -/
def Scope.step (s : Scope) : Action → Option Scope
  | .pass time => if s.time ≤ time then some { s with time := time } else none
  | .acquire now ttl limit token =>
    let reply := acquireSlotScript s.time now ttl limit token s.set
    some { s with
      set := reply.2
      leases := if reply.1 then ⟨token, now + ttl⟩ :: s.leases else s.leases }
  | .release token =>
    some { s with
      set := { s.set with slots := remove token s.set.slots }
      leases := remove token s.leases }

/-- The clock of the instance is at most `skew` off the server's, its lease takes from `short` to
`long`, and its token is new. -/
def Fits (skew short long : ℤ) (limit : ℕ) (s : Scope) : Action → Prop
  | .acquire now ttl limit' token =>
    (s.time - skew ≤ now ∧ now ≤ s.time + skew) ∧ (short ≤ ttl ∧ ttl ≤ long) ∧ limit' ≤ limit ∧
      ∀ lease ∈ s.leases, lease.token ≠ token
  | _ => True

/-- The leases that no clock shows as expired. -/
def Scope.held (skew : ℤ) (s : Scope) : List Slot :=
  s.leases.filter fun lease ↦ s.time + skew < lease.expiresAt

/-- What the set knows of the leases. -/
structure Sound (skew long : ℤ) (limit : ℕ) (s : Scope) : Prop where
  distinct : s.leases.Nodup
  few : s.set.slots.length ≤ limit
  listed : ∀ lease ∈ s.leases, s.time + skew < lease.expiresAt →
    lease ∈ s.set.slots ∧ lease.expiresAt ≤ s.set.expiresAt + skew
  bounded : ∀ lease ∈ s.leases, lease.expiresAt ≤ s.time + skew + long

section Limit

variable {skew short long now ttl limit' : ℤ} {limit : ℕ} {s s' : Scope} {token : String}
  {lease : Slot}

theorem length_members_le (set : SortedSet) (time : ℤ) :
    (set.members time).length ≤ set.slots.length := by
  rw [SortedSet.members]
  split
  · exact le_rfl
  · exact Nat.zero_le _

/-- What is held is found. -/
theorem Sound.found (h : Sound skew long limit s) (hmem : lease ∈ s.leases)
    (hheld : s.time + skew < lease.expiresAt) (hnow : now ≤ s.time + skew) :
    lease ∈ purge now (s.set.members s.time) := by
  obtain ⟨hslot, hset⟩ := h.listed lease hmem hheld
  have htime : s.time < s.set.expiresAt := by omega
  rw [SortedSet.members, if_pos htime]
  exact List.mem_filter.mpr ⟨hslot, decide_eq_true (by omega)⟩

theorem Sound.acquire (hlong : long ≤ short + minute) (h : Sound skew long limit s)
    (hfits : Fits skew short long limit s (.acquire now ttl limit' token))
    (hstep : s.step (.acquire now ttl limit' token) = some s') : Sound skew long limit s' := by
  obtain ⟨⟨-, hnow⟩, ⟨hshort, httl⟩, hlimit, hnew⟩ := hfits
  cases hstep
  have hfew : (purge now (s.set.members s.time)).length ≤ limit :=
    (List.length_filter_le _ _).trans ((length_members_le _ _).trans h.few)
  rw [acquireSlotScript]
  split
  · exact ⟨h.distinct, hfew, fun lease hmem hheld ↦
      ⟨h.found hmem hheld hnow, (h.listed lease hmem hheld).2⟩, h.bounded⟩
  · rename_i hroom
    refine ⟨?_, ?_, fun lease hmem hheld ↦ ?_, fun lease hmem ↦ ?_⟩
    · refine List.nodup_cons.mpr ⟨fun hmem ↦ hnew _ hmem rfl, h.distinct⟩
    · have hrest := List.length_filter_le (fun slot ↦ decide (slot.token ≠ token))
        (purge now (s.set.members s.time))
      rw [List.length_cons, remove]
      omega
    · rcases List.mem_cons.mp hmem with rfl | hmem
      · exact ⟨List.mem_cons_self, by dsimp only; omega⟩
      · have hold := h.bounded lease hmem
        refine ⟨List.mem_cons_of_mem _ (List.mem_filter.mpr ⟨h.found hmem hheld hnow, ?_⟩), ?_⟩
        · exact decide_eq_true (hnew lease hmem)
        · dsimp only
          omega
    · rcases List.mem_cons.mp hmem with rfl | hmem
      · dsimp only
        omega
      · exact h.bounded lease hmem

theorem Sound.step {a : Action} (hlong : long ≤ short + minute) (h : Sound skew long limit s)
    (hfits : Fits skew short long limit s a) (hstep : s.step a = some s') :
    Sound skew long limit s' := by
  cases a with
  | pass time =>
    rw [Scope.step] at hstep
    split at hstep <;> cases hstep
    refine ⟨h.distinct, h.few, fun lease hmem hheld ↦ h.listed lease hmem ?_, fun lease hmem ↦ ?_⟩
    · dsimp only at hheld
      omega
    · have hold := h.bounded lease hmem
      dsimp only
      omega
  | acquire now ttl limit' token => exact h.acquire hlong hfits hstep
  | release token =>
    cases hstep
    refine ⟨h.distinct.filter _, (List.length_filter_le _ _).trans h.few,
      fun lease hmem hheld ↦ ?_, fun lease hmem ↦ h.bounded lease (List.mem_filter.mp hmem).1⟩
    obtain ⟨hmem, hother⟩ := List.mem_filter.mp hmem
    obtain ⟨hslot, hset⟩ := h.listed lease hmem hheld
    exact ⟨List.mem_filter.mpr ⟨hslot, hother⟩, hset⟩

theorem Sound.held_le (h : Sound skew long limit s) : (s.held skew).length ≤ limit := by
  have hsubset : s.held skew ⊆ s.set.slots := fun lease hmem ↦ by
    obtain ⟨hmem, hheld⟩ := List.mem_filter.mp hmem
    exact (h.listed lease hmem (of_decide_eq_true hheld)).1
  exact (List.Nodup.length_le_of_subset (h.distinct.filter _) hsubset).trans h.few

/-- The first lease of a set that has expired. -/
theorem step_acquire_first {time : ℤ} {set : SortedSet} {leases : List Slot}
    (htime : set.expiresAt ≤ time) :
    Scope.step ⟨time, set, leases⟩ (.acquire now ttl 2 token) =
      some ⟨time, ⟨[⟨token, now + ttl⟩], time + (ttl + minute)⟩, ⟨token, now + ttl⟩ :: leases⟩ := by
  simp [Scope.step, acquireSlotScript, SortedSet.members, purge, remove, not_lt.mpr htime]

/-- Another beside it. -/
theorem step_acquire_second {time expiresAt : ℤ} {leases : List Slot} (htime : time < expiresAt)
    (hlive : now < lease.expiresAt) (hother : lease.token ≠ token) :
    Scope.step ⟨time, ⟨[lease], expiresAt⟩, leases⟩ (.acquire now ttl 2 token) =
      some ⟨time, ⟨[⟨token, now + ttl⟩, lease], time + (ttl + minute)⟩,
        ⟨token, now + ttl⟩ :: leases⟩ := by
  simp [Scope.step, acquireSlotScript, SortedSet.members, purge, remove, htime, hlive, hother]

end Limit

/-- The longer lease is held when the set has expired: then two more are given out. -/
theorem exists_limit_exceeded {skew short long : ℤ} (hskew : 0 ≤ skew) (hshort : 0 ≤ short)
    (hlong : short + minute < long) :
    ∃ s, Run Scope.step (Fits skew short long 2) .new s ∧ 2 < (s.held skew).length := by
  have hminute : minute = 60000 := rfl
  let a : Slot := ⟨"a", skew + long⟩
  let b : Slot := ⟨"b", skew + short⟩
  let c : Slot := ⟨"c", short + minute + skew + long⟩
  have hfirst : Run Scope.step (Fits skew short long 2) .new
      ⟨0, ⟨[a], 0 + (long + minute)⟩, [a]⟩ := by
    refine Run.nil.step ?_ (step_acquire_first le_rfl :
      Scope.step ⟨0, ⟨[], 0⟩, []⟩ (.acquire skew long 2 "a") = _)
    exact ⟨by simp [Scope.new]; omega, by omega, le_rfl, by simp [Scope.new]⟩
  have hboth : Run Scope.step (Fits skew short long 2) .new
      ⟨0, ⟨[b, a], 0 + (short + minute)⟩, [b, a]⟩ := by
    refine hfirst.step ?_ (step_acquire_second ?_ ?_ (by decide : "a" ≠ "b"))
    · exact ⟨by dsimp only; omega, by omega, le_rfl, by simp [a]⟩
    · omega
    · dsimp only [a]
      omega
  have hexpired : Run Scope.step (Fits skew short long 2) .new
      ⟨short + minute, ⟨[b, a], 0 + (short + minute)⟩, [b, a]⟩ :=
    hboth.step (a := .pass (short + minute)) trivial (if_pos (by dsimp only; omega))
  refine ⟨⟨short + minute, _, [⟨"d", short + minute + skew + long⟩, c, b, a]⟩,
    (hexpired.step ?_ (step_acquire_first ?_)).step ?_ (step_acquire_second ?_ ?_ ?_), ?_⟩
  · exact ⟨by dsimp only; omega, by omega, le_rfl, by simp [a, b]⟩
  · dsimp only
    omega
  · exact ⟨by dsimp only; omega, by omega, le_rfl, by simp [a, b]⟩
  · omega
  · dsimp only
    omega
  · exact (by decide : "c" ≠ "d")
  · have hnew : 0 < long := by omega
    have hlonger : short + minute + skew < skew + long := by omega
    have hshorter : ¬short + minute + skew < skew + short := by omega
    simp [Scope.held, a, b, c, hnew, hlonger, hshorter]

/-- **The limit is kept exactly if no lease is more than a minute longer than another.** -/
theorem slots_withinLimit_iff {skew short long : ℤ} (hskew : 0 ≤ skew) (hshort : 0 ≤ short) :
    (∀ (limit : ℕ) (s : Scope), Run Scope.step (Fits skew short long limit) .new s →
        (s.held skew).length ≤ limit) ↔ long ≤ short + minute := by
  constructor
  · intro h
    by_contra hlong
    obtain ⟨s, hrun, hheld⟩ := exists_limit_exceeded hskew hshort (not_le.mp hlong)
    exact absurd (h 2 s hrun) (not_le.mpr hheld)
  · intro hlong limit s hrun
    have hsound : Sound skew long limit s := hrun.invariant
      ⟨List.nodup_nil, Nat.zero_le _, fun _ h ↦ (List.not_mem_nil h).elim,
        fun _ h ↦ (List.not_mem_nil h).elim⟩ fun _ _ _ h hfits hstep ↦ h.step hlong hfits hstep
    exact hsound.held_le

/-- A call of a provider takes a lease of six minutes where a relayed one has thirty-six. -/
theorem slots_withinLimit_iff_relayed :
    (∀ (limit : ℕ) (s : Scope), Run Scope.step (Fits 500 360000 2160000 limit) .new s →
        (s.held 500).length ≤ limit) ↔ (2160000 : ℤ) ≤ 360000 + minute :=
  slots_withinLimit_iff (by decide) (by decide)

end HMaigc.Coordination
