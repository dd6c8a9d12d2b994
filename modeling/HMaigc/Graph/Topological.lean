import HMaigc.Graph.Worklist
import Mathlib.Algebra.BigOperators.Group.Finset.Basic
import Mathlib.Algebra.BigOperators.Group.Finset.Piecewise
import Mathlib.Data.Fintype.Card
import Mathlib.Order.WellFounded
import Mathlib.Order.Preorder.Finite
import Mathlib.Tactic.Ring

/-!
# Draining a graph in topological order

The vertices without incoming edges are queued.  A vertex that leaves the queue takes its edges with
it, and a vertex that loses its last incoming edge is queued.  `drain` counts the vertices that
leave.

* `drain_eq_length` — **all vertices leave if and only if there is no cycle.**

The invariant is `Drained`: the vertices that left are in topological order, and the counters are
the numbers of edges from those that have not.
-/

set_option autoImplicit false

namespace Graph

open Relation

variable {α : Type} [DecidableEq α]

/-! ## The loop -/

/-- The vertices lose an incoming edge each, and those that lose their last one are queued. -/
def release : List α → (α → ℤ) → List α → (α → ℤ) × List α
  | [], indegree, queue => (indegree, queue)
  | y :: ys, indegree, queue =>
    if indegree y - 1 = 0 then
      release ys (Function.update indegree y (indegree y - 1)) (queue ++ [y])
    else release ys (Function.update indegree y (indegree y - 1)) queue

/-- The edges that are still to be lost. -/
def outstanding (edges : List (α × α)) (indegree : α → ℤ) : ℕ :=
  ∑ y ∈ (edges.map Prod.snd).toFinset, (indegree y).toNat

theorem outstanding_update {edges : List (α × α)} (indegree : α → ℤ) {y : α}
    (hy : ∃ x, Edge edges x y) (n : ℤ) :
    outstanding edges (Function.update indegree y n) + (indegree y).toNat =
      outstanding edges indegree + n.toNat := by
  have hmem : y ∈ (edges.map Prod.snd).toFinset := by
    obtain ⟨x, hx⟩ := hy
    exact List.mem_toFinset.mpr (List.mem_map.mpr ⟨(x, y), hx, rfl⟩)
  have hupdate : (fun z ↦ (Function.update indegree y n z).toNat) =
      Function.update (fun z ↦ (indegree z).toNat) y n.toNat := by
    funext z
    by_cases hz : z = y
    · subst hz
      simp
    · simp [hz]
  rw [outstanding, outstanding, hupdate, Finset.sum_update_of_mem hmem,
    ← Finset.sum_sdiff (Finset.singleton_subset_iff.mpr hmem), Finset.sum_singleton]
  ring

theorem release_outstanding (edges : List (α × α)) (ys : List α) (indegree : α → ℤ)
    (queue : List α) (hys : ∀ y ∈ ys, ∃ x, Edge edges x y) :
    (release ys indegree queue).2.length + outstanding edges (release ys indegree queue).1 ≤
      queue.length + outstanding edges indegree := by
  induction ys generalizing indegree queue with
  | nil => exact Nat.le_refl _
  | cons y ys ih =>
    have ih := fun indegree queue ↦ ih indegree queue fun z hz ↦ hys z (.tail _ hz)
    have hupdate := outstanding_update indegree (hys y (.head _)) (indegree y - 1)
    rw [release]
    by_cases hlast : indegree y - 1 = 0
    · rw [if_pos hlast]
      refine Nat.le_trans (ih _ _) ?_
      rw [List.length_append, List.length_singleton]
      omega
    · rw [if_neg hlast]
      refine Nat.le_trans (ih _ _) ?_
      omega

/-- The number of vertices that leave the queue, after `visited` ones. -/
def drain (edges : List (α × α)) : (α → ℤ) → List α → ℕ → ℕ
  | _, [], visited => visited
  | indegree, x :: queue, visited =>
    drain edges (release (next edges x) indegree queue).1 (release (next edges x) indegree queue).2
      (visited + 1)
termination_by indegree queue => queue.length + outstanding edges indegree
decreasing_by
  have hless := release_outstanding edges (next edges x) indegree queue
    fun y hy ↦ ⟨x, mem_next.mp hy⟩
  rw [List.length_cons]
  omega

/-! ## One vertex -/

theorem release_spec (ys : List α) (indegree : α → ℤ) (queue : List α) :
    (∀ y, (release ys indegree queue).1 y = indegree y - ys.count y) ∧
      ∃ new : List α, (release ys indegree queue).2 = queue ++ new ∧ new.Nodup ∧
        ∀ y, y ∈ new ↔ 0 < indegree y ∧ indegree y ≤ ys.count y := by
  induction ys generalizing indegree queue with
  | nil => exact ⟨by simp [release], [], by simp [release], .nil, fun y ↦ by simp⟩
  | cons y ys ih =>
    rw [release]
    by_cases hlast : indegree y - 1 = 0
    · rw [if_pos hlast]
      obtain ⟨hindegree, new, hqueue, hnodup, hnew⟩ :=
        ih (Function.update indegree y (indegree y - 1)) (queue ++ [y])
      refine ⟨fun z ↦ ?_, y :: new, by rw [hqueue, List.append_assoc]; rfl, ?_, fun z ↦ ?_⟩
      · rw [hindegree z]
        by_cases hz : z = y
        · subst hz
          simp
          omega
        · simp [hz, List.count_cons_of_ne (Ne.symm hz)]
      · refine List.nodup_cons.mpr ⟨fun hy ↦ ?_, hnodup⟩
        have hpos := ((hnew y).mp hy).1
        simp at hpos
        omega
      · by_cases hz : z = y
        · subst hz
          simp
          omega
        · simp [hz, hnew z, List.count_cons_of_ne (Ne.symm hz)]
    · rw [if_neg hlast]
      obtain ⟨hindegree, new, hqueue, hnodup, hnew⟩ :=
        ih (Function.update indegree y (indegree y - 1)) queue
      refine ⟨fun z ↦ ?_, new, hqueue, hnodup, fun z ↦ ?_⟩
      · rw [hindegree z]
        by_cases hz : z = y
        · subst hz
          simp
          omega
        · simp [hz, List.count_cons_of_ne (Ne.symm hz)]
      · rw [hnew z]
        by_cases hz : z = y
        · subst hz
          simp
          omega
        · simp [hz, List.count_cons_of_ne (Ne.symm hz)]

/-! ## The whole graph -/

/-- Each vertex of the list stands before all that it depends on: the list is in topological order,
the last vertex first. -/
def Ordered (edges : List (α × α)) : List α → Prop
  | [] => True
  | x :: rest => (∀ a, Edge edges a x → a ∈ rest) ∧ Ordered edges rest

/-- What holds when the vertices `popped` have left, the last first. -/
structure Drained (edges : List (α × α)) (nodes : List α) (indegree : α → ℤ)
    (popped queue : List α) : Prop where
  nodup : (popped ++ queue).Nodup
  mem : ∀ y ∈ popped ++ queue, y ∈ nodes
  counted : ∀ y, indegree y = (edges.filter fun e ↦ e.2 = y ∧ e.1 ∉ popped).length
  zero : ∀ y ∈ nodes, indegree y = 0 ↔ y ∈ popped ++ queue
  ordered : Ordered edges popped

section

variable {edges : List (α × α)} {nodes popped queue : List α} {indegree : α → ℤ} {x : α}

/-- The edges into `y` that do not come from `popped`, and those of them that come from `x`. -/
theorem length_filter_popped (hx : x ∉ popped) (y : α) :
    (edges.filter fun e ↦ e.2 = y ∧ e.1 ∉ popped).length =
      (edges.filter fun e ↦ e.2 = y ∧ e.1 ∉ x :: popped).length + (next edges x).count y := by
  induction edges with
  | nil => rfl
  | cons e edges ih =>
    by_cases he : e.1 = x
    · subst he
      by_cases hy : e.2 = y
      · subst hy
        simp [next, hx] at ih ⊢
        omega
      · simp [next, hx, hy] at ih ⊢
        omega
    · have hnext : next (e :: edges) x = next edges x := by simp [next, he]
      rw [hnext]
      by_cases hp : e.2 = y ∧ e.1 ∉ popped
      · have hp' : e.2 = y ∧ e.1 ∉ x :: popped := ⟨hp.1, by simp [he, hp.2]⟩
        rw [List.filter_cons_of_pos (by simpa using hp),
          List.filter_cons_of_pos (by simpa using hp'), List.length_cons, List.length_cons, ih]
        omega
      · have hp' : ¬(e.2 = y ∧ e.1 ∉ x :: popped) := fun h ↦
          hp ⟨h.1, fun hmem ↦ h.2 (.tail _ hmem)⟩
        rw [List.filter_cons_of_neg (by simpa using hp),
          List.filter_cons_of_neg (by simpa using hp'), ih]

/-- **One vertex leaves.** -/
theorem Drained.pop (h : Drained edges nodes indegree popped (x :: queue))
    (hnodes : ∀ a b, Edge edges a b → b ∈ nodes) :
    Drained edges nodes (release (next edges x) indegree queue).1 (x :: popped)
      (release (next edges x) indegree queue).2 := by
  obtain ⟨hindegree, new, hqueue, hnodup, hnew⟩ := release_spec (next edges x) indegree queue
  have hx : x ∉ popped := fun hmem ↦ (List.disjoint_of_nodup_append h.nodup) hmem (.head _)
  have hcount : ∀ y, indegree y =
      ((edges.filter fun e ↦ e.2 = y ∧ e.1 ∉ x :: popped).length + (next edges x).count y : ℕ) :=
    fun y ↦ by rw [h.counted y, length_filter_popped hx y]
  have hleft : ∀ y, (release (next edges x) indegree queue).1 y =
      (edges.filter fun e ↦ e.2 = y ∧ e.1 ∉ x :: popped).length := fun y ↦ by
    rw [hindegree y, hcount y]
    push_cast
    ring
  have hnewNodes : ∀ y ∈ new, y ∈ nodes := fun y hy ↦ by
    obtain ⟨hpos, hle⟩ := (hnew y).mp hy
    have hmem : y ∈ next edges x := List.count_pos_iff.mp (by omega)
    exact hnodes x y (mem_next.mp hmem)
  have hfresh : ∀ y ∈ new, y ∉ popped ++ x :: queue := fun y hy hmem ↦ by
    have hzero := (h.zero y (hnewNodes y hy)).mpr hmem
    have hpos := ((hnew y).mp hy).1
    omega
  have hperm : (x :: popped ++ (queue ++ new)).Perm (popped ++ x :: queue ++ new) := by
    rw [List.append_assoc, List.cons_append, List.cons_append]
    exact List.perm_middle.symm
  refine ⟨?_, fun y hy ↦ ?_, hleft, fun y hy ↦ ?_, ⟨fun a ha ↦ ?_, h.ordered⟩⟩
  · rw [hqueue]
    refine hperm.nodup_iff.mpr (h.nodup.append hnodup fun y hy hy' ↦ hfresh y hy' hy)
  · rw [hqueue] at hy
    rcases List.mem_append.mp (hperm.mem_iff.mp hy) with hy | hy
    · exact h.mem y hy
    · exact hnewNodes y hy
  · rw [hqueue, hperm.mem_iff, List.mem_append, ← h.zero y hy, hnew y, hindegree y]
    have := hcount y
    omega
  · by_contra hmem
    have hzero := (h.zero x (h.mem x (by simp))).mpr (by simp)
    rw [h.counted x] at hzero
    have hpos : 0 < (edges.filter fun e ↦ e.2 = x ∧ e.1 ∉ popped).length :=
      List.length_pos_of_mem (List.mem_filter.mpr ⟨ha, by simpa using hmem⟩)
    omega

/-- **The whole run.** -/
theorem Drained.drain (h : Drained edges nodes indegree popped queue)
    (hnodes : ∀ a b, Edge edges a b → b ∈ nodes) :
    ∃ indegree' popped', Graph.drain edges indegree queue popped.length = popped'.length ∧
      Drained edges nodes indegree' popped' [] := by
  generalize hvisited : popped.length = visited
  fun_induction Graph.drain edges indegree queue visited generalizing popped with
  | case1 indegree visited => exact ⟨indegree, popped, hvisited.symm, h⟩
  | case2 indegree x queue visited ih =>
    exact ih (h.pop hnodes) (by rw [List.length_cons, hvisited])

/-! ### Cycles -/

omit [DecidableEq α] in
theorem Ordered.mem_of_edge (h : Ordered edges popped) {a b : α} (hb : b ∈ popped)
    (hedge : Edge edges a b) : a ∈ popped := by
  induction popped with
  | nil => cases hb
  | cons x rest ih =>
    rcases List.mem_cons.mp hb with rfl | hb
    · exact .tail _ (h.1 a hedge)
    · exact .tail _ (ih h.2 hb)

omit [DecidableEq α] in
theorem Ordered.mem_of_transGen (h : Ordered edges popped) {a b : α} (hb : b ∈ popped)
    (hpath : TransGen (Edge edges) a b) : a ∈ popped := by
  induction hpath using TransGen.head_induction_on with
  | single hedge => exact h.mem_of_edge hb hedge
  | head hedge _ ih => exact h.mem_of_edge ih hedge

omit [DecidableEq α] in
/-- No cycle goes through a topological order. -/
theorem Ordered.acyclic (h : Ordered edges popped) (hnodup : popped.Nodup) {a : α}
    (ha : a ∈ popped) : ¬TransGen (Edge edges) a a := by
  induction popped with
  | nil => cases ha
  | cons x rest ih =>
    obtain ⟨hx, hrest⟩ := List.nodup_cons.mp hnodup
    rcases List.mem_cons.mp ha with rfl | ha
    · intro hcycle
      -- the last step of the cycle enters from the rest, which nothing leaves backwards
      obtain ⟨b, hpath, hedge⟩ := TransGen.tail'_iff.mp hcycle
      have hb := h.1 b hedge
      rcases ReflTransGen.cases_head_iff.mp hpath with rfl | ⟨c, hfirst, hpath⟩
      · exact hx hb
      · exact hx (h.2.mem_of_transGen hb (TransGen.head' hfirst hpath))
    · exact ih h.2 hrest ha

/-- The number of edges that lead to a vertex. -/
def incoming (edges : List (α × α)) (y : α) : ℤ := (edges.filter (·.2 = y)).length

theorem Drained.start (hnodup : nodes.Nodup) :
    Drained edges nodes (incoming edges) [] (nodes.filter fun x ↦ incoming edges x = 0) where
  nodup := hnodup.filter _
  mem y hy := (List.mem_filter.mp hy).1
  counted y := by simp [incoming]
  zero y hy := by simp [hy]
  ordered := trivial

/-- A vertex that stays, on a graph without cycles, would depend on another one that stays. -/
theorem Drained.mem_popped (h : Drained edges nodes indegree popped [])
    (hedges : ∀ a b, Edge edges a b → a ∈ nodes ∧ b ∈ nodes)
    (hacyclic : ∀ a, ¬TransGen (Edge edges) a a) : ∀ a ∈ nodes, a ∈ popped := by
  let r : {a // a ∈ nodes} → {a // a ∈ nodes} → Prop := fun a b ↦ TransGen (Edge edges) a.1 b.1
  have htrans : IsTrans _ r := ⟨fun _ _ _ hab hbc ↦ hab.trans hbc⟩
  have hirrefl : Std.Irrefl r := ⟨fun a ↦ hacyclic a.1⟩
  have hwf : WellFounded r := Finite.wellFounded_of_trans_of_irrefl r
  intro a ha
  refine hwf.induction (C := fun a ↦ a.1 ∈ popped) ⟨a, ha⟩ fun b ih ↦ ?_
  by_contra hb
  have hzero := h.zero b.1 b.2
  rw [List.append_nil] at hzero
  have hne : indegree b.1 ≠ 0 := fun heq ↦ hb (hzero.mp heq)
  rw [h.counted b.1] at hne
  obtain ⟨e, he⟩ := List.exists_mem_of_length_pos (by omega :
    0 < (edges.filter fun e ↦ e.2 = b.1 ∧ e.1 ∉ popped).length)
  obtain ⟨hedge, hcond⟩ := List.mem_filter.mp he
  obtain ⟨htarget, hstays⟩ := of_decide_eq_true hcond
  have hedge' : Edge edges e.1 b.1 := by
    rw [← htarget]
    exact hedge
  exact hstays (ih ⟨e.1, (hedges _ _ hedge').1⟩ (.single hedge'))

/-- **All vertices leave if and only if there is no cycle.** -/
theorem drain_eq_length (hnodup : nodes.Nodup)
    (hedges : ∀ a b, Edge edges a b → a ∈ nodes ∧ b ∈ nodes) :
    drain edges (incoming edges) (nodes.filter fun x ↦ incoming edges x = 0) 0 = nodes.length ↔
      ∀ a, ¬TransGen (Edge edges) a a := by
  obtain ⟨indegree', popped, hdrain, h⟩ :=
    (Drained.start hnodup).drain fun a b hab ↦ (hedges a b hab).2
  have hpopped : popped.Nodup := by simpa using h.nodup
  have hsubset : popped ⊆ nodes := fun y hy ↦ h.mem y (by simpa using hy)
  rw [List.length_nil] at hdrain
  rw [hdrain]
  constructor
  · intro hlength a hcycle
    have hall : nodes ⊆ popped :=
      ((hpopped.subperm hsubset).perm_of_length_le hlength.ge).symm.subset
    obtain ⟨b, hfirst, -⟩ := TransGen.head'_iff.mp hcycle
    exact h.ordered.acyclic hpopped (hall (hedges a b hfirst).1) hcycle
  · intro hacyclic
    have hall : nodes ⊆ popped := fun a ha ↦ h.mem_popped hedges hacyclic a ha
    exact Nat.le_antisymm (hpopped.subperm hsubset).length_le (hnodup.subperm hall).length_le

end

end Graph
