import Mathlib.Data.List.Nodup
import Mathlib.Logic.Relation

/-!
# Worklists

A graph is a list of edges.  Two loops compute what is reached from where a queue starts: `visit`
marks a vertex when it leaves the queue, and so a vertex may be in the queue several times; `spread`
marks it when it enters, and skips the vertices it is told to.

* `mem_visit` — **`visit` marks what is reached**, and `mem_spread` — so does `spread`.

The loops end because an edge leads into the queue at most once.
-/

set_option autoImplicit false

namespace Graph

open Relation

variable {α : Type} [DecidableEq α]

/-- There is an edge from `a` to `b`. -/
def Edge (edges : List (α × α)) (a b : α) : Prop := (a, b) ∈ edges

/-- The vertices that edges lead to from `x`. -/
def next (edges : List (α × α)) (x : α) : List α := (edges.filter (·.1 = x)).map Prod.snd

theorem mem_next {edges : List (α × α)} {x y : α} : y ∈ next edges x ↔ Edge edges x y := by
  simp [next, Edge]

/-! ## Marking what leaves the queue -/

/-- Marking a vertex uses up the edges from it. -/
theorem length_next_add (edges : List (α × α)) {x : α} {visited : List α} (hx : x ∉ visited) :
    (next edges x).length + (edges.filter (·.1 ∉ x :: visited)).length =
      (edges.filter (·.1 ∉ visited)).length := by
  induction edges with
  | nil => rfl
  | cons e edges ih =>
    simp only [next, List.length_map] at ih ⊢
    by_cases he : e.1 = x
    · subst he
      simp [hx] at ih ⊢
      omega
    · by_cases hv : e.1 ∈ visited
      · simpa [he, hv] using ih
      · simp [he, hv] at ih ⊢
        omega

/-- Take a vertex from the queue; unless it is marked, mark it and queue what it leads to. -/
def visit (edges : List (α × α)) : List α → List α → List α
  | [], visited => visited
  | x :: queue, visited =>
    if x ∈ visited then visit edges queue visited
    else visit edges (queue ++ next edges x) (x :: visited)
termination_by queue visited => queue.length + (edges.filter (·.1 ∉ visited)).length
decreasing_by
  · simp
  · rename_i hx
    have hused := length_next_add edges hx
    simp only [List.length_append, List.length_cons]
    omega

section Visit

variable {edges : List (α × α)} {queue visited : List α}

theorem subset_visit : ∀ x, x ∈ visited ∨ x ∈ queue → x ∈ visit edges queue visited := by
  fun_induction visit edges queue visited with
  | case1 visited => simp
  | case2 x queue visited hx ih =>
    rintro y (hy | hy)
    · exact ih y (.inl hy)
    · rcases List.mem_cons.mp hy with rfl | hy
      · exact ih y (.inl hx)
      · exact ih y (.inr hy)
  | case3 x queue visited hx ih =>
    rintro y (hy | hy)
    · exact ih y (.inl (.tail _ hy))
    · rcases List.mem_cons.mp hy with rfl | hy
      · exact ih y (.inl (.head _))
      · exact ih y (.inr (List.mem_append_left _ hy))

/-- Where marked vertices lead to is marked or queued, and so marked in the end. -/
theorem closed_visit (h : ∀ x ∈ visited, ∀ y, Edge edges x y → y ∈ visited ∨ y ∈ queue) :
    ∀ x ∈ visit edges queue visited, ∀ y, Edge edges x y → y ∈ visit edges queue visited := by
  fun_induction visit edges queue visited with
  | case1 visited => simpa using h
  | case2 x queue visited hx ih =>
    refine ih fun z hz y hy ↦ ?_
    rcases h z hz y hy with hy | hy
    · exact .inl hy
    · rcases List.mem_cons.mp hy with rfl | hy
      · exact .inl hx
      · exact .inr hy
  | case3 x queue visited hx ih =>
    refine ih fun z hz y hy ↦ ?_
    rcases List.mem_cons.mp hz with rfl | hz
    · exact .inr (List.mem_append_right _ (mem_next.mpr hy))
    · rcases h z hz y hy with hy | hy
      · exact .inl (.tail _ hy)
      · rcases List.mem_cons.mp hy with rfl | hy
        · exact .inl (.head _)
        · exact .inr (List.mem_append_left _ hy)

theorem reached_of_visit {P : α → Prop} (hP : ∀ x y, P x → Edge edges x y → P y)
    (hvisited : ∀ x ∈ visited, P x) (hqueue : ∀ x ∈ queue, P x) :
    ∀ x ∈ visit edges queue visited, P x := by
  fun_induction visit edges queue visited with
  | case1 visited => exact hvisited
  | case2 x queue visited hx ih => exact ih hvisited fun y hy ↦ hqueue y (.tail _ hy)
  | case3 x queue visited hx ih =>
    have hx := hqueue x (.head _)
    refine ih (fun y hy ↦ ?_) fun y hy ↦ ?_
    · rcases List.mem_cons.mp hy with rfl | hy
      · exact hx
      · exact hvisited y hy
    · rcases List.mem_append.mp hy with hy | hy
      · exact hqueue y (.tail _ hy)
      · exact hP x y hx (mem_next.mp hy)

/-- **`visit` marks what is reached from the queue.** -/
theorem mem_visit {y : α} :
    y ∈ visit edges queue [] ↔ ∃ x ∈ queue, ReflTransGen (Edge edges) x y := by
  constructor
  · refine reached_of_visit (P := fun y ↦ ∃ x ∈ queue, ReflTransGen (Edge edges) x y) ?_ (by simp)
      (fun x hx ↦ ⟨x, hx, .refl⟩) y
    rintro a b ⟨x, hx, hreach⟩ hedge
    exact ⟨x, hx, hreach.tail hedge⟩
  · rintro ⟨x, hx, hreach⟩
    induction hreach with
    | refl => exact subset_visit x (.inr hx)
    | tail _ hedge ih => exact closed_visit (by simp) _ ih _ hedge

end Visit

/-! ## Marking what enters the queue -/

/-- Mark and queue those of the vertices that are neither marked nor to be skipped. -/
def push (skip : α → Bool) : List α → List α → List α → List α × List α
  | [], queue, marked => (queue, marked)
  | y :: ys, queue, marked =>
    if skip y ∨ y ∈ marked then push skip ys queue marked
    else push skip ys (queue ++ [y]) (y :: marked)

section Push

variable {edges : List (α × α)} {skip : α → Bool} {ys queue marked : List α}

/-- What `push` adds to the queue and to the marked vertices. -/
theorem push_spec (skip : α → Bool) (ys queue marked : List α) : ∃ new : List α, (push skip ys queue marked).1 = queue ++ new ∧
    (push skip ys queue marked).2 = new.reverse ++ marked ∧ (∀ y ∈ new, y ∈ ys ∧ skip y = false) ∧
      ∀ y ∈ ys, skip y = true ∨ y ∈ new ∨ y ∈ marked := by
  induction ys generalizing queue marked with
  | nil => exact ⟨[], by simp [push]⟩
  | cons y ys ih =>
    by_cases hy : skip y = true ∨ y ∈ marked
    · obtain ⟨new, hqueue, hmarked, hnew, hall⟩ := ih queue marked
      refine ⟨new, by rw [push, if_pos hy, hqueue], by rw [push, if_pos hy, hmarked],
        fun z hz ↦ ⟨.tail _ (hnew z hz).1, (hnew z hz).2⟩, fun z hz ↦ ?_⟩
      rcases List.mem_cons.mp hz with rfl | hz
      · exact hy.imp_right .inr
      · exact hall z hz
    · obtain ⟨new, hqueue, hmarked, hnew, hall⟩ := ih (queue ++ [y]) (y :: marked)
      refine ⟨y :: new, ?_, ?_, fun z hz ↦ ?_, fun z hz ↦ ?_⟩
      · rw [push, if_neg hy, hqueue, List.append_assoc]
        rfl
      · rw [push, if_neg hy, hmarked]
        simp
      · rcases List.mem_cons.mp hz with rfl | hz
        · exact ⟨.head _, by simpa using (not_or.mp hy).1⟩
        · exact ⟨.tail _ (hnew z hz).1, (hnew z hz).2⟩
      · rcases List.mem_cons.mp hz with rfl | hz
        · exact .inr (.inl (.head _))
        · rcases hall z hz with h | h | h
          · exact .inl h
          · exact .inr (.inl (.tail _ h))
          · rcases List.mem_cons.mp h with rfl | h
            · exact .inr (.inl (.head _))
            · exact .inr (.inr h)

/-- Each vertex that enters the queue uses up the edges that lead to it. -/
theorem length_push_add (edges : List (α × α)) (skip : α → Bool) (ys queue marked : List α)
    (hys : ∀ y ∈ ys, ∃ x, Edge edges x y) :
    (push skip ys queue marked).1.length +
        (edges.filter (·.2 ∉ (push skip ys queue marked).2)).length ≤
      queue.length + (edges.filter (·.2 ∉ marked)).length := by
  induction ys generalizing queue marked with
  | nil => exact Nat.le_refl _
  | cons y ys ih =>
    have ih := fun queue marked ↦ ih queue marked fun z hz ↦ hys z (.tail _ hz)
    by_cases hy : skip y = true ∨ y ∈ marked
    · rw [push, if_pos hy]
      exact ih queue marked
    · rw [push, if_neg hy]
      refine Nat.le_trans (ih _ _) ?_
      obtain ⟨x, hx⟩ := hys y (.head _)
      have hless : (edges.filter (·.2 ∉ y :: marked)).length <
          (edges.filter (·.2 ∉ marked)).length := by
        have hsub : edges.filter (·.2 ∉ y :: marked) =
            (edges.filter (·.2 ∉ marked)).filter (·.2 ≠ y) := by
          rw [List.filter_filter]
          exact List.filter_congr fun e _ ↦ by simp
        rw [hsub]
        refine List.length_filter_lt_length_iff_exists.mpr ⟨(x, y), ?_, by simp⟩
        exact List.mem_filter.mpr ⟨hx, by simpa using (not_or.mp hy).2⟩
      simp only [List.length_append, List.length_singleton]
      omega

end Push

/-- Take a vertex from the queue, and mark and queue what it leads to. -/
def spread (edges : List (α × α)) (skip : α → Bool) : List α → List α → List α
  | [], marked => marked
  | x :: queue, marked =>
    spread edges skip (push skip (next edges x) queue marked).1
      (push skip (next edges x) queue marked).2
termination_by queue marked => queue.length + (edges.filter (·.2 ∉ marked)).length
decreasing_by
  have hused := length_push_add edges skip (next edges x) queue marked
    fun y hy ↦ ⟨x, mem_next.mp hy⟩
  simp only [List.length_cons]
  omega

section Spread

variable {edges : List (α × α)} {skip : α → Bool} {queue marked : List α}

theorem subset_spread : ∀ x ∈ marked, x ∈ spread edges skip queue marked := by
  fun_induction spread edges skip queue marked with
  | case1 marked => exact fun x hx ↦ hx
  | case2 x queue marked ih =>
    obtain ⟨new, -, hmarked, -⟩ := push_spec skip (next edges x) queue marked
    intro y hy
    refine ih y ?_
    rw [hmarked]
    exact List.mem_append_right _ hy

/-- Where the vertices that were queued once lead to is marked or skipped in the end. -/
theorem closed_spread
    (h : ∀ x, skip x = true ∨ x ∈ marked → x ∉ queue → ∀ y, Edge edges x y →
      skip y = true ∨ y ∈ marked) :
    ∀ x, skip x = true ∨ x ∈ spread edges skip queue marked → ∀ y, Edge edges x y →
      skip y = true ∨ y ∈ spread edges skip queue marked := by
  fun_induction spread edges skip queue marked with
  | case1 marked => simpa using h
  | case2 x queue marked ih =>
    obtain ⟨new, hqueue, hmarked, -, hall⟩ := push_spec skip (next edges x) queue marked
    refine ih fun z hz hzqueue y hy ↦ ?_
    rw [hqueue, List.mem_append, not_or] at hzqueue
    rw [hmarked, List.mem_append, List.mem_reverse] at hz ⊢
    by_cases hzx : z = x
    · subst hzx
      exact hall y (mem_next.mpr hy)
    · have hbefore : skip z = true ∨ z ∈ marked := by
        rcases hz with hz | hz | hz
        · exact .inl hz
        · exact absurd hz hzqueue.2
        · exact .inr hz
      have hnot : z ∉ x :: queue := by
        rw [List.mem_cons, not_or]
        exact ⟨hzx, hzqueue.1⟩
      exact (h z hbefore hnot y hy).imp_right .inr

theorem reached_of_spread {P : α → Prop}
    (hP : ∀ x y, P x → Edge edges x y → P y) (hqueue : ∀ x ∈ queue, P x)
    (hmarked : ∀ x ∈ marked, P x) : ∀ x ∈ spread edges skip queue marked, P x := by
  fun_induction spread edges skip queue marked with
  | case1 marked => exact hmarked
  | case2 x queue marked ih =>
    obtain ⟨new, hqueue', hmarked', hnew, -⟩ := push_spec skip (next edges x) queue marked
    have hnewP : ∀ y ∈ new, P y := fun y hy ↦
      hP x y (hqueue x (.head _)) (mem_next.mp (hnew y hy).1)
    refine ih (fun y hy ↦ ?_) fun y hy ↦ ?_
    · rw [hqueue'] at hy
      exact (List.mem_append.mp hy).elim (fun hy ↦ hqueue y (.tail _ hy)) (hnewP y)
    · rw [hmarked'] at hy
      exact (List.mem_append.mp hy).elim (fun hy ↦ hnewP y (List.mem_reverse.mp hy)) (hmarked y)

theorem not_skip_of_spread (hmarked : ∀ x ∈ marked, skip x = false) :
    ∀ x ∈ spread edges skip queue marked, skip x = false := by
  fun_induction spread edges skip queue marked with
  | case1 marked => exact hmarked
  | case2 x queue marked ih =>
    obtain ⟨new, -, hmarked', hnew, -⟩ := push_spec skip (next edges x) queue marked
    refine ih fun y hy ↦ ?_
    rw [hmarked'] at hy
    exact (List.mem_append.mp hy).elim (fun hy ↦ (hnew y (List.mem_reverse.mp hy)).2) (hmarked y)

/-- **`spread` marks what is reached from the queue**, the skipped vertices apart, when the queue
holds the vertices that are skipped or marked and no others. -/
theorem mem_spread (hstart : ∀ x, x ∈ queue ↔ skip x = true ∨ x ∈ marked)
    (hmarked : ∀ x ∈ marked, skip x = false) {y : α} :
    y ∈ spread edges skip queue marked ↔
      skip y = false ∧ ∃ x ∈ queue, ReflTransGen (Edge edges) x y := by
  constructor
  · intro hy
    refine ⟨not_skip_of_spread hmarked y hy, ?_⟩
    refine reached_of_spread (P := fun y ↦ ∃ x ∈ queue, ReflTransGen (Edge edges) x y) ?_
      (fun x hx ↦ ⟨x, hx, .refl⟩) (fun x hx ↦ ⟨x, (hstart x).mpr (.inr hx), .refl⟩) y hy
    rintro a b ⟨x, hx, hreach⟩ hedge
    exact ⟨x, hx, hreach.tail hedge⟩
  · rintro ⟨hskip, x, hx, hreach⟩
    have hclosed : ∀ x, skip x = true ∨ x ∈ spread edges skip queue marked → ∀ y, Edge edges x y →
        skip y = true ∨ y ∈ spread edges skip queue marked :=
      closed_spread fun z hz hnot ↦ absurd ((hstart z).mpr hz) hnot
    have hmem : skip y = true ∨ y ∈ spread edges skip queue marked := by
      clear hskip
      induction hreach with
      | refl => exact ((hstart x).mp hx).imp_right (subset_spread x)
      | tail _ hedge ih => exact hclosed _ ih _ hedge
    rw [hskip] at hmem
    exact hmem.resolve_left Bool.false_ne_true

end Spread

end Graph
