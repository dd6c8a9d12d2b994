import HMaigc.Graph.Worklist
import Mathlib.Logic.Function.Basic

/-!
# Finding a cycle by depth-first search

A vertex is marked when the search enters it and marked again when it leaves.  Meeting a vertex that
was entered and not left closes a cycle.

* `containsCycle_eq_some` — **the search ends, and it ends with the truth.**

`fuel` bounds the depth of the recursion, which is at most the number of vertices.
-/

set_option autoImplicit false

namespace Graph

open Relation

variable {α : Type}

inductive Mark where
  | visiting
  | visited
  deriving DecidableEq

/-- The marks set so far. -/
abbrev Marks (α : Type) : Type := α → Option Mark

/-- Search from each vertex of a list until a cycle is found. -/
def searchAll (search : α → Marks α → Option (Bool × Marks α)) :
    List α → Marks α → Option (Bool × Marks α)
  | [], marks => some (false, marks)
  | y :: ys, marks =>
    (search y marks).bind fun found ↦
      if found.1 then some found else searchAll search ys found.2

/-- Search from a vertex. -/
def search [DecidableEq α] (dependsOn : α → List α) : ℕ → α → Marks α → Option (Bool × Marks α)
  | 0, _, _ => none
  | fuel + 1, x, marks =>
    match marks x with
    | some .visiting => some (true, marks)
    | some .visited => some (false, marks)
    | none =>
      (searchAll (search dependsOn fuel) (dependsOn x)
        (Function.update marks x (some .visiting))).map fun found ↦
          if found.1 then found else (false, Function.update found.2 x (some .visited))

/-- Search from all vertices. -/
def containsCycle [DecidableEq α] (dependsOn : α → List α) (nodes : List α) : Option Bool :=
  (searchAll (search dependsOn (nodes.length + 1)) nodes fun _ ↦ none).map Prod.fst

/-! ## What one search does -/

section

variable {dependsOn : α → List α} {nodes : List α} {marks marks' marks'' : Marks α} {x : α}

/-- The vertices that were left lead only to such vertices, and are on no cycle. -/
structure Sound (dependsOn : α → List α) (marks : Marks α) : Prop where
  closed : ∀ a, marks a = some .visited → ∀ b ∈ dependsOn a, marks b = some .visited
  acyclic : ∀ a, marks a = some .visited → ¬TransGen (fun a b ↦ b ∈ dependsOn a) a a

/-- A search without a result: what was entered still is, and what was left still is. -/
structure Left (dependsOn : α → List α) (marks marks' : Marks α) : Prop where
  sound : Sound dependsOn marks'
  visiting : ∀ a, marks' a = some .visiting ↔ marks a = some .visiting
  visited : ∀ a, marks a = some .visited → marks' a = some .visited

/-- The vertices not entered yet. -/
def fresh (nodes : List α) (marks : Marks α) : ℕ :=
  nodes.countP fun a ↦ (marks a).isNone

theorem Sound.start (dependsOn : α → List α) : Sound dependsOn fun _ ↦ none :=
  ⟨fun _ hmark ↦ (nomatch hmark), fun _ hmark ↦ (nomatch hmark)⟩

theorem Left.refl (hsound : Sound dependsOn marks) : Left dependsOn marks marks :=
  ⟨hsound, fun _ ↦ Iff.rfl, fun _ hvisited ↦ hvisited⟩

theorem Left.trans (h : Left dependsOn marks marks') (h' : Left dependsOn marks' marks'') :
    Left dependsOn marks marks'' :=
  ⟨h'.sound, fun a ↦ (h'.visiting a).trans (h.visiting a),
    fun a ha ↦ h'.visited a (h.visited a ha)⟩

theorem Left.fresh_le (h : Left dependsOn marks marks') : fresh nodes marks' ≤ fresh nodes marks := by
  refine List.countP_mono_left fun a _ hnone ↦ ?_
  rw [Option.isNone_iff_eq_none] at hnone ⊢
  cases hmark : marks a with
  | none => rfl
  | some mark =>
    cases mark with
    | visiting => rw [(h.visiting a).mpr hmark] at hnone; cases hnone
    | visited => rw [h.visited a hmark] at hnone; cases hnone

/-- What a search says, with the vertices it has left at the end. -/
structure Answer (dependsOn : α → List α) (marks : Marks α) (ys : List α)
    (found : Bool × Marks α) : Prop where
  cycle : found.1 = true → ∃ a, TransGen (fun a b ↦ b ∈ dependsOn a) a a
  left : found.1 = false → Left dependsOn marks found.2
  visited : found.1 = false → ∀ y ∈ ys, found.2 y = some .visited

/-- A search ends with the truth, where all vertices entered lead to the vertex it starts from. -/
def Answers (dependsOn : α → List α) (nodes : List α) (fuel : ℕ)
    (search : α → Marks α → Option (Bool × Marks α)) : Prop :=
  ∀ x ∈ nodes, ∀ marks, Sound dependsOn marks →
    (∀ a, marks a = some .visiting → TransGen (fun a b ↦ b ∈ dependsOn a) a x) →
    fresh nodes marks < fuel →
      ∃ found, search x marks = some found ∧ Answer dependsOn marks [x] found

/-- Searches one after another. -/
theorem Answers.all {search : α → Marks α → Option (Bool × Marks α)} {fuel : ℕ}
    (h : Answers dependsOn nodes fuel search) {ys : List α} (hys : ∀ y ∈ ys, y ∈ nodes)
    (hsound : Sound dependsOn marks)
    (hreach : ∀ y ∈ ys, ∀ a, marks a = some .visiting →
      TransGen (fun a b ↦ b ∈ dependsOn a) a y)
    (hfuel : fresh nodes marks < fuel) :
    ∃ found, searchAll search ys marks = some found ∧ Answer dependsOn marks ys found := by
  induction ys generalizing marks with
  | nil => exact ⟨(false, marks), rfl, nofun, fun _ ↦ .refl hsound, fun _ ↦ nofun⟩
  | cons y ys ih =>
    obtain ⟨first, hfirst, hcycle, hleft, hvisited⟩ :=
      h y (hys y (.head _)) marks hsound (hreach y (.head _)) hfuel
    by_cases hfound : first.1 = true
    · refine ⟨first, ?_, hcycle, fun hnone ↦ ?_, fun hnone ↦ ?_⟩
      · rw [searchAll, hfirst, Option.bind_some, if_pos hfound]
      all_goals rw [hfound] at hnone; cases hnone
    · rw [Bool.not_eq_true] at hfound
      have hleft := hleft hfound
      obtain ⟨found, hrest, hcycle', hleft', hvisited'⟩ :=
        ih (fun z hz ↦ hys z (.tail _ hz)) hleft.sound
          (fun z hz a ha ↦ hreach z (.tail _ hz) a ((hleft.visiting a).mp ha))
          (Nat.lt_of_le_of_lt hleft.fresh_le hfuel)
      refine ⟨found, ?_, hcycle', fun hnone ↦ hleft.trans (hleft' hnone), fun hnone z hz ↦ ?_⟩
      · rw [searchAll, hfirst, Option.bind_some, if_neg (by simp [hfound]), hrest]
      rcases List.mem_cons.mp hz with rfl | hz
      · exact (hleft' hnone).visited _ (hvisited hfound _ (.head _))
      · exact hvisited' hnone z hz

end

section

variable [DecidableEq α] {dependsOn : α → List α} {nodes : List α} {marks marks' : Marks α} {x : α}

theorem fresh_update_lt (hx : x ∈ nodes) (hmark : marks x = none) (mark : Mark) :
    fresh nodes (Function.update marks x (some mark)) < fresh nodes marks := by
  induction nodes with
  | nil => cases hx
  | cons y ys ih =>
    have hle : fresh ys (Function.update marks x (some mark)) ≤ fresh ys marks := by
      refine List.countP_mono_left fun a _ hnone ↦ ?_
      by_cases hax : a = x
      · rw [hax, hmark]; rfl
      · rwa [Function.update_of_ne hax] at hnone
    by_cases hyx : y = x
    · subst hyx
      simp only [fresh, List.countP_cons, Function.update_self, hmark] at hle ⊢
      simpa using Nat.lt_succ_of_le hle
    · have hlt := ih ((List.mem_cons.mp hx).resolve_left (Ne.symm hyx))
      simp only [fresh, List.countP_cons, Function.update_of_ne hyx] at hlt ⊢
      omega

/-- Entering a vertex. -/
theorem Sound.enter (h : Sound dependsOn marks) (hmark : marks x = none) :
    Sound dependsOn (Function.update marks x (some .visiting)) := by
  have hvisited : ∀ a, Function.update marks x (some .visiting) a = some .visited ↔
      marks a = some .visited := by
    intro a
    by_cases hax : a = x
    · simp [hax, hmark]
    · rw [Function.update_of_ne hax]
  exact ⟨fun a ha b hb ↦ (hvisited b).mpr (h.closed a ((hvisited a).mp ha) b hb),
    fun a ha ↦ h.acyclic a ((hvisited a).mp ha)⟩

omit [DecidableEq α] in
/-- What the vertices left lead to. -/
theorem Sound.visited_of_transGen (h : Sound dependsOn marks) {a b : α}
    (ha : marks a = some .visited) (hab : TransGen (fun a b ↦ b ∈ dependsOn a) a b) :
    marks b = some .visited := by
  induction hab with
  | single hab => exact h.closed a ha _ hab
  | tail _ hbc ih => exact h.closed _ ih _ hbc

/-- Leaving a vertex all of whose successors were left. -/
theorem Sound.leave (h : Sound dependsOn marks) (hmark : marks x = some .visiting)
    (hnext : ∀ y ∈ dependsOn x, marks y = some .visited) :
    Sound dependsOn (Function.update marks x (some .visited)) := by
  have hvisited : ∀ a, marks a = some .visited →
      Function.update marks x (some .visited) a = some .visited := by
    intro a ha
    by_cases hax : a = x
    · rw [hax, Function.update_self]
    · rwa [Function.update_of_ne hax]
  refine ⟨fun a ha b hb ↦ hvisited b ?_, fun a ha hcycle ↦ ?_⟩
  · by_cases hax : a = x
    · exact hnext b (hax ▸ hb)
    · exact h.closed a (by rwa [Function.update_of_ne hax] at ha) b hb
  · by_cases hax : a = x
    · subst hax
      obtain ⟨y, hy, hback⟩ := TransGen.head'_iff.mp hcycle
      have hleft := hnext y hy
      rcases (reflTransGen_iff_eq_or_transGen.mp hback) with rfl | hback
      · rw [hmark] at hleft; cases hleft
      · rw [h.visited_of_transGen hleft hback] at hmark; cases hmark
    · exact h.acyclic a (by rwa [Function.update_of_ne hax] at ha) hcycle

/-- A vertex entered, searched below and left again. -/
theorem Left.leave (hmark : marks x = none)
    (h : Left dependsOn (Function.update marks x (some .visiting)) marks')
    (hnext : ∀ y ∈ dependsOn x, marks' y = some .visited) :
    Left dependsOn marks (Function.update marks' x (some .visited)) := by
  have hx : marks' x = some .visiting := (h.visiting x).mpr (Function.update_self _ _ _)
  refine ⟨h.sound.leave hx hnext, fun a ↦ ?_, fun a ha ↦ ?_⟩
  · by_cases hax : a = x
    · simp [hax, hmark]
    · rw [Function.update_of_ne hax, h.visiting, Function.update_of_ne hax]
  · by_cases hax : a = x
    · rw [hax, Function.update_self]
    · rw [Function.update_of_ne hax]
      exact h.visited a (by rwa [Function.update_of_ne hax])

/-- **A search tells the truth.** -/
theorem answers_search (hnodes : ∀ a ∈ nodes, ∀ b ∈ dependsOn a, b ∈ nodes) (fuel : ℕ) :
    Answers dependsOn nodes fuel (search dependsOn fuel) := by
  induction fuel with
  | zero => exact fun _ _ _ _ _ hfuel ↦ absurd hfuel (Nat.not_lt_zero _)
  | succ fuel ih =>
    intro x hx marks hsound hreach hfuel
    rw [search]
    cases hmark : marks x with
    | some mark =>
      cases mark with
      | visiting =>
        exact ⟨(true, marks), rfl, fun _ ↦ ⟨x, hreach x hmark⟩, nofun, nofun⟩
      | visited =>
        exact ⟨(false, marks), rfl, nofun, fun _ ↦ .refl hsound,
          fun _ y hy ↦ List.mem_singleton.mp hy ▸ hmark⟩
    | none =>
      have hlt := fresh_update_lt hx hmark .visiting
      obtain ⟨found, hall, hcycle, hleft, hvisited⟩ :=
        ih.all (hnodes x hx) (hsound.enter hmark)
          (fun y hy a ha ↦ by
            by_cases hax : a = x
            · exact hax ▸ .single hy
            · rw [Function.update_of_ne hax] at ha
              exact .tail (hreach a ha) hy)
          (by omega)
      rw [hall]
      by_cases hfound : found.1 = true
      · refine ⟨found, by rw [Option.map_some, if_pos hfound], hcycle, fun hnone ↦ ?_,
          fun hnone ↦ ?_⟩
        all_goals rw [hfound] at hnone; cases hnone
      · rw [Bool.not_eq_true] at hfound
        refine ⟨(false, Function.update found.2 x (some .visited)),
          by rw [Option.map_some, if_neg (by simp [hfound])], nofun, fun _ ↦
          (hleft hfound).leave hmark (hvisited hfound), fun _ y hy ↦ ?_⟩
        rw [List.mem_singleton.mp hy]
        exact Function.update_self _ _ _

/-- **The search ends, and it ends with the truth.**  Vertices outside lead nowhere. -/
theorem containsCycle_eq_some (hnodes : ∀ a, ∀ b ∈ dependsOn a, a ∈ nodes ∧ b ∈ nodes) :
    ∃ cyclic, containsCycle dependsOn nodes = some cyclic ∧
      (cyclic = true ↔ ∃ a, TransGen (fun a b ↦ b ∈ dependsOn a) a a) := by
  have hanswers := answers_search (fun a _ b hb ↦ (hnodes a b hb).2) (nodes.length + 1)
  obtain ⟨found, hall, hcycle, hleft, hvisited⟩ :=
    hanswers.all (fun _ hy ↦ hy) (Sound.start dependsOn)
      (fun _ _ _ hmark ↦ (Option.some_ne_none _ hmark.symm).elim) (Nat.lt_succ_of_le List.countP_le_length)
  refine ⟨found.1, by rw [containsCycle, hall, Option.map_some], hcycle, fun h ↦ ?_⟩
  obtain ⟨a, hcycle⟩ := h
  have ha : a ∈ nodes := by
    obtain ⟨b, hb, -⟩ := TransGen.head'_iff.mp hcycle
    exact (hnodes a b hb).1
  by_contra hnone
  rw [Bool.not_eq_true] at hnone
  exact (hleft hnone).sound.acyclic a (hvisited hnone a ha) hcycle

end

end Graph
