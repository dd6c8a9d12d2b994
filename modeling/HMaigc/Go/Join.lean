import HMaigc.Go.Basic

/-!
# `strings.Join`

What was joined can be told from the result when the separator occurs in at most one of the parts,
and the place of that part is known.

* `Go.join` — `strings.Join` with one character between the parts.
* `join_inj`, `join_inj_around` — what the result determines.
-/

set_option autoImplicit false

namespace Go

/-- `strings.Join` with a character as separator. -/
def join (sep : Char) (parts : List String) : String := (String.singleton sep).intercalate parts

/-- The separator does not occur in the text. -/
abbrev Lacks (sep : Char) (text : String) : Prop := sep ∉ text.toList

/-- What stands between the separators. -/
def pieces (sep : Char) (text : String) : List (List Char) := text.toList.splitOn sep

section Join

variable {sep : Char} {s t : String} {parts parts' before before' after after' : List String}

theorem lacks_pair (hs : Lacks sep s) (ht : Lacks sep t) : ∀ u ∈ [s, t], Lacks sep u :=
  List.forall_mem_cons.mpr ⟨hs, List.forall_mem_cons.mpr ⟨ht, nofun⟩⟩

theorem pieces_of_lacks (hs : Lacks sep s) : pieces sep s = [s.toList] :=
  List.splitOn_eq_singleton hs

theorem pieces_injective (sep : Char) : Function.Injective (pieces sep) := by
  intro s t h
  refine String.toList_injective ?_
  have hjoined := congrArg (List.intercalate [sep]) h
  simpa only [pieces, List.intercalate_splitOn] using hjoined

theorem toList_join_cons (sep : Char) (s t : String) (rest : List String) :
    (join sep (s :: t :: rest)).toList = s.toList ++ sep :: (join sep (t :: rest)).toList := by
  simp only [join, String.intercalate_cons_cons, String.toList_append, String.toList_singleton,
    List.append_assoc, List.singleton_append]

/-- The pieces of the result are those of the parts. -/
theorem pieces_join (hparts : parts ≠ []) :
    pieces sep (join sep parts) = parts.flatMap (pieces sep) := by
  induction parts with
  | nil => exact absurd rfl hparts
  | cons s rest ih =>
    rw [List.flatMap_cons]
    cases rest with
    | nil => simp [join]
    | cons t rest =>
      rw [← ih (List.cons_ne_nil _ _), pieces, toList_join_cons, List.splitOn_append_cons_self]
      rfl

theorem flatMap_pieces (hparts : ∀ s ∈ parts, Lacks sep s) :
    parts.flatMap (pieces sep) = parts.map String.toList := by
  rw [List.flatMap_congr fun s hs ↦ pieces_of_lacks (hparts s hs), List.map_eq_flatMap]

/-- A character that is in no part, and is not the separator, is not in the result. -/
theorem lacks_join {c : Char} (hc : c ≠ sep) (hparts : ∀ s ∈ parts, Lacks c s) :
    Lacks c (join sep parts) := by
  induction parts with
  | nil => exact List.not_mem_nil
  | cons s rest ih =>
    obtain ⟨hs, hrest⟩ := List.forall_mem_cons.mp hparts
    cases rest with
    | nil => simpa [join] using hs
    | cons t rest =>
      rw [Lacks, toList_join_cons, List.mem_append, List.mem_cons]
      exact not_or.mpr ⟨hs, not_or.mpr ⟨hc, ih hrest⟩⟩

theorem map_toList_injective : Function.Injective (List.map String.toList) :=
  List.map_injective_iff.mpr fun _ _ h ↦ String.toList_injective h

/-- **Parts without the separator can be told from the result.** -/
theorem join_inj (h : join sep parts = join sep parts') (hparts : ∀ s ∈ parts, Lacks sep s)
    (hparts' : ∀ s ∈ parts', Lacks sep s) (hne : parts ≠ []) (hne' : parts' ≠ []) :
    parts = parts' := by
  have hpieces := congrArg (pieces sep) h
  rw [pieces_join hne, pieces_join hne', flatMap_pieces hparts, flatMap_pieces hparts'] at hpieces
  exact map_toList_injective hpieces

/-- The parts at the beginning can be told, whatever follows. -/
theorem join_inj_start (h : join sep (before ++ after) = join sep (before' ++ after'))
    (hne : before ≠ []) (hlen : before.length = before'.length)
    (hbefore : ∀ s ∈ before, Lacks sep s) (hbefore' : ∀ s ∈ before', Lacks sep s) :
    before = before' := by
  have hne' : before' ≠ [] := by
    rintro rfl
    exact hne (List.length_eq_zero_iff.mp hlen)
  have hpieces := congrArg (pieces sep) h
  rw [pieces_join (by simp [hne]), pieces_join (by simp [hne']), List.flatMap_append,
    List.flatMap_append, flatMap_pieces hbefore, flatMap_pieces hbefore'] at hpieces
  exact map_toList_injective (List.append_inj hpieces (by simpa using hlen)).1

/-- **One part may hold the separator, if it is known how many parts stand around it.** -/
theorem join_inj_around (h : join sep (before ++ s :: after) = join sep (before' ++ t :: after'))
    (hlen : before.length = before'.length) (hlen' : after.length = after'.length)
    (hbefore : ∀ s ∈ before, Lacks sep s) (hbefore' : ∀ s ∈ before', Lacks sep s)
    (hafter : ∀ s ∈ after, Lacks sep s) (hafter' : ∀ s ∈ after', Lacks sep s) :
    before = before' ∧ s = t ∧ after = after' := by
  have hpieces := congrArg (pieces sep) h
  rw [pieces_join (by simp), pieces_join (by simp), List.flatMap_append, List.flatMap_append,
    List.flatMap_cons, List.flatMap_cons, flatMap_pieces hbefore, flatMap_pieces hbefore',
    flatMap_pieces hafter, flatMap_pieces hafter'] at hpieces
  obtain ⟨hstart, hrest⟩ := List.append_inj hpieces (by simpa using hlen)
  obtain ⟨hmiddle, hend⟩ := List.append_inj' hrest (by simpa using hlen')
  exact ⟨map_toList_injective hstart, pieces_injective sep hmiddle, map_toList_injective hend⟩

end Join

end Go
