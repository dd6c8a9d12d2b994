import HMaigc.Go.Basic

/-!
# Texts that begin with another

* `Go.hasPrefix`, `Go.trimPrefix` — `strings.HasPrefix` and `strings.TrimPrefix`; and the same for
  ends, `Go.hasSuffix` and `Go.trimSuffix`.
* `trimSpace_eq_self_iff` — the texts `strings.TrimSpace` leaves alone are those that neither begin
  nor end with white space.
* `trimSpace_eq_self_of_append` — and of such a text it leaves every end alone that does not begin
  with white space.
-/

set_option autoImplicit false

namespace Go

/-! ## Prefixes -/

/-- `strings.HasPrefix`. -/
def hasPrefix (s start : String) : Bool := start.toList.isPrefixOf s.toList

/-- `strings.TrimPrefix`. -/
def trimPrefix (s start : String) : String :=
  if hasPrefix s start then String.ofList (s.toList.drop start.toList.length) else s

theorem hasPrefix_iff {s start : String} :
    hasPrefix s start = true ↔ ∃ rest, s = start ++ rest := by
  rw [hasPrefix, List.isPrefixOf_iff_prefix]
  constructor
  · rintro ⟨rest, hrest⟩
    exact ⟨String.ofList rest, String.toList_injective (by simpa using hrest.symm)⟩
  · rintro ⟨rest, rfl⟩
    exact ⟨rest.toList, by simp⟩

theorem hasPrefix_append (start rest : String) : hasPrefix (start ++ rest) start = true :=
  hasPrefix_iff.mpr ⟨rest, rfl⟩

@[simp] theorem trimPrefix_append (start rest : String) :
    trimPrefix (start ++ rest) start = rest := by
  rw [trimPrefix, if_pos (hasPrefix_append start rest)]
  exact String.toList_injective (by simp)

/-- A common beginning says nothing about the next prefix. -/
@[simp] theorem hasPrefix_append_append (start s next : String) :
    hasPrefix (start ++ s) (start ++ next) = hasPrefix s next := by
  rw [Bool.eq_iff_iff]
  simp [hasPrefix, List.isPrefixOf_iff_prefix]

/-- `strings.HasSuffix`. -/
def hasSuffix (s final : String) : Bool := final.toList.isSuffixOf s.toList

/-- `strings.TrimSuffix`. -/
def trimSuffix (s final : String) : String :=
  if hasSuffix s final then String.ofList (s.toList.take (s.toList.length - final.toList.length))
  else s

theorem hasSuffix_iff {s final : String} :
    hasSuffix s final = true ↔ ∃ start, s = start ++ final := by
  rw [hasSuffix, List.isSuffixOf_iff_suffix]
  constructor
  · rintro ⟨start, hstart⟩
    exact ⟨String.ofList start, String.toList_injective (by simpa using hstart.symm)⟩
  · rintro ⟨start, rfl⟩
    exact ⟨start.toList, by simp⟩

/-! ## White space at the ends -/

/-- The text begins with white space. -/
def beginsBlank (s : String) : Bool := s.toList.head?.any isSpace

/-- The text ends with white space. -/
def endsBlank (s : String) : Bool := s.toList.getLast?.any isSpace

theorem beginsBlank_eq_false_iff {s : String} :
    beginsBlank s = false ↔ ∀ c, isSpace c = true → hasPrefix s (String.singleton c) = false := by
  have hhead : ∀ c, hasPrefix s (String.singleton c) = true ↔ s.toList.head? = some c := by
    intro c
    rw [hasPrefix, List.isPrefixOf_iff_prefix, String.toList_singleton]
    cases s.toList <;> simp [List.cons_prefix_cons, eq_comm]
  rw [beginsBlank]
  constructor
  · intro hblank c hc
    by_contra h
    rw [(hhead c).mp (by simpa using h), Option.any_some, hc] at hblank
    cases hblank
  · intro hnone
    cases hs : s.toList.head? with
    | none => rfl
    | some c =>
      rw [Option.any_some]
      by_contra hc
      have hno := hnone c (by simpa using hc)
      rw [(hhead c).mpr hs] at hno
      cases hno

theorem dropWhile_eq_self_iff {p : Char → Bool} {l : List Char} :
    l.dropWhile p = l ↔ l.head?.any p = false := by
  cases l with
  | nil => simp
  | cons c l =>
    rw [List.head?_cons, Option.any_some]
    constructor
    · intro h
      by_contra hc
      rw [List.dropWhile_cons, if_pos (by simpa using hc)] at h
      have hlength := congrArg List.length h
      have hle := (List.dropWhile_suffix p (l := l)).length_le
      rw [List.length_cons] at hlength
      omega
    · intro hc
      rw [List.dropWhile_cons, hc]
      rfl

theorem rdropWhile_eq_self_iff {p : Char → Bool} {l : List Char} :
    l.rdropWhile p = l ↔ l.getLast?.any p = false := by
  rw [List.rdropWhile_eq_self_iff]
  by_cases hl : l = []
  · simp [hl]
  · simp [hl, List.getLast?_eq_some_getLast hl]

/-- **What trimming leaves alone.** -/
theorem trimSpace_eq_self_iff {s : String} :
    trimSpace s = s ↔ beginsBlank s = false ∧ endsBlank s = false := by
  rw [beginsBlank, endsBlank, ← dropWhile_eq_self_iff, ← rdropWhile_eq_self_iff]
  constructor
  · intro h
    have hlist : (s.toList.dropWhile isSpace).rdropWhile isSpace = s.toList := by
      simpa [trimSpace] using congrArg String.toList h
    -- Neither end can lose a character where the whole keeps its length.
    have hstart := List.rdropWhile_prefix isSpace (l := s.toList.dropWhile isSpace)
    have hsuffix := List.dropWhile_suffix isSpace (l := s.toList)
    have hdrop : s.toList.dropWhile isSpace = s.toList := by
      refine hsuffix.eq_of_length_le ?_
      have hle := hstart.length_le
      rwa [hlist] at hle
    exact ⟨hdrop, by rw [hdrop] at hlist; exact hlist⟩
  · rintro ⟨hdrop, hrdrop⟩
    rw [trimSpace, hdrop, hrdrop, String.ofList_toList]

theorem length_trimSpace_le (s : String) : (trimSpace s).length ≤ s.length := by
  have hstart := (List.rdropWhile_prefix isSpace (l := s.toList.dropWhile isSpace)).length_le
  have hsuffix := (List.dropWhile_suffix isSpace (l := s.toList)).length_le
  rw [trimSpace, String.length_ofList, ← String.length_toList]
  exact hstart.trans hsuffix

/-- An end of a trimmed text can only have white space before it. -/
theorem trimSpace_eq_self_of_append {start rest : String}
    (htrim : trimSpace (start ++ rest) = start ++ rest) (hrest : rest ≠ "") :
    trimSpace rest = rest ↔ beginsBlank rest = false := by
  have hends : endsBlank rest = false := by
    have h := (trimSpace_eq_self_iff.mp htrim).2
    have hlist : rest.toList ≠ [] := fun h ↦ hrest (String.toList_injective (by simpa using h))
    rwa [endsBlank, String.toList_append, List.getLast?_append_of_ne_nil _ hlist] at h
  rw [trimSpace_eq_self_iff]
  exact ⟨And.left, fun h ↦ ⟨h, hends⟩⟩

end Go
