import HMaigc.Go.Checks
import HMaigc.Semver.Precedence

/-!
# Release versions

`opsprotocol/version.go`.  A release version is `vX.Y.Z`, with a suffix after a hyphen or a plus
sign, and the check for updates compares the installed one with the one the source of releases
names.

* `compareReleaseVersions_eq` — the order is that of the numbers, and then of the suffixes as texts,
  a version without a suffix being above those that have one.
* `compareReleaseVersions_precedence` — so it is a total preorder, and it is the precedence of the
  versions exactly where the suffixes are in the order of their precedence (`SuffixesDecide`).
* `compareReleaseVersions_rc10` — it puts the tenth release candidate below the ninth.
-/

set_option autoImplicit false

namespace HMaigc

open Go Std

inductive VersionError where
  | text (s : String)
  /-- What `strconv.ParseUint` says. -/
  | number
  deriving DecidableEq, Repr

def errVersionFormat : VersionError := .text "版本必须是 vX.Y.Z 格式的不可变标签"

/-- `isVersionIdentifierChar`. -/
def isVersionIdentifierChar (char : Char) : Bool :=
  ('a' ≤ char && char ≤ 'z') || ('A' ≤ char && char ≤ 'Z') || ('0' ≤ char && char ≤ '9') ||
    char = '.' || char = '-'

/-- `strconv.ParseUint(part, 10, 31)`. -/
def parseUint31 (part : List Char) : Except VersionError ℕ :=
  if part ≠ [] ∧ part.all (·.isDigit) ∧ Semver.number part < 2 ^ 31 then .ok (Semver.number part)
  else .error .number

/-- `strings.TrimSpace(value)[1:]`, the version without its `v`. -/
def releaseText (value : String) : List Char := (trimSpace value).toList.tail

/-- `core[:index]`, where `index` is that of the first `-` or `+`, if there is one. -/
def versionCore (core : List Char) : List Char := core.takeWhile (!Semver.isMark ·)

/-- `core[index:]`. -/
def markedSuffix (core : List Char) : List Char := core.dropWhile (!Semver.isMark ·)

/-- A part of the version number. -/
def validateVersionPart (part : List Char) : Except VersionError Unit :=
  if part = [] then .error (.text "版本号不能为空")
  else if 1 < part.length ∧ part.head? = some '0' then .error (.text "版本号不能包含前导零")
  else if (parseUint31 part).isOk = false then .error (.text "版本号必须是非负整数")
  else .ok ()

/-- What follows the core. -/
def validateVersionSuffix (core : List Char) : Except VersionError Unit :=
  if markedSuffix core = [] then .ok ()
  else if versionCore core = [] ∨ (markedSuffix core).tail = [] then
    .error (.text "版本预发布标识无效")
  else if (markedSuffix core).tail.all isVersionIdentifierChar = false then
    .error (.text "版本预发布标识包含无效字符")
  else .ok ()

/-- `ValidateReleaseVersion`. -/
def validateReleaseVersion (value : String) : Except VersionError Unit :=
  if (trimSpace value).utf8ByteSize < 6 ∨ (trimSpace value).toList.head? ≠ some 'v' then
    .error errVersionFormat
  else do
    validateVersionSuffix (releaseText value)
    let parts := split '.' (versionCore (releaseText value))
    if parts.length ≠ 3 then .error errVersionFormat
    else parts.forM validateVersionPart

/-- `parseReleaseVersion`. -/
def parseReleaseVersion (value : String) : Except VersionError (List ℕ × List Char) := do
  validateReleaseVersion value
  let result ← (split '.' (versionCore (releaseText value))).mapM parseUint31
  return (result, (markedSuffix (releaseText value)).tail)

/-- `-1`, `0` or `1`, as `strings.Compare` returns them. -/
def ofOrdering : Ordering → ℤ
  | .lt => -1
  | .eq => 0
  | .gt => 1

/-- `strings.Compare`. -/
def compareStrings (a b : List Char) : ℤ := ofOrdering (compare a b)

/-- The loop over the parts, which returns at the first two that differ. -/
def compareParts : List ℕ → List ℕ → Option ℤ
  | left :: leftParts, right :: rightParts =>
    if left < right then some (-1)
    else if left > right then some 1
    else compareParts leftParts rightParts
  | _, _ => none

/-- What `CompareReleaseVersions` does with the parts and the suffixes. -/
def compareParsed (left right : List ℕ × List Char) : ℤ :=
  match compareParts left.1 right.1 with
  | some comparison => comparison
  | none =>
    if left.2 = right.2 then 0
    else if left.2 = [] then 1
    else if right.2 = [] then -1
    else compareStrings left.2 right.2

/-- `CompareReleaseVersions`. -/
def compareReleaseVersions (left right : String) : Except VersionError ℤ := do
  let leftVersion ← parseReleaseVersion left
  let rightVersion ← parseReleaseVersion right
  return compareParsed leftVersion rightVersion

/-! ## The order there is -/

/-- What the comparison looks at. -/
def releaseFacts (value : String) : List ℕ × List Char :=
  ((Semver.ofText (releaseText value)).core, (markedSuffix (releaseText value)).tail)

theorem releaseFacts_fst (value : String) :
    (releaseFacts value).1 = (split '.' (versionCore (releaseText value))).map Semver.number := by
  rw [releaseFacts, Semver.ofText, versionCore]

theorem releaseFacts_snd (value : String) :
    (releaseFacts value).2 = (markedSuffix (releaseText value)).tail := by
  rw [releaseFacts]

/-- What is known of an accepted version. -/
structure IsRelease (value : String) : Prop where
  parsed : parseReleaseVersion value = .ok (releaseFacts value)
  parts : (releaseFacts value).1.length = 3
  marked : markedSuffix (releaseText value) ≠ [] → (releaseFacts value).2 ≠ []
  chars : ∀ c ∈ (releaseFacts value).2, isVersionIdentifierChar c = true

theorem parseUint31_of_valid {part : List Char} (h : validateVersionPart part = .ok ()) :
    parseUint31 part = .ok (Semver.number part) := by
  obtain ⟨-, -, h, -⟩ : _ ∧ _ ∧ (parseUint31 part).isOk ≠ false ∧ _ := by
    simpa only [validateVersionPart, refuse_eq_ok] using h
  rw [parseUint31] at h ⊢
  split_ifs with hvalid
  · rfl
  · rw [if_neg hvalid] at h
    exact absurd rfl h

theorem isRelease_of_valid {value : String} (h : validateReleaseVersion value = .ok ()) :
    IsRelease value := by
  have hvalid := h
  rw [validateReleaseVersion, refuse_eq_ok, bind_eq_ok] at h
  obtain ⟨-, u, hsuffix, h⟩ := h
  rw [refuse_eq_ok, not_not, forM_eq_ok] at h
  obtain ⟨hlength, hparts⟩ := h
  have hmarked : markedSuffix (releaseText value) ≠ [] → (releaseFacts value).2 ≠ [] ∧
      ∀ c ∈ (releaseFacts value).2, isVersionIdentifierChar c = true := by
    intro hmarked
    rw [validateVersionSuffix, if_neg hmarked, refuse_eq_ok, refuse_eq_ok, Bool.not_eq_false,
      List.all_eq_true, not_or] at hsuffix
    rw [releaseFacts_snd]
    exact ⟨hsuffix.1.2, hsuffix.2.1⟩
  refine ⟨?_, ?_, fun h ↦ (hmarked h).1, ?_⟩
  · have hresult : (split '.' (versionCore (releaseText value))).mapM parseUint31 =
        .ok (releaseFacts value).1 := by
      rw [mapM_eq_ok, releaseFacts_fst, List.forall₂_map_right_iff, List.forall₂_same]
      exact fun part hpart ↦ parseUint31_of_valid (hparts part hpart)
    rw [parseReleaseVersion, hvalid, hresult, ← releaseFacts_snd]
    generalize releaseFacts value = facts
    rfl
  · rw [releaseFacts_fst, List.length_map]
    exact hlength
  · by_cases hnone : markedSuffix (releaseText value) = []
    · rw [releaseFacts_snd, hnone]
      exact fun c hc ↦ nomatch hc
    · exact (hmarked hnone).2

/-- Numbers first, and then the suffixes as texts, with none above all others. -/
def textOrder : List ℕ × List Char → List ℕ × List Char → Ordering :=
  compareLex (compareOn (·.1)) (compareLex (compareOn (·.2.isEmpty)) (compareOn (·.2)))

instance : TransCmp textOrder := inferInstanceAs (TransCmp (compareLex _ _))

theorem textOrder_self (text : List ℕ × List Char) : textOrder text text = .eq :=
  ReflCmp.compare_self

theorem textOrder_swap (left right : List ℕ × List Char) :
    (textOrder left right).swap = textOrder right left :=
  OrientedCmp.eq_swap.symm

theorem compareParts_eq {a b : List ℕ} (h : a.length = b.length) :
    compareParts a b = if a = b then none else some (ofOrdering (compare a b)) := by
  induction a generalizing b with
  | nil =>
    cases b with
    | nil => rfl
    | cons n b => cases h
  | cons m a ih =>
    cases b with
    | nil => cases h
    | cons n b =>
      rw [compareParts, Semver.compare_cons, ih (Nat.succ.inj h)]
      rcases Nat.lt_trichotomy m n with hlt | rfl | hgt
      · simp [hlt, hlt.ne, Nat.compare_eq_lt.mpr hlt, ofOrdering]
      · simp
      · simp [hgt, hgt.not_gt, hgt.ne', Nat.compare_eq_gt.mpr hgt, ofOrdering]

theorem compareParsed_eq {left right : List ℕ × List Char}
    (h : left.1.length = right.1.length) :
    compareParsed left right = ofOrdering (textOrder left right) := by
  rw [compareParsed, compareParts_eq h, textOrder, compareLex, compareOn]
  by_cases hparts : left.1 = right.1
  · rw [if_pos hparts, hparts, ReflOrd.compare_self, Ordering.eq_then, compareLex, compareOn,
      compareOn]
    cases hl : left.2 with
    | nil =>
      cases hr : right.2 with
      | nil => rfl
      | cons d t => rfl
    | cons c s =>
      cases hr : right.2 with
      | nil => rfl
      | cons d t =>
        have hempty : compare (c :: s).isEmpty (d :: t).isEmpty = .eq := rfl
        rw [hempty, Ordering.eq_then, if_neg (List.cons_ne_nil _ _), if_neg (List.cons_ne_nil _ _)]
        by_cases hsuffix : c :: s = d :: t
        · rw [if_pos hsuffix, hsuffix, ReflOrd.compare_self]
          rfl
        · rw [if_neg hsuffix, compareStrings]
  · have hdecided : compare left.1 right.1 ≠ .eq := fun h ↦ hparts (LawfulEqOrd.eq_of_compare h)
    rw [if_neg hparts]
    cases hcompare : compare left.1 right.1 with
    | eq => exact absurd hcompare hdecided
    | lt => rfl
    | gt => rfl

theorem compareReleaseVersions_eq {left right : String} (hl : IsRelease left)
    (hr : IsRelease right) :
    compareReleaseVersions left right =
      .ok (ofOrdering (textOrder (releaseFacts left) (releaseFacts right))) := by
  rw [compareReleaseVersions, hl.parsed, hr.parsed,
    ← compareParsed_eq (hl.parts.trans hr.parts.symm)]
  rfl

/-! ## The precedence of versions -/

/-- The version as semantic versioning reads it. -/
def semanticVersion (value : String) : Semver.Version := Semver.ofText (releaseText value)

/-- The suffixes, each with its mark, are in the order of their precedence. -/
def SuffixesDecide : List Char → List Char → Prop
  | '-' :: s, '-' :: t => Semver.DecidedByText (split '.' s) (split '.' t)
  | '-' :: s, '+' :: t => compare s t = .lt
  | '+' :: s, '-' :: t => compare s t = .gt
  | '+' :: s, '+' :: t => s = t
  | '+' :: _, [] => False
  | [], '+' :: _ => False
  | _, _ => True

/-- A suffix is empty, or has a mark. -/
theorem marked_cases (text : List Char) :
    markedSuffix text = [] ∨ ∃ s, markedSuffix text = '-' :: s ∨ markedSuffix text = '+' :: s := by
  cases h : markedSuffix text with
  | nil => exact .inl rfl
  | cons c s =>
    have hmark : (!Semver.isMark c) = false := by
      have hhead := List.head?_dropWhile_not (!Semver.isMark ·) text
      rw [← markedSuffix, h] at hhead
      exact hhead
    rw [Bool.not_eq_false', Semver.isMark, Bool.or_eq_true, decide_eq_true_eq,
      decide_eq_true_eq] at hmark
    refine .inr ⟨s, hmark.imp (fun hc ↦ ?_) fun hc ↦ ?_⟩
    · rw [hc]
    · rw [hc]

theorem isIdentifierChar_of_valid {c : Char} (h : isVersionIdentifierChar c = true)
    (hdot : c ≠ '.') : Semver.IsIdentifierChar c := by
  simp only [isVersionIdentifierChar, Bool.or_eq_true, Bool.and_eq_true, decide_eq_true_eq] at h
  have hlt : ∀ d : Char, '.' < d → d ≤ c → compare '.' c = .lt := fun d hd hc ↦
    compareOfLessAndEq_eq_lt.mpr (Std.lt_of_lt_of_le hd hc)
  rcases h with (((⟨h, -⟩ | ⟨h, -⟩) | ⟨h, -⟩) | h) | h
  · exact .inr (hlt 'a' (by decide) h)
  · exact .inr (hlt 'A' (by decide) h)
  · exact .inr (hlt '0' (by decide) h)
  · exact absurd h hdot
  · exact .inl h

theorem areIdentifiers_split {s : List Char} (hs : ∀ c ∈ s, isVersionIdentifierChar c = true) :
    Semver.AreIdentifiers (split '.' s) := by
  intro u hu c hc
  obtain ⟨hmem, hdot⟩ := mem_of_mem_split hu c hc
  exact isIdentifierChar_of_valid (hs c hmem) hdot

/-- The pre-release of an accepted version. -/
theorem prereleaseOf_hyphen {s : List Char} (hs : ∀ c ∈ s, isVersionIdentifierChar c = true) :
    Semver.prereleaseOf ('-' :: s) = (split '.' s).map Semver.Identifier.ofText := by
  have hplus : ∀ c ∈ s, decide (c ≠ '+') = true := by
    intro c hc
    by_contra hplus
    rw [decide_eq_true_eq, not_not] at hplus
    exact absurd (hplus ▸ hs c hc) (by decide)
  rw [Semver.prereleaseOf, List.takeWhile_eq_self_iff.mpr hplus]

theorem compare_split {s t : List Char} (hs : ∀ c ∈ s, isVersionIdentifierChar c = true)
    (ht : ∀ c ∈ t, isVersionIdentifierChar c = true) :
    compare s t = compare ((split '.' s).map Semver.Identifier.ofText)
        ((split '.' t).map Semver.Identifier.ofText) ↔
      Semver.DecidedByText (split '.' s) (split '.' t) := by
  rw [← Semver.compare_dotted_eq_iff (areIdentifiers_split hs) (areIdentifiers_split ht),
    Semver.dotted_split, Semver.dotted_split, Semver.compare_cons, ReflOrd.compare_self,
    Ordering.eq_then]

theorem ofOrdering_inj {a b : Ordering} : ofOrdering a = ofOrdering b ↔ a = b := by
  cases a <;> cases b <;> decide

/-- The order of the suffixes as texts, with none above all others. -/
def suffixOrder (left right : List Char) : Ordering :=
  (compare left.isEmpty right.isEmpty).then (compare left right)

/-- The precedence of pre-releases, with none above all others. -/
def prereleaseOrder (left right : List Semver.Identifier) : Ordering :=
  (compare left.isEmpty right.isEmpty).then (compare left right)

theorem textOrder_eq (left right : List ℕ × List Char) :
    textOrder left right = (compare left.1 right.1).then (suffixOrder left.2 right.2) := rfl

theorem precedence_eq (left right : Semver.Version) :
    Semver.precedence left right =
      (compare left.core right.core).then (prereleaseOrder left.prerelease right.prerelease) := rfl

/-- A marked suffix that an accepted version can have. -/
structure IsSuffix (marked : List Char) : Prop where
  nonempty : marked ≠ [] → marked.tail ≠ []
  chars : ∀ c ∈ marked.tail, isVersionIdentifierChar c = true
  cases : marked = [] ∨ ∃ s, marked = '-' :: s ∨ marked = '+' :: s

theorem IsRelease.isSuffix {value : String} (h : IsRelease value) :
    IsSuffix (markedSuffix (releaseText value)) where
  nonempty := releaseFacts_snd value ▸ h.marked
  chars := releaseFacts_snd value ▸ h.chars
  cases := marked_cases _

theorem isEmpty_prereleaseOf_hyphen (s : List Char) :
    (Semver.prereleaseOf ('-' :: s)).isEmpty = false := by
  rw [Semver.prereleaseOf, List.isEmpty_map]
  exact List.isEmpty_eq_false_iff.mpr (split_ne_nil _ _)

section Suffixes

variable {s t : List Char}

theorem suffixOrder_cons (hs : s ≠ []) (ht : t ≠ []) : suffixOrder s t = compare s t := by
  rw [suffixOrder, List.isEmpty_eq_false_iff.mpr hs, List.isEmpty_eq_false_iff.mpr ht]
  rfl

theorem suffixOrder_nil_cons (ht : t ≠ []) : suffixOrder [] t = .gt := by
  rw [suffixOrder, List.isEmpty_eq_false_iff.mpr ht]
  rfl

theorem suffixOrder_cons_nil (hs : s ≠ []) : suffixOrder s [] = .lt := by
  rw [suffixOrder, List.isEmpty_eq_false_iff.mpr hs]
  rfl

theorem prereleaseOrder_nil_hyphen :
    prereleaseOrder [] (Semver.prereleaseOf ('-' :: t)) = .gt := by
  rw [prereleaseOrder, isEmpty_prereleaseOf_hyphen]
  rfl

theorem prereleaseOrder_hyphen_nil :
    prereleaseOrder (Semver.prereleaseOf ('-' :: s)) [] = .lt := by
  rw [prereleaseOrder, isEmpty_prereleaseOf_hyphen]
  rfl

theorem prereleaseOrder_hyphen (hs : ∀ c ∈ s, isVersionIdentifierChar c = true)
    (ht : ∀ c ∈ t, isVersionIdentifierChar c = true) :
    prereleaseOrder (Semver.prereleaseOf ('-' :: s)) (Semver.prereleaseOf ('-' :: t)) =
      compare ((split '.' s).map Semver.Identifier.ofText)
        ((split '.' t).map Semver.Identifier.ofText) := by
  rw [prereleaseOrder, isEmpty_prereleaseOf_hyphen, isEmpty_prereleaseOf_hyphen,
    prereleaseOf_hyphen hs, prereleaseOf_hyphen ht]
  rfl

/-- **The suffixes decide** between versions of the same numbers. -/
theorem suffixOrder_eq_iff {left right : List Char} (hl : IsSuffix left) (hr : IsSuffix right) :
    suffixOrder left.tail right.tail =
        prereleaseOrder (Semver.prereleaseOf left) (Semver.prereleaseOf right) ↔
      SuffixesDecide left right := by
  rcases hl.cases with rfl | ⟨s, rfl | rfl⟩
  · rcases hr.cases with rfl | ⟨t, rfl | rfl⟩
    · exact iff_of_true rfl trivial
    · have ht : t ≠ [] := hr.nonempty (List.cons_ne_nil _ _)
      exact iff_of_true ((suffixOrder_nil_cons ht).trans prereleaseOrder_nil_hyphen.symm) trivial
    · have ht : t ≠ [] := hr.nonempty (List.cons_ne_nil _ _)
      refine iff_of_false (fun h ↦ ?_) id
      cases (suffixOrder_nil_cons ht).symm.trans h
  · have hs : s ≠ [] := hl.nonempty (List.cons_ne_nil _ _)
    rcases hr.cases with rfl | ⟨t, rfl | rfl⟩
    · exact iff_of_true ((suffixOrder_cons_nil hs).trans prereleaseOrder_hyphen_nil.symm) trivial
    · have ht : t ≠ [] := hr.nonempty (List.cons_ne_nil _ _)
      have hsc : ∀ c ∈ s, isVersionIdentifierChar c = true := hl.chars
      have htc : ∀ c ∈ t, isVersionIdentifierChar c = true := hr.chars
      rw [List.tail_cons, List.tail_cons, suffixOrder_cons hs ht, prereleaseOrder_hyphen hsc htc]
      exact compare_split hsc htc
    · have ht : t ≠ [] := hr.nonempty (List.cons_ne_nil _ _)
      rw [List.tail_cons, List.tail_cons, suffixOrder_cons hs ht]
      exact Eq.congr_right prereleaseOrder_hyphen_nil
  · have hs : s ≠ [] := hl.nonempty (List.cons_ne_nil _ _)
    rcases hr.cases with rfl | ⟨t, rfl | rfl⟩
    · refine iff_of_false (fun h ↦ ?_) id
      cases (suffixOrder_cons_nil hs).symm.trans h
    · have ht : t ≠ [] := hr.nonempty (List.cons_ne_nil _ _)
      rw [List.tail_cons, List.tail_cons, suffixOrder_cons hs ht]
      exact Eq.congr_right prereleaseOrder_nil_hyphen
    · have ht : t ≠ [] := hr.nonempty (List.cons_ne_nil _ _)
      rw [List.tail_cons, List.tail_cons, suffixOrder_cons hs ht]
      exact LawfulEqOrd.compare_eq_iff_eq

end Suffixes

theorem ofOrdering_swap (o : Ordering) : ofOrdering o.swap = -ofOrdering o := by
  cases o <;> rfl

theorem then_eq_then {o a b : Ordering} (h : o ≠ .eq) : o.then a = o.then b := by
  cases o with
  | eq => exact absurd rfl h
  | lt => rfl
  | gt => rfl

theorem ofOrdering_nonpos {o : Ordering} : ofOrdering o ≤ 0 ↔ o.isLE = true := by
  cases o <;> decide

/-- **The order of versions** is a total preorder, and it is that of their precedence exactly where
their numbers differ or their suffixes are in the order of their precedence. -/
theorem compareReleaseVersions_precedence {u v w : String} (hu : validateReleaseVersion u = .ok ())
    (hv : validateReleaseVersion v = .ok ()) (hw : validateReleaseVersion w = .ok ()) :
    compareReleaseVersions v v = .ok 0 ∧
    (∃ c, compareReleaseVersions v w = .ok c ∧ compareReleaseVersions w v = .ok (-c)) ∧
    (∀ a b, compareReleaseVersions u v = .ok a → a ≤ 0 →
      compareReleaseVersions v w = .ok b → b ≤ 0 →
        ∃ c, compareReleaseVersions u w = .ok c ∧ c ≤ 0) ∧
    (compareReleaseVersions v w =
        .ok (ofOrdering (Semver.precedence (semanticVersion v) (semanticVersion w))) ↔
      (semanticVersion v).core ≠ (semanticVersion w).core ∨
        SuffixesDecide (markedSuffix (releaseText v)) (markedSuffix (releaseText w))) := by
  have hu := isRelease_of_valid hu
  have hv := isRelease_of_valid hv
  have hw := isRelease_of_valid hw
  refine ⟨?_, ?_, fun a b ha hle hb hle' ↦ ?_, ?_⟩
  · rw [compareReleaseVersions_eq hv hv, textOrder_self]
    rfl
  · refine ⟨_, compareReleaseVersions_eq hv hw, ?_⟩
    rw [compareReleaseVersions_eq hw hv, ← ofOrdering_swap, textOrder_swap]
  · rw [compareReleaseVersions_eq hu hv, Except.ok.injEq] at ha
    rw [compareReleaseVersions_eq hv hw, Except.ok.injEq] at hb
    subst ha hb
    refine ⟨_, compareReleaseVersions_eq hu hw, ofOrdering_nonpos.mpr ?_⟩
    exact TransCmp.isLE_trans (ofOrdering_nonpos.mp hle) (ofOrdering_nonpos.mp hle')
  · have hcore : ∀ value, (releaseFacts value).1 = (semanticVersion value).core := fun _ ↦ by
      rw [releaseFacts, semanticVersion]
    have hprerelease : ∀ value, (semanticVersion value).prerelease =
        Semver.prereleaseOf (markedSuffix (releaseText value)) := fun value ↦ by
      rw [semanticVersion, Semver.ofText, markedSuffix]
    rw [compareReleaseVersions_eq hv hw, Except.ok.injEq, ofOrdering_inj, textOrder_eq,
      precedence_eq, hcore, hcore, hprerelease, hprerelease, releaseFacts_snd, releaseFacts_snd,
      ← suffixOrder_eq_iff hv.isSuffix hw.isSuffix]
    by_cases hparts : (semanticVersion v).core = (semanticVersion w).core
    · rw [hparts, ReflOrd.compare_self, Ordering.eq_then, Ordering.eq_then]
      exact ⟨.inr, fun h ↦ h.resolve_left fun hne ↦ hne rfl⟩
    · refine iff_of_true ?_ (.inl hparts)
      exact then_eq_then fun h ↦ hparts (LawfulEqOrd.eq_of_compare h)

/-- Of the first two release candidates the texts decide. -/
theorem compareReleaseVersions_precedence_rc2 :
    compareReleaseVersions "v1.0.0-rc.1" "v1.0.0-rc.2" =
      .ok (ofOrdering (Semver.precedence (semanticVersion "v1.0.0-rc.1")
        (semanticVersion "v1.0.0-rc.2"))) := by
  have h := compareReleaseVersions_precedence (u := "v1.0.0") (v := "v1.0.0-rc.1")
    (w := "v1.0.0-rc.2") (by decide) (by decide) (by decide)
  refine h.2.2.2.mpr (.inr ?_)
  show Semver.DecidedByText [['r', 'c'], ['1']] [['r', 'c'], ['2']]
  simp [Semver.DecidedByText, Semver.Identifier.Ordered, Semver.Identifier.ofText, Semver.Hyphened,
    Semver.number]
  decide

/-- The tenth release candidate of a version is put below the ninth. -/
theorem compareReleaseVersions_rc10 :
    validateReleaseVersion "v1.0.0-rc.10" = .ok () ∧ validateReleaseVersion "v1.0.0-rc.9" = .ok () ∧
      compareReleaseVersions "v1.0.0-rc.10" "v1.0.0-rc.9" = .ok (-1) ∧
      Semver.precedence (semanticVersion "v1.0.0-rc.10") (semanticVersion "v1.0.0-rc.9") = .gt := by
  decide

end HMaigc
