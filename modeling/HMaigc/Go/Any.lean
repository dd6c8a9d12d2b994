import HMaigc.Go.Json
import Mathlib.Data.List.Sort

/-!
# Decoded JSON as Go values

What `json.Unmarshal` into an `any` gives, as the code that walks such a value meets it.  An object
is the list of its members, a name at most once.

* `member`, `setMember` — `item[key]`, and the assignment to it.
* `foldl_setMember` — what many assignments to members that are there come to.
* `sprint` — `fmt.Sprint`.
* `Json.induct` — what holds of a value whenever it holds of its parts.
* `Everywhere` — a condition on every object of a value.
-/

set_option autoImplicit false

namespace Go

/-! ## The members of an object -/

/-- `item[key]`, which is `nil` where there is no such member. -/
def member (item : List (String × Json)) (key : String) : Json := (item.lookup key).getD .null

/-- The assignment `item[key] = value`. -/
def setMember (item : List (String × Json)) (key : String) (value : Json) : List (String × Json) :=
  if key ∈ item.map Prod.fst then item.map fun m ↦ (m.1, if m.1 = key then value else m.2)
  else item ++ [(key, value)]

theorem setMember_of_mem {item : List (String × Json)} {key : String}
    (hkey : key ∈ item.map Prod.fst) (value : Json) :
    setMember item key value = item.map fun m ↦ (m.1, if m.1 = key then value else m.2) :=
  if_pos hkey

/-- **Assignments to members that are there**: each member gets the value it was assigned last. -/
theorem foldl_setMember {assignments : List (String × Json)} :
    ∀ {item : List (String × Json)}, (∀ a ∈ assignments, a.1 ∈ item.map Prod.fst) →
      assignments.foldl (fun result a ↦ setMember result a.1 a.2) item =
        item.map fun m ↦ (m.1, (assignments.reverse.lookup m.1).getD m.2) := by
  induction assignments with
  | nil => intro item _; simp
  | cons a assignments ih =>
    intro item h
    rw [List.foldl_cons, setMember_of_mem (h a List.mem_cons_self), ih, List.map_map]
    · refine List.map_congr_left fun m _ ↦ Prod.ext rfl ?_
      change (assignments.reverse.lookup m.1).getD (if m.1 = a.1 then a.2 else m.2) = _
      rw [List.reverse_cons, List.lookup_append, List.lookup_cons, List.lookup_nil]
      cases hlast : assignments.reverse.lookup m.1 with
      | some value => rfl
      | none =>
        by_cases heq : m.1 = a.1
        · simp [heq]
        · have hbeq : (m.1 == a.1) = false := by simpa using heq
          simp [heq, hbeq]
    · intro b hb
      rw [List.map_map]
      exact h b (List.mem_cons_of_mem a hb)

/-- What a change of the values that keeps the names makes of one member. -/
theorem lookup_mapIdx (key : String) :
    ∀ (item : List (String × Json)) (f : ℕ → String × Json → Json),
      (∃ i, ∃ hi : i < item.length, item[i].1 = key ∧ item.lookup key = some item[i].2 ∧
        (item.mapIdx fun i m ↦ (m.1, f i m)).lookup key = some (f i item[i])) ∨
      (key ∉ item.map Prod.fst ∧ item.lookup key = none ∧
        (item.mapIdx fun i m ↦ (m.1, f i m)).lookup key = none)
  | [], _ => by simp
  | m :: item, f => by
    by_cases heq : key = m.1
    · left
      refine ⟨0, by simp, heq.symm, ?_, ?_⟩
      · rw [List.lookup_cons, heq, beq_self_eq_true]
        rfl
      · rw [List.mapIdx_cons, List.lookup_cons, heq, beq_self_eq_true]
        rfl
    · have hbeq : (key == m.1) = false := by simpa using heq
      rw [List.lookup_cons, hbeq, List.mapIdx_cons, List.lookup_cons, hbeq]
      rcases lookup_mapIdx key item fun i ↦ f (i + 1) with
        ⟨i, hi, hkey, hold, hnew⟩ | ⟨hno, hold, hnew⟩
      · exact .inl ⟨i + 1, by simpa using hi, by simpa using hkey, by simpa using hold,
          by simpa using hnew⟩
      · exact .inr ⟨by simpa [heq] using hno, by simpa using hold, by simpa using hnew⟩

@[simp] theorem keys_mapIdx (item : List (String × Json)) (f : ℕ → String × Json → Json) :
    (item.mapIdx fun i m ↦ (m.1, f i m)).map Prod.fst = item.map Prod.fst :=
  List.ext_getElem (by simp) (by simp)

/-! ## Values as text -/

section Sprint

-- `%v` of the number a text of digits is read as.
variable (number : String → String)

mutual

/-- `fmt.Sprint`. -/
def sprint : Json → String
  | .null => "<nil>"
  | .bool true => "true"
  | .bool false => "false"
  | .num digits => number digits
  | .str text => text
  | .arr items => "[" ++ " ".intercalate (sprintItems items) ++ "]"
  | .obj members =>
    -- The members stand in the order of their names.
    let texts := (sprintMembers members).insertionSort fun a b ↦ a.1 ≤ b.1
    "map[" ++ " ".intercalate (texts.map fun m ↦ m.1 ++ ":" ++ m.2) ++ "]"

def sprintItems : List Json → List String
  | [] => []
  | item :: items => sprint item :: sprintItems items

def sprintMembers : List (String × Json) → List (String × String)
  | [] => []
  | (key, child) :: members => (key, sprint child) :: sprintMembers members

end

end Sprint

/-! ## Induction over a value -/

/-- Neither an object nor an array. -/
def Json.isScalar : Json → Bool
  | .arr _ | .obj _ => false
  | _ => true

section Induct

variable {P : Json → Prop}

mutual

/-- What holds of a value whenever it holds of its parts holds of every value. -/
theorem Json.induct (scalar : ∀ v : Json, v.isScalar = true → P v)
    (arr : ∀ items, (∀ v ∈ items, P v) → P (.arr items))
    (obj : ∀ members, (∀ m ∈ members, P m.2) → P (.obj members)) : ∀ v, P v
  | .null => scalar _ rfl
  | .bool _ => scalar _ rfl
  | .num _ => scalar _ rfl
  | .str _ => scalar _ rfl
  | .arr items => arr items (Json.induct_items scalar arr obj items)
  | .obj members => obj members (Json.induct_members scalar arr obj members)

theorem Json.induct_items (scalar : ∀ v : Json, v.isScalar = true → P v)
    (arr : ∀ items, (∀ v ∈ items, P v) → P (.arr items))
    (obj : ∀ members, (∀ m ∈ members, P m.2) → P (.obj members)) :
    ∀ items : List Json, ∀ v ∈ items, P v
  | [], _, h => absurd h List.not_mem_nil
  | item :: items, v, h => by
    rcases List.mem_cons.mp h with heq | h
    · rw [heq]
      exact Json.induct scalar arr obj item
    · exact Json.induct_items scalar arr obj items v h

theorem Json.induct_members (scalar : ∀ v : Json, v.isScalar = true → P v)
    (arr : ∀ items, (∀ v ∈ items, P v) → P (.arr items))
    (obj : ∀ members, (∀ m ∈ members, P m.2) → P (.obj members)) :
    ∀ members : List (String × Json), ∀ m ∈ members, P m.2
  | [], _, h => absurd h List.not_mem_nil
  | (key, child) :: members, m, h => by
    rcases List.mem_cons.mp h with heq | h
    · rw [heq]
      exact Json.induct scalar arr obj child
    · exact Json.induct_members scalar arr obj members m h

end

end Induct

/-- `P` holds of the members of every object in the value. -/
inductive Everywhere (P : List (String × Json) → Prop) : Json → Prop
  | scalar {v : Json} (h : v.isScalar = true) : Everywhere P v
  | arr {items : List Json} (h : ∀ v ∈ items, Everywhere P v) : Everywhere P (.arr items)
  | obj {members : List (String × Json)} (here : P members)
    (h : ∀ m ∈ members, Everywhere P m.2) : Everywhere P (.obj members)

namespace Everywhere

variable {P Q : List (String × Json) → Prop}

theorem items {items : List Json} (h : Everywhere P (.arr items)) :
    ∀ v ∈ items, Everywhere P v := by
  cases h with
  | scalar h => cases h
  | arr h => exact h

theorem here {members : List (String × Json)} (h : Everywhere P (.obj members)) : P members := by
  cases h with
  | scalar h => cases h
  | obj here _ => exact here

theorem members {members : List (String × Json)} (h : Everywhere P (.obj members)) :
    ∀ m ∈ members, Everywhere P m.2 := by
  cases h with
  | scalar h => cases h
  | obj _ h => exact h

theorem mono (himp : ∀ members, P members → Q members) {v : Json} (h : Everywhere P v) :
    Everywhere Q v := by
  induction h with
  | scalar h => exact .scalar h
  | arr _ ih => exact .arr ih
  | obj here _ ih => exact .obj (himp _ here) ih

theorem of_forall (h : ∀ members, P members) (v : Json) : Everywhere P v := by
  induction v using Json.induct with
  | scalar v hv => exact .scalar hv
  | arr items ih => exact .arr ih
  | obj members ih => exact .obj (h members) ih

end Everywhere

end Go
