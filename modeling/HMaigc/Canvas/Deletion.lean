import HMaigc.Js.Error
import Mathlib.Data.List.Perm.Basic
import Mathlib.Data.List.Nodup

/-!
# Deleting several canvases

`services/canvas-project-deletion.ts`: canvases that are only here are deleted with those that had
to be deleted on the server first.

* `deleteProjects` — the whole batch, over what its dependencies answer.
* `route_perm`, `stage_perm`, `deleteRemotes_perm` — no stage loses an identifier.
* `accountsForAll_iff` — when the batch accounts for every identifier.
-/

set_option autoImplicit false

namespace HMaigc

open Js

namespace Deletion

/-! ### The batch -/

structure Target where
  id : String
  requiresRemoteDelete : Bool
  canManage : Bool

structure Failure where
  id : String
  reason : String
deriving DecidableEq

/-- What the dependencies answer, and that a target is the one that was asked for. -/
structure Dependencies where
  resolveTarget : String → Option Target
  hasRemoteSession : Bool
  isRemoteDeleteStaged : String → Bool
  stageRemoteDelete : List String → Except Thrown Unit
  cancelRemoteDelete : List String → Except Thrown Unit
  waitForRemoteWrites : Except Thrown Unit
  deleteRemote : String → Except Thrown Unit
  deleteLocal : List String → Except Thrown Unit
  resolves : ∀ id target, resolveTarget id = some target → target.id = id

def isAlreadyDeleted : Thrown → Bool
  | .error _ status => status == some 404
  | .other => false

def deletionErrorMessage (error : Thrown) (fallback : String) : String :=
  match error with
  | .error message _ => if trim message ≠ "" then message else fallback
  | .other => fallback

/-- The identifiers by the way they take. -/
structure Routes where
  localOnlyIds : List String := []
  remoteTargets : List Target := []
  failures : List Failure := []

def Routes.fail (routes : Routes) (id reason : String) : Routes :=
  { routes with failures := routes.failures ++ [⟨id, reason⟩] }

def routeId (d : Dependencies) (routes : Routes) (id : String) : Routes :=
  match d.resolveTarget id with
  | none => routes.fail id "画布不存在或已被删除"
  | some target =>
    if target.canManage = false then routes.fail id "当前用户不能删除该画布"
    else if target.requiresRemoteDelete = true then
      if d.hasRemoteSession = false then routes.fail id "尚未建立云端同步会话"
      else { routes with remoteTargets := routes.remoteTargets ++ [target] }
    else { routes with localOnlyIds := routes.localOnlyIds ++ [id] }

def route (d : Dependencies) (ids : List String) : Routes :=
  ids.eraseDups.foldl (routeId d) {}

/-- The remote identifiers that are to be deleted, and the failures so far. -/
structure Staged where
  ids : List String
  failures : List Failure

def freshRemoteIds (d : Dependencies) (targets : List Target) : List String :=
  (targets.map Target.id).filter fun id ↦ !d.isRemoteDeleteStaged id

def stageRemotes (d : Dependencies) (routes : Routes) : Staged :=
  let fresh := freshRemoteIds d routes.remoteTargets
  let ids := routes.remoteTargets.map Target.id
  if fresh = [] then ⟨ids, routes.failures⟩
  else
    match d.stageRemoteDelete fresh with
    | .ok _ => ⟨ids, routes.failures⟩
    | .error error =>
      let reason := deletionErrorMessage error "无法持久化画布删除请求"
      ⟨ids.filter fun id ↦ decide (id ∉ fresh),
        routes.failures ++ fresh.map fun id ↦ ⟨id, reason⟩⟩

structure Remotes where
  deletedIds : List String := []
  failedIds : List String := []
  failures : List Failure

def deleteRemoteId (d : Dependencies) (remotes : Remotes) (id : String) : Remotes :=
  match d.deleteRemote id with
  | .ok _ => { remotes with deletedIds := remotes.deletedIds ++ [id] }
  | .error error =>
    if isAlreadyDeleted error then { remotes with deletedIds := remotes.deletedIds ++ [id] }
    else
      { remotes with
        failedIds := remotes.failedIds ++ [id]
        failures := remotes.failures ++ [⟨id, deletionErrorMessage error "云端删除失败"⟩] }

def deleteRemotes (d : Dependencies) (staged : Staged) : Remotes :=
  staged.ids.foldl (deleteRemoteId d) ⟨[], [], staged.failures⟩

/-- The failures after the requests of the failed identifiers were cancelled. -/
def cancelRemotes (d : Dependencies) (remotes : Remotes) : List Failure :=
  if remotes.failedIds = [] then remotes.failures
  else
    match d.cancelRemoteDelete remotes.failedIds with
    | .ok _ => remotes.failures
    | .error error =>
      let reason := deletionErrorMessage error "无法撤销画布删除请求"
      remotes.failures.map fun failure ↦
        if failure.id ∈ remotes.failedIds then
          { failure with reason := failure.reason ++ "；" ++ reason }
        else failure

/-- The answer, and the calls of `deleteLocal`. -/
structure Outcome where
  deletedIds : List String
  failures : List Failure
  localCalls : List (List String)
deriving DecidableEq

def finish (d : Dependencies) (completedIds : List String) (failures : List Failure) : Outcome :=
  if completedIds = [] then ⟨[], failures, []⟩
  else
    match d.deleteLocal completedIds with
    | .ok _ => ⟨completedIds, failures, [completedIds]⟩
    | .error error =>
      let reason := deletionErrorMessage error "本地画布删除状态保存失败"
      ⟨[], failures ++ completedIds.map fun id ↦ ⟨id, reason⟩, [completedIds]⟩

/-- After the writes on their way have been waited for. -/
def afterWrites (d : Dependencies) (routes : Routes) (staged : Staged) : Outcome :=
  let remotes := deleteRemotes d staged
  finish d (routes.localOnlyIds ++ remotes.deletedIds) (cancelRemotes d remotes)

def deleteProjects (d : Dependencies) (ids : List String) : Outcome :=
  let routes := route d ids
  let staged := stageRemotes d routes
  if staged.ids = [] then afterWrites d routes staged
  else
    match d.waitForRemoteWrites with
    | .ok _ => afterWrites d routes staged
    | .error error =>
      let reason := deletionErrorMessage error "等待云端同步写入完成失败"
      ⟨[], staged.failures ++ staged.ids.map fun id ↦ ⟨id, reason⟩, []⟩

/-! ### No identifier is lost -/

section

variable {d : Dependencies} {ids : List String} {id : String}

/-- The identifier is of a canvas that is only here. -/
def isLocalOnly (d : Dependencies) (id : String) : Bool :=
  match d.resolveTarget id with
  | none => false
  | some target => target.canManage && !target.requiresRemoteDelete

/-- The identifier is of a canvas that is to be deleted on the server, and can be. -/
def isRemote (d : Dependencies) (id : String) : Bool :=
  match d.resolveTarget id with
  | none => false
  | some target => target.canManage && target.requiresRemoteDelete && d.hasRemoteSession

/-- The identifiers that have been given a way. -/
def Routes.all (routes : Routes) : List String :=
  routes.failures.map Failure.id ++ (routes.localOnlyIds ++ routes.remoteTargets.map Target.id)

/-- What one identifier adds. -/
theorem routeId_cases (d : Dependencies) (routes : Routes) (id : String) :
    (isLocalOnly d id = false ∧ isRemote d id = false ∧
      ∃ reason, routeId d routes id = routes.fail id reason) ∨
    (isLocalOnly d id = false ∧ isRemote d id = true ∧ ∃ target, target.id = id ∧
      routeId d routes id = { routes with remoteTargets := routes.remoteTargets ++ [target] }) ∨
    (isLocalOnly d id = true ∧ isRemote d id = false ∧
      routeId d routes id = { routes with localOnlyIds := routes.localOnlyIds ++ [id] }) := by
  rw [routeId, isLocalOnly, isRemote]
  cases htarget : d.resolveTarget id with
  | none => exact .inl ⟨rfl, rfl, _, rfl⟩
  | some target =>
    dsimp only
    cases hmanage : target.canManage with
    | false => exact .inl ⟨rfl, rfl, _, rfl⟩
    | true =>
      cases hremote : target.requiresRemoteDelete with
      | false => exact .inr (.inr ⟨rfl, rfl, rfl⟩)
      | true =>
        cases hsession : d.hasRemoteSession with
        | false => exact .inl ⟨rfl, rfl, _, rfl⟩
        | true => exact .inr (.inl ⟨rfl, rfl, target, d.resolves id target htarget, rfl⟩)

theorem foldl_routeId (d : Dependencies) (l : List String) (routes : Routes) :
    (l.foldl (routeId d) routes).all.Perm (routes.all ++ l) ∧
      (l.foldl (routeId d) routes).localOnlyIds = routes.localOnlyIds ++ l.filter (isLocalOnly d) ∧
      (l.foldl (routeId d) routes).remoteTargets.map Target.id =
        routes.remoteTargets.map Target.id ++ l.filter (isRemote d) := by
  induction l generalizing routes with
  | nil => simp
  | cons id l ih =>
    obtain ⟨hperm, hlocal, hremote⟩ := ih (routeId d routes id)
    rw [List.foldl_cons, hlocal, hremote]
    have hids : (routeId d routes id).all.Perm (routes.all ++ [id]) := by
      rcases routeId_cases d routes id with ⟨-, -, reason, heq⟩ | ⟨-, -, target, rfl, heq⟩ |
        ⟨-, -, heq⟩
      · rw [heq, Routes.fail, Routes.all, Routes.all, List.map_append, List.append_assoc,
          List.append_assoc]
        exact List.perm_append_comm.append_left _
      · rw [heq, Routes.all, Routes.all, List.map_append]
        simp
      · rw [heq, Routes.all, Routes.all]
        simp only [List.append_assoc]
        exact (List.perm_append_comm.append_left _).append_left _
    refine ⟨hperm.trans ?_, ?_, ?_⟩
    · calc ((routeId d routes id).all ++ l).Perm ((routes.all ++ [id]) ++ l) := hids.append_right l
        _ = routes.all ++ id :: l := by simp
    · rcases routeId_cases d routes id with ⟨h, -, reason, heq⟩ | ⟨h, -, target, -, heq⟩ |
        ⟨h, -, heq⟩
      · rw [heq, List.filter_cons_of_neg (by simp [h]), Routes.fail]
      · rw [heq, List.filter_cons_of_neg (by simp [h])]
      · rw [heq, List.filter_cons_of_pos h]
        simp
    · rcases routeId_cases d routes id with ⟨-, h, reason, heq⟩ | ⟨-, h, target, rfl, heq⟩ |
        ⟨-, h, heq⟩
      · rw [heq, List.filter_cons_of_neg (by simp [h]), Routes.fail]
      · rw [heq, List.filter_cons_of_pos h]
        simp
      · rw [heq, List.filter_cons_of_neg (by simp [h])]

/-- **Every identifier is given one way.** -/
theorem route_perm : (route d ids).all.Perm ids.eraseDups := by
  simpa [route, Routes.all] using (foldl_routeId d ids.eraseDups {}).1

theorem localOnlyIds_route : (route d ids).localOnlyIds = ids.eraseDups.filter (isLocalOnly d) := by
  simpa [route] using (foldl_routeId d ids.eraseDups {}).2.1

theorem remoteTargets_route :
    (route d ids).remoteTargets.map Target.id = ids.eraseDups.filter (isRemote d) := by
  simpa [route] using (foldl_routeId d ids.eraseDups {}).2.2

/-- **A remote identifier is staged, or it fails.** -/
theorem stage_perm (routes : Routes) :
    ((stageRemotes d routes).failures.map Failure.id ++ (stageRemotes d routes).ids).Perm
      (routes.failures.map Failure.id ++ routes.remoteTargets.map Target.id) := by
  rw [stageRemotes]
  dsimp only
  split
  · exact .refl _
  · cases hstage : d.stageRemoteDelete (freshRemoteIds d routes.remoteTargets) with
    | ok _ => exact .refl _
    | error error =>
      dsimp only
      have hfresh : ((freshRemoteIds d routes.remoteTargets).map fun id ↦
          (⟨id, deletionErrorMessage error "无法持久化画布删除请求"⟩ : Failure)).map Failure.id =
            freshRemoteIds d routes.remoteTargets := by
        rw [List.map_map]
        exact List.map_id _
      have hfilter : (routes.remoteTargets.map Target.id).filter
          (fun id ↦ decide (id ∉ freshRemoteIds d routes.remoteTargets)) =
            (routes.remoteTargets.map Target.id).filter
              (fun id ↦ !(!d.isRemoteDeleteStaged id)) := by
        refine List.filter_congr fun id hid ↦ ?_
        simp only [freshRemoteIds, List.mem_filter, hid, true_and]
        cases d.isRemoteDeleteStaged id
        · rfl
        · rfl
      rw [List.map_append, hfresh, List.append_assoc, hfilter, freshRemoteIds]
      exact (List.filter_append_perm _ _).append_left _

/-- The canvas is no longer on the server. -/
def GoneRemotely (d : Dependencies) (id : String) : Prop :=
  d.deleteRemote id = .ok () ∨
    ∃ error, d.deleteRemote id = .error error ∧ isAlreadyDeleted error = true

theorem deleteRemoteId_cases (d : Dependencies) (remotes : Remotes) (id : String) :
    (GoneRemotely d id ∧ deleteRemoteId d remotes id =
      { remotes with deletedIds := remotes.deletedIds ++ [id] }) ∨
    ∃ reason, deleteRemoteId d remotes id =
      { remotes with
        failedIds := remotes.failedIds ++ [id]
        failures := remotes.failures ++ [⟨id, reason⟩] } := by
  rw [deleteRemoteId, GoneRemotely]
  cases hdelete : d.deleteRemote id with
  | ok _ => exact .inl ⟨.inl rfl, rfl⟩
  | error error =>
    dsimp only
    split
    next habsent => exact .inl ⟨.inr ⟨error, rfl, habsent⟩, rfl⟩
    next => exact .inr ⟨_, rfl⟩

theorem foldl_deleteRemoteId (d : Dependencies) (l : List String) (remotes : Remotes) :
    ((l.foldl (deleteRemoteId d) remotes).deletedIds ++
        (l.foldl (deleteRemoteId d) remotes).failures.map Failure.id).Perm
      (remotes.deletedIds ++ remotes.failures.map Failure.id ++ l) ∧
    ∀ id ∈ (l.foldl (deleteRemoteId d) remotes).deletedIds,
      id ∈ remotes.deletedIds ∨ (id ∈ l ∧ GoneRemotely d id) := by
  induction l generalizing remotes with
  | nil => simp
  | cons id l ih =>
    obtain ⟨hperm, hgone⟩ := ih (deleteRemoteId d remotes id)
    rw [List.foldl_cons]
    rcases deleteRemoteId_cases d remotes id with ⟨hid, heq⟩ | ⟨reason, heq⟩
    · rw [heq] at hperm hgone ⊢
      refine ⟨hperm.trans ?_, ?_⟩
      · simp only [List.append_assoc, List.cons_append, List.nil_append]
        exact List.perm_middle.symm.append_left _
      · intro other hother
        rcases hgone other hother with hbefore | ⟨hl, hother_gone⟩
        · rcases List.mem_append.mp hbefore with hbefore | hlast
          · exact .inl hbefore
          · rw [List.mem_singleton.mp hlast]
            exact .inr ⟨.head _, hid⟩
        · exact .inr ⟨.tail _ hl, hother_gone⟩
    · rw [heq] at hperm hgone ⊢
      refine ⟨hperm.trans ?_, ?_⟩
      · simp
      · intro other hother
        rcases hgone other hother with hbefore | ⟨hl, hother_gone⟩
        · exact .inl hbefore
        · exact .inr ⟨.tail _ hl, hother_gone⟩

/-- **A staged identifier is deleted, or it fails.** -/
theorem deleteRemotes_perm (staged : Staged) :
    ((deleteRemotes d staged).deletedIds ++ (deleteRemotes d staged).failures.map Failure.id).Perm
      (staged.failures.map Failure.id ++ staged.ids) := by
  simpa [deleteRemotes] using (foldl_deleteRemoteId d staged.ids ⟨[], [], staged.failures⟩).1

theorem gone_of_deleted {staged : Staged} (h : id ∈ (deleteRemotes d staged).deletedIds) :
    id ∈ staged.ids ∧ GoneRemotely d id := by
  rcases (foldl_deleteRemoteId d staged.ids ⟨[], [], staged.failures⟩).2 id h with hnone | hgone
  · cases hnone
  · exact hgone

/-- Cancelling changes reasons only. -/
theorem map_id_cancelRemotes (remotes : Remotes) :
    (cancelRemotes d remotes).map Failure.id = remotes.failures.map Failure.id := by
  rw [cancelRemotes]
  split
  · rfl
  · cases d.cancelRemoteDelete remotes.failedIds with
    | ok _ => rfl
    | error error =>
      dsimp only
      rw [List.map_map]
      refine List.map_congr_left fun failure _ ↦ ?_
      dsimp only [Function.comp_apply]
      split
      · rfl
      · rfl

theorem finish_perm (completedIds : List String) (failures : List Failure) :
    ((finish d completedIds failures).deletedIds ++
        (finish d completedIds failures).failures.map Failure.id).Perm
      (completedIds ++ failures.map Failure.id) := by
  rw [finish]
  split
  next hnone =>
    rw [hnone]
  next =>
    cases d.deleteLocal completedIds with
    | ok _ => exact .refl _
    | error error =>
      dsimp only
      rw [List.map_append, List.map_map, List.nil_append]
      have hids : completedIds.map (Failure.id ∘ fun id ↦
          (⟨id, deletionErrorMessage error "本地画布删除状态保存失败"⟩ : Failure)) = completedIds :=
        List.map_id _
      rw [hids]
      exact List.perm_append_comm

/-- What is deleted locally is what was completed. -/
theorem finish_spec (d : Dependencies) (completedIds : List String) (failures : List Failure) :
    (∀ id ∈ (finish d completedIds failures).deletedIds, id ∈ completedIds) ∧
    (∀ call ∈ (finish d completedIds failures).localCalls, call = completedIds) ∧
    (completedIds ≠ [] → completedIds ∈ (finish d completedIds failures).localCalls ∧
      (d.deleteLocal completedIds = .ok () →
        (finish d completedIds failures).deletedIds = completedIds)) := by
  rw [finish]
  split
  next hnone => simp [hnone]
  next =>
    cases hlocal : d.deleteLocal completedIds with
    | ok _ => simp
    | error error => simp

/-! ### Accounting -/

/-- The canvas has to be deleted on the server. -/
def NeedsRemote (d : Dependencies) (id : String) : Prop :=
  ∃ target, d.resolveTarget id = some target ∧ target.requiresRemoteDelete = true

/-- Every identifier has one outcome, and the right one. -/
structure AccountsForAll (d : Dependencies) (ids : List String) (outcome : Outcome) : Prop where
  once : (outcome.deletedIds ++ outcome.failures.map Failure.id).Perm ids.eraseDups
  deleted : ∀ id ∈ outcome.deletedIds, NeedsRemote d id → GoneRemotely d id
  calls : ∀ call ∈ outcome.localCalls, ∀ id ∈ call, NeedsRemote d id → GoneRemotely d id
  localOnly : ∀ id ∈ ids, isLocalOnly d id = true → ∃ call ∈ outcome.localCalls, id ∈ call ∧
    (d.deleteLocal call = .ok () → id ∈ outcome.deletedIds)

/-- A canvas on the server is deleted after the writes on their way: its deletion is staged, or can
be. -/
def AwaitsWrites (d : Dependencies) (ids : List String) : Prop :=
  ∃ id ∈ ids, isRemote d id = true ∧ (d.isRemoteDeleteStaged id = true ∨
    d.stageRemoteDelete ((ids.eraseDups.filter (isRemote d)).filter
      fun id ↦ !d.isRemoteDeleteStaged id) = .ok ())

/-- Waiting for the writes fails, and there are canvases that need not have waited. -/
def LocalStranded (d : Dependencies) (ids : List String) : Prop :=
  (∃ error, d.waitForRemoteWrites = .error error) ∧ AwaitsWrites d ids ∧
    ∃ id ∈ ids, isLocalOnly d id = true

theorem freshRemoteIds_route : freshRemoteIds d (route d ids).remoteTargets =
    (ids.eraseDups.filter (isRemote d)).filter fun id ↦ !d.isRemoteDeleteStaged id := by
  rw [freshRemoteIds, remoteTargets_route]

theorem awaitsWrites_iff : AwaitsWrites d ids ↔ (stageRemotes d (route d ids)).ids ≠ [] := by
  rw [stageRemotes, AwaitsWrites]
  dsimp only
  rw [freshRemoteIds_route, remoteTargets_route]
  split
  next hfresh =>
    have hstaged : ∀ id ∈ ids.eraseDups.filter (isRemote d), d.isRemoteDeleteStaged id = true := by
      intro id hid
      simpa using List.filter_eq_nil_iff.mp hfresh id hid
    rw [Ne, List.filter_eq_nil_iff]
    push Not
    constructor
    · rintro ⟨id, hid, hremote, -⟩
      exact ⟨id, List.mem_eraseDups.mpr hid, hremote⟩
    · rintro ⟨id, hid, hremote⟩
      exact ⟨id, List.mem_eraseDups.mp hid, hremote,
        .inl (hstaged id (List.mem_filter.mpr ⟨hid, hremote⟩))⟩
  next hfresh =>
    cases hstage : d.stageRemoteDelete ((ids.eraseDups.filter (isRemote d)).filter
        fun id ↦ !d.isRemoteDeleteStaged id) with
    | ok _ =>
      simp only [or_true, and_true, Ne, List.filter_eq_nil_iff]
      push Not
      constructor
      · rintro ⟨id, hid, hremote⟩
        exact ⟨id, List.mem_eraseDups.mpr hid, hremote⟩
      · rintro ⟨id, hid, hremote⟩
        exact ⟨id, List.mem_eraseDups.mp hid, hremote⟩
    | error error =>
      simp only [reduceCtorEq, or_false, Ne, List.filter_eq_nil_iff, List.mem_filter]
      push Not
      constructor
      · rintro ⟨id, hid, hremote, hstaged⟩
        exact ⟨id, ⟨List.mem_eraseDups.mpr hid, hremote⟩, by simp [hstaged]⟩
      · rintro ⟨id, ⟨hid, hremote⟩, hfilter⟩
        refine ⟨id, List.mem_eraseDups.mp hid, hremote, ?_⟩
        by_contra hnot
        have hfalse : d.isRemoteDeleteStaged id = false := by simpa using hnot
        simp [hid, hremote, hfalse] at hfilter

theorem isLocalOnly_iff : id ∈ (route d ids).localOnlyIds ↔ id ∈ ids ∧ isLocalOnly d id = true := by
  rw [localOnlyIds_route, List.mem_filter, List.mem_eraseDups]

theorem not_needsRemote (h : isLocalOnly d id = true) : ¬NeedsRemote d id := by
  rintro ⟨target, htarget, hrequires⟩
  rw [isLocalOnly, htarget] at h
  simp [hrequires] at h

/-- The identifiers that are completed. -/
theorem gone_of_completed (h : id ∈ (route d ids).localOnlyIds ++
    (deleteRemotes d (stageRemotes d (route d ids))).deletedIds) (hneeds : NeedsRemote d id) :
    GoneRemotely d id := by
  rcases List.mem_append.mp h with hlocal | hremote
  · exact absurd hneeds (not_needsRemote (isLocalOnly_iff.mp hlocal).2)
  · exact (gone_of_deleted hremote).2

/-- **The batch accounts for all that it does not give up.** -/
theorem accountsForAll_afterWrites :
    AccountsForAll d ids (afterWrites d (route d ids) (stageRemotes d (route d ids))) := by
  obtain ⟨hdeleted, hcalls, hall⟩ := finish_spec d
    ((route d ids).localOnlyIds ++ (deleteRemotes d (stageRemotes d (route d ids))).deletedIds)
    (cancelRemotes d (deleteRemotes d (stageRemotes d (route d ids))))
  constructor
  · refine (finish_perm _ _).trans ?_
    rw [map_id_cancelRemotes, List.append_assoc]
    refine ((deleteRemotes_perm _).append_left _).trans ?_
    refine ((stage_perm _).append_left _).trans ?_
    refine List.Perm.trans ?_ (route_perm (d := d))
    rw [Routes.all, ← List.append_assoc, ← List.append_assoc]
    exact List.perm_append_comm.append_right _
  · intro id hid hneeds
    exact gone_of_completed (hdeleted id hid) hneeds
  · intro call hcall id hid hneeds
    rw [hcalls call hcall] at hid
    exact gone_of_completed hid hneeds
  · intro id hid hlocal
    have hin := isLocalOnly_iff.mpr ⟨hid, hlocal⟩
    obtain ⟨hcall, hok⟩ := hall (List.append_ne_nil_of_left_ne_nil (List.ne_nil_of_mem hin) _)
    refine ⟨_, hcall, List.mem_append_left _ hin, fun hdelete ↦ ?_⟩
    rw [afterWrites, hok hdelete]
    exact List.mem_append_left _ hin

end

/-- **When a batch accounts for every identifier.** -/
theorem accountsForAll_iff (d : Dependencies) (ids : List String) :
    AccountsForAll d ids (deleteProjects d ids) ↔ ¬LocalStranded d ids := by
  rw [deleteProjects]
  dsimp only
  split
  next hnone =>
    refine iff_of_true accountsForAll_afterWrites ?_
    rintro ⟨-, hawaits, -⟩
    exact awaitsWrites_iff.mp hawaits hnone
  next hsome =>
    have hawaits : AwaitsWrites d ids := awaitsWrites_iff.mpr hsome
    cases hwait : d.waitForRemoteWrites with
    | ok _ =>
      refine iff_of_true accountsForAll_afterWrites ?_
      rintro ⟨⟨error, herror⟩, -, -⟩
      rw [hwait] at herror
      cases herror
    | error error =>
      dsimp only
      constructor
      · rintro haccounts ⟨-, -, id, hid, hlocal⟩
        obtain ⟨call, hcall, -⟩ := haccounts.localOnly id hid hlocal
        cases hcall
      · intro hnot
        have hnone : ∀ id ∈ ids, ¬isLocalOnly d id = true := by
          intro id hid hlocal
          exact hnot ⟨⟨error, hwait⟩, hawaits, id, hid, hlocal⟩
        have hlocalOnly : (route d ids).localOnlyIds = [] := by
          rw [localOnlyIds_route, List.filter_eq_nil_iff]
          intro id hid
          exact hnone id (List.mem_eraseDups.mp hid)
        constructor
        · rw [List.nil_append, List.map_append, List.map_map]
          have hids : (stageRemotes d (route d ids)).ids.map (Failure.id ∘ fun id ↦
              (⟨id, deletionErrorMessage error "等待云端同步写入完成失败"⟩ : Failure)) =
                (stageRemotes d (route d ids)).ids := List.map_id _
          rw [hids]
          refine (stage_perm _).trans (List.Perm.trans ?_ (route_perm (d := d)))
          rw [Routes.all, hlocalOnly, List.nil_append]
        · intro id hid
          cases hid
        · intro call hcall
          cases hcall
        · intro id hid hlocal
          exact absurd hlocal (hnone id hid)

/-- One canvas on the server and one that is only here, when the writes cannot be waited for. -/
def strandedDependencies : Dependencies where
  resolveTarget id := some ⟨id, id == "remote", true⟩
  hasRemoteSession := true
  isRemoteDeleteStaged _ := false
  stageRemoteDelete _ := .ok ()
  cancelRemoteDelete _ := .ok ()
  waitForRemoteWrites := .error .other
  deleteRemote _ := .ok ()
  deleteLocal _ := .ok ()
  resolves id target h := by
    cases h
    rfl

theorem not_accountsForAll_stranded :
    deleteProjects strandedDependencies ["local", "remote"] =
        ⟨[], [⟨"remote", "等待云端同步写入完成失败"⟩], []⟩ ∧
      ¬AccountsForAll strandedDependencies ["local", "remote"]
        (deleteProjects strandedDependencies ["local", "remote"]) := by
  refine ⟨by decide, fun haccounts ↦ ?_⟩
  obtain ⟨call, hcall, -⟩ := haccounts.localOnly "local" (by decide) (by decide)
  have hnone : (deleteProjects strandedDependencies ["local", "remote"]).localCalls = [] := by
    decide
  rw [hnone] at hcall
  cases hcall

end Deletion

end HMaigc
