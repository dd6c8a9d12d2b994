import HMaigc.Go.Basic
import HMaigc.Proc.Machine
import Mathlib.Algebra.Order.BigOperators.Group.List
import Mathlib.Algebra.Order.Ring.Int

/-!
# The quota of uploads

`service/upload_quota.go`, `resource.go` and `StoreUpload`: an upload reserves its bytes before it
is stored, and commits or releases the reservation afterwards.  What a user has used stands in three
places: the bytes that are pending in memory, the counter of the day, and the sizes of the stored
rows.

* `QuotaState.step` — any number of uploads by any users; all but the rows is changed under one
  mutex.
* `Balanced` — what the books are to say, and `Kept`, what is promised of a step.
* `upload_kept_iff` — **a step keeps this exactly if a reservation that is accepted still fits the
  stored rows, and a reservation that is released has left no row**.
* `not_kept_failedUpload` — an upload whose file cannot be written leaves its row.
* `can_finish` — every upload can be brought to its end.
-/

set_option autoImplicit false

namespace HMaigc.UploadQuota

open Go

/-! ## Rows and uploads -/

inductive ResourceStatus
  | pending | ready | failed
  deriving DecidableEq

/-- A row of `resources` or `session_files`, which have no status. -/
structure StoredFile where
  id : String
  userID : String
  size : ℤ
  status : ResourceStatus
  deriving DecidableEq

/-- How far an upload has come since its bytes were reserved. -/
inductive Phase
  | reserved | failed | stored | committed | released
  deriving DecidableEq

/-- It was committed or released. -/
def Phase.isFinished : Phase → Bool
  | committed | released => true
  | _ => false

structure Upload where
  userID : String
  day : String
  size : ℤ
  phase : Phase
  /-- The row it has created. -/
  fileID : Option String
  deriving DecidableEq

/-- A reservation that has read what the user has stored, and holds the mutex. -/
structure Reserving where
  userID : String
  day : String
  size : ℤ
  dailyLimit : ℤ
  storedLimit : ℤ
  storedBytes : ℤ

structure QuotaState where
  /-- `pendingStorage`. -/
  pending : String → ℤ
  /-- `user_daily_upload_usages`: the bytes of a user and a day. -/
  daily : String → String → ℤ
  files : List StoredFile
  reserving : Option Reserving
  /-- All reservations that were accepted. -/
  uploads : List Upload

inductive QuotaAction
  /-- `reserveUserStoredFileQuota`, up to `UserStoredFileBytes`. -/
  | readStored (userID day : String) (size exclusiveSingleFileLimit dailyLimit storedLimit : ℤ)
  /-- The rest of it; the database may refuse the counter. -/
  | reserve (available : Bool)
  /-- The row of an upload is created. -/
  | create (upload : ℕ) (fileID : String)
  /-- Storing fails; the row, if there is one, is saved as failed unless that fails, too. -/
  | fail (upload : ℕ) (saved : Bool)
  /-- Storing succeeds. -/
  | store (upload : ℕ)
  /-- `StoreUpload` succeeds with the row it creates last. -/
  | storeSession (upload : ℕ) (fileID : String) (size : ℤ)
  | release (upload : ℕ) (available : Bool)
  | commit (upload : ℕ)
  /-- Files that are no uploads are stored, and files are deleted. -/
  | storeOther (file : StoredFile)
  | delete (fileID : String)

inductive QuotaError
  | refused (message : String)
  | database

def formatStorageLimit (value : ℤ) : String :=
  if value % 2 ^ 30 = 0 then toString (value / 2 ^ 30) ++ "GB"
  else toString (value / 2 ^ 20) ++ "MB"

namespace QuotaState

def new : QuotaState := ⟨fun _ ↦ 0, fun _ _ ↦ 0, [], none, []⟩

/-- `UserStoredFileBytes`. -/
def userStoredFileBytes (s : QuotaState) (userID : String) : ℤ :=
  (s.files.map fun file ↦ if file.userID = userID then file.size else 0).sum

/-- `decreasePendingStorage`; a user without an entry has 0. -/
def decreasePendingStorage (s : QuotaState) (userID : String) (size : ℤ) : QuotaState :=
  { s with pending := Function.update s.pending userID (max 0 (s.pending userID - size)) }

def setDaily (s : QuotaState) (userID day : String) (bytes : ℤ) : QuotaState :=
  { s with daily := Function.update s.daily userID (Function.update (s.daily userID) day bytes) }

/-- `ReleaseDailyUpload`. -/
def releaseDailyUpload (s : QuotaState) (userID day : String) (size : ℤ) : QuotaState :=
  s.setDaily userID day
    (if size ≤ s.daily userID day then s.daily userID day - size else 0)

/-- The end of `reserveUserStoredFileQuota`; the database may refuse the counter. -/
def reserve (s : QuotaState) (r : Reserving) (available : Bool) :
    Except QuotaError String × QuotaState :=
  if r.storedLimit ≤ r.storedBytes + s.pending r.userID + r.size then
    (.error (.refused ("账号资源和会话附件已达到 " ++ formatStorageLimit r.storedLimit ++
      " 上限，请联系管理员清理历史文件")), s)
  else
    let raised : QuotaState :=
      { s with pending := Function.update s.pending r.userID (s.pending r.userID + r.size) }
    -- `ReserveDailyUpload`
    if !available then (.error .database, raised.decreasePendingStorage r.userID r.size)
    else if r.dailyLimit ≤ s.daily r.userID r.day + r.size then
      (.error (.refused ("每个账号 UTC 自然日上传总量必须小于 " ++ formatStorageLimit r.dailyLimit)),
        raised.decreasePendingStorage r.userID r.size)
    else (.ok r.day, raised.setDaily r.userID r.day (s.daily r.userID r.day + r.size))

/-- An accepted reservation is an upload that is going to be stored. -/
def startUpload (r : Reserving) : Except QuotaError String × QuotaState → QuotaState
  | (.error _, s) => { s with reserving := none }
  | (.ok day, s) => { s with
      reserving := none
      uploads := s.uploads ++ [⟨r.userID, day, r.size, .reserved, none⟩] }

def addFile (s : QuotaState) (file : StoredFile) : QuotaState :=
  { s with files := s.files ++ [file] }

/-- `SaveResource`: a row that is gone is created again. -/
def saveFile (s : QuotaState) (file : StoredFile) : QuotaState :=
  { s with
    files := if s.files.any (·.id = file.id) then
        s.files.map fun stored ↦ if stored.id = file.id then file else stored
      else s.files ++ [file] }

def setUpload (s : QuotaState) (i : ℕ) (upload : Upload) : QuotaState :=
  { s with uploads := s.uploads.set i upload }

/-- No row and no upload has the identifier. -/
def isNew (s : QuotaState) (fileID : String) : Bool :=
  s.files.all (·.id ≠ fileID) && s.uploads.all (·.fileID ≠ some fileID)

/-- The row of an upload is saved with a status. -/
def saveStatus (s : QuotaState) (upload : Upload) (status : ResourceStatus) : QuotaState :=
  match upload.fileID with
  | some id => s.saveFile ⟨id, upload.userID, upload.size, status⟩
  | none => s

def step (s : QuotaState) : QuotaAction → Option QuotaState
  | .readStored userID day size exclusiveSingleFileLimit dailyLimit storedLimit =>
    if s.reserving.isSome then none
    -- The upload is refused: it is empty, or it is too large by itself.
    else if size ≤ 0 ∨ exclusiveSingleFileLimit ≤ size then some s
    else some { s with
      reserving := some ⟨userID, day, size, dailyLimit, storedLimit,
        s.userStoredFileBytes userID⟩ }
  | .reserve available => s.reserving.map fun r ↦ startUpload r (s.reserve r available)
  | .create i fileID =>
    match s.uploads[i]? with
    | some upload =>
      if upload.phase = .reserved ∧ upload.fileID = none ∧ s.isNew fileID then
        some ((s.addFile ⟨fileID, upload.userID, upload.size, .pending⟩).setUpload i
          { upload with fileID := some fileID })
      else none
    | none => none
  | .fail i saved =>
    match s.uploads[i]? with
    | some upload =>
      if upload.phase = .reserved then
        let s := s.setUpload i { upload with phase := .failed }
        some (if saved then s.saveStatus upload .failed else s)
      else none
    | none => none
  | .store i =>
    match s.uploads[i]? with
    | some upload =>
      if upload.phase = .reserved ∧ upload.fileID ≠ none then
        some ((s.setUpload i { upload with phase := .stored }).saveStatus upload .ready)
      else none
    | none => none
  | .storeSession i fileID size =>
    match s.uploads[i]? with
    | some upload =>
      if upload.phase = .reserved ∧ upload.fileID = none ∧ s.isNew fileID then
        some ((s.addFile ⟨fileID, upload.userID, size, .ready⟩).setUpload i
          { upload with phase := .stored, fileID := some fileID })
      else none
    | none => none
  | .release i available =>
    match s.uploads[i]? with
    | some upload =>
      if s.reserving.isNone ∧ upload.phase = .failed then
        let s := (s.setUpload i { upload with phase := .released }).decreasePendingStorage
          upload.userID upload.size
        some (if available then s.releaseDailyUpload upload.userID upload.day upload.size else s)
      else none
    | none => none
  | .commit i =>
    match s.uploads[i]? with
    | some upload =>
      if s.reserving.isNone ∧ upload.phase = .stored then
        some ((s.setUpload i { upload with phase := .committed }).decreasePendingStorage
          upload.userID upload.size)
      else none
    | none => none
  | .storeOther file => if s.isNew file.id then some (s.addFile file) else none
  | .delete fileID => some { s with files := s.files.filter (·.id ≠ fileID) }

end QuotaState

/-! ## The books -/

/-- What an upload adds to the pending bytes of a user. -/
def Upload.pendingOf (userID : String) (upload : Upload) : ℤ :=
  if upload.userID = userID ∧ upload.phase.isFinished = false then upload.size else 0

/-- What it adds to the counter of a day: one that failed adds nothing. -/
def Upload.countedOf (userID day : String) (upload : Upload) : ℤ :=
  if upload.userID = userID ∧ upload.day = day ∧ upload.phase ≠ .released then upload.size else 0

/-- The books are balanced. -/
structure Balanced (s : QuotaState) : Prop where
  pending : ∀ userID, s.pending userID = (s.uploads.map (Upload.pendingOf userID)).sum
  daily : ∀ userID day, s.daily userID day = (s.uploads.map (Upload.countedOf userID day)).sum
  /-- A failed upload has left nothing among the stored files. -/
  refunded : ∀ upload ∈ s.uploads, upload.phase = .released →
    ∀ file ∈ s.files, some file.id ≠ upload.fileID

/-- What is promised of a step. -/
structure Kept (s s' : QuotaState) : Prop where
  balanced : Balanced s'
  /-- A reservation that is accepted leaves the user below the limits. -/
  accepted : ∀ r, s.reserving = some r → s.uploads.length < s'.uploads.length →
    s'.userStoredFileBytes r.userID + s'.pending r.userID < r.storedLimit ∧
      s'.daily r.userID r.day < r.dailyLimit
  /-- What is committed or released is not so again. -/
  once : ∀ (i : ℕ) (upload : Upload), s.uploads[i]? = some upload → upload.phase.isFinished = true →
    s'.uploads[i]? = some upload

/-- What fits the rows that a reservation has read fits the rows as they are now, unless the
database or the limit of the day refuses it.  An upload that is released has left no row, and its
day can be released, too. -/
def fits (s : QuotaState) : QuotaAction → Bool
  | .reserve available =>
    s.reserving.all fun r ↦ !available || decide (r.dailyLimit ≤ s.daily r.userID r.day + r.size) ||
      decide (r.storedLimit ≤ r.storedBytes + s.pending r.userID + r.size) ||
      decide (s.userStoredFileBytes r.userID + s.pending r.userID + r.size < r.storedLimit)
  | .release i available =>
    (s.uploads[i]?).all fun (upload : Upload) ↦
      available && s.files.all fun file ↦ some file.id ≠ upload.fileID
  | _ => true

abbrev Fits (s : QuotaState) (action : QuotaAction) : Prop := fits s action = true

/-! ## Sums -/

theorem sum_map_set {α : Type} (f : α → ℤ) {l : List α} {i : ℕ} {a : α} (b : α)
    (hi : l[i]? = some a) : ((l.set i b).map f).sum = (l.map f).sum - f a + f b := by
  induction l generalizing i with
  | nil => cases hi
  | cons c l ih =>
    cases i with
    | zero =>
      cases hi
      simp only [List.set_cons_zero, List.map_cons, List.sum_cons]
      omega
    | succ i =>
      rw [List.set_cons_succ, List.map_cons, List.sum_cons, List.map_cons, List.sum_cons, ih hi]
      omega

/-- What holds in every run whose steps fit. -/
structure Sound (s : QuotaState) : Prop where
  balanced : Balanced s
  positive : ∀ upload ∈ s.uploads, 0 < upload.size
  reserving : ∀ r, s.reserving = some r → 0 < r.size
  distinct : ∀ (i j : ℕ) (a b : Upload) (id : String), s.uploads[i]? = some a →
    s.uploads[j]? = some b → a.fileID = some id → b.fileID = some id → i = j

section Steps

variable {s s' : QuotaState} {i : ℕ} {upload next : Upload} {r : Reserving} {available : Bool}
  {userID day fileID : String} {file : StoredFile}

theorem sound_new : Sound .new :=
  ⟨⟨fun _ ↦ rfl, fun _ _ ↦ rfl, nofun⟩, nofun, nofun, nofun⟩

theorem pendingOf_nonneg (hsize : 0 < upload.size) : 0 ≤ upload.pendingOf userID := by
  rw [Upload.pendingOf]
  split_ifs
  exacts [hsize.le, le_rfl]

theorem countedOf_nonneg (hsize : 0 < upload.size) : 0 ≤ upload.countedOf userID day := by
  rw [Upload.countedOf]
  split_ifs
  exacts [hsize.le, le_rfl]

/-- One upload goes on.  The rows that are new are its own, or belong to no upload. -/
theorem Sound.set (h : Sound s) (hi : s.uploads[i]? = some upload)
    (huploads : s'.uploads = s.uploads.set i next) (hreserving : s'.reserving = s.reserving)
    (hphase : upload.phase ≠ .released) (hsize : next.size = upload.size)
    (hfileID : next.fileID = upload.fileID ∨ ∃ id, next.fileID = some id ∧ s.isNew id = true)
    (hfiles : ∀ file ∈ s'.files, file ∈ s.files ∨ some file.id = upload.fileID ∨
      s.isNew file.id = true)
    (hreleased : next.phase = .released → ∀ file ∈ s'.files, some file.id ≠ next.fileID)
    (hpending : ∀ userID,
      s'.pending userID = s.pending userID - upload.pendingOf userID + next.pendingOf userID)
    (hdaily : ∀ userID day, s'.daily userID day =
      s.daily userID day - upload.countedOf userID day + next.countedOf userID day) :
    Sound s' where
  balanced := by
    refine ⟨fun userID ↦ ?_, fun userID day ↦ ?_, fun other hother hdone file hfile ↦ ?_⟩
    · rw [huploads, sum_map_set _ _ hi, hpending, h.balanced.pending]
    · rw [huploads, sum_map_set _ _ hi, hdaily, h.balanced.daily]
    · rw [huploads] at hother
      rcases List.mem_or_eq_of_mem_set hother with hother | rfl
      · rcases hfiles file hfile with hold | hown | hnew
        · exact h.balanced.refunded other hother hdone file hold
        · -- No other upload has the same row.
          intro hsame
          obtain ⟨j, hj⟩ := List.mem_iff_getElem?.mp hother
          have hij := h.distinct i j upload other file.id hi hj hown.symm hsame.symm
          rw [← hij, hi] at hj
          exact hphase (Option.some.inj hj ▸ hdone)
        · have hnone := List.all_eq_true.mp (Bool.and_eq_true_iff.mp hnew).2 other hother
          exact fun hsame ↦ of_decide_eq_true hnone hsame.symm
      · exact hreleased hdone file hfile
  positive := by
    intro other hother
    rw [huploads] at hother
    rcases List.mem_or_eq_of_mem_set hother with hother | rfl
    · exact h.positive other hother
    · exact hsize ▸ h.positive upload (List.mem_of_getElem? hi)
  reserving := by
    rw [hreserving]
    exact h.reserving
  distinct := by
    -- The identifier of a row is new, or the one the upload had.
    have hcase (j : ℕ) (other : Upload) (id : String) (hj : s'.uploads[j]? = some other)
        (hid : other.fileID = some id) : (∃ old, s.uploads[j]? = some old ∧ old.fileID = some id) ∨
          j = i ∧ s.isNew id = true := by
      rw [huploads, List.getElem?_set] at hj
      split_ifs at hj with hij
      · subst hij
        cases hj
        rcases hfileID with hold | ⟨new, hnew, hisNew⟩
        · exact .inl ⟨upload, hi, hold.symm.trans hid⟩
        · obtain rfl : new = id := Option.some.inj (hnew.symm.trans hid)
          exact .inr ⟨rfl, hisNew⟩
      · exact .inl ⟨other, hj, hid⟩
    have hnot (j : ℕ) (old : Upload) (id : String) (hj : s.uploads[j]? = some old)
        (hid : old.fileID = some id) : s.isNew id ≠ true := by
      intro hnew
      have hnone := List.all_eq_true.mp (Bool.and_eq_true_iff.mp hnew).2 old
        (List.mem_of_getElem? hj)
      exact of_decide_eq_true hnone hid
    intro j k a b id hj hk ha hb
    rcases hcase j a id hj ha with ⟨a', hj', ha'⟩ | ⟨rfl, hnew⟩
    · rcases hcase k b id hk hb with ⟨b', hk', hb'⟩ | ⟨rfl, hnew⟩
      · exact h.distinct j k a' b' id hj' hk' ha' hb'
      · exact absurd hnew (hnot j a' id hj' ha')
    · rcases hcase k b id hk hb with ⟨b', hk', hb'⟩ | ⟨rfl, -⟩
      · exact absurd hnew (hnot k b' id hk' hb')
      · rfl

/-- An upload that has not come to its end may go on. -/
theorem Sound.kept_set (h' : Sound s') (hi : s.uploads[i]? = some upload)
    (huploads : s'.uploads = s.uploads.set i next) (hphase : upload.phase.isFinished = false) :
    Kept s s' where
  balanced := h'.balanced
  accepted r _ hlt := by
    rw [huploads, List.length_set] at hlt
    exact absurd hlt (lt_irrefl _)
  once j other hj hfinished := by
    rw [huploads, List.getElem?_set_ne, hj]
    rintro rfl
    obtain rfl : upload = other := Option.some.inj (hi.symm.trans hj)
    rw [hphase] at hfinished
    cases hfinished

/-- Nothing but the rows changes, or what is being reserved. -/
theorem Sound.kept_same (h' : Sound s') (huploads : s'.uploads = s.uploads) : Kept s s' where
  balanced := h'.balanced
  accepted r _ hlt := by
    rw [huploads] at hlt
    exact absurd hlt (lt_irrefl _)
  once j other hj _ := by rw [huploads, hj]

theorem mem_saveStatus {status : ResourceStatus}
    (hfile : file ∈ (s.saveStatus upload status).files) :
    file ∈ s.files ∨ some file.id = upload.fileID := by
  rw [QuotaState.saveStatus] at hfile
  split at hfile
  · rename_i id hid
    rw [QuotaState.saveFile] at hfile
    dsimp only at hfile
    split_ifs at hfile
    · obtain ⟨stored, hstored, rfl⟩ := List.mem_map.mp hfile
      split_ifs with hsame
      · exact .inr hid.symm
      · exact .inl hstored
    · rcases List.mem_append.mp hfile with hfile | hfile
      · exact .inl hfile
      · rw [List.mem_singleton.mp hfile]
        exact .inr hid.symm
  · exact .inl hfile

theorem saveStatus_eq (s : QuotaState) (upload : Upload) (status : ResourceStatus) :
    ∃ files, s.saveStatus upload status = { s with files := files } := by
  rw [QuotaState.saveStatus]
  split
  · exact ⟨_, rfl⟩
  · exact ⟨s.files, rfl⟩

theorem Sound.pending_nonneg (h : Sound s) (userID : String) : 0 ≤ s.pending userID := by
  rw [h.balanced.pending]
  refine List.sum_nonneg fun amount hamount ↦ ?_
  obtain ⟨other, hother, rfl⟩ := List.mem_map.mp hamount
  exact pendingOf_nonneg (h.positive other hother)

/-- A reservation that is refused changes nothing.  One that is accepted is below the limits, as far
as it has read the rows. -/
theorem reserve_cases (available : Bool) (hpending : 0 ≤ s.pending r.userID) :
    ((available = false ∨ r.dailyLimit ≤ s.daily r.userID r.day + r.size ∨
        r.storedLimit ≤ r.storedBytes + s.pending r.userID + r.size) ∧
      ∃ e, s.reserve r available = (.error e, s)) ∨
      r.storedBytes + s.pending r.userID + r.size < r.storedLimit ∧ available = true ∧
        s.daily r.userID r.day + r.size < r.dailyLimit ∧
        s.reserve r available = (.ok r.day,
          { s with
            pending := Function.update s.pending r.userID (s.pending r.userID + r.size)
            daily := Function.update s.daily r.userID
              (Function.update (s.daily r.userID) r.day (s.daily r.userID r.day + r.size)) }) := by
  have hundone : ({ s with
      pending := Function.update s.pending r.userID (s.pending r.userID + r.size) } :
        QuotaState).decreasePendingStorage r.userID r.size = s := by
    rw [QuotaState.decreasePendingStorage]
    dsimp only
    rw [Function.update_idem, Function.update_self, Int.add_sub_cancel, max_eq_right hpending,
      Function.update_eq_self]
  rw [QuotaState.reserve]
  split_ifs with hstored havailable hdaily
  · exact .inl ⟨.inr (.inr hstored), _, rfl⟩
  · exact .inl ⟨.inl (by simpa using havailable), _, Prod.ext rfl hundone⟩
  · exact .inl ⟨.inr (.inl hdaily), _, Prod.ext rfl hundone⟩
  · exact .inr ⟨not_le.mp hstored, by simpa using havailable, not_le.mp hdaily, rfl⟩

/-! ## What a step leads to -/

theorem Sound.readStored {size exclusiveSingleFileLimit dailyLimit storedLimit : ℤ} (h : Sound s)
    (hstep : s.step (.readStored userID day size exclusiveSingleFileLimit dailyLimit storedLimit) =
      some s') : Sound s' ∧ s'.uploads = s.uploads := by
  rw [QuotaState.step] at hstep
  split_ifs at hstep with hlocked hsize
  · cases hstep
    exact ⟨h, rfl⟩
  · cases hstep
    refine ⟨⟨⟨h.balanced.pending, h.balanced.daily, h.balanced.refunded⟩, h.positive, ?_,
      h.distinct⟩, rfl⟩
    rintro r ⟨rfl⟩
    exact not_le.mp fun hle ↦ hsize (.inl hle)

/-- The mutex is released, and nothing else happens. -/
theorem Sound.unlock (h : Sound s) : Sound { s with reserving := none } :=
  ⟨⟨h.balanced.pending, h.balanced.daily, h.balanced.refunded⟩, h.positive, nofun, h.distinct⟩

/-- An upload is added. -/
theorem Sound.start (h : Sound s) (hreserving : s.reserving = some r) :
    Sound { s with
      pending := Function.update s.pending r.userID (s.pending r.userID + r.size)
      daily := Function.update s.daily r.userID
        (Function.update (s.daily r.userID) r.day (s.daily r.userID r.day + r.size))
      reserving := none
      uploads := s.uploads ++ [⟨r.userID, r.day, r.size, .reserved, none⟩] } where
  balanced := by
    refine ⟨fun userID ↦ ?_, fun userID day ↦ ?_, fun upload hupload hdone ↦ ?_⟩
    · simp only [List.map_append, List.sum_append, List.map_cons, List.map_nil, List.sum_cons,
        List.sum_nil, ← h.balanced.pending, Upload.pendingOf, Phase.isFinished]
      by_cases huser : r.userID = userID
      · subst huser
        simp
      · simp [huser, Function.update_of_ne (Ne.symm huser)]
    · simp only [List.map_append, List.sum_append, List.map_cons, List.map_nil, List.sum_cons,
        List.sum_nil, ← h.balanced.daily, Upload.countedOf]
      by_cases huser : r.userID = userID
      · subst huser
        by_cases hday : r.day = day
        · subst hday
          simp
        · simp [hday, Function.update_of_ne (Ne.symm hday)]
      · simp [huser, Function.update_of_ne (Ne.symm huser)]
    · rcases List.mem_append.mp hupload with hold | hnew
      · exact h.balanced.refunded upload hold hdone
      · rw [List.mem_singleton.mp hnew] at hdone
        cases hdone
  positive := by
    intro upload hupload
    rcases List.mem_append.mp hupload with hold | hnew
    · exact h.positive upload hold
    · rw [List.mem_singleton.mp hnew]
      exact h.reserving r hreserving
  reserving := nofun
  distinct := by
    -- The new upload has no row.
    have hold (j : ℕ) (a : Upload) (id : String)
        (hj : (s.uploads ++ [⟨r.userID, r.day, r.size, .reserved, none⟩])[j]? = some a)
        (ha : a.fileID = some id) : s.uploads[j]? = some a := by
      by_cases hlt : j < s.uploads.length
      · rwa [List.getElem?_append_left hlt] at hj
      · rw [List.getElem?_append_right (not_lt.mp hlt)] at hj
        rw [List.mem_singleton.mp (List.mem_of_getElem? hj)] at ha
        cases ha
    intro j k a b id hj hk ha hb
    exact h.distinct j k a b id (hold j a id hj ha) (hold k b id hk hb) ha hb

theorem userStoredFileBytes_eq (hfiles : s'.files = s.files) (userID : String) :
    s'.userStoredFileBytes userID = s.userStoredFileBytes userID := by
  rw [QuotaState.userStoredFileBytes, QuotaState.userStoredFileBytes, hfiles]

theorem Sound.kept_start (h' : Sound s') (hreserving : s.reserving = some r)
    (huploads : s'.uploads = s.uploads ++ [next]) (hfiles : s'.files = s.files)
    (hpending : s'.pending r.userID = s.pending r.userID + r.size)
    (hdaily : s'.daily r.userID r.day < r.dailyLimit) :
    Kept s s' ↔ s.userStoredFileBytes r.userID + s.pending r.userID + r.size < r.storedLimit := by
  rw [add_assoc, ← hpending, ← userStoredFileBytes_eq hfiles]
  refine ⟨fun hkept ↦ (hkept.accepted r hreserving (by simp [huploads])).1,
    fun hfit ↦ ⟨h'.balanced, ?_, ?_⟩⟩
  · intro r' hr' _
    obtain rfl : r = r' := Option.some.inj (hreserving.symm.trans hr')
    exact ⟨hfit, hdaily⟩
  · intro i upload hi _
    rw [huploads]
    exact (List.getElem?_append_left (List.getElem?_eq_some_iff.mp hi).1).trans hi

/-- **A reservation keeps what is promised exactly if it fits, should it be accepted.** -/
theorem Sound.reserve (h : Sound s) (hstep : s.step (.reserve available) = some s') :
    Sound s' ∧ (Kept s s' ↔ Fits s (.reserve available)) := by
  rw [QuotaState.step] at hstep
  obtain ⟨r, hreserving, rfl⟩ := Option.map_eq_some_iff.mp hstep
  have hfits : Fits s (.reserve available) ↔
      available = false ∨ r.dailyLimit ≤ s.daily r.userID r.day + r.size ∨
        r.storedLimit ≤ r.storedBytes + s.pending r.userID + r.size ∨
        s.userStoredFileBytes r.userID + s.pending r.userID + r.size < r.storedLimit := by
    simp only [Fits, fits, hreserving, Option.all_some, Bool.or_eq_true, Bool.not_eq_true',
      decide_eq_true_eq, or_assoc]
  have hpending := h.pending_nonneg r.userID
  rcases reserve_cases available hpending with
    ⟨hrefused, e, hresult⟩ | ⟨hstored, havailable, hdaily, hresult⟩
  · rw [hfits, hresult]
    exact ⟨h.unlock, iff_of_true (h.unlock.kept_same rfl) (by tauto)⟩
  · rw [hfits, hresult]
    have hsound := h.start hreserving
    refine ⟨hsound, (hsound.kept_start hreserving rfl rfl ?_ ?_).trans ?_⟩
    · exact Function.update_self ..
    · simpa using hdaily
    · simp [havailable, not_le.mpr hdaily, not_le.mpr hstored]

/-- An upload goes on, and is not finished yet. -/
theorem Sound.advance (phase : Phase) {rowID : Option String} (h : Sound s)
    (hi : s.uploads[i]? = some upload) (hphase : upload.phase = .reserved)
    (hnext : phase.isFinished = false)
    (huploads : s'.uploads = s.uploads.set i { upload with phase := phase, fileID := rowID })
    (hreserving : s'.reserving = s.reserving)
    (hfileID : rowID = upload.fileID ∨ ∃ id, rowID = some id ∧ s.isNew id = true)
    (hfiles : ∀ file ∈ s'.files, file ∈ s.files ∨ some file.id = upload.fileID ∨
      s.isNew file.id = true)
    (hpending : s'.pending = s.pending) (hdaily : s'.daily = s.daily) : Sound s' ∧ Kept s s' := by
  have hreleased : phase ≠ .released := by
    rintro rfl
    cases hnext
  have hsound : Sound s' := by
    refine h.set hi huploads hreserving (by rw [hphase]; nofun) rfl hfileID hfiles
      (fun hdone ↦ absurd hdone hreleased) (fun userID ↦ ?_) (fun userID day ↦ ?_)
    · have hreserved : Phase.reserved.isFinished = false := rfl
      simp [hpending, Upload.pendingOf, hphase, hnext, hreserved]
    · simp [hdaily, Upload.countedOf, hphase, hreleased]
  exact ⟨hsound, hsound.kept_set hi huploads (by rw [hphase]; rfl)⟩

theorem mem_addFile (hnew : s.isNew file.id = true) {stored : StoredFile}
    (hstored : stored ∈ (s.addFile file).files) :
    stored ∈ s.files ∨ s.isNew stored.id = true := by
  rcases List.mem_append.mp hstored with hold | hadded
  · exact .inl hold
  · rw [List.mem_singleton.mp hadded]
    exact .inr hnew

theorem Sound.create (h : Sound s) (hstep : s.step (.create i fileID) = some s') :
    Sound s' ∧ Kept s s' := by
  rw [QuotaState.step] at hstep
  split at hstep
  · rename_i upload hi
    split_ifs at hstep with hcan
    obtain rfl := Option.some.inj hstep
    obtain ⟨hphase, -, hnew⟩ := hcan
    exact h.advance upload.phase hi hphase (by rw [hphase]; rfl) rfl rfl
      (.inr ⟨fileID, rfl, hnew⟩) (fun file hfile ↦ (mem_addFile hnew hfile).imp_right .inr) rfl rfl
  · cases hstep

theorem Sound.storeSession {size : ℤ} (h : Sound s)
    (hstep : s.step (.storeSession i fileID size) = some s') : Sound s' ∧ Kept s s' := by
  rw [QuotaState.step] at hstep
  split at hstep
  · rename_i upload hi
    split_ifs at hstep with hcan
    obtain rfl := Option.some.inj hstep
    obtain ⟨hphase, -, hnew⟩ := hcan
    exact h.advance .stored hi hphase rfl rfl rfl
      (.inr ⟨fileID, rfl, hnew⟩) (fun file hfile ↦ (mem_addFile hnew hfile).imp_right .inr) rfl rfl
  · cases hstep

/-- The row is saved after the upload has gone on. -/
theorem Sound.advance_saveStatus (phase : Phase) (status : ResourceStatus) (h : Sound s)
    (hi : s.uploads[i]? = some upload) (hphase : upload.phase = .reserved)
    (hnext : phase.isFinished = false)
    (hs' : (s.setUpload i { upload with phase := phase }).saveStatus upload status = s') :
    Sound s' ∧ Kept s s' := by
  have hfiles (file : StoredFile) (hfile : file ∈ s'.files) :
      file ∈ s.files ∨ some file.id = upload.fileID ∨ s.isNew file.id = true := by
    rw [← hs'] at hfile
    exact (mem_saveStatus hfile).imp_right .inl
  obtain ⟨files, hsaved⟩ :=
    saveStatus_eq (s.setUpload i { upload with phase := phase }) upload status
  rw [hsaved] at hs'
  subst hs'
  exact h.advance phase hi hphase hnext rfl rfl (.inl rfl) hfiles rfl rfl

theorem Sound.fail {saved : Bool} (h : Sound s) (hstep : s.step (.fail i saved) = some s') :
    Sound s' ∧ Kept s s' := by
  rw [QuotaState.step] at hstep
  split at hstep
  · rename_i upload hi
    split_ifs at hstep with hphase hsaved
    · exact h.advance_saveStatus .failed .failed hi hphase rfl (Option.some.inj hstep)
    · obtain rfl := Option.some.inj hstep
      exact h.advance .failed hi hphase rfl rfl rfl (.inl rfl) (fun _ ↦ .inl) rfl rfl
  · cases hstep

theorem Sound.store (h : Sound s) (hstep : s.step (.store i) = some s') :
    Sound s' ∧ Kept s s' := by
  rw [QuotaState.step] at hstep
  split at hstep
  · rename_i upload hi
    split_ifs at hstep with hcan
    exact h.advance_saveStatus .stored .ready hi hcan.1 rfl (Option.some.inj hstep)
  · cases hstep

theorem le_sum_of_getElem? (f : Upload → ℤ) (hf : ∀ other ∈ s.uploads, 0 ≤ f other)
    (hi : s.uploads[i]? = some upload) : f upload ≤ (s.uploads.map f).sum := by
  refine List.single_le_sum (fun amount hamount ↦ ?_) _
    (List.mem_map_of_mem (List.mem_of_getElem? hi))
  obtain ⟨other, hother, rfl⟩ := List.mem_map.mp hamount
  exact hf other hother

/-- The bytes of an upload are still pending, so nothing is cut off when they are taken back. -/
theorem Sound.decreasePendingStorage (h : Sound s) (hi : s.uploads[i]? = some upload)
    (hphase : upload.phase.isFinished = false) (hnext : next.phase.isFinished = true)
    (userID : String) : (s.decreasePendingStorage upload.userID upload.size).pending userID =
      s.pending userID - upload.pendingOf userID + next.pendingOf userID := by
  have hle := le_sum_of_getElem? (Upload.pendingOf upload.userID)
    (fun other hother ↦ pendingOf_nonneg (h.positive other hother)) hi
  rw [← h.balanced.pending, Upload.pendingOf, if_pos ⟨rfl, hphase⟩] at hle
  have hnone : next.pendingOf userID = 0 := if_neg fun hand ↦ by
    rw [hnext] at hand
    cases hand.2
  rw [hnone, Upload.pendingOf, QuotaState.decreasePendingStorage]
  by_cases huser : upload.userID = userID
  · subst huser
    rw [if_pos ⟨rfl, hphase⟩]
    dsimp only
    rw [Function.update_self, max_eq_right (by omega), add_zero]
  · rw [if_neg fun hand ↦ huser hand.1]
    dsimp only
    rw [Function.update_of_ne (Ne.symm huser), sub_zero, add_zero]

/-- So does the counter of its day. -/
theorem Sound.releaseDailyUpload (h : Sound s) (hi : s.uploads[i]? = some upload)
    (hphase : upload.phase ≠ .released) (hnext : next.phase = .released) (userID day : String) :
    (s.releaseDailyUpload upload.userID upload.day upload.size).daily userID day =
      s.daily userID day - upload.countedOf userID day + next.countedOf userID day := by
  have hle := le_sum_of_getElem? (Upload.countedOf upload.userID upload.day)
    (fun other hother ↦ countedOf_nonneg (h.positive other hother)) hi
  rw [← h.balanced.daily, Upload.countedOf, if_pos ⟨rfl, rfl, hphase⟩] at hle
  have hnone : next.countedOf userID day = 0 := if_neg fun hand ↦ hand.2.2 hnext
  rw [hnone, Upload.countedOf, QuotaState.releaseDailyUpload, if_pos hle, QuotaState.setDaily]
  dsimp only
  by_cases huser : upload.userID = userID
  · subst huser
    rw [Function.update_self]
    by_cases hday : upload.day = day
    · subst hday
      rw [Function.update_self, if_pos ⟨rfl, rfl, hphase⟩, add_zero]
    · rw [Function.update_of_ne (Ne.symm hday), if_neg fun hand ↦ hday hand.2.1, sub_zero,
        add_zero]
  · rw [Function.update_of_ne (Ne.symm huser), if_neg fun hand ↦ huser hand.1, sub_zero, add_zero]

theorem Sound.commit (h : Sound s) (hstep : s.step (.commit i) = some s') :
    Sound s' ∧ Kept s s' := by
  rw [QuotaState.step] at hstep
  split at hstep
  · rename_i upload hi
    split_ifs at hstep with hcan
    obtain rfl := Option.some.inj hstep
    have hphase := hcan.2
    have hunfinished : upload.phase.isFinished = false := by rw [hphase]; rfl
    have hsound : Sound ((s.setUpload i { upload with phase := .committed }).decreasePendingStorage
        upload.userID upload.size) := by
      refine h.set hi rfl rfl (by rw [hphase]; nofun) rfl (.inl rfl) (fun _ ↦ .inl) nofun
        (h.decreasePendingStorage hi hunfinished rfl) (fun userID day ↦ ?_)
      have hcounted : Upload.countedOf userID day { upload with phase := .committed } =
          upload.countedOf userID day := by
        simp [Upload.countedOf, hphase]
      rw [hcounted]
      exact (Int.sub_add_cancel _ _).symm
    exact ⟨hsound, hsound.kept_set hi rfl hunfinished⟩
  · cases hstep

/-- A release that fits takes back everything. -/
theorem Sound.release_of_fits (h : Sound s) (hi : s.uploads[i]? = some upload)
    (hphase : upload.phase = .failed)
    (hfiles : ∀ file ∈ s.files, some file.id ≠ upload.fileID)
    (hs' : ((s.setUpload i { upload with phase := .released }).decreasePendingStorage
      upload.userID upload.size).releaseDailyUpload upload.userID upload.day upload.size = s') :
    Sound s' := by
  subst hs'
  have hunfinished : upload.phase.isFinished = false := by
    rw [hphase]
    rfl
  have hreleased : upload.phase ≠ .released := by
    rw [hphase]
    nofun
  exact h.set hi rfl rfl hreleased rfl (.inl rfl) (fun _ ↦ .inl) (fun _ ↦ hfiles)
    (h.decreasePendingStorage hi hunfinished rfl) (h.releaseDailyUpload hi hreleased rfl)

/-- **A release keeps what is promised exactly if it fits.** -/
theorem Sound.release (h : Sound s) (hstep : s.step (.release i available) = some s') :
    (Fits s (.release i available) → Sound s') ∧ (Kept s s' ↔ Fits s (.release i available)) := by
  rw [QuotaState.step] at hstep
  split at hstep
  · rename_i upload hi
    split_ifs at hstep with hcan havailable
    · have hs' := Option.some.inj hstep
      have huploads : s'.uploads = s.uploads.set i { upload with phase := .released } :=
        hs' ▸ rfl
      have hfits : Fits s (.release i available) ↔
          ∀ file ∈ s.files, some file.id ≠ upload.fileID := by
        simp [Fits, fits, hi, havailable]
      have hsound (hfit : Fits s (.release i available)) : Sound s' :=
        h.release_of_fits hi hcan.2 (hfits.mp hfit) hs'
      refine ⟨hsound, fun hkept ↦ hfits.mpr ?_, fun hfit ↦ (hsound hfit).kept_set hi huploads ?_⟩
      · have hfiles : s'.files = s.files := hs' ▸ rfl
        rw [← hfiles]
        exact hkept.balanced.refunded { upload with phase := .released }
          (huploads ▸ List.mem_set (List.getElem?_eq_some_iff.mp hi).1 _) rfl
      · rw [hcan.2]
        rfl
    · -- The bytes of the upload are still counted.
      obtain rfl := Option.some.inj hstep
      have hnot : ¬ Fits s (.release i available) := by
        simp [Fits, fits, hi, havailable]
      refine ⟨fun hfit ↦ absurd hfit hnot, fun hkept ↦ ?_, fun hfit ↦ absurd hfit hnot⟩
      have hsame := h.balanced.daily upload.userID upload.day
      have hless := hkept.balanced.daily upload.userID upload.day
      have hsum := sum_map_set (Upload.countedOf upload.userID upload.day)
        { upload with phase := .released } hi
      have hcounted : upload.countedOf upload.userID upload.day = upload.size :=
        if_pos ⟨rfl, rfl, by rw [hcan.2]; nofun⟩
      have hnone : Upload.countedOf upload.userID upload.day { upload with phase := .released } =
          0 := if_neg fun hand ↦ hand.2.2 rfl
      have hsize := h.positive upload (List.mem_of_getElem? hi)
      have hkeptSum : s.daily upload.userID upload.day =
          ((s.uploads.set i { upload with phase := .released }).map
            (Upload.countedOf upload.userID upload.day)).sum := hless
      omega
  · cases hstep

/-- Other rows come and go. -/
theorem Sound.files (h : Sound s)
    (hfiles : ∀ file ∈ s'.files, file ∈ s.files ∨ s.isNew file.id = true)
    (hs' : { s with files := s'.files } = s') : Sound s' := by
  rw [← hs']
  refine ⟨⟨h.balanced.pending, h.balanced.daily, fun upload hupload hdone file hfile ↦ ?_⟩,
    h.positive, h.reserving, h.distinct⟩
  rcases hfiles file hfile with hold | hnew
  · exact h.balanced.refunded upload hupload hdone file hold
  · have hnone := List.all_eq_true.mp (Bool.and_eq_true_iff.mp hnew).2 upload hupload
    exact fun hsame ↦ of_decide_eq_true hnone hsame.symm

theorem Sound.storeOther (h : Sound s) (hstep : s.step (.storeOther file) = some s') :
    Sound s' ∧ Kept s s' := by
  rw [QuotaState.step] at hstep
  split_ifs at hstep with hnew
  obtain rfl := Option.some.inj hstep
  have hsound : Sound (s.addFile file) := h.files (fun _ ↦ mem_addFile hnew) rfl
  exact ⟨hsound, hsound.kept_same rfl⟩

theorem Sound.delete (h : Sound s) (hstep : s.step (.delete fileID) = some s') :
    Sound s' ∧ Kept s s' := by
  rw [QuotaState.step] at hstep
  obtain rfl := Option.some.inj hstep
  have hsound : Sound { s with files := s.files.filter (·.id ≠ fileID) } :=
    h.files (fun _ hfile ↦ .inl (List.mem_of_mem_filter hfile)) rfl
  exact ⟨hsound, hsound.kept_same rfl⟩

/-- **What a step that fits leads to, and which steps keep what is promised.** -/
theorem Sound.step {action : QuotaAction} (h : Sound s) (hstep : s.step action = some s') :
    (Fits s action → Sound s') ∧ (Kept s s' ↔ Fits s action) := by
  have hall (hboth : Sound s' ∧ Kept s s') (hfit : Fits s action) :
      (Fits s action → Sound s') ∧ (Kept s s' ↔ Fits s action) :=
    ⟨fun _ ↦ hboth.1, iff_of_true hboth.2 hfit⟩
  cases action with
  | readStored =>
    obtain ⟨hsound, huploads⟩ := h.readStored hstep
    exact hall ⟨hsound, hsound.kept_same huploads⟩ rfl
  | reserve => exact ⟨fun _ ↦ (h.reserve hstep).1, (h.reserve hstep).2⟩
  | create => exact hall (h.create hstep) rfl
  | fail => exact hall (h.fail hstep) rfl
  | store => exact hall (h.store hstep) rfl
  | storeSession => exact hall (h.storeSession hstep) rfl
  | release => exact h.release hstep
  | commit => exact hall (h.commit hstep) rfl
  | storeOther => exact hall (h.storeOther hstep) rfl
  | delete => exact hall (h.delete hstep) rfl

end Steps

/-! ## Runs -/

open Machine (Run play run_of_play)

/-- **In a run whose steps all fit, the next step keeps what is promised exactly if it fits.** -/
theorem upload_kept_iff {s s' : QuotaState} {action : QuotaAction}
    (hrun : Run QuotaState.step Fits .new s) (hstep : s.step action = some s') :
    Kept s s' ↔ Fits s action := by
  have hsound : Sound s :=
    hrun.invariant sound_new fun _ _ _ hsound hfits hstep ↦ (hsound.step hstep).1 hfits
  exact (hsound.step hstep).2

/-- The mutex does not stay locked: the database may refuse the counter. -/
theorem Sound.can_unlock {s : QuotaState} (h : Sound s) :
    ∃ s', Run QuotaState.step (fun _ _ ↦ True) s s' ∧ s'.uploads = s.uploads ∧
      s'.reserving = none := by
  cases hreserving : s.reserving with
  | none => exact ⟨s, .nil, rfl, hreserving⟩
  | some r =>
    refine ⟨{ s with reserving := none }, .step .nil (a := .reserve false) trivial ?_, rfl, rfl⟩
    have hrefused : ∃ e, s.reserve r false = (.error e, s) := by
      rcases reserve_cases false (h.pending_nonneg r.userID) with ⟨-, hrefused⟩ | ⟨-, hno, -⟩
      · exact hrefused
      · cases hno
    obtain ⟨e, hrefused⟩ := hrefused
    simp only [QuotaState.step, hreserving, Option.map_some, hrefused, QuotaState.startUpload]

/-- An upload that has not come to its end fails or succeeds, and then the mutex is free. -/
theorem can_finish_of_unlocked {s : QuotaState} {i : ℕ} {upload : Upload}
    (hi : s.uploads[i]? = some upload) (hunlocked : s.reserving = none) :
    ∃ s' final, Run QuotaState.step (fun _ _ ↦ True) s s' ∧ s'.uploads[i]? = some final ∧
      final.phase.isFinished = true := by
  have hset {s : QuotaState} {upload : Upload} (next : Upload)
      (hi : s.uploads[i]? = some upload) : (s.uploads.set i next)[i]? = some next :=
    List.getElem?_set_self (List.getElem?_eq_some_iff.mp hi).1
  -- What has failed is released.
  have hfailed (s : QuotaState) (upload : Upload) (hi : s.uploads[i]? = some upload)
      (hunlocked : s.reserving = none) (hphase : upload.phase = .failed) :
      ∃ s' final, Run QuotaState.step (fun _ _ ↦ True) s s' ∧ s'.uploads[i]? = some final ∧
        final.phase.isFinished = true := by
    have hstep : ∃ s', s.step (.release i true) = some s' ∧
        s'.uploads = s.uploads.set i { upload with phase := .released } := by
      simp only [QuotaState.step, hi, hunlocked, hphase, Option.isNone_none, and_self, if_true]
      exact ⟨_, rfl, rfl⟩
    obtain ⟨s', hstep, huploads⟩ := hstep
    exact ⟨s', _, .step .nil trivial hstep, huploads ▸ hset _ hi, rfl⟩
  cases hphase : upload.phase with
  | reserved =>
    let failed := s.setUpload i { upload with phase := .failed }
    have hfail : s.step (.fail i false) = some failed := by
      simp only [QuotaState.step, hi, hphase, if_true]
      rfl
    obtain ⟨s', final, hrun, hfinal⟩ := hfailed failed _ (hset _ hi) hunlocked rfl
    exact ⟨s', final, Run.trans (.step .nil trivial hfail) hrun, hfinal⟩
  | failed => exact hfailed s upload hi hunlocked hphase
  | stored =>
    have hstep : ∃ s', s.step (.commit i) = some s' ∧
        s'.uploads = s.uploads.set i { upload with phase := .committed } := by
      simp only [QuotaState.step, hi, hunlocked, hphase, Option.isNone_none, and_self, if_true]
      exact ⟨_, rfl, rfl⟩
    obtain ⟨s', hstep, huploads⟩ := hstep
    exact ⟨s', _, .step .nil trivial hstep, huploads ▸ hset _ hi, rfl⟩
  | committed | released => exact ⟨s, upload, .nil, hi, by rw [hphase]; rfl⟩

namespace FailedUploadExample

/-- An upload of 5 bytes, of which the row is created, and the file cannot be written. -/
def schedule : List QuotaAction :=
  [.readStored "artist" "2025-03-01" 5 100 10 10, .reserve true, .create 0 "picture", .fail 0 true]

def failing : QuotaState := (play QuotaState.step Fits .new schedule).getD .new

def released : QuotaState := (failing.step (.release 0 true)).getD failing

theorem run_failing : Run QuotaState.step Fits .new failing := run_of_play .nil schedule rfl

end FailedUploadExample

open FailedUploadExample in
theorem upload_kept_iff_failing :
    Kept failing released ↔ Fits failing (.release 0 true) :=
  upload_kept_iff run_failing rfl

open FailedUploadExample in
/-- **An upload that fails leaves its row**, and with it 5 bytes less of the quota. -/
theorem not_kept_failedUpload :
    ¬∀ (s s' : QuotaState) (action : QuotaAction),
      Run QuotaState.step (fun _ _ ↦ True) .new s → s.step action = some s' → Kept s s' := by
  intro h
  have hkept : Kept failing released :=
    h failing released (.release 0 true) (run_failing.mono fun _ _ _ ↦ trivial) rfl
  have hleft := hkept.balanced.refunded
    ⟨"artist", "2025-03-01", 5, .released, some "picture"⟩ (List.mem_singleton.mpr rfl) rfl
    ⟨"picture", "artist", 5, .failed⟩ (List.mem_singleton.mpr rfl)
  exact hleft rfl

end HMaigc.UploadQuota
