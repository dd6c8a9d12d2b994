import Mathlib.Data.Prod.Lex
import HMaigc.Ops.Journal

/-!
# What the journal never takes back

Lease, checkpoint and result are three files with a guard each.  A write that passes its guard moves
its own file *forward* and touches no other; a write that does not pass changes nothing.  Forward is
a preorder on the contents of each file, so it composes along any sequence of writes, whoever makes
them.

* `RunnerLease.Precedes`, `OperationCheckpoint.Precedes`, `OperationResult.Precedes` — the three
  orders.
* `OperationDir.Advances`, `Journal.Advances` — every file forward.
* `Journal.sound_perform` — one write; `Journal.advances_after` — any number of them.
-/

set_option autoImplicit false

namespace HMaigc.Ops

/-! ## Forward -/

/-- A later lease: of a later generation, or of the same with the same owner. -/
def RunnerLease.Precedes (old new : RunnerLease) : Prop :=
  old.generation < new.generation ∨
    old.generation = new.generation ∧ old.tokenHash = new.tokenHash ∧
      old.runnerDigest = new.runnerDigest

/-- A later checkpoint: of a later generation, or of the same generation and owner with a higher
sequence number, or the same one. -/
def OperationCheckpoint.Precedes (old new : OperationCheckpoint) : Prop :=
  old.generation < new.generation ∨
    old.generation = new.generation ∧ old.fencingTokenHash = new.fencingTokenHash ∧
      (old.sequence < new.sequence ∨ old = new)

/-- A later result: the same one, or one of a later generation in place of `recovery_required`. -/
def OperationResult.Precedes (old new : OperationResult) : Prop :=
  old = new ∨ old.status = .recoveryRequired ∧ old.generation < new.generation

/-- A file that is there stays there, with a content `R` relates to the one it had. -/
def Stays {α : Type} (R : α → α → Prop) (old new : Option α) : Prop :=
  ∀ a, old = some a → ∃ b, new = some b ∧ R a b

/-- Every file of a directory moved forward or not at all. -/
structure OperationDir.Advances (old new : OperationDir) : Prop where
  request : Stays Eq old.request new.request
  cancel : Stays Eq old.cancel new.cancel
  recover : Stays Eq old.recover new.recover
  lease : Stays RunnerLease.Precedes old.lease new.lease
  checkpoint : Stays OperationCheckpoint.Precedes old.checkpoint new.checkpoint
  result : Stays OperationResult.Precedes old.result new.result
  events : ∀ e ∈ old.events, e ∈ new.events

def Journal.Advances (old new : Journal) : Prop :=
  ∀ operationID, (old.dir operationID).Advances (new.dir operationID)

theorem RunnerLease.Precedes.refl (l : RunnerLease) : l.Precedes l := .inr ⟨rfl, rfl, rfl⟩

theorem OperationCheckpoint.Precedes.refl (c : OperationCheckpoint) : c.Precedes c :=
  .inr ⟨rfl, rfl, .inr rfl⟩

theorem OperationResult.Precedes.refl (r : OperationResult) : r.Precedes r := .inl rfl

theorem RunnerLease.Precedes.trans {a b c : RunnerLease} (h : a.Precedes b) (h' : b.Precedes c) :
    a.Precedes c := by
  rcases h with h | ⟨hg, ht, hd⟩
  · have hle : b.generation ≤ c.generation := by rcases h' with h' | h' <;> omega
    exact .inl (by omega)
  · rcases h' with h' | ⟨hg', ht', hd'⟩
    · exact .inl (by omega)
    · exact .inr ⟨hg.trans hg', ht.trans ht', hd.trans hd'⟩

theorem OperationCheckpoint.Precedes.trans {a b c : OperationCheckpoint} (h : a.Precedes b)
    (h' : b.Precedes c) : a.Precedes c := by
  rcases h with h | ⟨hg, ht, hs⟩
  · have hle : b.generation ≤ c.generation := by rcases h' with h' | h' <;> omega
    exact .inl (by omega)
  · rcases h' with h' | ⟨hg', ht', hs'⟩
    · exact .inl (by omega)
    · refine .inr ⟨hg.trans hg', ht.trans ht', ?_⟩
      rcases hs with hs | rfl
      · rcases hs' with hs' | rfl
        · exact .inl (by omega)
        · exact .inl hs
      · exact hs'

theorem OperationResult.Precedes.trans {a b c : OperationResult} (h : a.Precedes b)
    (h' : b.Precedes c) : a.Precedes c := by
  rcases h with rfl | ⟨hs, hg⟩
  · exact h'
  · rcases h' with rfl | ⟨-, hg'⟩
    · exact .inr ⟨hs, hg⟩
    · exact .inr ⟨hs, hg.trans hg'⟩

section Stays

variable {α : Type} {R : α → α → Prop} {a b c : Option α}

theorem Stays.refl (hR : ∀ x, R x x) (a : Option α) : Stays R a a := fun x hx ↦ ⟨x, hx, hR x⟩

theorem Stays.trans (hR : ∀ {x y z}, R x y → R y z → R x z) (h : Stays R a b) (h' : Stays R b c) :
    Stays R a c := by
  intro x hx
  obtain ⟨y, hy, hxy⟩ := h x hx
  obtain ⟨z, hz, hyz⟩ := h' y hy
  exact ⟨z, hz, hR hxy hyz⟩

/-- Putting a file in place moves it forward if its content follows the one that was there. -/
theorem Stays.replace {new : α} (h : ∀ x, a = some x → R x new) : Stays R a (some new) :=
  fun x hx ↦ ⟨new, rfl, h x hx⟩

end Stays

theorem OperationDir.Advances.refl (d : OperationDir) : d.Advances d where
  request := .refl (fun _ ↦ rfl) _
  cancel := .refl (fun _ ↦ rfl) _
  recover := .refl (fun _ ↦ rfl) _
  lease := .refl .refl _
  checkpoint := .refl .refl _
  result := .refl .refl _
  events := fun _ h ↦ h

theorem OperationDir.Advances.trans {a b c : OperationDir} (h : a.Advances b) (h' : b.Advances c) :
    a.Advances c where
  request := h.request.trans Eq.trans h'.request
  cancel := h.cancel.trans Eq.trans h'.cancel
  recover := h.recover.trans Eq.trans h'.recover
  lease := h.lease.trans .trans h'.lease
  checkpoint := h.checkpoint.trans .trans h'.checkpoint
  result := h.result.trans .trans h'.result
  events := fun e he ↦ h'.events e (h.events e he)

namespace Journal

theorem Advances.refl (j : Journal) : j.Advances j := fun _ ↦ .refl _

theorem Advances.trans {a b c : Journal} (h : a.Advances b) (h' : b.Advances c) : a.Advances c :=
  fun operationID ↦ (h operationID).trans (h' operationID)

/-- A change to one directory is judged there. -/
theorem advances_modify {j : Journal} {operationID : String} {f : OperationDir → OperationDir}
    (h : (j.dir operationID).Advances (f (j.dir operationID))) :
    j.Advances (j.modify operationID f) := by
  intro other
  by_cases hid : other = operationID
  · subst hid
    rw [dir_modify]
    exact h
  · rw [dir_modify_of_ne j hid]
    exact .refl _

/-- What is asked of a write: refused, it changes nothing; and it moves the journal forward. -/
structure Sound (j : Journal) (w : Written) : Prop where
  rejected : ∀ err, w.1 = .error err → w.2 = j
  advances : j.Advances w.2

theorem sound_reject (j : Journal) (err : OpsError) : j.Sound (j.reject err) :=
  ⟨fun _ _ ↦ rfl, .refl j⟩

theorem sound_keep (j : Journal) : j.Sound j.keep := ⟨fun _ _ ↦ rfl, .refl j⟩

theorem sound_publish {j : Journal} {operationID : String} {f : OperationDir → OperationDir}
    (h : (j.dir operationID).Advances (f (j.dir operationID))) :
    j.Sound (j.publish operationID f) := by
  rw [publish]
  split
  · exact ⟨fun err herr ↦ absurd herr (by simp), advances_modify h⟩
  · exact sound_reject j _

end Journal

/-! ## Reading a file -/

/-- What was read is the file. -/
theorem readFact_eq_ok_iff {α : Type} {operationID : String} {file : Option α} {owner : α → String}
    {fact : α} : readFact operationID file owner = .ok fact ↔
      validOperationID operationID = true ∧ file = some fact ∧ owner fact = operationID := by
  unfold readFact
  cases hid : validOperationID operationID with
  | false => simp
  | true =>
    cases file with
    | none => simp
    | some content =>
      by_cases howner : owner content = operationID
      · simp only [howner, if_true, Except.ok.injEq, Option.some.injEq, true_and]
        refine ⟨?_, fun h ↦ h.1⟩
        rintro rfl
        exact ⟨rfl, howner⟩
      · simp only [howner, if_true, if_false, reduceCtorEq, Option.some.injEq, true_and, false_iff]
        rintro ⟨rfl, h⟩
        exact howner h

theorem file_of_readFact {α : Type} {operationID : String} {file : Option α} {owner : α → String}
    {fact : α} (h : readFact operationID file owner = .ok fact) : file = some fact :=
  (readFact_eq_ok_iff.mp h).2.1

/-- Only a file that is not there is reported as such. -/
theorem file_of_readFact_notExist {α : Type} {operationID : String} {file : Option α}
    {owner : α → String} {err : OpsError} (h : readFact operationID file owner = .error err)
    (hkind : err.kind = .notExist) : file = none := by
  unfold readFact at h
  split at h
  · split at h
    · rfl
    · split at h
      · cases h
      · rw [← Except.error.inj h] at hkind
        exact absurd hkind (by decide)
  · rw [← Except.error.inj h] at hkind
    exact absurd hkind (by decide)

theorem readSigned_eq_ok_iff {α : Type} {secret operationID : String} {file : Option (Signed α)}
    {owner : α → String} {payload : α} :
    readSigned secret operationID file owner = .ok payload ↔
      validOperationID operationID = true ∧ minimumCommandSecret ≤ secret.utf8ByteSize ∧
        file = some ⟨secret, payload⟩ ∧ owner payload = operationID := by
  unfold readSigned
  by_cases hid : validOperationID operationID = true
  · by_cases hsecret : secret.utf8ByteSize < minimumCommandSecret
    · simp [hid, hsecret]
    · rw [if_neg (by simp [hid]), if_neg hsecret]
      cases file with
      | none => simp
      | some command =>
        obtain ⟨signer, content⟩ := command
        by_cases hsigner : signer = secret
        · by_cases howner : owner content = operationID
          · simp only [hsigner, howner, ne_eq, not_true_eq_false, if_false, Except.ok.injEq, hid,
              true_and, Option.some.injEq, Signed.mk.injEq]
            refine ⟨?_, fun h ↦ h.2.1⟩
            rintro rfl
            exact ⟨Nat.le_of_not_lt hsecret, rfl, howner⟩
          · simp only [hsigner, howner, ne_eq, not_true_eq_false, not_false_eq_true, if_false,
              if_true, reduceCtorEq, Option.some.injEq, Signed.mk.injEq, true_and, false_iff]
            rintro ⟨-, -, rfl, h⟩
            exact howner h
        · simp [hsigner]
  · simp [hid]

theorem file_of_readSigned {α : Type} {secret operationID : String} {file : Option (Signed α)}
    {owner : α → String} {payload : α} (h : readSigned secret operationID file owner = .ok payload) :
    file = some ⟨secret, payload⟩ :=
  (readSigned_eq_ok_iff.mp h).2.2.1

theorem file_of_readSigned_notExist {α : Type} {secret operationID : String}
    {file : Option (Signed α)} {owner : α → String} {err : OpsError}
    (h : readSigned secret operationID file owner = .error err) (hkind : err.kind = .notExist) :
    file = none := by
  cases file with
  | none => rfl
  | some command =>
    rw [readSigned] at h
    split at h
    · cases h
      cases hkind
    · split at h
      · cases h
        cases hkind
      · split at h
        · cases h
          cases hkind
        · split at h
          · cases h
            cases hkind
          · cases h

/-! ## One write -/

section Writes

variable (j : Journal)

/-- An immutable file is created or left alone. -/
theorem sound_createImmutable {α : Type} [DecidableEq α] (operationID : String)
    (existing : Option α) (fact : α) (f : OperationDir → OperationDir)
    (h : existing = none → (j.dir operationID).Advances (f (j.dir operationID))) :
    j.Sound (j.createImmutable operationID existing fact f) := by
  rw [Journal.createImmutable.eq_def]
  split
  · exact Journal.sound_publish (h rfl)
  · split
    · exact j.sound_keep
    · exact j.sound_reject _

theorem sound_createRequest (request : OperationRequestFile) :
    j.Sound (createRequest request j) := by
  rw [createRequest]
  split
  · exact j.sound_reject _
  · refine sound_createImmutable j _ _ _ _ fun hnone ↦ ?_
    exact { OperationDir.Advances.refl _ with
      request := .replace fun x hx ↦ absurd (hnone.symm.trans hx) (by simp) }

/-- The lease moves forward. -/
theorem sound_writeLease (operationID : String) (lease : RunnerLease) :
    j.Sound (writeLease operationID lease j) := by
  rw [writeLease]
  split
  · exact j.sound_reject _
  · have hput (h : ∀ x, (j.dir operationID).lease = some x → x.Precedes lease) :
        (j.dir operationID).Advances { j.dir operationID with lease := some lease } :=
      { OperationDir.Advances.refl _ with lease := .replace h }
    split
    · rename_i existing hread
      have hfile := file_of_readFact hread
      split
      · exact j.sound_reject _
      · split
        · exact j.sound_reject _
        · rename_i hgen howner
          refine Journal.sound_publish (hput fun x hx ↦ ?_)
          rw [hfile] at hx
          cases hx
          rcases Nat.lt_or_ge existing.generation lease.generation with hlt | hge
          · exact .inl hlt
          · have heq : existing.generation = lease.generation := by omega
            by_cases htoken : existing.tokenHash = lease.tokenHash
            · by_cases hdigest : existing.runnerDigest = lease.runnerDigest
              · exact .inr ⟨heq, htoken, hdigest⟩
              · exact absurd ⟨heq, .inr hdigest⟩ howner
            · exact absurd ⟨heq, .inl htoken⟩ howner
    · rename_i err hread
      split
      · rename_i hkind
        have hnone := file_of_readFact_notExist hread hkind
        exact Journal.sound_publish (hput fun x hx ↦ absurd (hnone.symm.trans hx) (by simp))
      · exact j.sound_reject _

/-- A heartbeat is not ordered at all: any runner may replace any other's. -/
theorem sound_writeHeartbeat (operationID : String) (heartbeat : RunnerHeartbeat) :
    j.Sound (writeHeartbeat operationID heartbeat j) := by
  rw [writeHeartbeat]
  split
  · exact j.sound_reject _
  · exact Journal.sound_publish { OperationDir.Advances.refl (j.dir operationID) with }

/-- The checkpoint moves forward. -/
theorem sound_writeCheckpoint (operationID : String) (checkpoint : OperationCheckpoint) :
    j.Sound (writeCheckpoint operationID checkpoint j) := by
  rw [writeCheckpoint]
  split
  · exact j.sound_reject _
  · have hput (h : ∀ x, (j.dir operationID).checkpoint = some x → x.Precedes checkpoint) :
        (j.dir operationID).Advances { j.dir operationID with checkpoint := some checkpoint } :=
      { OperationDir.Advances.refl _ with checkpoint := .replace h }
    split
    · rename_i existing hread
      have hfile := file_of_readFact hread
      split
      · exact j.sound_reject _
      · split
        · exact j.sound_reject _
        · split
          · split
            · exact j.sound_keep
            · exact j.sound_reject _
          · rename_i hgen hguard hsame
            refine Journal.sound_publish (hput fun x hx ↦ ?_)
            rw [hfile] at hx
            cases hx
            rcases Nat.lt_or_ge existing.generation checkpoint.generation with hlt | hge
            · exact .inl hlt
            · have heq : existing.generation = checkpoint.generation := by omega
              have hhash : existing.fencingTokenHash = checkpoint.fencingTokenHash := by
                by_contra hne
                exact hguard ⟨heq, .inl hne⟩
              have hle : existing.sequence ≤ checkpoint.sequence := by
                by_contra hlt
                exact hguard ⟨heq, .inr (by omega)⟩
              have hne : existing.sequence ≠ checkpoint.sequence := fun h ↦ hsame ⟨heq, h⟩
              exact .inr ⟨heq, hhash, .inl (by omega)⟩
    · rename_i err hread
      split
      · rename_i hkind
        have hnone := file_of_readFact_notExist hread hkind
        exact Journal.sound_publish (hput fun x hx ↦ absurd (hnone.symm.trans hx) (by simp))
      · exact j.sound_reject _

/-- The result moves forward. -/
theorem sound_writeResult (operationID : String) (result : OperationResult) :
    j.Sound (writeResult operationID result j) := by
  rw [writeResult]
  split
  · exact j.sound_reject _
  · split
    · exact j.sound_reject _
    · have hput (h : ∀ x, (j.dir operationID).result = some x → x.Precedes result) :
          (j.dir operationID).Advances { j.dir operationID with result := some result } :=
        { OperationDir.Advances.refl _ with result := .replace h }
      split
      · rename_i err hread
        split
        · rename_i hkind
          have hnone := file_of_readFact_notExist hread hkind
          exact Journal.sound_publish (hput fun x hx ↦ absurd (hnone.symm.trans hx) (by simp))
        · exact j.sound_reject _
      · rename_i existing hread
        have hfile := file_of_readFact hread
        split
        · exact j.sound_reject _
        · split
          · split
            · exact j.sound_keep
            · exact j.sound_reject _
          · split
            · exact j.sound_reject _
            · rename_i hgt hne hstatus
              refine Journal.sound_publish (hput fun x hx ↦ ?_)
              rw [hfile] at hx
              cases hx
              exact .inr ⟨not_not.mp hstatus, by omega⟩

theorem sound_appendEvent (event : OperationEvent) : j.Sound (appendEvent event j) := by
  rw [appendEvent]
  split
  · exact j.sound_reject _
  · split
    · exact j.sound_reject _
    · exact Journal.sound_publish { OperationDir.Advances.refl (j.dir event.operationID) with
        events := fun e he ↦ List.mem_append_left _ he }

theorem sound_writeLaunchCommand (secret : String) (now : Go.Time)
    (command : RunnerLaunchCommand) : j.Sound (writeLaunchCommand secret now command j) := by
  have hput : (j.dir command.operationID).Advances
      { j.dir command.operationID with launch := some ⟨secret, command⟩ } :=
    { OperationDir.Advances.refl (j.dir command.operationID) with }
  rw [writeLaunchCommand]
  split
  · exact j.sound_reject _
  · split
    · exact j.sound_reject _
    · exact j.sound_reject _
    · split
      · split
        · exact j.sound_keep
        · split
          · exact j.sound_reject _
          · exact Journal.sound_publish hput
      · split
        · exact Journal.sound_publish hput
        · exact j.sound_reject _

theorem sound_writeCancelCommand (secret : String) (now : Go.Time)
    (command : CancelOperationCommand) :
    j.Sound (writeCancelCommand secret now command j) := by
  rw [writeCancelCommand]
  split
  · exact j.sound_reject _
  · split
    · exact j.sound_reject _
    · refine sound_createImmutable j _ _ _ _ fun hnone ↦ ?_
      exact { OperationDir.Advances.refl _ with
        cancel := .replace fun x hx ↦ absurd (hnone.symm.trans hx) (by simp) }

theorem sound_writeRecoverCommand (secret : String) (now : Go.Time)
    (command : RecoverOperationCommand) :
    j.Sound (writeRecoverCommand secret now command j) := by
  rw [writeRecoverCommand]
  split
  · exact j.sound_reject _
  · split
    · exact j.sound_reject _
    · refine sound_createImmutable j _ _ _ _ fun hnone ↦ ?_
      exact { OperationDir.Advances.refl _ with
        recover := .replace fun x hx ↦ absurd (hnone.symm.trans hx) (by simp) }

end Writes

/-- Any of the writes, by the controller or by a runner, of any generation. -/
inductive JournalWrite where
  | request (fact : OperationRequestFile)
  | launch (secret : String) (now : Go.Time) (command : RunnerLaunchCommand)
  | cancel (secret : String) (now : Go.Time) (command : CancelOperationCommand)
  | recover (secret : String) (now : Go.Time) (command : RecoverOperationCommand)
  | lease (operationID : String) (fact : RunnerLease)
  | heartbeat (operationID : String) (fact : RunnerHeartbeat)
  | checkpoint (operationID : String) (fact : OperationCheckpoint)
  | result (operationID : String) (fact : OperationResult)
  | event (fact : OperationEvent)

def JournalWrite.perform : JournalWrite → Journal → Written
  | .request fact => createRequest fact
  | .launch secret now command => writeLaunchCommand secret now command
  | .cancel secret now command => writeCancelCommand secret now command
  | .recover secret now command => writeRecoverCommand secret now command
  | .lease operationID fact => writeLease operationID fact
  | .heartbeat operationID fact => writeHeartbeat operationID fact
  | .checkpoint operationID fact => writeCheckpoint operationID fact
  | .result operationID fact => writeResult operationID fact
  | .event fact => appendEvent fact

/-- **Every write is refused or moves the journal forward.** -/
theorem Journal.sound_perform (j : Journal) (write : JournalWrite) :
    j.Sound (write.perform j) := by
  cases write with
  | request fact => exact sound_createRequest j fact
  | launch secret now command => exact sound_writeLaunchCommand j secret now command
  | cancel secret now command => exact sound_writeCancelCommand j secret now command
  | recover secret now command => exact sound_writeRecoverCommand j secret now command
  | lease operationID fact => exact sound_writeLease j operationID fact
  | heartbeat operationID fact => exact sound_writeHeartbeat j operationID fact
  | checkpoint operationID fact => exact sound_writeCheckpoint j operationID fact
  | result operationID fact => exact sound_writeResult j operationID fact
  | event fact => exact sound_appendEvent j fact

/-! ## Any number of writes -/

/-- The journal after a sequence of writes, accepted or not. -/
def Journal.after (j : Journal) (writes : List JournalWrite) : Journal :=
  writes.foldl (fun j write ↦ (write.perform j).2) j

theorem Journal.advances_after (j : Journal) (writes : List JournalWrite) :
    j.Advances (j.after writes) := by
  induction writes generalizing j with
  | nil => exact .refl j
  | cons write writes ih =>
    have hone := (j.sound_perform write).advances
    exact hone.trans (ih (write.perform j).2)

/-- **Journal monotonicity.** Take any point of any sequence of writes and any later one.  A
checkpoint on file at the first has not lost ground at the second: its generation and sequence
number did not decrease, they are the same only if it is the same checkpoint, and while the
generation is the same so is the fencing token hash.  A lease kept its generation with its token
hash and digest, or went to a later one.  A result is the same result, or was `recovery_required`
and gave way to one of a later generation.  And a refused write changed no file at all. -/
theorem journal_monotone (j : Journal) (writes : List JournalWrite) (operationID : String) :
    Stays (fun old new : OperationCheckpoint ↦
        toLex (old.generation, old.sequence) ≤ toLex (new.generation, new.sequence) ∧
        (old.generation = new.generation ∧ old.sequence = new.sequence → old = new) ∧
        (old.generation = new.generation → old.fencingTokenHash = new.fencingTokenHash))
      (j.dir operationID).checkpoint ((j.after writes).dir operationID).checkpoint ∧
    Stays (fun old new : RunnerLease ↦ old.generation ≤ new.generation ∧
        (old.generation = new.generation →
          old.tokenHash = new.tokenHash ∧ old.runnerDigest = new.runnerDigest))
      (j.dir operationID).lease ((j.after writes).dir operationID).lease ∧
    Stays (fun old new : OperationResult ↦
        old = new ∨ old.status = .recoveryRequired ∧ old.generation < new.generation)
      (j.dir operationID).result ((j.after writes).dir operationID).result ∧
    ∀ (write : JournalWrite) (err : OpsError),
      (write.perform j).1 = .error err → (write.perform j).2 = j := by
  have hadv := j.advances_after writes operationID
  refine ⟨fun old hold ↦ ?_, fun old hold ↦ ?_, hadv.result, fun write ↦ ?_⟩
  · obtain ⟨new, hnew, hle⟩ := hadv.checkpoint old hold
    refine ⟨new, hnew, ?_⟩
    rcases hle with hlt | ⟨hgen, hhash, hseq⟩
    · exact ⟨Prod.Lex.toLex_le_toLex.mpr (.inl hlt), fun h ↦ absurd h.1 hlt.ne,
        fun h ↦ absurd h hlt.ne⟩
    · rcases hseq with hlt | rfl
      · exact ⟨Prod.Lex.toLex_le_toLex.mpr (.inr ⟨hgen, hlt.le⟩), fun h ↦ absurd h.2 hlt.ne,
          fun _ ↦ hhash⟩
      · exact ⟨le_rfl, fun _ ↦ rfl, fun _ ↦ rfl⟩
  · obtain ⟨new, hnew, hle⟩ := hadv.lease old hold
    refine ⟨new, hnew, ?_⟩
    rcases hle with hlt | ⟨hgen, hhash, hdigest⟩
    · exact ⟨hlt.le, fun h ↦ absurd h hlt.ne⟩
    · exact ⟨hgen.le, fun _ ↦ ⟨hhash, hdigest⟩⟩
  · exact (j.sound_perform write).rejected

end HMaigc.Ops
