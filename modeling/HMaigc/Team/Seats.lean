import HMaigc.Sql.Contract
import HMaigc.Repository.Team

/-!
# The seats of a team

A team never has more active members and pending invitations than its subscription has seats, in any
interleaving of `TeamCall`s under READ COMMITTED.

An invitation that expires frees a seat without anybody writing anything, so seats are counted *as of
a moment* (`seatsTaken`).  The invariant counts as of a moment `τ` that no call's clock is before.
Later moments count fewer.

* Only the holder of the team's lock gives out seats or touches the team's invitations; everybody
  else may at most free seats (`Quiet`).
* `acceptTeamInvitation` counts the members only.  That is enough, because the invitation it accepts
  had a seat already (`Exchanging`).
* `createTeamInvitation` counts after it has expired the invitations that are over, so what it
  leaves pending is what it counted (`Reserving`).
* `team_seats` puts these together for every run.
-/

set_option autoImplicit false

namespace HMaigc

open Sql Go Prog

/-! ## Seats -/

/-- The row takes a seat of the team at `τ`. -/
def isSeat (teamID : String) (τ : Time) (k : RowKey) (r : Row k) : Bool :=
  isActiveMember teamID k r || isReservedInvitation teamID τ k r

/-- The number of seats taken at `τ`. -/
def seatsTaken (teamID : String) (τ : Time) (s : Store) : ℕ :=
  activeMembers teamID s + reservedInvitations teamID τ s

section Seats

variable {teamID : String} {τ now : Time} {s t u : Store}

theorem isActiveMember_eq_true {k : RowKey} {r : Row k} (h : isActiveMember teamID k r = true) :
    ∃ userID, k = .teamMember teamID userID := by
  cases k with
  | teamMember team userID =>
    rw [isActiveMember, Bool.and_eq_true, decide_eq_true_eq] at h
    exact ⟨userID, by rw [h.1]⟩
  | _ => cases h

theorem isReservedInvitation_eq_true {k : RowKey} {r : Row k}
    (h : isReservedInvitation teamID τ k r = true) : ∃ id, k = .teamInvitation id := by
  cases k with
  | teamInvitation id => exact ⟨id, rfl⟩
  | _ => cases h

theorem seatsTaken_eq_count (teamID : String) (τ : Time) (s : Store) :
    seatsTaken teamID τ s = s.count (isSeat teamID τ) := by
  refine Db.count_add_count (fun k r h ↦ ?_) s
  obtain ⟨userID, rfl⟩ := isActiveMember_eq_true h
  rfl

/-- Invitations run out: what takes a seat later takes one now. -/
theorem isSeat_of_le (h : τ ≤ now) {k : RowKey} {r : Row k} (hr : isSeat teamID now k r = true) :
    isSeat teamID τ k r = true := by
  rw [isSeat, Bool.or_eq_true] at hr ⊢
  refine hr.imp_right fun hr ↦ ?_
  obtain ⟨id, rfl⟩ := isReservedInvitation_eq_true hr
  rw [isReservedInvitation, Bool.and_eq_true, decide_eq_true_eq] at hr ⊢
  exact ⟨hr.1, lt_of_le_of_lt h hr.2⟩

theorem seatsTaken_mono (h : τ ≤ now) (s : Store) :
    seatsTaken teamID now s ≤ seatsTaken teamID τ s := by
  rw [seatsTaken_eq_count, seatsTaken_eq_count]
  exact Db.count_le_count fun k r hr hseat ↦ ⟨r, hr, isSeat_of_le h hseat⟩

/-- Whatever takes a seat in `s'` took one in `s`. -/
def Lower (teamID : String) (τ : Time) (s s' : Store) : Prop :=
  ∀ k r', s'.lookup k = some r' → isSeat teamID τ k r' = true →
    ∃ r, s.lookup k = some r ∧ isSeat teamID τ k r = true

theorem Lower.refl (teamID : String) (τ : Time) (s : Store) : Lower teamID τ s s :=
  fun _ r hr hseat ↦ ⟨r, hr, hseat⟩

theorem Lower.trans (h : Lower teamID τ s t) (h' : Lower teamID τ t u) : Lower teamID τ s u := by
  intro k r hr hseat
  obtain ⟨r', hr', hseat'⟩ := h' k r hr hseat
  exact h k r' hr' hseat'

theorem Lower.seatsTaken_le (h : Lower teamID τ s t) :
    seatsTaken teamID τ t ≤ seatsTaken teamID τ s := by
  rw [seatsTaken_eq_count, seatsTaken_eq_count]
  exact Db.count_le_count h

/-- The team's invitations in `s'` are invitations it had in `s`, as they were. -/
def SameInvitations (teamID : String) (s s' : Store) : Prop :=
  ∀ id i, s'.lookup (.teamInvitation id) = some i → i.teamID = teamID →
    s.lookup (.teamInvitation id) = some i

/-- Seats are freed at most, and the invitations stay. -/
def Quiet (teamID : String) (τ : Time) (s s' : Store) : Prop :=
  Lower teamID τ s s' ∧ SameInvitations teamID s s'

theorem Quiet.refl (teamID : String) (τ : Time) (s : Store) : Quiet teamID τ s s :=
  ⟨.refl teamID τ s, fun _ _ h _ ↦ h⟩

theorem Quiet.trans (h : Quiet teamID τ s t) (h' : Quiet teamID τ t u) : Quiet teamID τ s u :=
  ⟨h.1.trans h'.1, fun id i hi hteam ↦ h.2 id i (h'.2 id i hi hteam) hteam⟩

end Seats

/-! ## The subscription -/

/-- Whenever the team has a subscription in force, the one with the most seats has `n`. -/
def Seated (teamID : String) (n : ℤ) (s : Store) : Prop :=
  ∀ now id sub, s.lookup (.membershipSubscription id) = some sub →
    sub.isInForce teamID now = true → sub.seats ≤ n ∧
      ∃ id' sub', s.lookup (.membershipSubscription id') = some sub' ∧
        sub'.isInForce teamID now = true ∧ sub'.seats = n

section Seated

variable {teamID : String} {now : Time} {n : ℤ} {s : Store}

theorem mem_subscriptionsInForce {id : String} {sub : MembershipSubscription} :
    (id, sub) ∈ subscriptionsInForce teamID now s ↔
      s.lookup (.membershipSubscription id) = some sub ∧ sub.isInForce teamID now = true := by
  rw [subscriptionsInForce, Db.mem_select]
  constructor
  · rintro ⟨k, r, hr, hsome⟩
    cases k with
    | membershipSubscription id' =>
      dsimp only at hsome
      split at hsome
      · cases hsome
        exact ⟨hr, ‹_›⟩
      · cases hsome
    | _ => cases hsome
  · rintro ⟨hr, hforce⟩
    exact ⟨.membershipSubscription id, sub, hr, if_pos hforce⟩

theorem seats_le_of_activeTeamSubscription {a : String × MembershipSubscription}
    (h : activeTeamSubscription teamID now s = some a) {id : String} {sub : MembershipSubscription}
    (hsub : s.lookup (.membershipSubscription id) = some sub)
    (hforce : sub.isInForce teamID now = true) : sub.seats ≤ a.2.seats := by
  refine Db.le_of_firstBy (f := fun x ↦ x.2.seats) (fun x y hxy ↦ ?_) (fun x y hxy ↦ ?_) h
    (mem_subscriptionsInForce.mpr ⟨hsub, hforce⟩)
  · simp only [MembershipSubscription.precedes, Bool.or_eq_true, Bool.and_eq_true,
      decide_eq_true_eq] at hxy
    omega
  · simp only [MembershipSubscription.precedes, Bool.or_eq_false_iff, decide_eq_false_iff_not]
      at hxy
    omega

/-- **The seat count of the active subscription**, said of what `activeTeamSubscription` returns. -/
theorem seated_iff : Seated teamID n s ↔
    ∀ now a, activeTeamSubscription teamID now s = some a → a.2.seats = n := by
  constructor
  · intro h now a ha
    obtain ⟨hsub, hforce⟩ := mem_subscriptionsInForce.mp (Db.mem_of_firstBy ha)
    obtain ⟨hle, id', sub', hsub', hforce', hseats⟩ := h now a.1 a.2 hsub hforce
    have hge := seats_le_of_activeTeamSubscription ha hsub' hforce'
    omega
  · intro h now id sub hsub hforce
    cases ha : activeTeamSubscription teamID now s with
    | none =>
      have hmem := mem_subscriptionsInForce.mpr ⟨hsub, hforce⟩
      rw [Db.firstBy_eq_none.mp ha] at hmem
      cases hmem
    | some a =>
      have hn := h now a ha
      obtain ⟨hsub', hforce'⟩ := mem_subscriptionsInForce.mp (Db.mem_of_firstBy ha)
      exact ⟨hn ▸ seats_le_of_activeTeamSubscription ha hsub hforce, a.1, a.2, hsub', hforce', hn⟩

end Seated

/-! ## Calls -/

/-- What a transaction that is not about this team does: nothing to its members, its invitations and
its subscriptions. -/
def Elsewhere (teamID : String) : ∀ k, Option (Row k) → Row k → Prop
  | .teamMember team _, _, _ => team ≠ teamID
  | .teamInvitation _, old, new => new.teamID ≠ teamID ∧ ∀ r, old = some r → new.teamID = r.teamID
  | .membershipSubscription _, old, new => new.teamID ≠ teamID ∧ ∀ r, old = some r → r.teamID ≠ teamID
  | _, _, _ => True

/-- Everything that changes members or invitations, for any team, with a clock that is not before
`τ`, and any other transaction that leaves the team alone. -/
inductive TeamCall (teamID : String) (τ : Time) where
  | createInvitation (id : String) (invitation : TeamInvitation) (targetUserID auditID : String)
      (audit : TeamAuditEvent) (now : Time) (hnow : τ ≤ now)
  | regenerateInvitation (team id inviterUserID tokenHash : String) (expiresAt : Time)
      (auditID : String) (audit : TeamAuditEvent) (now : Time) (hnow : τ ≤ now)
  | acceptInvitation (id tokenHash memberID userID email auditID : String)
      (audit : TeamAuditEvent) (now : Time) (hnow : τ ≤ now)
  | revokeInvitation (team id auditID : String) (audit : TeamAuditEvent) (now : Time)
  | pendingInvitations (team : String) (now : Time)
  | updateMemberRole (team memberID : String) (role : TeamMemberRole) (auditID : String)
      (audit : TeamAuditEvent) (now : Time)
  | updateMemberPolicy (team memberID : String) (role : TeamMemberRole) (monthlyLimit : ℤ)
      (expectedUpdatedAt : Time) (auditID : String) (audit : TeamAuditEvent) (now : Time)
  | removeMember (team memberID auditID : String) (audit : TeamAuditEvent) (now : Time)
  | rename (team name auditID : String) (audit : TeamAuditEvent)
  | other (p : DbTx Unit) (hp : p.Keeps (Elsewhere teamID) fun _ ↦ True)

namespace TeamCall

variable {teamID : String} {τ : Time}

def prog : TeamCall teamID τ → DbTx Unit
  | .createInvitation id invitation targetUserID auditID audit now _ =>
    createTeamInvitation id invitation targetUserID auditID audit now
  | .regenerateInvitation team id inviterUserID tokenHash expiresAt auditID audit now _ =>
    regenerateTeamInvitation team id inviterUserID tokenHash expiresAt auditID audit now
  | .acceptInvitation id tokenHash memberID userID email auditID audit now _ =>
    acceptTeamInvitation id tokenHash memberID userID email auditID audit now
  | .revokeInvitation team id auditID audit now => revokeTeamInvitation team id auditID audit now
  | .pendingInvitations team now => pendingTeamInvitations team now
  | .updateMemberRole team memberID role auditID audit now =>
    updateTeamMemberRole team memberID role auditID audit now
  | .updateMemberPolicy team memberID role monthlyLimit expectedUpdatedAt auditID audit now =>
    updateTeamMemberPolicy team memberID role monthlyLimit expectedUpdatedAt auditID audit now
  | .removeMember team memberID auditID audit now =>
    removeTeamMember team memberID auditID audit now
  | .rename team name auditID audit => renameTeam team name auditID audit
  | .other p _ => p

/-- The moment at which the call accepts an invitation. -/
def acceptsAt : TeamCall teamID τ → Option Time
  | .acceptInvitation _ _ _ _ _ _ _ now _ => some now
  | _ => none

/-- The call writes no invitation of the team. -/
def sparesInvitations : TeamCall teamID τ → Prop
  | .updateMemberRole .. | .updateMemberPolicy .. | .removeMember .. | .rename .. | .other .. => True
  | _ => False

end TeamCall

/-! ## The contract -/

/-- What every write keeps: whose an invitation is, and the team's subscriptions. -/
def TeamStep (teamID : String) : ∀ k, Option (Row k) → Row k → Prop
  | .teamInvitation _, old, new => ∀ r, old = some r → new.teamID = r.teamID
  | .membershipSubscription _, old, new => new.teamID ≠ teamID ∧ ∀ r, old = some r → r.teamID ≠ teamID
  | _, _, _ => True

attribute [local simp] TeamStep

/-- A write that gives out no seat and touches no invitation of the team. -/
def QuietStep (teamID : String) : ∀ k, Option (Row k) → Row k → Prop
  | .teamMember team _, old, new =>
    team = teamID → new.status = .active → ∃ r, old = some r ∧ r.status = .active
  | .teamInvitation _, _, new => new.teamID ≠ teamID
  | _, _, _ => True

theorem rowTrans_teamStep (teamID : String) : RowTrans (TeamStep teamID) := by
  intro k o r r' h h'
  cases k with
  | teamInvitation id => exact fun r₀ hr₀ ↦ (h' r rfl).trans (h r₀ hr₀)
  | membershipSubscription id => exact ⟨h'.1, h.2⟩
  | _ => trivial

theorem rowTrans_quietStep (teamID : String) : RowTrans (QuietStep teamID) := by
  intro k o r r' h h'
  cases k with
  | teamMember team userID =>
    intro hteam hactive
    obtain ⟨r₁, hr₁, hactive₁⟩ := h' hteam hactive
    cases hr₁
    exact h hteam hactive₁
  | teamInvitation id => exact h'
  | _ => trivial

/-- What one write of a call does. -/
def TeamCall.rowStep {teamID : String} {τ : Time} (c : TeamCall teamID τ) (k : RowKey)
    (old : Option (Row k)) (new : Row k) : Prop :=
  TeamStep teamID k old new ∧ (c.sparesInvitations → QuietStep teamID k old new)

theorem TeamCall.rowTrans {teamID : String} {τ : Time} (c : TeamCall teamID τ) :
    RowTrans c.rowStep :=
  fun k o r r' h h' ↦ ⟨rowTrans_teamStep teamID k o r r' h.1 h'.1,
    fun hc ↦ rowTrans_quietStep teamID k o r r' (h.2 hc) (h'.2 hc)⟩

/-- What the calls promise one another: there are seats for all, only the holder of the team's lock
gives one out, and an acceptance takes none that was free. -/
def teamContract (teamID : String) (τ : Time) (n : ℤ) :
    Contract RowKey (TeamCall teamID τ) Row Unit where
  inv s := Seated teamID n s ∧ (seatsTaken teamID τ s : ℤ) ≤ n
  row := TeamCall.rowStep
  post c locks _ s s' :=
    (.team teamID ∉ locks → Quiet teamID τ s s') ∧
      ∀ now, c.acceptsAt = some now → seatsTaken teamID now s' ≤ seatsTaken teamID now s

/-! ### What the writes do row by row -/

section Keeps

variable (teamID : String)

theorem teamStep_createTeamAuditEvent (id : String) (audit : TeamAuditEvent) :
    (createTeamAuditEvent id audit).Keeps (TeamStep teamID) fun _ ↦ True := by
  simp [createTeamAuditEvent, TeamStep]

theorem teamStep_lockTeam (team : String) : (lockTeam team).Keeps (TeamStep teamID) fun _ ↦ True := by
  simp [lockTeam]

theorem teamStep_expireTeamInvitations (team : String) (now : Time) :
    (expireTeamInvitations team now).Keeps (TeamStep teamID) fun _ ↦ True := by
  simp only [expireTeamInvitations, keeps_bind, keeps_updateAll, pure_eq_done, keeps_done,
    implies_true, and_true]
  intro k r r' hr'
  cases k with
  | teamInvitation id =>
    dsimp only at hr'
    split at hr' <;> cases hr'
    exact fun r₀ hr₀ ↦ by cases hr₀; rfl
  | _ => cases hr'

theorem teamStep_requireTeamSubscription (team : String) (now : Time) :
    (requireTeamSubscription team now).Keeps (TeamStep teamID) fun _ ↦ True := by
  rw [requireTeamSubscription, keeps_bind, keeps_query]
  intro v
  cases activeTeamSubscription team now v <;> simp

theorem teamStep_createTeamInvitation (id : String) (invitation : TeamInvitation)
    (targetUserID auditID : String) (audit : TeamAuditEvent) (now : Time) :
    (createTeamInvitation id invitation targetUserID auditID audit now).Keeps (TeamStep teamID)
      fun _ ↦ True := by
  rw [createTeamInvitation]
  refine (teamStep_lockTeam teamID _).bind fun _ ↦ (teamStep_expireTeamInvitations teamID _ _).bind fun _ ↦
    (teamStep_requireTeamSubscription teamID _ _).bind fun sub ↦ ?_
  have hexpire := teamStep_expireTeamInvitations teamID invitation.teamID now
  have haudit := teamStep_createTeamAuditEvent teamID auditID
  simp [keeps_ite, hexpire, haudit, createInvitationRow, TeamStep]

theorem teamStep_regenerateTeamInvitation (team id inviterUserID tokenHash : String)
    (expiresAt : Time) (auditID : String) (audit : TeamAuditEvent) (now : Time) :
    (regenerateTeamInvitation team id inviterUserID tokenHash expiresAt auditID audit now).Keeps
      (TeamStep teamID) fun _ ↦ True := by
  have haudit := teamStep_createTeamAuditEvent teamID auditID
  rw [regenerateTeamInvitation]
  refine (teamStep_lockTeam teamID _).bind fun _ ↦ ?_
  simp [keeps_ite, haudit, TeamStep, TeamInvitation.regenerate]

theorem teamStep_acceptTeamInvitation (id tokenHash memberID userID email auditID : String)
    (audit : TeamAuditEvent) (now : Time) :
    (acceptTeamInvitation id tokenHash memberID userID email auditID audit now).Keeps
      (TeamStep teamID) fun _ ↦ True := by
  have haudit := teamStep_createTeamAuditEvent teamID auditID
  have hlock := teamStep_lockTeam teamID
  have hsub := teamStep_requireTeamSubscription teamID
  have hadmit : ∀ team userID memberID role existing,
      (admitTeamMember team userID memberID role now existing).Keeps (TeamStep teamID)
        fun _ ↦ True := by
    intro team userID memberID role existing
    cases existing <;> simp [admitTeamMember, TeamStep]
  rw [acceptTeamInvitation, keeps_bind, keeps_query]
  intro v
  cases invitationReference id tokenHash v with
  | none => simp
  | some reference =>
    refine (hlock _).bind fun _ ↦ ?_
    rw [keeps_bind, keeps_firstForUpdate]
    intro invitation _
    simp [keeps_ite, hsub, haudit, hadmit, TeamStep, TeamInvitation.accept]

theorem teamStep_revokeTeamInvitation (team id auditID : String) (audit : TeamAuditEvent)
    (now : Time) :
    (revokeTeamInvitation team id auditID audit now).Keeps (TeamStep teamID) fun _ ↦ True := by
  have haudit := teamStep_createTeamAuditEvent teamID auditID
  rw [revokeTeamInvitation]
  refine (teamStep_lockTeam teamID _).bind fun _ ↦ (teamStep_expireTeamInvitations teamID _ _).bind fun _ ↦ ?_
  simp [keeps_ite, haudit, TeamStep, TeamInvitation.revoke]

/-- A change of one member that makes nobody active. -/
theorem quiet_lockChangeableMember {T : ∀ k, Option (Row k) → Row k → Prop}
    (team memberID : String) : (lockChangeableMember team memberID).Keeps T fun _ ↦ True := by
  rw [lockChangeableMember, keeps_bind, keeps_queryForUpdate]
  intro v
  cases activeMemberByID team memberID v <;> simp [keeps_ite]

end Keeps

theorem TeamCall.keeps_prog {teamID : String} {τ : Time} (c : TeamCall teamID τ) :
    c.prog.Keeps c.rowStep fun _ ↦ True := by
  have hteam : ∀ {p : DbTx Unit}, p.Keeps (TeamStep teamID) (fun _ ↦ True) →
      ¬c.sparesInvitations → p.Keeps c.rowStep fun _ ↦ True :=
    fun hp hc ↦ hp.imp fun _ _ _ h ↦ ⟨h, fun hspares ↦ absurd hspares hc⟩
  cases c with
  | createInvitation id invitation targetUserID auditID audit now hnow =>
    exact hteam (teamStep_createTeamInvitation teamID _ _ _ _ _ _) fun h ↦ h
  | regenerateInvitation team id inviterUserID tokenHash expiresAt auditID audit now hnow =>
    exact hteam (teamStep_regenerateTeamInvitation teamID _ _ _ _ _ _ _ _) fun h ↦ h
  | acceptInvitation id tokenHash memberID userID email auditID audit now hnow =>
    exact hteam (teamStep_acceptTeamInvitation teamID _ _ _ _ _ _ _ _) fun h ↦ h
  | revokeInvitation team id auditID audit now =>
    exact hteam (teamStep_revokeTeamInvitation teamID _ _ _ _ _) fun h ↦ h
  | pendingInvitations team now =>
    exact hteam ((teamStep_lockTeam teamID _).bind fun _ ↦ teamStep_expireTeamInvitations teamID _ _) fun h ↦ h
  | updateMemberRole team memberID role auditID audit now =>
    refine (quiet_lockChangeableMember _ _).bind fun userID ↦ ?_
    simp [createTeamAuditEvent, rowStep, TeamStep, QuietStep]
  | updateMemberPolicy team memberID role monthlyLimit expectedUpdatedAt auditID audit now =>
    rw [prog, updateTeamMemberPolicy, keeps_bind, keeps_query]
    intro v
    cases activeMemberByID team memberID v with
    | none => simp
    | some member =>
      simp [createTeamAuditEvent, rowStep, TeamStep, QuietStep, keeps_ite]
      intro v'
      cases activeMemberByID team memberID v' <;> simp [keeps_ite]
  | removeMember team memberID auditID audit now =>
    refine (quiet_lockChangeableMember _ _).bind fun userID ↦ ?_
    simp [createTeamAuditEvent, rowStep, TeamStep, QuietStep, keeps_ite]
  | rename team name auditID audit =>
    simp [prog, renameTeam, createTeamAuditEvent, rowStep, TeamStep, QuietStep, keeps_ite]
  | other p hp =>
    refine hp.imp fun k old new h ↦ ?_
    cases k with
    | teamMember team userID => exact ⟨trivial, fun _ hteam ↦ absurd hteam h⟩
    | teamInvitation id => exact ⟨h.2, fun _ ↦ h.1⟩
    | membershipSubscription id => exact ⟨h, fun _ ↦ trivial⟩
    | _ => exact ⟨trivial, fun _ ↦ trivial⟩

/-! ## What is known of a transaction under way -/

section States

variable {teamID : String} {τ : Time} {n : ℤ} {c : TeamCall teamID τ} {locks locks' : List RowKey}
  {ws ws' : List (Sigma Row)} {s t : Store}

theorem quiet_of_rowStep (h : RowStep (QuietStep teamID) s t) : Quiet teamID τ s t := by
  refine ⟨fun k r' hr' hseat ↦ ?_, fun id i hi hteam ↦ ?_⟩
  · rcases h k with heq | ⟨r, hr, hstep⟩
    · exact ⟨r', heq ▸ hr', hseat⟩
    · cases hr.symm.trans hr'
      rw [isSeat, Bool.or_eq_true] at hseat
      rcases hseat with hmember | hinvitation
      · obtain ⟨userID, rfl⟩ := isActiveMember_eq_true hmember
        rw [isActiveMember, Bool.and_eq_true, decide_eq_true_eq, decide_eq_true_eq] at hmember
        obtain ⟨m, hm, hactive⟩ := hstep rfl hmember.2
        refine ⟨m, hm, ?_⟩
        rw [isSeat, isActiveMember, hactive]
        simp
      · obtain ⟨id, rfl⟩ := isReservedInvitation_eq_true hinvitation
        rw [isReservedInvitation, TeamInvitation.isPendingFor, Bool.and_eq_true, Bool.and_eq_true,
          decide_eq_true_eq] at hinvitation
        exact absurd hinvitation.1.1 hstep
  · rcases h (.teamInvitation id) with heq | ⟨r, hr, hstep⟩
    · exact heq ▸ hi
    · cases hr.symm.trans hi
      exact absurd hteam hstep

/-- The subscriptions of the team stay. -/
theorem Seated.rowStep (hs : Seated teamID n s) (h : RowStep (TeamStep teamID) s t) :
    Seated teamID n t := by
  have hsame : ∀ id sub, sub.teamID = teamID →
      (t.lookup (.membershipSubscription id) = some sub ↔
        s.lookup (.membershipSubscription id) = some sub) := by
    intro id sub hteam
    rcases h (.membershipSubscription id) with heq | ⟨r, hr, hstep⟩
    · rw [heq]
    · constructor
      · intro hsub
        cases hr.symm.trans hsub
        exact absurd hteam hstep.1
      · intro hsub
        exact absurd hteam (hstep.2 sub hsub)
  have hforce : ∀ {sub : MembershipSubscription} {now}, sub.isInForce teamID now = true →
      sub.teamID = teamID := by
    intro sub now hsub
    rw [MembershipSubscription.isInForce] at hsub
    simp only [Bool.and_eq_true, decide_eq_true_eq] at hsub
    exact hsub.1.1.1
  intro now id sub hsub hin
  obtain ⟨hle, id', sub', hsub', hin', hseats⟩ :=
    hs now id sub ((hsame id sub (hforce hin)).mp hsub) hin
  exact ⟨hle, id', sub', (hsame id' sub' (hforce hin')).mpr hsub', hin', hseats⟩

/-- What the others do to the rows of the team. -/
theorem teamStep_of_rely (h : (teamContract teamID τ n).Rely locks s t) :
    RowStep (TeamStep teamID) s t := by
  refine h.lift (RowStep.refl _) (fun _ _ _ h h' ↦ h.trans (rowTrans_teamStep teamID) h')
    fun c _ _ _ _ _ hcommit k ↦ ?_
  rcases hcommit.row k with heq | ⟨r, hr, hstep⟩
  · exact .inl heq
  · exact .inr ⟨r, hr, hstep.1⟩

/-- While the team is locked, nobody else gives out a seat. -/
theorem quiet_of_rely (h : (teamContract teamID τ n).Rely locks s t) (hk : .team teamID ∈ locks) :
    Quiet teamID τ s t :=
  h.lift (Quiet.refl teamID τ) (fun _ _ _ h h' ↦ h.trans h')
    fun _ _ _ _ _ hdisj hcommit ↦ hcommit.post.1 fun hk' ↦ hdisj hk hk'

/-- The invitation is locked and was found with its team. -/
theorem teamID_of_rely (h : (teamContract teamID τ n).Rely locks s t) {id : String}
    {i i' : TeamInvitation} (hi : s.lookup (.teamInvitation id) = some i)
    (hi' : t.lookup (.teamInvitation id) = some i') : i'.teamID = i.teamID := by
  rcases teamStep_of_rely h (.teamInvitation id) with heq | ⟨r, hr, hstep⟩
  · cases hi'.symm.trans (heq.trans hi)
    rfl
  · cases hr.symm.trans hi'
    exact hstep i hi

/-- **A quiet transaction**: the pending writes free seats at most, and if they touch the team's
invitations the team is locked. -/
structure Calm (teamID : String) (τ : Time) (locks : List RowKey) (ws : List (Sigma Row))
    (s : Store) : Prop where
  locked : keysOf ws ⊆ locks
  lower : Lower teamID τ s (s.apply ws)
  same : .team teamID ∈ locks ∨ SameInvitations teamID s (s.apply ws)

/-- A relation between a database and the view of a transaction that is about single rows is not
disturbed by the others. -/
theorem lookup_view_of_rely (h : (teamContract teamID τ n).Rely locks s t)
    (hlocked : keysOf ws ⊆ locks) (k : RowKey) :
    (t.lookup k = s.lookup k ∧ (t.apply ws).lookup k = (s.apply ws).lookup k) ∨
      (t.apply ws).lookup k = t.lookup k ∧ (s.apply ws).lookup k = s.lookup k := by
  by_cases hk : k ∈ keysOf ws
  · have heq := h.lookup_eq (hlocked hk)
    exact .inl ⟨heq, Db.lookup_apply_congr heq⟩
  · exact .inr ⟨Db.lookup_apply_of_notMem hk t, Db.lookup_apply_of_notMem hk s⟩

theorem Calm.rely (h : Calm teamID τ locks ws s) (ht : (teamContract teamID τ n).Rely locks s t) :
    Calm teamID τ locks ws t where
  locked := h.locked
  lower := by
    intro k r' hr' hseat
    rcases lookup_view_of_rely ht h.locked k with ⟨heq, hview⟩ | ⟨hview, -⟩
    · rw [heq]
      exact h.lower k r' (hview ▸ hr') hseat
    · exact ⟨r', hview ▸ hr', hseat⟩
  same := by
    refine h.same.imp_right fun hsame id i hi hteam ↦ ?_
    rcases lookup_view_of_rely ht h.locked (.teamInvitation id) with ⟨heq, hview⟩ | ⟨hview, -⟩
    · rw [heq]
      exact hsame id i (hview ▸ hi) hteam
    · exact hview ▸ hi

/-- **Quiet transactions commit well.** -/
theorem commits_of_calm (h : Calm teamID τ locks ws s) (hc : c.acceptsAt = none) (a : Unit) :
    Commits (.free TeamCall.prog) (teamContract teamID τ n) c a locks ws s := by
  intro t ht _ _ hrow
  replace h := h.rely ht
  obtain ⟨hseated, hle⟩ := ht.2
  have hlower := h.lower.seatsTaken_le
  refine ⟨⟨fun hk ↦ ⟨h.lower, h.same.resolve_left hk⟩, fun now hnow ↦ ?_⟩,
    hseated.rowStep fun k ↦ ?_, ?_⟩
  · rw [hc] at hnow
    cases hnow
  · rcases hrow k with heq | ⟨r, hr, hstep⟩
    · exact .inl heq
    · exact .inr ⟨r, hr, hstep.1⟩
  · show (seatsTaken teamID τ (t.apply ws) : ℤ) ≤ n
    omega

/-- **A transaction on `team`**, which is locked: the pending writes free seats at most, and the
invitations they touch are those of `team`. -/
structure Holding (team teamID : String) (τ : Time) (locks : List RowKey) (ws : List (Sigma Row))
    (s : Store) : Prop where
  held : .team team ∈ locks
  locked : keysOf ws ⊆ locks
  lower : Lower teamID τ s (s.apply ws)
  own : ∀ id i, .teamInvitation id ∈ keysOf ws → (s.apply ws).lookup (.teamInvitation id) = some i →
    i.teamID = team
  spares : ∀ id, .membershipSubscription id ∉ keysOf ws

variable {team : String} {now : Time}

theorem Holding.calm (h : Holding team teamID τ locks ws s) : Calm teamID τ locks ws s where
  locked := h.locked
  lower := h.lower
  same := by
    by_cases hteam : team = teamID
    · exact .inl (hteam ▸ h.held)
    · refine .inr fun id i hi hi' ↦ ?_
      by_cases hk : .teamInvitation id ∈ keysOf ws
      · exact absurd ((h.own id i hk hi).symm.trans hi') hteam
      · exact (Db.lookup_apply_of_notMem hk s).symm.trans hi

theorem Holding.rely (h : Holding team teamID τ locks ws s)
    (ht : (teamContract teamID τ n).Rely locks s t) : Holding team teamID τ locks ws t where
  held := h.held
  locked := h.locked
  lower := (h.calm.rely ht).lower
  own id i hk hi := h.own id i hk (by
    rw [← hi]
    exact (Db.lookup_apply_congr (ht.lookup_eq (h.locked hk))).symm)
  spares := h.spares

/-- The next writes free seats at most, and touch the invitations of `team` only. -/
theorem Holding.append (h : Holding team teamID τ locks ws s) (hlocks : locks ⊆ locks')
    (hkeys : keysOf ws' ⊆ locks') (hlower : Lower teamID τ (s.apply ws) ((s.apply ws).apply ws'))
    (hown : ∀ id i, .teamInvitation id ∈ keysOf ws' →
      ((s.apply ws).apply ws').lookup (.teamInvitation id) = some i → i.teamID = team)
    (hspares : ∀ id, .membershipSubscription id ∉ keysOf ws') :
    Holding team teamID τ locks' (ws ++ ws') s where
  held := hlocks h.held
  locked := by
    rw [keysOf, List.map_append]
    exact List.append_subset.mpr ⟨fun k hk ↦ hlocks (h.locked hk), hkeys⟩
  lower := by
    rw [Db.apply_append]
    exact h.lower.trans hlower
  own id i hk hi := by
    rw [Db.apply_append] at hi
    by_cases hk' : .teamInvitation id ∈ keysOf ws'
    · exact hown id i hk' hi
    · rw [Db.lookup_apply_of_notMem hk'] at hi
      rw [keysOf, List.map_append, List.mem_append] at hk
      exact h.own id i (hk.resolve_right hk') hi
  spares id hk := by
    rw [keysOf, List.map_append, List.mem_append] at hk
    exact hk.elim (h.spares id) (hspares id)

/-- More locks. -/
theorem Holding.lock (h : Holding team teamID τ locks ws s) (hlocks : locks ⊆ locks') :
    Holding team teamID τ locks' ws s := by
  have happend : Holding team teamID τ locks' (ws ++ []) s :=
    h.append hlocks (by simp [keysOf]) (.refl teamID τ _) (by simp [keysOf]) (by simp [keysOf])
  rwa [List.append_nil] at happend

/-- Overwriting one row gives out no seat. -/
theorem lower_insert {k : RowKey} {r : Row k}
    (h : isSeat teamID τ k r = true → ∃ r₀, s.lookup k = some r₀ ∧ isSeat teamID τ k r₀ = true) :
    Lower teamID τ s (s.insert k r) := by
  intro k' r' hr' hseat
  rcases Db.lookup_insert_cases hr' with heq | ⟨-, hold⟩
  · cases heq
    exact h hseat
  · exact ⟨r', hold, hseat⟩

/-- The audit event takes no seat. -/
theorem Holding.audit (h : Holding team teamID τ locks ws s) (id : String) (audit : TeamAuditEvent)
    (hlocks : locks ⊆ locks') (hkey : .teamAuditEvent id ∈ locks') :
    Holding team teamID τ locks' (ws ++ [⟨.teamAuditEvent id, audit⟩]) s := by
  refine h.append hlocks (by simpa [keysOf] using hkey) (lower_insert fun hseat ↦ ?_)
    (fun id' i hk ↦ ?_) fun id' hk ↦ ?_
  · cases hseat
  · simp [keysOf] at hk
  · simp [keysOf] at hk

/-- The team's pending invitations have not expired. -/
def Pruned (team : String) (now : Time) (ws : List (Sigma Row)) (s : Store) : Prop :=
  ∀ id i, (s.apply ws).lookup (.teamInvitation id) = some i → i.isPendingFor team = true →
    now < i.expiresAt

theorem Pruned.rely (h : Pruned teamID now ws s) (hheld : .team teamID ∈ locks)
    (hlocked : keysOf ws ⊆ locks) (ht : (teamContract teamID τ n).Rely locks s t) :
    Pruned teamID now ws t := by
  intro id i hi hpending
  rcases lookup_view_of_rely ht hlocked (.teamInvitation id) with ⟨-, hview⟩ | ⟨hview, hview'⟩
  · exact h id i (hview ▸ hi) hpending
  · have hteam : i.teamID = teamID := by
      rw [TeamInvitation.isPendingFor, Bool.and_eq_true, decide_eq_true_eq] at hpending
      exact hpending.1
    refine h id i (hview'.trans ?_) hpending
    exact (quiet_of_rely ht hheld).2 id i (hview ▸ hi) hteam

end States

/-! ## What the statements do -/

section Meets

variable {team teamID : String} {τ now : Time} {n : ℤ} {c : TeamCall teamID τ} {locks : List RowKey}
  {ws : List (Sigma Row)} {s : Store}

theorem meets_lockTeam (team : String) :
    (lockTeam team).Meets (teamContract teamID τ n)
      (fun _ locks ws s' ↦ Holding team teamID τ locks ws s' ∧ ws = [] ∧
        (teamContract teamID τ n).Rely [] s s') [] [] s := by
  rw [lockTeam, meets_bind]
  refine meets_firstForUpdate fun s' hs' _ _ _ ↦ meets_pure ⟨?_, rfl, hs'⟩
  exact ⟨by simp, by simp [keysOf], .refl teamID τ s', by simp [keysOf], by simp [keysOf]⟩

/-- What `expireTeamInvitations` makes of a row. -/
def expireRow (team : String) (now : Time) : ∀ k, Row k → Option (Row k)
  | .teamInvitation _, i =>
    if i.isPendingFor team ∧ i.expiresAt ≤ now then some { i with status := .expired } else none
  | _, _ => none

theorem expireTeamInvitations_eq (team : String) (now : Time) :
    expireTeamInvitations team now = Prog.updateAll (expireRow team now) >>= fun _ ↦ pure () := rfl

theorem expireRow_eq_some {k : RowKey} {r r' : Row k} (h : expireRow team now k r = some r') :
    ∃ id, k = .teamInvitation id := by
  cases k with
  | teamInvitation id => exact ⟨id, rfl⟩
  | _ => cases h

theorem mem_keysOf_changes {s : Store} {k : RowKey}
    (h : k ∈ keysOf (s.changes (expireRow team now))) :
    ∃ r r', s.lookup k = some r ∧ expireRow team now k r = some r' := by
  rw [keysOf, Db.keys_changes] at h
  obtain ⟨⟨k', r⟩, hmem, rfl⟩ := List.mem_map.mp h
  obtain ⟨hmem, hsome⟩ := List.mem_filter.mp hmem
  obtain ⟨r', hr'⟩ := Option.isSome_iff_exists.mp hsome
  exact ⟨r, r', Db.mem_entries_iff.mp hmem, hr'⟩

theorem meets_expireTeamInvitations (h : Holding team teamID τ locks ws s) :
    (expireTeamInvitations team now).Meets (teamContract teamID τ n)
      (fun _ locks ws s ↦ Holding team teamID τ locks ws s ∧ Pruned team now ws s ∧
        (teamContract teamID τ n).inv s) locks ws s := by
  rw [expireTeamInvitations_eq, meets_bind]
  refine meets_updateAll fun s' hs' ↦ meets_pure ⟨(h.rely hs').append ?_ ?_ ?_ ?_ ?_, ?_, hs'.2⟩
  · exact fun k hk ↦ List.mem_append_left _ hk
  · exact fun k hk ↦ List.mem_append_right _ hk
  · intro k r' hr' hseat
    rw [Db.lookup_apply_changes] at hr'
    obtain ⟨r, hr, rfl⟩ := Option.map_eq_some_iff.mp hr'
    refine ⟨r, hr, ?_⟩
    cases hnew : expireRow team now k r with
    | none => rwa [hnew] at hseat
    | some r' =>
      rw [hnew, Option.getD_some] at hseat
      obtain ⟨id, rfl⟩ := expireRow_eq_some hnew
      rw [expireRow] at hnew
      split at hnew <;> cases hnew
      simp [isSeat, isActiveMember, isReservedInvitation, TeamInvitation.isPendingFor] at hseat
  · intro id i hk hi
    obtain ⟨r, r', hr, hnew⟩ := mem_keysOf_changes hk
    rw [Db.lookup_apply_changes, hr, Option.map_some, hnew, Option.getD_some] at hi
    cases hi
    rw [expireRow] at hnew
    split at hnew <;> cases hnew
    rename_i hif
    rw [TeamInvitation.isPendingFor, Bool.and_eq_true, decide_eq_true_eq] at hif
    exact hif.1.1
  · intro id hk
    obtain ⟨r, r', -, hnew⟩ := mem_keysOf_changes hk
    cases hnew
  · intro id i hi hpending
    rw [Db.apply_append, Db.lookup_apply_changes] at hi
    obtain ⟨r, hr, rfl⟩ := Option.map_eq_some_iff.mp hi
    cases hnew : expireRow team now (.teamInvitation id) r with
    | none =>
      rw [hnew, Option.getD_none] at hpending
      rw [Option.getD_none]
      rw [expireRow] at hnew
      split at hnew
      · cases hnew
      · rename_i hif
        rw [not_and, not_le] at hif
        exact hif hpending
    | some r' =>
      rw [hnew, Option.getD_some] at hpending
      rw [expireRow] at hnew
      split at hnew <;> cases hnew
      simp [TeamInvitation.isPendingFor] at hpending

/-- While the team is locked its subscription has the seats it had. -/
theorem seats_of_requireTeamSubscription (h : Holding team teamID τ locks ws s)
    (hinv : (teamContract teamID τ n).inv s) {a : String × MembershipSubscription}
    (ha : activeTeamSubscription teamID now (s.apply ws) = some a) : a.2.seats = n := by
  refine seated_iff.mp ?_ now a ha
  have hlookup : ∀ id, (s.apply ws).lookup (.membershipSubscription id) =
      s.lookup (.membershipSubscription id) :=
    fun id ↦ Db.lookup_apply_of_notMem (h.spares id) s
  intro now id sub hsub hforce
  rw [hlookup] at hsub
  obtain ⟨hle, id', sub', hsub', hforce'⟩ := hinv.1 now id sub hsub hforce
  exact ⟨hle, id', sub', (hlookup id').trans hsub', hforce'⟩

theorem meets_requireTeamSubscription
    {Q : MembershipSubscription → List RowKey → List (Sigma Row) → Store → Prop}
    (h : ∀ s', (teamContract teamID τ n).Rely locks s s' →
      ∀ a, activeTeamSubscription team now (s'.apply ws) = some a → Q a.2 locks ws s') :
    (requireTeamSubscription team now).Meets (teamContract teamID τ n) Q locks ws s := by
  rw [requireTeamSubscription, meets_bind]
  refine meets_query fun s' hs' ↦ ?_
  cases ha : activeTeamSubscription team now (s'.apply ws) with
  | none => simp
  | some a => exact meets_pure (h s' hs' a ha)

theorem meets_createTeamAuditEvent (h : Holding team teamID τ locks ws s)
    (hc : c.acceptsAt = none) (id : String) (audit : TeamAuditEvent) :
    (createTeamAuditEvent id audit).Meets (teamContract teamID τ n)
      (Commits (.free TeamCall.prog) (teamContract teamID τ n) c) locks ws s := by
  rw [createTeamAuditEvent]
  refine meets_create fun s' hs' _ _ ↦ commits_of_calm ((h.rely hs').audit _ _ ?_ ?_).calm hc _
  · exact fun k hk ↦ List.mem_append_left _ hk
  · simp

/-! ### The transactions that free seats -/

/-- Overwriting an invitation of `team` that is locked, with one that has no seat it had not. -/
theorem Holding.updateInvitation {locks' : List RowKey} (h : Holding team teamID τ locks ws s)
    {id : String} {i i' : TeamInvitation} (hi : (s.apply ws).lookup (.teamInvitation id) = some i)
    (hi' : i'.teamID = team)
    (hseat : isSeat teamID τ (.teamInvitation id) i' = true →
      isSeat teamID τ (.teamInvitation id) i = true)
    (hlocks : locks ⊆ locks') (hkey : .teamInvitation id ∈ locks') :
    Holding team teamID τ locks' (ws ++ [⟨.teamInvitation id, i'⟩]) s := by
  refine h.append hlocks (by simpa [keysOf] using hkey)
    (lower_insert fun hseat' ↦ ⟨i, hi, hseat hseat'⟩) (fun id' i'' hk hi'' ↦ ?_) (by simp [keysOf])
  obtain rfl : id' = id := by simpa [keysOf] using hk
  cases (AList.lookup_insert _).symm.trans hi''
  exact hi'

theorem isSeat_teamInvitation {id : String} {i : TeamInvitation} :
    isSeat teamID τ (.teamInvitation id) i = true ↔
      i.teamID = teamID ∧ i.status = .pending ∧ τ < i.expiresAt := by
  simp [isSeat, isActiveMember, isReservedInvitation, TeamInvitation.isPendingFor, and_assoc]

theorem meets_revokeTeamInvitation {id auditID : String} {audit : TeamAuditEvent}
    (hc : c.acceptsAt = none) :
    (revokeTeamInvitation team id auditID audit now).Meets (teamContract teamID τ n)
      (Commits (.free TeamCall.prog) (teamContract teamID τ n) c) [] [] s := by
  rw [revokeTeamInvitation, meets_bind]
  refine (meets_lockTeam team).imp fun _ locks ws s hs ↦ ?_
  rw [meets_bind]
  refine (meets_expireTeamInvitations hs.1).imp fun _ locks ws s hs ↦ ?_
  rw [meets_bind]
  refine meets_firstForUpdate fun s' hs' invitation hinvitation hteam ↦ ?_
  have hholding := (hs.1.rely hs').lock (List.subset_append_left locks [.teamInvitation id])
  refine meets_ite (fun _ ↦ by simp) fun _ ↦ ?_
  rw [meets_bind]
  refine meets_update (fun s'' hs'' i hi _ i' hi' ↦ ?_) fun _ _ _ ↦ by simp
  cases hi'
  have heq : i = invitation := by
    rw [Db.lookup_apply_congr (hs''.lookup_eq (by simp)), hinvitation] at hi
    exact (Option.some.inj hi).symm
  rw [if_neg (by simp)]
  refine meets_createTeamAuditEvent ((hholding.rely hs'').updateInvitation hi ?_ ?_ ?_ ?_) hc _ _
  · rw [heq]
    exact of_decide_eq_true hteam
  · intro hseat
    rw [isSeat_teamInvitation] at hseat
    cases hseat.2.1
  · exact fun k hk ↦ List.mem_append_left _ hk
  · simp

theorem meets_regenerateTeamInvitation {id inviterUserID tokenHash auditID : String}
    {expiresAt : Time} {audit : TeamAuditEvent} (hnow : τ ≤ now) (hc : c.acceptsAt = none) :
    (regenerateTeamInvitation team id inviterUserID tokenHash expiresAt auditID audit now).Meets
      (teamContract teamID τ n) (Commits (.free TeamCall.prog) (teamContract teamID τ n) c)
      [] [] s := by
  rw [regenerateTeamInvitation, meets_bind]
  refine (meets_lockTeam team).imp fun _ locks ws s hs ↦ ?_
  rw [meets_bind]
  refine meets_firstForUpdate fun s' hs' invitation hinvitation hteam ↦ ?_
  have hholding := (hs.1.rely hs').lock (List.subset_append_left locks [.teamInvitation id])
  refine meets_ite (fun _ ↦ by simp) fun hpending ↦ ?_
  rw [not_or, not_not, not_le] at hpending
  rw [meets_bind]
  refine meets_updateUnique (fun s'' hs'' i hi _ ↦ ?_) fun _ _ _ ↦ by simp
  have heq : i = invitation := by
    rw [Db.lookup_apply_congr (hs''.lookup_eq (by simp)), hinvitation] at hi
    exact (Option.some.inj hi).symm
  subst heq
  rw [if_neg (by simp)]
  refine meets_createTeamAuditEvent ((hholding.rely hs'').updateInvitation hi ?_ ?_ ?_ ?_) hc _ _
  · exact of_decide_eq_true hteam
  · intro hseat
    rw [isSeat_teamInvitation] at hseat ⊢
    exact ⟨hseat.1, hpending.1, lt_of_le_of_lt hnow hpending.2⟩
  · exact fun k hk ↦ List.mem_append_left _ hk
  · simp

theorem meets_pendingTeamInvitations (hc : c.acceptsAt = none) :
    (pendingTeamInvitations team now).Meets (teamContract teamID τ n)
      (Commits (.free TeamCall.prog) (teamContract teamID τ n) c) [] [] s := by
  rw [pendingTeamInvitations, meets_bind]
  refine (meets_lockTeam team).imp fun _ locks ws s hs ↦ ?_
  exact (meets_expireTeamInvitations hs.1).imp fun a _ _ _ hs' ↦ commits_of_calm hs'.1.calm hc a

/-! ### The transaction that gives out a seat -/

/-- The seats taken, but for what one invitation takes. -/
def seatsBut (id teamID : String) (τ : Time) (s : Store) : ℕ :=
  s.count fun k r ↦ k ≠ .teamInvitation id && isSeat teamID τ k r

theorem seatsBut_le (id : String) : seatsBut id teamID τ s ≤ seatsTaken teamID τ s := by
  rw [seatsTaken_eq_count, seatsBut]
  refine Db.count_le_count fun k r hr hseat ↦ ⟨r, hr, ?_⟩
  rw [Bool.and_eq_true] at hseat
  exact hseat.2

theorem seatsTaken_le_seatsBut (id : String) :
    seatsTaken teamID τ s ≤ seatsBut id teamID τ s + 1 := by
  rw [seatsTaken_eq_count, seatsBut]
  refine Db.count_le_count_add_one (.teamInvitation id) fun k r hk hr hseat ↦ ⟨r, hr, ?_⟩
  rw [Bool.and_eq_true, decide_eq_true_eq]
  exact ⟨hk, hseat⟩

theorem Lower.seatsBut_le {t : Store} (h : Lower teamID τ s t) (id : String) :
    seatsBut id teamID τ t ≤ seatsBut id teamID τ s := by
  refine Db.count_le_count fun k r hr hseat ↦ ?_
  rw [Bool.and_eq_true] at hseat
  obtain ⟨r', hr', hseat'⟩ := h k r hr hseat.2
  exact ⟨r', hr', by rw [hseat.1, hseat', Bool.and_self]⟩

/-- What the transaction sees changes as quietly as what is committed. -/
theorem lower_view_of_rely {t : Store} (hlocked : keysOf ws ⊆ locks)
    (ht : (teamContract teamID τ n).Rely locks s t) (hheld : .team teamID ∈ locks) :
    Lower teamID τ (s.apply ws) (t.apply ws) := by
  intro k r hr hseat
  rcases lookup_view_of_rely ht hlocked k with ⟨-, hview⟩ | ⟨hview, hview'⟩
  · exact ⟨r, hview ▸ hr, hseat⟩
  · obtain ⟨r', hr', hseat'⟩ := (quiet_of_rely ht hheld).1 k r (hview ▸ hr) hseat
    exact ⟨r', hview'.trans hr', hseat'⟩

/-- **A transaction that may give out a seat**: whatever its invitation takes, there is room. -/
structure Reserving (id team teamID : String) (τ : Time) (n : ℤ) (locks : List RowKey)
    (ws : List (Sigma Row)) (s : Store) : Prop where
  elsewhere : team ≠ teamID → Holding team teamID τ locks ws s
  held : .team team ∈ locks
  locked : keysOf ws ⊆ locks
  room : team = teamID → (seatsBut id teamID τ (s.apply ws) : ℤ) < n

theorem Reserving.rely {id : String} {t : Store} (h : Reserving id team teamID τ n locks ws s)
    (ht : (teamContract teamID τ n).Rely locks s t) : Reserving id team teamID τ n locks ws t where
  elsewhere hne := (h.elsewhere hne).rely ht
  held := h.held
  locked := h.locked
  room hteam := by
    have hroom := h.room hteam
    have hle := (lower_view_of_rely h.locked ht (hteam ▸ h.held)).seatsBut_le id
    omega

theorem commits_of_reserving {id : String} (h : Reserving id team teamID τ n locks ws s)
    (hc : c.acceptsAt = none) (a : Unit) :
    Commits (.free TeamCall.prog) (teamContract teamID τ n) c a locks ws s := by
  by_cases hteam : team = teamID
  · intro t ht _ _ hrow
    replace h := h.rely ht
    obtain ⟨hseated, -⟩ := ht.2
    have hroom := h.room hteam
    have hle : seatsTaken teamID τ (t.apply ws) ≤ seatsBut id teamID τ (t.apply ws) + 1 :=
      seatsTaken_le_seatsBut id
    refine ⟨⟨fun hk ↦ absurd (hteam ▸ h.held) hk, fun now hnow ↦ ?_⟩, hseated.rowStep fun k ↦ ?_, ?_⟩
    · rw [hc] at hnow
      cases hnow
    · rcases hrow k with heq | ⟨r, hr, hstep⟩
      · exact .inl heq
      · exact .inr ⟨r, hr, hstep.1⟩
    · show (seatsTaken teamID τ (t.apply ws) : ℤ) ≤ n
      omega
  · exact commits_of_calm (h.elsewhere hteam).calm hc a

/-- The next write is the invitation there is room for, or takes no seat. -/
theorem Reserving.insert {id : String} {locks' : List RowKey} {k : RowKey} {r : Row k}
    (h : Reserving id team teamID τ n locks ws s) (hlocks : locks ⊆ locks') (hkey : k ∈ locks')
    (hseat : k = .teamInvitation id ∨ isSeat teamID τ k r = false)
    (helsewhere : Holding team teamID τ locks ws s → team ≠ teamID →
      Holding team teamID τ locks' (ws ++ [⟨k, r⟩]) s) :
    Reserving id team teamID τ n locks' (ws ++ [⟨k, r⟩]) s where
  elsewhere hne := helsewhere (h.elsewhere hne) hne
  held := hlocks h.held
  locked := by
    rw [keysOf, List.map_append]
    exact List.append_subset.mpr ⟨fun k hk ↦ hlocks (h.locked hk), by simpa using hkey⟩
  room hteam := by
    have hroom := h.room hteam
    have hle : seatsBut id teamID τ (s.apply (ws ++ [⟨k, r⟩])) ≤
        seatsBut id teamID τ (s.apply ws) := by
      rw [Db.apply_append]
      refine Db.count_le_count fun k' r' hr' hcounted ↦ ?_
      rw [Bool.and_eq_true, decide_eq_true_eq] at hcounted
      rcases Db.lookup_insert_cases hr' with heq | ⟨-, hold⟩
      · cases heq
        rcases hseat with hk | hno
        · exact absurd hk hcounted.1
        · rw [hno] at hcounted
          cases hcounted.2
      · exact ⟨r', hold, by rw [Bool.and_eq_true, decide_eq_true_eq]; exact hcounted⟩
    omega

/-- **Counting**: the invitations left pending are the ones counted. -/
theorem Holding.reserving {id : String} {t : Store} {subscription : MembershipSubscription}
    (h : Holding team teamID τ locks ws s) (hpruned : team = teamID → Pruned team now ws s)
    (ht : (teamContract teamID τ n).Rely locks s t)
    (hseats : team = teamID → subscription.seats = n)
    (hlt : ¬(activeMembers team (s.apply ws) : ℤ) + reservedInvitations team now (t.apply ws) ≥
      subscription.seats) : Reserving id team teamID τ n locks ws t where
  elsewhere _ := h.rely ht
  held := h.held
  locked := h.locked
  room hteam := by
    subst hteam
    have hpruned' := (hpruned rfl).rely h.held h.locked ht
    have hmembers : activeMembers team (t.apply ws) ≤ activeMembers team (s.apply ws) := by
      refine Db.count_le_count fun k r hr hmember ↦ ?_
      obtain ⟨r', hr', hseat⟩ := lower_view_of_rely h.locked ht h.held k r hr (by
        rw [isSeat, hmember, Bool.true_or])
      obtain ⟨userID, rfl⟩ := isActiveMember_eq_true hmember
      have hno : isReservedInvitation team τ (.teamMember team userID) r' = false := rfl
      exact ⟨r', hr', by rwa [isSeat, hno, Bool.or_false] at hseat⟩
    have hreserved : reservedInvitations team τ (t.apply ws) ≤
        reservedInvitations team now (t.apply ws) := by
      refine Db.count_le_count fun k r hr hreserved ↦ ⟨r, hr, ?_⟩
      obtain ⟨id', rfl⟩ := isReservedInvitation_eq_true hreserved
      rw [isReservedInvitation, Bool.and_eq_true] at hreserved ⊢
      exact ⟨hreserved.1, decide_eq_true (hpruned' id' r hr hreserved.1)⟩
    have hle : seatsBut id team τ (t.apply ws) ≤ seatsTaken team τ (t.apply ws) := seatsBut_le id
    have hsum : seatsTaken team τ (t.apply ws) = activeMembers team (t.apply ws) +
      reservedInvitations team τ (t.apply ws) := rfl
    have hn := hseats rfl
    omega

theorem meets_createTeamInvitation {id targetUserID auditID : String}
    {invitation : TeamInvitation} {audit : TeamAuditEvent} (hc : c.acceptsAt = none) :
    (createTeamInvitation id invitation targetUserID auditID audit now).Meets
      (teamContract teamID τ n) (Commits (.free TeamCall.prog) (teamContract teamID τ n) c)
      [] [] s := by
  rw [createTeamInvitation, meets_bind]
  refine (meets_lockTeam invitation.teamID).imp fun _ locks ws s hs ↦ ?_
  rw [meets_bind]
  refine (meets_expireTeamInvitations hs.1).imp fun _ locks ws s hs ↦ ?_
  rw [meets_bind]
  refine meets_requireTeamSubscription fun s₀ hs₀ subscription hsubscription ↦ ?_
  have hseats : invitation.teamID = teamID → subscription.2.seats = n := by
    intro hteam
    rw [hteam] at hs hsubscription
    exact seats_of_requireTeamSubscription (hs.1.rely hs₀) hs₀.2 hsubscription
  refine meets_check hs₀.2 fun s' hs' ↦ ?_
  rw [meets_bind]
  refine (meets_expireTeamInvitations (hs.1.rely (hs₀.trans hs'))).imp fun _ locks ws s hs ↦ ?_
  obtain ⟨hholding, hpruned, -⟩ := hs
  rw [meets_bind]
  refine meets_queryForUpdate fun s₁ hs₁ ↦ meets_ite (fun _ ↦ by simp) fun _ ↦ ?_
  have hlocks := List.subset_append_left locks
    (pendingInvitationsTo invitation.teamID invitation.email (s₁.apply ws))
  have hholding₁ := (hholding.rely hs₁).lock hlocks
  rw [meets_bind]
  refine meets_query fun s₂ hs₂ ↦ ?_
  rw [meets_bind]
  refine meets_query fun s₃ hs₃ ↦ meets_ite (fun _ ↦ by simp) fun hlt ↦ ?_
  have hpruned₂ : invitation.teamID = teamID → Pruned invitation.teamID now ws s₂ := by
    intro hteam
    rw [hteam] at hpruned hholding ⊢
    exact hpruned.rely hholding.held hholding.locked (hs₁.trans (hs₂.mono hlocks))
  have hreserving : Reserving id invitation.teamID teamID τ n _ ws s₃ :=
    (hholding₁.rely hs₂).reserving hpruned₂ hs₃ hseats hlt
  rw [meets_bind, createInvitationRow]
  refine meets_create fun s₄ hs₄ _ _ ↦ ?_
  have hplaced := (hreserving.rely hs₄).insert (r := invitation) (List.subset_append_left _
    (.teamInvitation id :: invitation.entries ++ [.teamInvitation id])) (by simp) (.inl rfl)
    fun hholding hne ↦ hholding.append (List.subset_append_left _ _) (by simp [keysOf])
      (lower_insert fun hseat ↦ absurd (isSeat_teamInvitation.mp hseat).1 hne) (fun id' i hk hi ↦ by
        obtain rfl : id' = id := by simpa [keysOf] using hk
        cases (AList.lookup_insert _).symm.trans hi
        rfl) (by simp [keysOf])
  rw [createTeamAuditEvent]
  refine meets_create fun s₅ hs₅ _ _ ↦ commits_of_reserving ((hplaced.rely hs₅).insert
    (List.subset_append_left _ _) (by simp) (.inr rfl) fun hholding _ ↦
      hholding.audit _ _ (List.subset_append_left _ _) (by simp)) hc _

/-! ### The transaction that exchanges a seat -/

/-- **A transaction that accepts an invitation** of `team` for `userID`: the invitation is locked and
was `i`; with the pending writes it is `i'`. -/
structure Accepting (id team userID : String) (i i' : TeamInvitation) (locks : List RowKey)
    (ws : List (Sigma Row)) (s : Store) : Prop where
  held : .team team ∈ locks
  locked : keysOf ws ⊆ locks
  writes : ∀ k ∈ keysOf ws,
    k = .teamMember team userID ∨ k = .teamInvitation id ∨ ∃ a, k = .teamAuditEvent a
  pinned : Pinned locks ws s (.teamInvitation id) (some i) (some i')

section Accepting

variable {id userID : String} {i i' : TeamInvitation} {locks' : List RowKey} {t : Store}

theorem Accepting.rely (h : Accepting id team userID i i' locks ws s)
    (ht : (teamContract teamID τ n).Rely locks s t) : Accepting id team userID i i' locks ws t where
  held := h.held
  locked := h.locked
  writes := h.writes
  pinned := h.pinned.rely ht

/-- Another row. -/
theorem Accepting.append (h : Accepting id team userID i i' locks ws s) {k : RowKey} (r : Row k)
    (hlocks : locks ⊆ locks') (hkey : k ∈ locks')
    (hk : k = .teamMember team userID ∨ ∃ a, k = .teamAuditEvent a) :
    Accepting id team userID i i' locks' (ws ++ [⟨k, r⟩]) s where
  held := hlocks h.held
  locked := by
    rw [keysOf, List.map_append]
    exact List.append_subset.mpr ⟨fun k hk ↦ hlocks (h.locked hk), by simpa using hkey⟩
  writes k' hk' := by
    rw [keysOf, List.map_append, List.mem_append] at hk'
    rcases hk' with hk' | hk'
    · exact h.writes k' hk'
    · obtain rfl : k' = k := by simpa using hk'
      exact hk.imp_right .inr
  pinned := by
    refine h.pinned.append hlocks fun hmem ↦ ?_
    obtain rfl : .teamInvitation id = k := by simpa [keysOf] using hmem
    rcases hk with hk | ⟨a, hk⟩ <;> cases hk

/-- The invitation. -/
theorem Accepting.accept (h : Accepting id team userID i i' locks ws s) (hlocks : locks ⊆ locks')
    (i'' : TeamInvitation) :
    Accepting id team userID i i'' locks' (ws ++ [⟨.teamInvitation id, i''⟩]) s where
  held := hlocks h.held
  locked := by
    rw [keysOf, List.map_append]
    exact List.append_subset.mpr ⟨fun k hk ↦ hlocks (h.locked hk), by
      simpa using hlocks h.pinned.locked⟩
  writes k hk := by
    rw [keysOf, List.map_append, List.mem_append] at hk
    rcases hk with hk | hk
    · exact h.writes k hk
    · exact .inr (.inl (by simpa using hk))
  pinned := .write h.pinned.committed (hlocks h.pinned.locked) i''

/-- The member's row apart, what takes a seat afterwards is as it was. -/
theorem Accepting.kept (h : Accepting id team userID i i' locks ws s)
    (haccepted : i'.status ≠ .pending) {σ : Time} {k : RowKey} {r : Row k}
    (hk : k ≠ .teamMember team userID) (hr : (s.apply ws).lookup k = some r)
    (hseat : isSeat teamID σ k r = true) : k ≠ .teamInvitation id ∧ s.lookup k = some r := by
  by_cases hmem : k ∈ keysOf ws
  · rcases h.writes k hmem with rfl | rfl | ⟨a, rfl⟩
    · exact absurd rfl hk
    · cases h.pinned.view.symm.trans hr
      exact absurd (isSeat_teamInvitation.mp hseat).2.1 haccepted
    · cases hseat
  · refine ⟨?_, by rwa [Db.lookup_apply_of_notMem hmem] at hr⟩
    rintro rfl
    cases h.pinned.view.symm.trans hr
    exact absurd (isSeat_teamInvitation.mp hseat).2.1 haccepted

/-- For another team nothing changes. -/
theorem Accepting.lower (h : Accepting id team userID i i' locks ws s)
    (haccepted : i'.status ≠ .pending) (hteam : team ≠ teamID) (σ : Time) :
    Lower teamID σ s (s.apply ws) := by
  refine fun k r hr hseat ↦ ⟨r, (h.kept haccepted ?_ hr hseat).2, hseat⟩
  rintro rfl
  simp [isSeat, isActiveMember, isReservedInvitation, hteam] at hseat

/-- **An acceptance takes no seat that was free**: the member takes the seat of the invitation. -/
theorem Accepting.seatsTaken_le (h : Accepting id team userID i i' locks ws s)
    (hi : i.teamID = team) (hpending : i.status = .pending) (hexpires : now < i.expiresAt)
    (haccepted : i'.status ≠ .pending) {σ : Time} (hσ : σ ≤ now) :
    seatsTaken teamID σ (s.apply ws) ≤ seatsTaken teamID σ s := by
  by_cases hteam : team = teamID
  · rw [seatsTaken_eq_count, seatsTaken_eq_count]
    refine Db.count_le_count_of_exchange (.teamMember team userID)
      (fun k r hk hr hseat ↦ ⟨r, (h.kept haccepted hk hr hseat).2, hseat⟩) h.pinned.committed ?_
      fun r hr ↦ ?_
    · exact isSeat_teamInvitation.mpr ⟨hi.trans hteam, hpending, lt_of_le_of_lt hσ hexpires⟩
    · rw [Bool.eq_false_iff]
      exact fun hseat ↦ (h.kept haccepted (by simp) hr hseat).1 rfl
  · exact (h.lower haccepted hteam σ).seatsTaken_le

theorem Accepting.sameInvitations (h : Accepting id team userID i i' locks ws s)
    (hi' : i'.teamID = team) (hteam : team ≠ teamID) : SameInvitations teamID s (s.apply ws) := by
  intro id' j hj hj'
  by_cases hmem : .teamInvitation id' ∈ keysOf ws
  · rcases h.writes _ hmem with hk | hk | ⟨a, hk⟩
    · cases hk
    · cases hk
      cases h.pinned.view.symm.trans hj
      exact absurd (hi'.symm.trans hj') hteam
    · cases hk
  · rwa [Db.lookup_apply_of_notMem hmem] at hj

theorem commits_of_accepting (h : Accepting id team userID i i' locks ws s) (hnow : τ ≤ now)
    (hi : i.teamID = team) (hpending : i.status = .pending) (hexpires : now < i.expiresAt)
    (hi' : i'.teamID = team) (haccepted : i'.status ≠ .pending)
    (hc : ∀ now', c.acceptsAt = some now' → now' = now) (a : Unit) :
    Commits (.free TeamCall.prog) (teamContract teamID τ n) c a locks ws s := by
  intro t ht _ _ hrow
  replace h := h.rely ht
  obtain ⟨hseated, hle⟩ := ht.2
  refine ⟨⟨fun hk ↦ ?_, fun now' hnow' ↦ ?_⟩, hseated.rowStep fun k ↦ ?_, ?_⟩
  · have hteam : team ≠ teamID := fun heq ↦ hk (heq ▸ h.held)
    exact ⟨h.lower haccepted hteam τ, h.sameInvitations hi' hteam⟩
  · rw [hc now' hnow']
    exact h.seatsTaken_le hi hpending hexpires haccepted (le_refl now)
  · rcases hrow k with heq | ⟨r, hr, hstep⟩
    · exact .inl heq
    · exact .inr ⟨r, hr, hstep.1⟩
  · have hle' : seatsTaken teamID τ (t.apply ws) ≤ seatsTaken teamID τ t :=
      h.seatsTaken_le hi hpending hexpires haccepted hnow
    show (seatsTaken teamID τ (t.apply ws) : ℤ) ≤ n
    omega

theorem meets_admitTeamMember {memberID : String} {role : TeamMemberRole}
    {existing : Option TeamMember} (h : Accepting id team userID i i' locks ws s) :
    (admitTeamMember team userID memberID role now existing).Meets (teamContract teamID τ n)
      (fun _ locks ws s ↦ Accepting id team userID i i' locks ws s) locks ws s := by
  cases existing with
  | none =>
    exact meets_create fun s' hs' _ _ ↦ (h.rely hs').append _ (List.subset_append_left _ _)
      (by simp) (.inl rfl)
  | some m =>
    rw [admitTeamMember, meets_bind]
    refine meets_update (fun s' hs' m _ _ m' hm' ↦ meets_pure ?_) fun s' hs' _ ↦
      meets_pure (h.rely hs')
    exact (h.rely hs').append m' (List.subset_append_left _ _) (by simp) (.inl rfl)

end Accepting

theorem lookup_of_invitationReference {id tokenHash : String} {x : String × TeamInvitation}
    (h : invitationReference id tokenHash s = some x) :
    s.lookup (.teamInvitation x.1) = some x.2 := by
  rw [invitationReference] at h
  split at h
  · obtain ⟨i, hi, rfl⟩ := Option.map_eq_some_iff.mp h
    exact hi
  · obtain ⟨k, r, hr, hsome⟩ := Db.mem_select.mp (List.mem_of_head? h)
    cases k with
    | teamInvitation id' =>
      dsimp only at hsome
      split at hsome <;> cases hsome
      exact hr
    | _ => cases hsome

theorem meets_acceptTeamInvitation {id tokenHash memberID userID email auditID : String}
    {audit : TeamAuditEvent} (hnow : τ ≤ now) (hc : ∀ now', c.acceptsAt = some now' → now' = now) :
    (acceptTeamInvitation id tokenHash memberID userID email auditID audit now).Meets
      (teamContract teamID τ n) (Commits (.free TeamCall.prog) (teamContract teamID τ n) c)
      [] [] s := by
  rw [acceptTeamInvitation, meets_bind]
  refine meets_query fun s₁ hs₁ ↦ ?_
  cases href : invitationReference id tokenHash (s₁.apply []) with
  | none => simp
  | some x =>
    obtain ⟨id, reference⟩ := x
    rw [meets_bind]
    refine (meets_lockTeam reference.teamID).imp fun _ locks ws s₂ hs₂ ↦ ?_
    obtain ⟨hholding, rfl, hrely⟩ := hs₂
    rw [meets_bind]
    refine meets_firstForUpdate fun s₃ hs₃ i hi _ ↦ ?_
    have hteam : i.teamID = reference.teamID :=
      teamID_of_rely (hrely.trans (hs₃.mono (List.nil_subset _)))
        (lookup_of_invitationReference href) hi
    have haccepting : Accepting id reference.teamID userID i i (locks ++ [.teamInvitation id])
        [] s₃ := ⟨List.mem_append_left _ hholding.held, by simp [keysOf], by simp [keysOf],
          ⟨by simp, hi, hi⟩⟩
    refine meets_ite (fun _ ↦ by simp) fun hpending ↦ ?_
    rw [not_or, not_not, not_le] at hpending
    refine meets_ite (fun _ ↦ by simp) fun _ ↦ ?_
    rw [meets_bind]
    refine meets_requireTeamSubscription fun s₄ hs₄ subscription _ ↦ ?_
    rw [meets_bind]
    refine meets_query fun s₅ hs₅ ↦ meets_ite (fun _ ↦ by simp) fun _ ↦ ?_
    rw [meets_bind]
    refine meets_query fun s₆ hs₆ ↦ meets_ite (fun _ ↦ by simp) fun _ ↦ ?_
    rw [hteam, meets_bind]
    refine (meets_admitTeamMember (((haccepting.rely hs₄).rely hs₅).rely hs₆)).imp
      fun _ locks ws s₇ haccepting ↦ ?_
    rw [meets_bind]
    refine meets_update (fun s₈ hs₈ i' hi' _ i'' hi'' ↦ ?_) fun _ _ _ ↦ by simp
    cases hi''
    rw [if_neg (by simp), createTeamAuditEvent]
    have haccepted := (haccepting.rely hs₈).accept (List.subset_append_left _ [.teamInvitation id])
      (i'.accept userID now)
    refine meets_create fun s₉ hs₉ _ _ ↦ commits_of_accepting ((haccepted.rely hs₉).append _
      (List.subset_append_left _ _) (by simp) (.inr ⟨_, rfl⟩)) hnow hteam hpending.1 hpending.2
      ?_ (by simp [TeamInvitation.accept]) hc _
    cases (haccepting.rely hs₈).pinned.view.symm.trans hi'
    exact hteam

/-! ### The transactions that leave the invitations alone -/

theorem commits_of_spares (hc : c.sparesInvitations) (hc' : c.acceptsAt = none) (a : Unit) :
    Commits (.free TeamCall.prog) (teamContract teamID τ n) c a locks ws s := by
  intro t ht _ _ hrow
  obtain ⟨hseated, hle⟩ := ht.2
  have hstep : RowStep (TeamStep teamID) t (t.apply ws) ∧
      RowStep (QuietStep teamID) t (t.apply ws) := by
    refine ⟨fun k ↦ ?_, fun k ↦ ?_⟩ <;> rcases hrow k with heq | ⟨r, hr, hstep⟩
    · exact .inl heq
    · exact .inr ⟨r, hr, hstep.1⟩
    · exact .inl heq
    · exact .inr ⟨r, hr, hstep.2 hc⟩
  have hquiet : Quiet teamID τ t (t.apply ws) := quiet_of_rowStep hstep.2
  have hlower := hquiet.1.seatsTaken_le
  refine ⟨⟨fun _ ↦ hquiet, fun now hnow ↦ ?_⟩, hseated.rowStep hstep.1, ?_⟩
  · rw [hc'] at hnow
    cases hnow
  · show (seatsTaken teamID τ (t.apply ws) : ℤ) ≤ n
    omega

theorem meets_of_spares (hs : (teamContract teamID τ n).inv s) (hc : c.sparesInvitations)
    (hc' : c.acceptsAt = none) : c.prog.Meets (teamContract teamID τ n)
      (Commits (.free TeamCall.prog) (teamContract teamID τ n) c) [] [] s :=
  meets_of_writesOnly (K := fun _ ↦ True) (c.keeps_prog.imp fun _ _ _ _ ↦ trivial) hs
    fun a _ _ _ _ _ _ ↦ commits_of_spares hc hc' a

end Meets

theorem TeamCall.meets_prog {teamID : String} {τ : Time} {n : ℤ} (c : TeamCall teamID τ)
    (s : Store) (hs : (teamContract teamID τ n).inv s) :
    c.prog.Meets (teamContract teamID τ n)
      (Commits (.free TeamCall.prog) (teamContract teamID τ n) c) [] [] s := by
  cases c with
  | createInvitation => exact meets_createTeamInvitation rfl
  | regenerateInvitation _ _ _ _ _ _ _ _ hnow => exact meets_regenerateTeamInvitation hnow rfl
  | acceptInvitation _ _ _ _ _ _ _ _ hnow =>
    exact meets_acceptTeamInvitation hnow fun _ h ↦ (Option.some.inj h).symm
  | revokeInvitation => exact meets_revokeTeamInvitation rfl
  | pendingInvitations => exact meets_pendingTeamInvitations rfl
  | updateMemberRole => exact meets_of_spares hs trivial rfl
  | updateMemberPolicy => exact meets_of_spares hs trivial rfl
  | removeMember => exact meets_of_spares hs trivial rfl
  | rename => exact meets_of_spares hs trivial rfl
  | other => exact meets_of_spares hs trivial rfl

/-! ## Every run -/

/-- **There are seats for all.**  Whatever the interleaving, as long as the subscription of the team
has `n` seats and no call's clock is before `τ`: after every commit, and as of every later moment, the
active members and the pending invitations that have not expired take at most `n` seats; and no
acceptance takes a seat that was free. -/
theorem team_seats {teamID : String} {τ : Time} {n : ℤ} {s : Store}
    {cfg : Config (TeamCall teamID τ) Row RepoError Unit}
    (hseats : ∀ now a, activeTeamSubscription teamID now s = some a → a.2.seats = n)
    (hstart : (seatsTaken teamID τ s : ℤ) ≤ n)
    (h : Reach (.free TeamCall.prog) (.init s) cfg) :
    (∀ t, τ ≤ t → (seatsTaken teamID t cfg.db : ℤ) ≤ n) ∧
      ∀ e ∈ cfg.log, ∀ now, e.call.acceptsAt = some now →
        seatsTaken teamID now e.after ≤ seatsTaken teamID now e.before := by
  have hok := Contract.sound (C := teamContract teamID τ n) (fun c ↦ c.rowTrans)
    (fun c ↦ c.keeps_prog) (fun c s hs ↦ c.meets_prog s hs) ⟨seated_iff.mpr hseats, hstart⟩ h
  refine ⟨fun t ht ↦ ?_, fun e he now hnow ↦ ?_⟩
  · have hle := hok.inv.2
    have hmono : seatsTaken teamID t cfg.db ≤ seatsTaken teamID τ cfg.db :=
      seatsTaken_mono ht cfg.db
    omega
  · have hfulfilled := hok.log e he
    rw [Contract.Fulfilled] at hfulfilled
    split at hfulfilled
    · obtain ⟨locks, hcommit⟩ := hfulfilled
      exact hcommit.post.2 now hnow
    · rw [hfulfilled]

/-! ## A team with two seats -/

/-- The subscriptions all have `n` seats. -/
def haveSeats (n : ℤ) (s : Store) : Bool :=
  !s.any fun
    | .membershipSubscription _, sub => sub.seats ≠ n
    | _, _ => false

theorem seats_of_haveSeats {teamID : String} {now : Time} {n : ℤ} {s : Store}
    (h : haveSeats n s = true) {a : String × MembershipSubscription}
    (ha : activeTeamSubscription teamID now s = some a) : a.2.seats = n := by
  rw [haveSeats, Bool.not_eq_true', Db.any_eq_false_iff] at h
  obtain ⟨hsub, -⟩ := mem_subscriptionsInForce.mp (Db.mem_of_firstBy ha)
  simpa using h _ _ hsub

def twoSeats : Store :=
  (((∅ : Store).insert (.team "t") {}).insert (.membershipSubscription "sub")
    { userID := "owner", teamID := "t", seats := 2 }).insert
    (.teamMember "t" "owner") { id := "m", role := .owner }

/-- `b` holds an invitation that runs out at 5.  Until then there is no room for `c`; afterwards there
is, and the invitation of `b` is worth nothing. -/
def latecomer : List (Action (TeamCall "t" 1)) :=
  let invite (id email : String) (now : Time) (h : 1 ≤ now) : TeamCall "t" 1 :=
    .createInvitation id
      { teamID := "t", email := email, tokenHash := id, expiresAt := now + 4 } "" (id ++ "-audit") {}
      now h
  let steps (t n : ℕ) : List (Action (TeamCall "t" 1)) := List.replicate n (.step t)
  [.start 0 (invite "ib" "b" 1 (by decide))] ++ steps 0 9 ++ [.commit 0] ++
  [.start 0 (invite "ic" "c" 2 (by decide))] ++ steps 0 7 ++ [.abort 0] ++
  [.start 0 (invite "ic" "c" 6 (by decide))] ++ steps 0 9 ++
  [.start 1 (.acceptInvitation "ib" "" "mb" "b" "b" "a1" {} 6 (by decide)), .step 1] ++ [.commit 0] ++
  steps 1 2 ++ [.abort 1] ++
  [.start 1 (.acceptInvitation "ic" "" "mc" "c" "c" "a2" {} 7 (by decide))] ++ steps 1 9 ++ [.commit 1]

theorem play_latecomer :
    (play TeamCall.prog (.init twoSeats) latecomer).map
      (fun cfg ↦ (cfg.log.map (·.result.isSome), seatsTaken "t" 7 cfg.db)) =
      some ([true, false, true, false, true], 2) := by
  decide +kernel

theorem team_seats_latecomer :
    ∃ cfg : Config (TeamCall "t" 1) Row RepoError Unit,
      Reach (.free TeamCall.prog) (.init twoSeats) cfg ∧ cfg.log.length = 5 ∧
      (∀ t, 1 ≤ t → (seatsTaken "t" t cfg.db : ℤ) ≤ 2) ∧
        ∀ e ∈ cfg.log, ∀ now, e.call.acceptsAt = some now →
          seatsTaken "t" now e.after ≤ seatsTaken "t" now e.before := by
  obtain ⟨cfg, hplay, hlog⟩ := Option.map_eq_some_iff.mp play_latecomer
  have hlength := congrArg (fun p ↦ p.1.length) hlog
  exact ⟨cfg, reach_of_play hplay, by simpa using hlength,
    team_seats (fun _ _ ↦ seats_of_haveSeats (by decide)) (by decide)
      (reach_of_play hplay)⟩

end HMaigc
