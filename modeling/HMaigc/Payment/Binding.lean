import HMaigc.Sql.Preserves
import HMaigc.Sql.Serial
import HMaigc.Repository.Footprint

/-!
# The transaction a provider trade belongs to

A provider's trade number is to pay for one transaction.  `RecordPaymentWebhookEvent` therefore
looks up the first stored event with the trade number of the event it is given, in the order of
their creation times, and parks the new event for review when the two are about different
transactions.  The times are the callers', and parked events stay in the table.

* `IsFirst` — the event the lookup finds, and `owner` the transaction it is bound to.
* `RecordPost` — what recording an event does to the events of the database.
* `Recording` — a run: recordings one after another, each with what it stored, among moves that
  leave the facts of events alone.
* `trade_bound_once` — as long as no event for another transaction is older than the first event of
  its trade, every received event is about the transaction its trade was stored for first.
* `exists_recording_bound_twice` — otherwise a parked event becomes the first one, and the next
  event like it is received.
-/

set_option autoImplicit false

namespace HMaigc

open Sql Go Prog

/-! ## The first event of a trade -/

/-- The event carries the trade number. -/
def PaymentWebhookEvent.Carries (event : PaymentWebhookEvent) (provider : PaymentProvider)
    (tradeNo : String) : Prop :=
  event.provider = provider ∧ event.providerTradeNo = tradeNo

instance (event : PaymentWebhookEvent) (provider : PaymentProvider) (tradeNo : String) :
    Decidable (event.Carries provider tradeNo) :=
  inferInstanceAs (Decidable (_ ∧ _))

/-- `created_at`, then the identifier. -/
def EventBefore (a b : String × PaymentWebhookEvent) : Prop :=
  a.2.createdAt < b.2.createdAt ∨ a.2.createdAt = b.2.createdAt ∧ a.1 < b.1

instance : DecidableRel EventBefore := fun _ _ ↦ inferInstanceAs (Decidable (_ ∨ _))

theorem EventBefore.connex {a b : String × PaymentWebhookEvent} (h : ¬EventBefore a b)
    (h' : ¬EventBefore b a) : a.1 = b.1 := by
  simp only [EventBefore, not_or, not_and, not_lt] at h h'
  have heq : a.2.createdAt = b.2.createdAt := le_antisymm h'.1 h.1
  exact String.le_antisymm (String.not_lt.mp (h'.2 heq.symm)) (String.not_lt.mp (h.2 heq))

theorem EventBefore.irrefl (a : String × PaymentWebhookEvent) : ¬EventBefore a a := by
  rintro (h | ⟨-, h⟩)
  · exact lt_irrefl _ h
  · exact String.lt_irrefl _ h

theorem EventBefore.trans {a b c : String × PaymentWebhookEvent} (h : EventBefore a b)
    (h' : EventBefore b c) : EventBefore a c := by
  rcases h with h | ⟨heq, h⟩
  · rcases h' with h' | ⟨heq', -⟩
    · exact .inl (h.trans h')
    · exact .inl (heq' ▸ h)
  · rcases h' with h' | ⟨heq', h'⟩
    · exact .inl (heq ▸ h')
    · exact .inr ⟨heq.trans heq', String.lt_trans h h'⟩

/-- The event is stored, carries the trade number, and comes before all others that do. -/
structure IsFirst (provider : PaymentProvider) (tradeNo : String) (s : Store)
    (a : String × PaymentWebhookEvent) : Prop where
  stored : s.lookup (.paymentWebhookEvent a.1) = some a.2
  carries : a.2.Carries provider tradeNo
  first : ∀ id e, s.lookup (.paymentWebhookEvent id) = some e → e.Carries provider tradeNo →
    ¬EventBefore (id, e) a

section First

variable {provider : PaymentProvider} {tradeNo : String} {s t : Store}
  {a b : String × PaymentWebhookEvent}

theorem mem_eventsOfTrade :
    a ∈ eventsOfTrade provider tradeNo s ↔
      s.lookup (.paymentWebhookEvent a.1) = some a.2 ∧ a.2.Carries provider tradeNo := by
  rw [eventsOfTrade, Db.mem_select]
  constructor
  · rintro ⟨k, r, hr, hmem⟩
    cases k with
    | paymentWebhookEvent id =>
      obtain ⟨hcarries, heq⟩ := Option.ite_none_right_eq_some.mp hmem
      cases heq
      exact ⟨hr, hcarries⟩
    | _ => cases hmem
  · rintro ⟨hr, hcarries⟩
    exact ⟨_, _, hr, if_pos hcarries⟩

theorem IsFirst.unique (ha : IsFirst provider tradeNo s a) (hb : IsFirst provider tradeNo s b) :
    a = b := by
  have hid := EventBefore.connex (hb.first _ _ ha.stored ha.carries)
    (ha.first _ _ hb.stored hb.carries)
  have hrow := ha.stored
  rw [hid, hb.stored] at hrow
  exact Prod.ext hid (Option.some.inj hrow).symm

/-- **What the lookup finds.** -/
theorem firstEventOfTrade_eq_some :
    firstEventOfTrade provider tradeNo s = some a ↔ IsFirst provider tradeNo s a := by
  have hfirst : ∀ b, firstEventOfTrade provider tradeNo s = some b →
      IsFirst provider tradeNo s b := by
    intro b hb
    obtain ⟨hstored, hcarries⟩ := mem_eventsOfTrade.mp (Db.mem_of_earliest hb)
    exact ⟨hstored, hcarries, fun id e he hcar ↦
      Db.not_before_earliest hb (mem_eventsOfTrade (a := (id, e)).mpr ⟨he, hcar⟩)⟩
  refine ⟨hfirst a, fun ha ↦ ?_⟩
  cases hb : firstEventOfTrade provider tradeNo s with
  | none =>
    have hmem := mem_eventsOfTrade.mpr ⟨ha.stored, ha.carries⟩
    rw [firstEventOfTrade, Db.earliest_eq_none] at hb
    simp [hb] at hmem
  | some b => rw [ha.unique (hfirst b hb)]

theorem firstEventOfTrade_eq_none :
    firstEventOfTrade provider tradeNo s = none ↔
      ∀ id e, s.lookup (.paymentWebhookEvent id) = some e → ¬e.Carries provider tradeNo := by
  rw [firstEventOfTrade, Db.earliest_eq_none, List.eq_nil_iff_forall_not_mem]
  exact ⟨fun h id e he hcarries ↦ h (id, e) (mem_eventsOfTrade.mpr ⟨he, hcarries⟩),
    fun h a ha ↦ h a.1 a.2 (mem_eventsOfTrade.mp ha).1 (mem_eventsOfTrade.mp ha).2⟩

/-- The transaction the first event of a trade is bound to. -/
def owner (provider : PaymentProvider) (tradeNo : String) (s : Store) : Option String :=
  (firstEventOfTrade provider tradeNo s).map (·.2.transactionID)

end First

/-! ## Recording an event -/

/-- What stays of an event when its outcome is noted. -/
def PaymentWebhookEvent.fact (event : PaymentWebhookEvent) :
    PaymentProvider × String × String × Time :=
  (event.provider, event.providerTradeNo, event.transactionID, event.createdAt)

/-- The events are those that were there, with their facts. -/
def KeepsFacts (s t : Store) : Prop :=
  ∀ id, (t.lookup (.paymentWebhookEvent id)).map (·.fact) =
    (s.lookup (.paymentWebhookEvent id)).map (·.fact)

/-- The event would be stored before the first one of its trade, which is bound to another
transaction. -/
def Overtakes (id : String) (candidate : PaymentWebhookEvent) (s : Store) : Prop :=
  ∃ a, firstEventOfTrade candidate.provider candidate.providerTradeNo s = some a ∧
    a.2.transactionID ≠ candidate.transactionID ∧ EventBefore (id, candidate) a

/-- The event is stored as it is given, or parked. -/
def PaymentWebhookEvent.stored (candidate : PaymentWebhookEvent) (s : Store) :
    PaymentWebhookEvent :=
  if tradeConflict candidate (firstEventOfTrade candidate.provider candidate.providerTradeNo s) then
    candidate.park
  else candidate

/-- What a recording that returns `r` does to the events. -/
structure RecordPost (id : String) (candidate : PaymentWebhookEvent)
    (r : (String × PaymentWebhookEvent) × Bool) (s s' : Store) : Prop where
  others : ∀ id', id' ≠ id ∨ r.2 = false →
    s'.lookup (.paymentWebhookEvent id') = s.lookup (.paymentWebhookEvent id')
  created : r.2 = true → s.lookup (.paymentWebhookEvent id) = none ∧
    r.1 = (id, candidate.stored s) ∧
      s'.lookup (.paymentWebhookEvent id) = some (candidate.stored s)

theorem writes_parkTransaction (candidate : PaymentWebhookEvent)
    (transaction : Option PaymentTransaction) :
    (parkTransaction candidate transaction).WritesOnly
      (· = .paymentTransaction candidate.transactionID) := by
  simp [parkTransaction, keeps_ite]

/-- Parking the transaction leaves the events alone. -/
theorem post_parkTransaction (candidate : PaymentWebhookEvent)
    (transaction : Option PaymentTransaction) (s : Store) :
    (parkTransaction candidate transaction).Post s fun _ s' ↦
      ∀ id, s'.lookup (.paymentWebhookEvent id) = s.lookup (.paymentWebhookEvent id) := by
  refine (post_of_keeps (fun _ _ _ _ _ h ↦ by exact h)
    (writes_parkTransaction candidate transaction) s).mono fun _ s' hstep id ↦ ?_
  exact (hstep.1 (.paymentWebhookEvent id)).resolve_right fun ⟨_, _, heq⟩ ↦ by cases heq

/-- Storing an event. -/
theorem post_createWebhookEvent {id : String} {candidate e : PaymentWebhookEvent} {s t : Store}
    (hsame : ∀ id, t.lookup (.paymentWebhookEvent id) = s.lookup (.paymentWebhookEvent id))
    (he : candidate.stored s = e) :
    (createWebhookEvent id e).Post t fun _ s' ↦ RecordPost id candidate ((id, e), true) s s' := by
  rw [createWebhookEvent, post_create]
  intro hnone _
  refine ⟨fun id' hid' ↦ ?_, fun _ ↦ ⟨(hsame id).symm.trans hnone, by rw [he], ?_⟩⟩
  · have hne : id' ≠ id := hid'.resolve_right (by simp)
    rw [AList.lookup_insert_ne (by simpa using hne), hsame]
  · rw [AList.lookup_insert, he]

/-- **What a recording does to the events.** -/
theorem post_recordPaymentWebhookEvent (id : String) (candidate : PaymentWebhookEvent) (s : Store) :
    (recordPaymentWebhookEvent id candidate).Post s fun r s' ↦ RecordPost id candidate r s s' := by
  simp only [recordPaymentWebhookEvent, lockPaymentProviderTradeTx, post_bind, post_ite,
    throw_eq_fail, post_fail, post_queryForUpdate, pure_eq_done]
  refine ⟨fun _ ↦ trivial, fun _ ↦ (post_of_readOnly (readOnly_lockEventTransaction candidate)
    s).mono fun transaction t ht ↦ ?_⟩
  subst ht
  cases hevent : webhookEventByProviderID candidate.provider candidate.providerEventID t with
  | some stored =>
    simp only [post_bind, post_ite, post_fail, post_done]
    exact ⟨fun _ ↦ trivial, fun _ ↦ ⟨fun _ _ ↦ rfl, fun h ↦ by cases h⟩⟩
  | none =>
    simp only [post_bind, post_query, post_ite, post_done]
    refine ⟨fun hconflict ↦ ?_, fun hconflict ↦ ?_⟩
    · refine (post_parkTransaction candidate transaction t).mono fun _ t' hsame ↦ ?_
      exact post_createWebhookEvent hsame (if_pos hconflict)
    · exact post_createWebhookEvent (fun _ ↦ rfl) (if_neg hconflict)

/-! ## What the lookup finds afterwards -/

section Owner

variable {provider : PaymentProvider} {tradeNo : String} {s t : Store}

/-- Moves that keep the facts of the events keep the first event of a trade. -/
theorem IsFirst.of_keepsFacts {a : String × PaymentWebhookEvent} (h : KeepsFacts s t)
    (ha : IsFirst provider tradeNo s a) :
    ∃ e, IsFirst provider tradeNo t (a.1, e) ∧ e.transactionID = a.2.transactionID := by
  have hfact := h a.1
  rw [ha.stored, Option.map_some] at hfact
  obtain ⟨e, he, heq⟩ := Option.map_eq_some_iff.mp hfact
  simp only [PaymentWebhookEvent.fact, Prod.mk.injEq] at heq
  obtain ⟨hprovider, htrade, htransaction, hcreated⟩ := heq
  refine ⟨e, ⟨he, ⟨hprovider.trans ha.carries.1, htrade.trans ha.carries.2⟩, ?_⟩, htransaction⟩
  intro id e' he' hcarries hbefore
  have hfact' := h id
  rw [he', Option.map_some] at hfact'
  obtain ⟨e₀, he₀, heq₀⟩ := Option.map_eq_some_iff.mp hfact'.symm
  simp only [PaymentWebhookEvent.fact, Prod.mk.injEq] at heq₀
  obtain ⟨hprovider₀, htrade₀, -, hcreated₀⟩ := heq₀
  refine ha.first id e₀ he₀ ⟨hprovider₀.trans hcarries.1, htrade₀.trans hcarries.2⟩ ?_
  simpa only [EventBefore, hcreated, hcreated₀] using hbefore

theorem KeepsFacts.symm (h : KeepsFacts s t) : KeepsFacts t s := fun id ↦ (h id).symm

/-- … and the transaction it is bound to. -/
theorem KeepsFacts.owner_eq (h : KeepsFacts s t) (provider : PaymentProvider) (tradeNo : String) :
    owner provider tradeNo t = owner provider tradeNo s := by
  rw [owner, owner]
  cases hs : firstEventOfTrade provider tradeNo s with
  | some a =>
    obtain ⟨e, he, heq⟩ := (firstEventOfTrade_eq_some.mp hs).of_keepsFacts h
    rw [firstEventOfTrade_eq_some.mpr he, Option.map_some, Option.map_some, heq]
  | none =>
    cases ht : firstEventOfTrade provider tradeNo t with
    | none => rfl
    | some b =>
      obtain ⟨e, he, -⟩ := (firstEventOfTrade_eq_some.mp ht).of_keepsFacts h.symm
      rw [firstEventOfTrade_eq_some.mpr he] at hs
      cases hs

end Owner

section Created

variable {id : String} {candidate : PaymentWebhookEvent}
  {r : (String × PaymentWebhookEvent) × Bool} {provider : PaymentProvider} {tradeNo : String}
  {s s' : Store}

theorem fact_stored (candidate : PaymentWebhookEvent) (s : Store) :
    (candidate.stored s).fact = candidate.fact := by
  rw [PaymentWebhookEvent.stored]
  split <;> rfl

theorem carries_stored : (candidate.stored s).Carries provider tradeNo ↔
    candidate.Carries provider tradeNo := by
  have h := fact_stored candidate s
  simp only [PaymentWebhookEvent.fact, Prod.mk.injEq] at h
  rw [PaymentWebhookEvent.Carries, h.1, h.2.1, PaymentWebhookEvent.Carries]

theorem transactionID_stored (candidate : PaymentWebhookEvent) (s : Store) :
    (candidate.stored s).transactionID = candidate.transactionID :=
  congrArg (·.2.2.1) (fact_stored candidate s)

theorem createdAt_stored (candidate : PaymentWebhookEvent) (s : Store) :
    (candidate.stored s).createdAt = candidate.createdAt :=
  congrArg (·.2.2.2) (fact_stored candidate s)

/-- The events of a trade after a recording: those that were there, and the new one. -/
theorem RecordPost.stored_iff (h : RecordPost id candidate r s s') (hr : r.2 = true)
    {b : String × PaymentWebhookEvent} :
    s'.lookup (.paymentWebhookEvent b.1) = some b.2 ↔
      s.lookup (.paymentWebhookEvent b.1) = some b.2 ∨ b = (id, candidate.stored s) := by
  obtain ⟨hnone, -, hnew⟩ := h.created hr
  by_cases hid : b.1 = id
  · rw [hid, hnew, hnone]
    constructor
    · intro heq
      exact .inr (Prod.ext hid (Option.some.inj heq).symm)
    · rintro (heq | rfl)
      · cases heq
      · rfl
  · rw [h.others b.1 (.inl hid)]
    constructor
    · exact .inl
    · rintro (heq | rfl)
      · exact heq
      · exact absurd rfl hid

/-- An event of another trade does not change what the lookup finds. -/
theorem RecordPost.owner_other (h : RecordPost id candidate r s s') (hr : r.2 = true)
    (hcarries : ¬candidate.Carries provider tradeNo) :
    owner provider tradeNo s' = owner provider tradeNo s := by
  have hiff : ∀ b : String × PaymentWebhookEvent, b.2.Carries provider tradeNo →
      (s'.lookup (.paymentWebhookEvent b.1) = some b.2 ↔
        s.lookup (.paymentWebhookEvent b.1) = some b.2) := by
    intro b hb
    rw [h.stored_iff hr, or_iff_left]
    rintro rfl
    exact hcarries (carries_stored.mp hb)
  have hfirst : ∀ a, IsFirst provider tradeNo s' a ↔ IsFirst provider tradeNo s a := by
    intro a
    constructor
    · intro ha
      exact ⟨(hiff a ha.carries).mp ha.stored, ha.carries, fun id' e he hcar ↦
        ha.first id' e ((hiff (id', e) hcar).mpr he) hcar⟩
    · intro ha
      exact ⟨(hiff a ha.carries).mpr ha.stored, ha.carries, fun id' e he hcar ↦
        ha.first id' e ((hiff (id', e) hcar).mp he) hcar⟩
  have heq : firstEventOfTrade provider tradeNo s' = firstEventOfTrade provider tradeNo s :=
    Option.ext fun a ↦ by rw [firstEventOfTrade_eq_some, firstEventOfTrade_eq_some, hfirst a]
  rw [owner, owner, heq]

/-- The first event of a trade. -/
theorem RecordPost.owner_new (h : RecordPost id candidate r s s') (hr : r.2 = true)
    (hnone : owner candidate.provider candidate.providerTradeNo s = none) :
    owner candidate.provider candidate.providerTradeNo s' = some candidate.transactionID := by
  rw [owner, Option.map_eq_none_iff, firstEventOfTrade_eq_none] at hnone
  have hfirst : IsFirst candidate.provider candidate.providerTradeNo s'
      (id, candidate.stored s) := by
    refine ⟨(h.stored_iff hr).mpr (.inr rfl), carries_stored.mpr ⟨rfl, rfl⟩, fun id' e he hcar ↦ ?_⟩
    rcases (h.stored_iff (b := (id', e)) hr).mp he with hold | heq
    · exact absurd hcar (hnone id' e hold)
    · rw [heq]
      exact EventBefore.irrefl _
  rw [owner, firstEventOfTrade_eq_some.mpr hfirst, Option.map_some, transactionID_stored]

/-- An event that does not overtake the first one of its trade leaves the trade where it was. -/
theorem RecordPost.owner_again (h : RecordPost id candidate r s s') (hr : r.2 = true)
    (hnot : ¬Overtakes id candidate s) {transactionID : String}
    (howner : owner candidate.provider candidate.providerTradeNo s = some transactionID) :
    owner candidate.provider candidate.providerTradeNo s' = some transactionID := by
  obtain ⟨a, ha, rfl⟩ := Option.map_eq_some_iff.mp howner
  have hfirst := firstEventOfTrade_eq_some.mp ha
  by_cases hbefore : EventBefore (id, candidate.stored s) a
  · have hsame : a.2.transactionID = candidate.transactionID := by
      by_contra hne
      refine hnot ⟨a, ha, hne, ?_⟩
      simpa only [EventBefore, createdAt_stored] using hbefore
    have hnew : IsFirst candidate.provider candidate.providerTradeNo s'
        (id, candidate.stored s) := by
      refine ⟨(h.stored_iff hr).mpr (.inr rfl), carries_stored.mpr ⟨rfl, rfl⟩,
        fun id' e he hcar ↦ ?_⟩
      rcases (h.stored_iff (b := (id', e)) hr).mp he with hold | heq
      · exact fun hb ↦ hfirst.first id' e hold hcar (hb.trans hbefore)
      · rw [heq]
        exact EventBefore.irrefl _
    rw [owner, firstEventOfTrade_eq_some.mpr hnew, Option.map_some, transactionID_stored, hsame]
  · have hstill : IsFirst candidate.provider candidate.providerTradeNo s' a := by
      refine ⟨(h.stored_iff hr).mpr (.inl hfirst.stored), hfirst.carries, fun id' e he hcar ↦ ?_⟩
      rcases (h.stored_iff (b := (id', e)) hr).mp he with hold | heq
      · exact hfirst.first id' e hold hcar
      · rw [heq]
        exact hbefore
    rw [owner, firstEventOfTrade_eq_some.mpr hstill, Option.map_some]

end Created

/-! ## Runs -/

/-- What a transaction that recorded an event has stored. -/
def newEvent :
    Except (Failure RepoError) ((String × PaymentWebhookEvent) × Bool) →
      List (String × PaymentWebhookEvent)
  | .ok (e, true) => [e]
  | _ => []

@[simp] theorem newEvent_created (e : String × PaymentWebhookEvent) :
    newEvent (.ok (e, true)) = [e] := rfl

@[simp] theorem newEvent_found (e : String × PaymentWebhookEvent) :
    newEvent (.ok (e, false)) = [] := rfl

/-- The events stored in a run, in the order in which they were stored, and the database it leaves.
A recording may fail at any statement; whatever else happens keeps the facts of the events. -/
inductive Recording (ok : String → PaymentWebhookEvent → Store → Prop) :
    List (String × PaymentWebhookEvent) → Store → Prop where
  | start {s : Store} (h : ∀ id, s.lookup (.paymentWebhookEvent id) = none) : Recording ok [] s
  | record {events : List (String × PaymentWebhookEvent)} {s : Store} (id : String)
      (candidate : PaymentWebhookEvent) (fault : Option ℕ) (h : Recording ok events s)
      (hok : ok id candidate s) :
      Recording ok
        (events ++ newEvent ((recordPaymentWebhookEvent id candidate).transact fault s).1)
        ((recordPaymentWebhookEvent id candidate).transact fault s).2
  | move {events : List (String × PaymentWebhookEvent)} {s t : Store} (h : Recording ok events s)
      (hmove : KeepsFacts s t) : Recording ok events t

/-- The transaction of the first event of the list that carries the trade number. -/
def boundTo (provider : PaymentProvider) (tradeNo : String)
    (events : List (String × PaymentWebhookEvent)) : Option String :=
  (events.find? fun e ↦ e.2.Carries provider tradeNo).map (·.2.transactionID)

/-- Every received event is about the transaction its trade was stored for first. -/
def BoundOnce (events : List (String × PaymentWebhookEvent)) : Prop :=
  ∀ e ∈ events, e.2.status = .received →
    boundTo e.2.provider e.2.providerTradeNo events = some e.2.transactionID

theorem boundTo_append_of_carries {provider : PaymentProvider} {tradeNo : String}
    {e : String × PaymentWebhookEvent} (h : e.2.Carries provider tradeNo)
    (events : List (String × PaymentWebhookEvent)) :
    boundTo provider tradeNo (events ++ [e]) =
      (boundTo provider tradeNo events).or (some e.2.transactionID) := by
  rw [boundTo, boundTo, List.find?_append, Option.map_or]
  simp [h]

theorem boundTo_append_of_not {provider : PaymentProvider} {tradeNo : String}
    {e : String × PaymentWebhookEvent} (h : ¬e.2.Carries provider tradeNo)
    (events : List (String × PaymentWebhookEvent)) :
    boundTo provider tradeNo (events ++ [e]) = boundTo provider tradeNo events := by
  rw [boundTo, boundTo, List.find?_append]
  simp [h]

/-- Two received events of a trade are about one transaction. -/
theorem BoundOnce.eq {events : List (String × PaymentWebhookEvent)} (h : BoundOnce events)
    {e f : String × PaymentWebhookEvent} (he : e ∈ events) (hf : f ∈ events)
    (hreceived : e.2.status = .received) (hreceived' : f.2.status = .received)
    (hprovider : f.2.provider = e.2.provider)
    (htrade : f.2.providerTradeNo = e.2.providerTradeNo) :
    f.2.transactionID = e.2.transactionID := by
  have hbound := h f hf hreceived'
  rw [hprovider, htrade, h e he hreceived] at hbound
  exact (Option.some.inj hbound).symm

/-- What holds after every step of a run: the lookup finds the binding of the trade. -/
structure Bound (events : List (String × PaymentWebhookEvent)) (s : Store) : Prop where
  owner_eq : ∀ provider tradeNo, owner provider tradeNo s = boundTo provider tradeNo events
  once : BoundOnce events

/-- An event that is received does not conflict with the binding of its trade. -/
theorem owner_of_received {candidate : PaymentWebhookEvent} {s : Store}
    (h : (candidate.stored s).status = .received) {transactionID : String}
    (howner : owner candidate.provider candidate.providerTradeNo s = some transactionID) :
    candidate.transactionID = transactionID := by
  rw [PaymentWebhookEvent.stored] at h
  split at h
  · cases h
  · rename_i hconflict
    obtain ⟨a, ha, rfl⟩ := Option.map_eq_some_iff.mp howner
    rw [ha] at hconflict
    simp only [tradeConflict, Option.any_some, Bool.or_eq_true, decide_eq_true_eq, not_or,
      not_not] at hconflict
    exact hconflict.2.symm

/-- **The step.** -/
theorem Bound.record {events : List (String × PaymentWebhookEvent)} {s s' : Store} {id : String}
    {candidate : PaymentWebhookEvent} {r : (String × PaymentWebhookEvent) × Bool}
    (hs : Bound events s) (hnot : ¬Overtakes id candidate s)
    (h : RecordPost id candidate r s s') : Bound (events ++ newEvent (.ok r)) s' := by
  obtain ⟨e, _ | _⟩ := r
  · have hkeeps : KeepsFacts s s' := fun id' ↦ by rw [h.others id' (.inr rfl)]
    rw [newEvent_found, List.append_nil]
    exact ⟨fun provider tradeNo ↦ (hkeeps.owner_eq provider tradeNo).trans (hs.owner_eq _ _),
      hs.once⟩
  obtain ⟨-, heq, -⟩ := h.created rfl
  dsimp only at heq
  subst heq
  rw [newEvent_created]
  have howner : ∀ provider tradeNo, owner provider tradeNo s' =
      boundTo provider tradeNo (events ++ [(id, candidate.stored s)]) := by
    intro provider tradeNo
    by_cases hcarries : candidate.Carries provider tradeNo
    · rw [boundTo_append_of_carries (carries_stored.mpr hcarries), transactionID_stored,
        ← hs.owner_eq]
      obtain ⟨rfl, rfl⟩ := hcarries
      cases hown : owner candidate.provider candidate.providerTradeNo s with
      | none => exact h.owner_new rfl hown
      | some transactionID => exact h.owner_again rfl hnot hown
    · rw [boundTo_append_of_not (fun h ↦ hcarries (carries_stored.mp h)), ← hs.owner_eq]
      exact h.owner_other rfl hcarries
  refine ⟨howner, fun e he hreceived ↦ ?_⟩
  rw [List.mem_append, List.mem_singleton] at he
  rcases he with he | rfl
  · have hbound := hs.once e he hreceived
    by_cases hcarries : candidate.Carries e.2.provider e.2.providerTradeNo
    · rw [boundTo_append_of_carries (carries_stored.mpr hcarries), hbound, Option.some_or]
    · rw [boundTo_append_of_not fun h ↦ hcarries (carries_stored.mp h), hbound]
  · have hcarries : (candidate.stored s).Carries (candidate.stored s).provider
        (candidate.stored s).providerTradeNo := ⟨rfl, rfl⟩
    obtain ⟨hprovider, htrade⟩ := carries_stored.mp hcarries
    rw [boundTo_append_of_carries hcarries, ← hs.owner_eq, ← hprovider, ← htrade,
      transactionID_stored]
    cases hown : owner candidate.provider candidate.providerTradeNo s with
    | none => rfl
    | some transactionID => rw [owner_of_received hreceived hown, Option.some_or]

/-- **The run.** -/
theorem Recording.bound {events : List (String × PaymentWebhookEvent)} {s : Store}
    (h : Recording (fun id candidate s ↦ ¬Overtakes id candidate s) events s) : Bound events s := by
  induction h with
  | @start s h =>
    have hnone : ∀ provider tradeNo, owner provider tradeNo s = none := by
      intro provider tradeNo
      rw [owner, Option.map_eq_none_iff, firstEventOfTrade_eq_none]
      intro id e he
      rw [h id] at he
      cases he
    exact ⟨hnone, fun e he ↦ by cases he⟩
  | @record events s id candidate fault _ hok ih =>
    rcases hrun : (recordPaymentWebhookEvent id candidate).transact fault s with ⟨e | r, s'⟩
    · rw [transact_error hrun]
      simpa [newEvent] using ih
    · exact ih.record hok
        (post_recordPaymentWebhookEvent id candidate s r s' (run_of_transact hrun))
  | move _ hmove ih =>
    exact ⟨fun provider tradeNo ↦ (hmove.owner_eq provider tradeNo).trans (ih.owner_eq _ _),
      ih.once⟩

/-- **A trade belongs to one transaction.** -/
theorem trade_bound_once {events : List (String × PaymentWebhookEvent)} {s : Store}
    (h : Recording (fun id candidate s ↦ ¬Overtakes id candidate s) events s) :
    BoundOnce events ∧
      ∀ e ∈ events, ∀ f ∈ events, e.2.status = .received → f.2.status = .received →
        f.2.provider = e.2.provider → f.2.providerTradeNo = e.2.providerTradeNo →
        f.2.transactionID = e.2.transactionID :=
  ⟨h.bound.once, fun _ he _ hf hreceived hreceived' ↦ h.bound.once.eq he hf hreceived hreceived'⟩

/-! ## Two orders, one trade number -/

instance (id : String) (candidate : PaymentWebhookEvent) (s : Store) :
    Decidable (Overtakes id candidate s) :=
  decidable_of_iff ((firstEventOfTrade candidate.provider candidate.providerTradeNo s).any fun a ↦
      decide (a.2.transactionID ≠ candidate.transactionID ∧ EventBefore (id, candidate) a)) (by
    simp [Overtakes, Option.any_eq_true])

/-- The recordings of a list, one after another, as long as each passes the check. -/
def recordAll (check : String → PaymentWebhookEvent → Store → Bool) :
    List (String × PaymentWebhookEvent) → List (String × PaymentWebhookEvent) → Store →
      Option (List (String × PaymentWebhookEvent) × Store)
  | [], events, s => some (events, s)
  | c :: cs, events, s =>
    if check c.1 c.2 s then
      recordAll check cs
        (events ++ newEvent ((recordPaymentWebhookEvent c.1 c.2).transact none s).1)
        ((recordPaymentWebhookEvent c.1 c.2).transact none s).2
    else none

theorem recording_of_recordAll {ok : String → PaymentWebhookEvent → Store → Prop}
    {check : String → PaymentWebhookEvent → Store → Bool}
    (hcheck : ∀ id candidate s, check id candidate s = true → ok id candidate s)
    {cs events events' : List (String × PaymentWebhookEvent)} {s s' : Store}
    (h : Recording ok events s) (hrun : recordAll check cs events s = some (events', s')) :
    Recording ok events' s' := by
  induction cs generalizing events s with
  | nil =>
    cases hrun
    exact h
  | cons c cs ih =>
    obtain ⟨hc, hrun⟩ := Option.ite_none_right_eq_some.mp hrun
    exact ih (h.record c.1 c.2 none (hcheck c.1 c.2 s hc)) hrun

/-- A top-up order of a user, its checkout and a transaction for it. -/
def payableOrder (id : String) : List (Sigma Row) :=
  [⟨.creditTopupOrder id, { userID := "u", totalMicrocredits := 1 }⟩,
    ⟨.paymentCheckoutSession id,
      { orderType := .creditTopup, orderID := id, userID := "u", expiresAt := 100 }⟩,
    ⟨.paymentTransaction id,
      { orderType := .creditTopup, orderID := id, userID := "u", provider := .alipay,
        merchantOrderNo := id }⟩]

/-- Two orders to be paid. -/
def twoOrdersStore : Store := Db.apply (payableOrder "a" ++ payableOrder "b") ∅

theorem twoOrdersStore_events (id : String) :
    twoOrdersStore.lookup (.paymentWebhookEvent id) = none :=
  Db.lookup_apply_of_notMem (by simp [payableOrder]) ∅

/-- A payment of the order, reported with the trade number `t`. -/
def tradeEvent (id transactionID : String) (createdAt : Time) : String × PaymentWebhookEvent :=
  (id,
    { provider := .alipay
      providerEventID := id
      transactionID := transactionID
      merchantOrderNo := transactionID
      providerTradeNo := "t"
      amountCents := 1
      currency := "CNY"
      paidAt := some 1
      payloadDigest := "0123456789abcdef0123456789abcdef0123456789abcdef0123456789abcdef"
      createdAt := createdAt })

/-- A report of each of the two orders, in the order of their times: the second is parked. -/
theorem trade_bound_once_conflict :
    ∃ events s, Recording (fun id candidate s ↦ ¬Overtakes id candidate s) events s ∧
      events.map (fun e ↦ (e.1, e.2.status)) = [("1", .received), ("2", .reviewRequired)] ∧
      BoundOnce events := by
  have hrun : (recordAll (fun id candidate s ↦ decide ¬Overtakes id candidate s)
      [tradeEvent "1" "a" 10, tradeEvent "2" "b" 20] [] twoOrdersStore).map
        (fun r ↦ r.1.map fun e ↦ (e.1, e.2.status)) =
      some [("1", .received), ("2", .reviewRequired)] := by decide
  obtain ⟨⟨events, s⟩, hrun, hevents⟩ := Option.map_eq_some_iff.mp hrun
  have h : Recording (fun id candidate s ↦ ¬Overtakes id candidate s) events s :=
    recording_of_recordAll (fun _ _ _ ↦ of_decide_eq_true) (.start twoOrdersStore_events) hrun
  exact ⟨events, s, h, hevents, (trade_bound_once h).1⟩

/-- A report of the second order with an earlier time is parked, and the next report of that order
finds it: the trade is received for both orders. -/
theorem exists_recording_bound_twice :
    ∃ events s, Recording (fun _ _ _ ↦ True) events s ∧ ¬BoundOnce events ∧
      ∃ e ∈ events, ∃ f ∈ events, e.2.status = .received ∧ f.2.status = .received ∧
        f.2.provider = e.2.provider ∧ f.2.providerTradeNo = e.2.providerTradeNo ∧
        f.2.transactionID ≠ e.2.transactionID := by
  have hrun : (recordAll (fun _ _ _ ↦ true)
      [tradeEvent "1" "a" 10, tradeEvent "2" "b" 5, tradeEvent "3" "b" 20] []
        twoOrdersStore).map (·.1) =
      some [tradeEvent "1" "a" 10, ("2", (tradeEvent "2" "b" 5).2.park),
        tradeEvent "3" "b" 20] := by decide
  obtain ⟨⟨events, s⟩, hrun, hevents⟩ := Option.map_eq_some_iff.mp hrun
  dsimp only at hevents
  subst hevents
  have h : Recording (fun _ _ _ ↦ True) _ s :=
    recording_of_recordAll (fun _ _ _ _ ↦ trivial) (.start twoOrdersStore_events) hrun
  have htwo : ∃ e ∈ [tradeEvent "1" "a" 10, ("2", (tradeEvent "2" "b" 5).2.park),
      tradeEvent "3" "b" 20], ∃ f ∈ [tradeEvent "1" "a" 10, ("2", (tradeEvent "2" "b" 5).2.park),
      tradeEvent "3" "b" 20], e.2.status = .received ∧ f.2.status = .received ∧
        f.2.provider = e.2.provider ∧ f.2.providerTradeNo = e.2.providerTradeNo ∧
        f.2.transactionID ≠ e.2.transactionID :=
    ⟨tradeEvent "1" "a" 10, by simp, tradeEvent "3" "b" 20, by simp, rfl, rfl, rfl, rfl, by decide⟩
  refine ⟨_, s, h, fun hbound ↦ ?_, htwo⟩
  obtain ⟨e, he, f, hf, hreceived, hreceived', hprovider, htrade, hne⟩ := htwo
  exact hne (hbound.eq he hf hreceived hreceived' hprovider htrade)

end HMaigc
