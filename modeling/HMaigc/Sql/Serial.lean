import HMaigc.Sql.Prog

/-!
# Serial runs

One transaction after another, each as a whole.  A call that fails — by its own error, or because
the database fails under it at any statement — is part of the run and changes nothing
(`Prog.transact`).  Between two calls the environment may change the database in the ways `env`
allows, and `ok` says which calls are made on which database.

* `Serial prog ok env s t` — a run from `s` to `t`.
* `Serial.invariant` — what every call and every move of the environment keeps holds throughout.
* `serial_of_replay`, `serial_of_replayIf` — a list of calls that computes is a run.
-/

set_option autoImplicit false

namespace Sql

variable {κ χ : Type} {β : κ → Type} {ε ω : Type} [DecidableEq κ]

/-- A run of whole transactions. -/
inductive Serial (prog : χ → Prog β ε ω) (ok : χ → Db β → Prop) (env : Db β → Db β → Prop)
    (s : Db β) : Db β → Prop where
  | refl : Serial prog ok env s s
  | call {t : Db β} (c : χ) (fault : Option ℕ) (h : Serial prog ok env s t) (hok : ok c t) :
      Serial prog ok env s ((prog c).transact fault t).2
  | env {t u : Db β} (h : Serial prog ok env s t) (henv : env t u) : Serial prog ok env s u

variable {prog : χ → Prog β ε ω} {ok : χ → Db β → Prop} {env : Db β → Db β → Prop}

/-- A property a transaction's body keeps is kept by the transaction, whether it commits or not. -/
theorem Prog.Post.transact {p : Prog β ε ω} {s : Db β} {P : Db β → Prop}
    (h : p.Post s fun _ s' ↦ P s') (hs : P s) (fault : Option ℕ) : P (p.transact fault s).2 := by
  rcases hrun : p.transact fault s with ⟨e | a, s'⟩
  · rw [transact_error hrun]
    exact hs
  · exact h a s' (run_of_transact hrun)

/-- **Invariants of serial runs.** -/
theorem Serial.invariant {P : Db β → Prop} (hcall : ∀ c t, P t → ok c t →
      (prog c).Post t fun _ t' ↦ P t')
    (henv : ∀ t u, P t → env t u → P u) {s t : Db β} (hs : P s) (h : Serial prog ok env s t) :
    P t := by
  induction h with
  | refl => exact hs
  | call c fault _ hok ih => exact (hcall c _ ih hok).transact ih fault
  | env _ hmove ih => exact henv _ _ ih hmove

/-- The calls of a list, one after another. -/
def replay (prog : χ → Prog β ε ω) (s : Db β) (cs : List χ) : Db β :=
  cs.foldl (fun s c ↦ ((prog c).transact none s).2) s

/-- **A list of calls that computes is a run.** -/
theorem serial_of_replay (s : Db β) (cs : List χ) (hok : ∀ c ∈ cs, ∀ t, ok c t) :
    Serial prog ok env s (replay prog s cs) := by
  suffices h : ∀ t, Serial prog ok env s t → Serial prog ok env s (replay prog t cs) from
    h s .refl
  induction cs with
  | nil => exact fun t h ↦ h
  | cons c cs ih =>
    intro t h
    exact ih (fun c hc ↦ hok c (.tail _ hc)) _ (h.call c none (hok c (.head _) t))

/-- The calls of a list, one after another, as long as each passes the check. -/
def replayIf (prog : χ → Prog β ε ω) (check : χ → Db β → Bool) (s : Db β) (cs : List χ) :
    Option (Db β) :=
  cs.foldlM (fun s c ↦ if check c s then some ((prog c).transact none s).2 else none) s

theorem serial_of_replayIf {check : χ → Db β → Bool} (hcheck : ∀ c t, check c t = true → ok c t)
    {s t : Db β} {cs : List χ} (h : replayIf prog check s cs = some t) :
    Serial prog ok env s t := by
  suffices hsuffices : ∀ u, Serial prog ok env s u → replayIf prog check u cs = some t →
      Serial prog ok env s t from hsuffices s .refl h
  clear h
  induction cs with
  | nil =>
    intro u hu h
    cases h
    exact hu
  | cons c cs ih =>
    intro u hu h
    rw [replayIf, List.foldlM_cons] at h
    obtain ⟨v, hv, h⟩ := Option.bind_eq_some_iff.mp h
    obtain ⟨hc, heq⟩ := Option.ite_none_right_eq_some.mp hv
    cases heq
    exact ih _ (hu.call c none (hcheck c u hc)) h

end Sql
