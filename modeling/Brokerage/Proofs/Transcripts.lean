import Brokerage.Proofs.Gathering
import Brokerage.Proofs.Runs

/-! # Transcripts of procedures put together

What a procedure asks for and how it ends, from what its parts do: forward, to say how a procedure
goes; backward, to say how one went that ended well. Whatever no effect of a transcript touches is in
the end as it was.
-/

namespace Brokerage

namespace Procedure.Talks

variable {σ α β γ : Type} {world : World σ} {p : Procedure α} {f : α → Procedure β}
  {cleanUp : Procedure Unit} {s t u : σ} {log more : Transcript} {a : α} {b : β}
  {ended other : Except Failure α} {kinds : Effect → Bool}

/-! ## Forward -/

theorem run (world : World σ) (p : Procedure α) (s : σ) :
    ∃ log ended t, Talks world p s log ended t :=
  ⟨_, _, _, rfl, rfl⟩

theorem throw (world : World σ) (failure : Failure) (s : σ) :
    Talks world (MonadExcept.throw failure : Procedure α) s [] (.error failure) s := ⟨rfl, rfl⟩

theorem outcome (h : Talks world p s log ended t) : Talks world p.outcome s log (.ok ended) t := by
  constructor
  · change ((ExceptT.run p).bind _).transcript world s = _
    rw [Dialogue.transcript_bind, h.log]
    exact List.append_nil log
  · change ((ExceptT.run p).bind _).run world s = _
    rw [Dialogue.run_bind, h.ends]
    rfl

theorem bind_nil {ended : Except Failure β} (first : Talks world p s log (.ok a) t)
    (next : Talks world (f a) t [] ended u) : Talks world (p >>= f) s log ended u := by
  have put := first.bind next
  rwa [List.append_nil] at put

theorem onError_ok (h : Talks world p s log (.ok a) t) :
    Talks world (p.onError cleanUp) s log (.ok a) t :=
  h.outcome.bind_nil (.pure world a t)

theorem onError_error {e : Error} (h : Talks world p s log (.error (.error e)) t)
    (cleaned : Talks world cleanUp t more (.ok ()) u) :
    Talks world (p.onError cleanUp) s (log ++ more) (.error (.error e)) u :=
  h.outcome.bind (cleaned.bind_nil (.throw world (.error e) u))

theorem onError_panic {message : String} (h : Talks world p s log (.error (.panic message)) t) :
    Talks world (p.onError cleanUp) s log (.error (.panic message)) t :=
  h.outcome.bind_nil (.throw world (.panic message) t)

theorem onFailure_error {failure : Failure} (h : Talks world p s log (.error failure) t)
    (cleaned : Talks world cleanUp t more (.ok ()) u) :
    Talks world (p.onFailure cleanUp) s (log ++ more) (.error failure) u :=
  h.outcome.bind (cleaned.bind_nil (.throw world failure u))

theorem ignoreError_ok (h : Talks world p s log (.ok a) t) :
    Talks world p.ignoreError s log (.ok ()) t :=
  h.outcome.bind_nil (.pure world () t)

/-! ## Backward -/

theorem unique (h : Talks world p s log ended t) (h' : Talks world p s more other u) :
    more = log ∧ other = ended ∧ u = t := by
  obtain ⟨same, here⟩ := Prod.mk.inj (h'.ends.symm.trans h.ends)
  exact ⟨h'.log.symm.trans h.log, same, here⟩

theorem pure_inv (h : Talks world (Pure.pure a) s log ended t) :
    log = [] ∧ ended = .ok a ∧ t = s := (Talks.pure world a s).unique h

theorem perform_inv {e : Effect} {o : e.Outcome} (h : Talks world (.perform e) s log o t) :
    log = [⟨e, o⟩] ∧ world e s = (o, t) := by
  have asked : Talks world (.perform e) s [⟨e, (world e s).1⟩] (world e s).1 (world e s).2 :=
    .perform rfl
  obtain ⟨rfl, rfl, rfl⟩ := asked.unique h
  exact ⟨rfl, rfl⟩

theorem ofExcept_inv {result : Except Error α} (h : Talks world (.ofExcept result) s log (.ok a) t) :
    result = .ok a ∧ log = [] ∧ t = s := by
  obtain ⟨rfl, same, rfl⟩ := (Talks.ofExcept world s rfl).unique h
  exact ⟨mapError_eq_ok.1 same.symm, rfl, rfl⟩

/-- What ends well has done so in both of its parts. -/
theorem bind_inv (h : Talks world (p >>= f) s log (.ok b) t) :
    ∃ a first second u, log = first ++ second ∧ Talks world p s first (.ok a) u ∧
      Talks world (f a) u second (.ok b) t := by
  obtain ⟨first, ended, u, part⟩ := Talks.run world p s
  cases ended with
  | error failure =>
      obtain ⟨-, never, -⟩ := part.bind_error.unique h
      cases never
  | ok a =>
      obtain ⟨second, ended, v, rest⟩ := Talks.run world (f a) u
      obtain ⟨rfl, rfl, rfl⟩ := (part.bind rest).unique h
      exact ⟨a, first, second, _, rfl, part, rest⟩

/-- What ends well after a clean-up was at hand did not need it. -/
theorem cleaned_inv {next : Except Failure α → Procedure α}
    (h : Talks world (p.outcome >>= next) s log (.ok a) t) (same : ∀ a, next (.ok a) = Pure.pure a)
    (fails : ∀ failure s log t a, ¬ Talks world (next (.error failure)) s log (.ok a) t) :
    Talks world p s log (.ok a) t := by
  obtain ⟨log', ended, t', part⟩ := Talks.run world p s
  obtain ⟨ended', first, second, u, rfl, out, rest⟩ := h.bind_inv
  obtain ⟨rfl, known, rfl⟩ := part.outcome.unique out
  cases known
  cases ended with
  | error failure => exact (fails _ _ _ _ _ rest).elim
  | ok x =>
      rw [same] at rest
      obtain ⟨rfl, known, rfl⟩ := rest.pure_inv
      cases known
      rwa [List.append_nil]

theorem onError_inv (h : Talks world (p.onError cleanUp) s log (.ok a) t) :
    Talks world p s log (.ok a) t := by
  apply cleaned_inv h (fun _ => rfl)
  intro failure s log t a ended
  cases failure with
  | panic message => cases ((Talks.throw world (.panic message) s).unique ended).2.1
  | error e =>
      obtain ⟨_, _, _, u, -, -, failed⟩ := ended.bind_inv
      cases ((Talks.throw world (.error e) u).unique failed).2.1

theorem onFailure_inv (h : Talks world (p.onFailure cleanUp) s log (.ok a) t) :
    Talks world p s log (.ok a) t := by
  apply cleaned_inv h (fun _ => rfl)
  intro failure s log t a ended
  obtain ⟨_, _, _, u, -, -, failed⟩ := ended.bind_inv
  cases ((Talks.throw world failure u).unique failed).2.1

/-! ## As a whole -/

/-- Everything that is asked for is of the kinds that a procedure asks for. -/
theorem all_asked (h : Talks world p s log ended t) (asks : p.Asks kinds) :
    ∀ x ∈ log, kinds x.1 = true := by
  obtain ⟨rfl, -⟩ := h
  unfold Asks Within at asks
  generalize ExceptT.run p = d at asks
  induction d generalizing s with
  | done value =>
      intro x member
      cases member
  | ask e next ih =>
      intro x member
      cases List.mem_cons.1 member with
      | inl first =>
          rw [first]
          exact asks.1
      | inr later => exact ih _ (asks.2 _) x later

/-- A part of the world that no effect touches stays as it is. -/
theorem part_kept {part : σ → γ} (h : Talks world p s log ended t)
    (spares : ∀ x ∈ log, ∀ s, part (world x.1 s).2 = part s) : part t = part s := by
  obtain ⟨rfl, ends⟩ := h
  generalize ExceptT.run p = d at spares ends
  induction d generalizing s with
  | done value =>
      cases ends
      rfl
  | ask e next ih =>
      have step := spares _ List.mem_cons_self s
      exact (ih _ (fun x later => spares x (List.mem_cons_of_mem _ later)) ends).trans step

end Procedure.Talks
end Brokerage
