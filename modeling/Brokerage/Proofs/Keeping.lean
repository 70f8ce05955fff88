import Brokerage.Proofs.Hazards

/-! # What a procedure keeps

`Keeps` says of a procedure and a first state that, whatever the hazard does, a property holds of
every state passed on the way and a condition holds of the result and the last state. It is proved
effect by effect, with one rule for each way of putting procedures together.
-/

namespace Brokerage

namespace Dialogue

variable {α β : Type} {moves : State.Moves} {inv : State → Prop} {s : State}

def Keeps (moves : State.Moves) (inv : State → Prop) (post : α → State → Prop) :
    Dialogue Effect Effect.Outcome α → State → Prop
  | done value, s => inv s ∧ post value s
  | ask e next, s => inv s ∧ ∀ o t, moves e s o t → (next o).Keeps moves inv post t

theorem Keeps.mono {wide : State → Prop} {post weak : α → State → Prop}
    {d : Dialogue Effect Effect.Outcome α} (h : d.Keeps moves inv post s)
    (invs : ∀ t, inv t → wide t) (posts : ∀ value t, inv t → post value t → weak value t) :
    d.Keeps moves wide weak s := by
  induction d generalizing s with
  | done value => exact ⟨invs s h.1, posts value s h.1 h.2⟩
  | ask e next ih => exact ⟨invs s h.1, fun o t step => ih o (h.2 o t step)⟩

theorem Keeps.bind {post : β → State → Prop} {mid : α → State → Prop}
    {d : Dialogue Effect Effect.Outcome α} {f : α → Dialogue Effect Effect.Outcome β}
    (h : d.Keeps moves inv mid s)
    (next : ∀ value t, mid value t → (f value).Keeps moves inv post t) :
    (d.bind f).Keeps moves inv post s := by
  induction d generalizing s with
  | done value => exact next value s h.2
  | ask e rest ih => exact ⟨h.1, fun o t step => ih o (h.2 o t step)⟩

theorem Within.keeps {asks : Effect → Prop} {ends : α → Prop}
    {d : Dialogue Effect Effect.Outcome α} (h : d.Within asks ends) (start : inv s)
    (step : ∀ e s o t, asks e → inv s → moves e s o t → inv t) :
    d.Keeps moves inv (fun value _ => ends value) s := by
  induction d generalizing s with
  | done value => exact ⟨start, h⟩
  | ask e next ih =>
      exact ⟨start, fun o t move => ih o (h.2 o) (step e s o t h.1 start move)⟩

end Dialogue

namespace Procedure

/-- A condition on the result and the state after it, and one on the state after a failure. -/
def Ends {α : Type} (ok : α → State → Prop) (failed : State → Prop) : Except Failure α → State → Prop
  | .ok a, t => ok a t
  | .error _, t => failed t

variable {α β : Type} {moves : State.Moves} {inv : State → Prop} {s : State}
  {post : Except Failure α → State → Prop}

/-- Only some effects are asked for, and only some ends are come to. -/
def Within (asks : Effect → Prop) (ends : Except Failure α → Prop) (p : Procedure α) : Prop :=
  (ExceptT.run p).Within asks ends

namespace Within

variable {asks : Effect → Prop} {ends : Except Failure α → Prop}

theorem pure {a : α} (h : ends (.ok a)) : Within asks ends (Pure.pure a) := h

theorem fail {e : Error} (h : ends (.error (.error e))) : Within asks ends (Procedure.fail e) := h

theorem perform {e : Effect} {ends : e.Outcome → Prop} (h : asks e) (all : ∀ o, ends o) :
    Within asks ends (Procedure.perform e) := ⟨h, all⟩

theorem bind {p : Procedure β} {f : β → Procedure α} {mid : Except Failure β → Prop}
    (h : p.Within asks mid) (ok : ∀ a, mid (.ok a) → (f a).Within asks ends)
    (error : ∀ e, mid (.error e) → ends (.error e)) : (p >>= f).Within asks ends := by
  refine Dialogue.Within.bind (Dialogue.Within.mono h fun r ended => ?_)
  cases r with
  | ok a => exact ok a ended
  | error e => exact error e ended

theorem ofExcept {r : Except Error α} (ok : ∀ a, r = .ok a → ends (.ok a))
    (error : ∀ e, ends (.error (.error e))) : Within asks ends (Procedure.ofExcept r) := by
  cases r with
  | ok a => exact pure (ok a rfl)
  | error e => exact fail (error e)

end Within

/-- Whatever the hazard does, every state passed has `inv`, and the result and the end `post`. -/
def Keeps (moves : State.Moves) (inv : State → Prop) (p : Procedure α) (s : State)
    (post : Except Failure α → State → Prop) : Prop :=
  (ExceptT.run p).Keeps moves inv post s

namespace Keeps

theorem end_of_run {p : Procedure α} {w : Schedule} (hw : w.Moves moves)
    (h : p.Keeps moves inv s post) : post (s.runUnder w p).1 (s.runUnder w p).2 := by
  unfold Keeps at h
  unfold State.runUnder
  generalize ExceptT.run p = d at h ⊢
  induction d generalizing s with
  | done value => exact h.2
  | ask e next ih => exact ih _ (h.2 _ _ (hw e s))

/-- What is shown of moves into states of a kind holds of runs that end in one of that kind, if no
effect leads back into it. -/
theorem end_of_run_into {p : Procedure α} {w : Schedule} {good : State → Prop}
    (hw : w.Moves moves) (back : ∀ e (s : State), good (s.performUnder w e).2 → good s)
    (h : p.Keeps (moves.into good) inv s post) (last : good (s.runUnder w p).2) :
    post (s.runUnder w p).1 (s.runUnder w p).2 := by
  unfold Keeps at h
  unfold State.runUnder at last ⊢
  generalize ExceptT.run p = d at h last ⊢
  have earlier : ∀ (d : Dialogue Effect Effect.Outcome (Except Failure α)) (s : State),
      good (d.run (State.performUnder w) s).2 → good s := by
    intro d
    induction d with
    | done value => exact fun _ last => last
    | ask e next ih => exact fun s last => back e s (ih _ _ last)
  induction d generalizing s with
  | done value => exact h.2
  | ask e next ih => exact ih _ (h.2 _ _ ⟨hw e s, earlier _ _ last⟩) last

theorem along_run {p : Procedure α} {w : Schedule} (hw : w.Moves moves)
    (h : p.Keeps moves inv s post) : ∀ t ∈ s.trailUnder w p, inv t := by
  unfold Keeps at h
  unfold State.trailUnder
  generalize ExceptT.run p = d at h ⊢
  induction d generalizing s with
  | done value =>
      intro t member
      obtain rfl := List.mem_singleton.1 member
      exact h.1
  | ask e next ih =>
      intro t member
      rcases List.mem_cons.1 member with rfl | member
      · exact h.1
      · exact ih _ (h.2 _ _ (hw e s)) t member

theorem mono {p : Procedure α} {weak : Except Failure α → State → Prop}
    (h : p.Keeps moves inv s post) (posts : ∀ r t, inv t → post r t → weak r t) :
    p.Keeps moves inv s weak :=
  Dialogue.Keeps.mono h (fun _ held => held) posts

theorem widen {p : Procedure α} {wide : State → Prop} (h : p.Keeps moves inv s post)
    (invs : ∀ t, inv t → wide t) : p.Keeps moves wide s fun r t => inv t ∧ post r t :=
  Dialogue.Keeps.mono h invs fun _ _ held ends => ⟨held, ends⟩

theorem pure {a : α} (start : inv s) (ends : post (.ok a) s) :
    Keeps moves inv (Pure.pure a) s post := ⟨start, ends⟩

theorem throw {failure : Failure} (start : inv s) (ends : post (.error failure) s) :
    Keeps moves inv (throw failure) s post := ⟨start, ends⟩

theorem fail {e : Error} (start : inv s) (ends : post (.error (.error e)) s) :
    Keeps moves inv (Procedure.fail e) s post := ⟨start, ends⟩

theorem perform {e : Effect} {post : e.Outcome → State → Prop} (start : inv s)
    (step : ∀ o t, moves e s o t → inv t ∧ post o t) :
    Keeps moves inv (Procedure.perform e) s post := ⟨start, step⟩

theorem bind {p : Procedure β} {f : β → Procedure α} {mid : Except Failure β → State → Prop}
    (h : p.Keeps moves inv s mid) (ok : ∀ a t, mid (.ok a) t → (f a).Keeps moves inv t post)
    (error : ∀ e t, inv t → mid (.error e) t → post (.error e) t) :
    (p >>= f).Keeps moves inv s post := by
  refine Dialogue.Keeps.bind (Dialogue.Keeps.mono h (fun _ held => held)
    (fun r t held ends => And.intro held ends)) ?_
  intro r t ⟨held, ends⟩
  cases r with
  | ok a => exact ok a t ends
  | error e => exact ⟨held, error e t held ends⟩

theorem ofExcept {r : Except Error α} (start : inv s)
    (ok : ∀ a, r = .ok a → post (.ok a) s) (error : ∀ e, r = .error e → post (.error (.error e)) s) :
    Keeps moves inv (Procedure.ofExcept r) s post := by
  cases r with
  | ok a => exact pure start (ok a rfl)
  | error e => exact fail start (error e rfl)

theorem outcome_bind {p : Procedure β} {f : Except Failure β → Procedure α}
    {mid : Except Failure β → State → Prop} (h : p.Keeps moves inv s mid)
    (next : ∀ r t, inv t → mid r t → (f r).Keeps moves inv t post) :
    (p.outcome >>= f).Keeps moves inv s post := by
  have ended : p.outcome.Keeps moves inv s fun r t => ∃ last, r = .ok last ∧ inv t ∧ mid last t :=
    Dialogue.Keeps.bind
      (Dialogue.Keeps.mono h (fun _ held => held) fun _ _ held ends => And.intro held ends)
      fun r _ ends => ⟨ends.1, r, rfl, ends⟩
  refine Dialogue.Keeps.bind ended ?_
  rintro _ t ⟨r, rfl, held, ends⟩
  exact next r t held ends

/-- A clean-up after a failure ends with that failure, unless it fails itself. -/
def ending (failure : Failure) (post : Except Failure α → State → Prop) :
    Except Failure Unit → State → Prop
  | .ok _, t => post (.error failure) t
  | .error e, t => post (.error e) t

theorem ending.of_failed {failure : Failure} {ok : α → State → Prop} {failed : State → Prop}
    {r : Except Failure Unit} {t : State} (h : failed t) : ending failure (Ends ok failed) r t := by
  cases r <;> exact h

theorem onError {p : Procedure α} {cleanUp : Procedure Unit}
    {mid : Except Failure α → State → Prop} (h : p.Keeps moves inv s mid)
    (ok : ∀ a t, mid (.ok a) t → post (.ok a) t)
    (panic : ∀ message t, mid (.error (.panic message)) t → post (.error (.panic message)) t)
    (error : ∀ e t, mid (.error (.error e)) t →
      cleanUp.Keeps moves inv t (ending (.error e) post)) :
    (p.onError cleanUp).Keeps moves inv s post := by
  refine outcome_bind h fun r t held ends => ?_
  cases r with
  | ok a => exact pure held (ok a t ends)
  | error failure =>
      cases failure with
      | panic message => exact throw held (panic message t ends)
      | error e =>
          exact bind (widen (error e t ends) fun _ held => held)
            (fun _ u ends => fail ends.1 ends.2) (fun _ u _ ends => ends.2)

theorem onFailure {p : Procedure α} {cleanUp : Procedure Unit}
    {mid : Except Failure α → State → Prop} (h : p.Keeps moves inv s mid)
    (ok : ∀ a t, mid (.ok a) t → post (.ok a) t)
    (failed : ∀ failure t, mid (.error failure) t →
      cleanUp.Keeps moves inv t (ending failure post)) :
    (p.onFailure cleanUp).Keeps moves inv s post := by
  refine outcome_bind h fun r t held ends => ?_
  cases r with
  | ok a => exact pure held (ok a t ends)
  | error failure =>
      exact bind (widen (failed failure t ends) fun _ held => held)
        (fun _ u ends => throw ends.1 ends.2) (fun _ u _ ends => ends.2)

theorem ignoreError {p : Procedure α} {post : Except Failure Unit → State → Prop}
    {mid : Except Failure α → State → Prop} (h : p.Keeps moves inv s mid)
    (ok : ∀ a t, mid (.ok a) t → post (.ok ()) t)
    (error : ∀ e t, mid (.error (.error e)) t → post (.ok ()) t)
    (panic : ∀ message t, mid (.error (.panic message)) t → post (.error (.panic message)) t) :
    p.ignoreError.Keeps moves inv s post := by
  refine outcome_bind h fun r t held ends => ?_
  cases r with
  | ok a => exact pure held (ok a t ends)
  | error failure =>
      cases failure with
      | error e => exact pure held (error e t ends)
      | panic message => exact throw held (panic message t ends)

theorem of_within {p : Procedure α} {asks : Effect → Prop} {ends : Except Failure α → Prop}
    (h : p.Within asks ends) (start : inv s)
    (step : ∀ e s o t, asks e → inv s → moves e s o t → inv t) :
    p.Keeps moves inv s fun r _ => ends r :=
  Dialogue.Within.keeps h start step

/-! ## One condition for every failure -/

section Ends

variable {ok : α → State → Prop} {mid failed : State → Prop}

theorem bind_ends {p : Procedure β} {f : β → Procedure α} {first : β → State → Prop}
    (h : p.Keeps moves inv s (Ends first failed))
    (next : ∀ b t, first b t → (f b).Keeps moves inv t (Ends ok failed)) :
    (p >>= f).Keeps moves inv s (Ends ok failed) :=
  .bind h next fun _ _ _ held => held

theorem sure {p : Procedure α} {first : α → State → Prop}
    (h : p.Keeps moves inv s (Ends first fun _ => False))
    (ends : ∀ a t, first a t → post (.ok a) t) : p.Keeps moves inv s post := by
  refine h.mono fun r t _ held => ?_
  cases r with
  | ok a => exact ends a t held
  | error _ => exact held.elim

theorem ofExcept_ok {r : Except Error α} {a : α} {first : α → State → Prop} (found : r = .ok a)
    (start : inv s) (held : first a s) :
    Keeps moves inv (Procedure.ofExcept r) s (Ends first fun _ => False) :=
  found ▸ pure start held

theorem bind_sure {p : Procedure β} {f : β → Procedure α} {first : β → State → Prop}
    (h : p.Keeps moves inv s (Ends first fun _ => False))
    (next : ∀ b t, first b t → (f b).Keeps moves inv t post) :
    (p >>= f).Keeps moves inv s post :=
  .bind h next fun _ _ _ held => held.elim

theorem onError_ends {p : Procedure α} {cleanUp : Procedure Unit}
    (h : p.Keeps moves inv s (Ends ok mid)) (panic : ∀ t, mid t → failed t)
    (cleaned : ∀ t, mid t → cleanUp.Keeps moves inv t fun _ u => failed u) :
    (p.onError cleanUp).Keeps moves inv s (Ends ok failed) :=
  .onError h (fun _ _ held => held) (fun _ t held => panic t held) fun _ t held =>
    .mono (cleaned t held) fun _ _ _ held => .of_failed held

theorem onFailure_ends {p : Procedure α} {cleanUp : Procedure Unit}
    (h : p.Keeps moves inv s (Ends ok mid))
    (cleaned : ∀ t, mid t → cleanUp.Keeps moves inv t fun _ u => failed u) :
    (p.onFailure cleanUp).Keeps moves inv s (Ends ok failed) :=
  .onFailure h (fun _ _ held => held) fun _ t held =>
    .mono (cleaned t held) fun _ _ _ held => .of_failed held

end Ends

end Keeps
end Procedure
end Brokerage
