import Brokerage.Proofs.Transcripts

/-! # Calls for the owner of a router

A call on a router goes to the backend that the router's binding names, once and with all that it
was asked with. What it may change is that backend, and, where it deletes, the pool and the
bindings: backends, pool and bindings are separate parts of the world, and an effect touches only
the part that it is for.
-/

namespace Brokerage

namespace Effect

/-- Calls of backends. -/
def isCall : Effect → Bool
  | backend .. => true
  | acquire .. | release .. | store _ | count _ | readCounters => false

/-- Effects that touch neither the pool nor the bindings nor a backend. -/
def isIdle (e : Effect) : Bool := e.isQuiet && !e.isCall

theorem isIdle.quiet {e : Effect} (idle : e.isIdle = true) : e.isQuiet = true :=
  (Bool.and_eq_true_iff.1 idle).1

theorem isIdle.uncalled {e : Effect} (idle : e.isIdle = true) : e.isCall = false := by
  simpa using (Bool.and_eq_true_iff.1 idle).2

end Effect

/-! ## The parts of a world -/

namespace World

variable {σ π β α : Type}

/-- The world has a pool, bindings and backends, and an effect leaves alone what it is not for.
Counting always succeeds. -/
structure Parted (world : World σ) (pool : σ → π) (bindings : σ → Ledger)
    (backend : String → σ → β) : Prop where
  pool_kept : ∀ e s, e.isQuiet = true → pool (world e s).2 = pool s
  bindings_kept : ∀ e s, e.isQuiet = true → bindings (world e s).2 = bindings s
  apart : ∀ e s descriptor, (∀ call ctx, e ≠ .backend descriptor call ctx) →
    backend descriptor (world e s).2 = backend descriptor s
  counted : ∀ event s, (world (.count event) s).1 = .ok ()

/-- No backend is called, and everything is as it was. -/
structure Untouched (pool : σ → π) (bindings : σ → Ledger) (backend : String → σ → β)
    (log : Transcript) (s t : σ) : Prop where
  uncalled : log.filter (·.1.isCall) = []
  pool : pool t = pool s
  bindings : bindings t = bindings s
  backends : ∀ descriptor, backend descriptor t = backend descriptor s

namespace Parted

variable {world : World σ} {pool : σ → π} {bindings : σ → Ledger} {backend : String → σ → β}
  {p : Procedure α} {s t : σ} {log : Transcript} {ended : Except Failure α}

theorem books_kept (parted : world.Parted pool bindings backend)
    (h : p.Talks world s log ended t) (quiet : ∀ x ∈ log, x.1.isQuiet = true) :
    pool t = pool s ∧ bindings t = bindings s := by
  constructor
  · exact h.part_kept fun x member s => parted.pool_kept x.1 s (quiet x member)
  · exact h.part_kept fun x member s => parted.bindings_kept x.1 s (quiet x member)

theorem backend_kept (parted : world.Parted pool bindings backend)
    (h : p.Talks world s log ended t) {descriptor : String}
    (away : ∀ x ∈ log, ∀ call ctx, x.1 ≠ .backend descriptor call ctx) :
    backend descriptor t = backend descriptor s :=
  h.part_kept fun x member s => parted.apart x.1 s descriptor (away x member)

theorem untouched (parted : world.Parted pool bindings backend) (h : p.Talks world s log ended t)
    (idle : ∀ x ∈ log, x.1.isIdle = true) : Untouched pool bindings backend log s t where
  uncalled := by
    rw [List.filter_eq_nil_iff]
    intro x member
    simp [Effect.isIdle.uncalled (idle x member)]
  pool := (parted.books_kept h fun x member => Effect.isIdle.quiet (idle x member)).1
  bindings := (parted.books_kept h fun x member => Effect.isIdle.quiet (idle x member)).2
  backends descriptor := by
    apply parted.backend_kept h
    intro x member call ctx same
    have uncalled := Effect.isIdle.uncalled (idle x member)
    rw [same] at uncalled
    cases uncalled

end Parted
end World

namespace Dispatch

/-! ## Finding the owner -/

/-- Call the backend that a binding names. -/
def callBound (registry : Registry) (ctx : Context) (call : Backend.Call) (b : Binding) :
    Procedure call.Answer := do
  let _ ← Procedure.ofExcept (registry.get b.placement.descriptor)
  .callBackend b.placement.descriptor call ctx

/-- How far a call for the owner of an object gets, and what is answered. -/
inductive Reached (l : Ledger) (registry : Registry) (ctx : Context) (id : String)
    (call : Backend.Call) : Transcript → Except Failure call.Answer → Prop where
  | unread {e : Error} (read : l.get id = .error e) :
    Reached l registry ctx id call [⟨.store (.get id), .error (.error e)⟩] (.error (.error e))
  | unregistered {b : Binding} (read : l.get id = .ok b)
    (unknown : registry.contains b.placement.descriptor = false) :
    Reached l registry ctx id call [⟨.store (.get id), .ok b⟩]
      (.error (.error (.unknownDescriptor b.placement.descriptor)))
  | called {b : Binding} (read : l.get id = .ok b)
    (known : registry.contains b.placement.descriptor = true) (answer : Except Failure call.Answer) :
    Reached l registry ctx id call
      [⟨.store (.get id), .ok b⟩, ⟨.backend b.placement.descriptor call ctx, answer⟩] answer

variable {σ π β α : Type} {world : World σ} {pool : σ → π} {bindings : σ → Ledger}
  {backend : String → σ → β} {registry : Registry} {ctx : Context} {id : String} {l : Ledger}
  {s t u : σ} {log more : Transcript}

theorem unregistered_talks {descriptor : String} (world : World σ)
    (unknown : registry.contains descriptor = false) (s : σ) :
    (Procedure.ofExcept (registry.get descriptor)).Talks world s []
      (.error (.error (.unknownDescriptor descriptor))) s :=
  .ofExcept world s (congrArg (Except.mapError Failure.error) (Registry.get_of_not_contains unknown))

theorem callBound_talks {call : Backend.Call} {b : Binding} {answer : Except Failure call.Answer}
    (known : registry.contains b.placement.descriptor = true)
    (answered : world (.backend b.placement.descriptor call ctx) s = (answer, t)) :
    (callBound registry ctx call b).Talks world s
      [⟨.backend b.placement.descriptor call ctx, answer⟩] answer t := by
  obtain ⟨name, registered⟩ := Registry.get_of_contains known
  have accepted := Procedure.Talks.ofExcept world s
    (congrArg (Except.mapError Failure.error) registered)
  exact accepted.bind (.perform answered)

/-- A procedure that goes on after the owner was called. -/
theorem reach_talks (registry : Registry) (ctx : Context) (call : Backend.Call)
    (next : Binding → call.Answer → Procedure α)
    (read : (world (.store (.get id)) s).1 = (l.get id).mapError .error) :
    let whole : Procedure α := do
      let b ← .getBinding id
      let a ← callBound registry ctx call b
      next b a
    ∃ log answer t, Reached l registry ctx id call log answer ∧
      (∀ failure, answer = .error failure → whole.Talks world s log (.error failure) t) ∧
      (∀ a, answer = .ok a → ∃ b, ∀ more ended u, (next b a).Talks world t more ended u →
        whole.Talks world s (log ++ more) ended u) := by
  intro whole
  cases looked : world (.store (.get id)) s with
  | mk found t =>
      rw [looked] at read
      subst read
      have get := Procedure.Talks.perform looked
      cases bound : l.get id with
      | error e =>
          rw [bound] at get
          refine ⟨_, _, t, .unread bound, ?_, nofun⟩
          intro failure same
          cases same
          exact get.bind_error
      | ok b =>
          rw [bound] at get
          cases known : registry.contains b.placement.descriptor with
          | false =>
              have refused := unregistered_talks world known t
              refine ⟨_, _, t, .unregistered bound known, ?_, nofun⟩
              intro failure same
              cases same
              exact get.bind refused.bind_error.bind_error
          | true =>
              cases answered : world (.backend b.placement.descriptor call ctx) t with
              | mk answer u =>
                  have sent := callBound_talks known answered
                  refine ⟨_, answer, u, .called bound known answer, ?_, ?_⟩
                  · rintro failure rfl
                    exact get.bind sent.bind_error
                  · rintro a rfl
                    exact ⟨b, fun more ended v rest => get.bind (sent.bind rest)⟩

theorem callOwner_eq (registry : Registry) (ctx : Context) (id : String) (call : Backend.Call) :
    callOwner registry ctx id call = (do
      let b ← .getBinding id
      callBound registry ctx call b) := by
  simp [callOwner, ownerOf, callBound, bind_assoc]

theorem callOwner_talks (registry : Registry) (ctx : Context) (call : Backend.Call)
    (read : (world (.store (.get id)) s).1 = (l.get id).mapError .error) :
    ∃ log answer t, (callOwner registry ctx id call).Talks world s log answer t ∧
      Reached l registry ctx id call log answer := by
  rw [callOwner_eq]
  obtain ⟨log, answer, t, reached, failed, answered⟩ :=
    reach_talks registry ctx call (fun _ a => pure a) read
  simp only [bind_pure] at failed answered
  refine ⟨log, answer, t, ?_, reached⟩
  cases answer with
  | error failure => exact failed failure rfl
  | ok a =>
      obtain ⟨b, goes⟩ := answered a rfl
      have whole := goes _ _ _ (.pure world a t)
      rwa [List.append_nil] at whole

theorem count_talks (counted : ∀ event s, (world (.count event) s).1 = .ok ())
    (event : Counters.Event) (s : σ) :
    ∃ t, (Procedure.count event).Talks world s [⟨.count event, .ok ()⟩] (.ok ()) t := by
  cases asked : world (.count event) s with
  | mk o t =>
      have done : o = .ok () := by rw [← counted event s, asked]
      exact ⟨t, .perform (done ▸ asked)⟩

/-- Counting how a deallocation went changes nothing about how it went. -/
theorem deallocate_talks (counted : ∀ event s, (world (.count event) s).1 = .ok ())
    {scope : Binding → Procedure α} {ended : Except Failure α}
    (h : (Broker.withdraw ctx id scope).Talks world s log ended t) :
    ∃ more u, (Broker.deallocate ctx id scope).Talks world s (log ++ more) ended u ∧
      ∀ x ∈ more, x.1.isIdle = true := by
  cases ended with
  | ok a =>
      obtain ⟨u, success⟩ := count_talks counted (.deallocation .success) t
      refine ⟨_, u, h.onError_ok.bind (success.bind (.pure world a u)), ?_⟩
      simp [Effect.isIdle, Effect.isQuiet, Effect.isCall]
  | error failure =>
      cases failure with
      | error e =>
          obtain ⟨u, failed⟩ := count_talks counted (.deallocation .failure) t
          refine ⟨_, u, (h.onError_error failed).bind_error, ?_⟩
          simp [Effect.isIdle, Effect.isQuiet, Effect.isCall]
      | panic message =>
          have whole : (Broker.deallocate ctx id scope).Talks world s log _ t :=
            h.onError_panic.bind_error
          exact ⟨[], t, by rwa [List.append_nil], by simp⟩

/-! ## Errands -/

/-- What is to be done for one router by the backend that owns it. -/
inductive Errand where
  | get (fields : Option (List String))
  | update (request : Router.Request)
  | addInterface (info : Json)
  | removeInterface (info : Json)
  | delete
  deriving DecidableEq

namespace Errand

/-- The call that an errand makes. -/
def call (id : String) : Errand → Backend.Call
  | get fields => .get id fields
  | update request => .update id request
  | addInterface info => .addInterface id info
  | removeInterface info => .removeInterface id info
  | delete => .delete id

def procedure (registry : Registry) (ctx : Context) (id : String) :
    (errand : Errand) → Procedure (errand.call id).Answer
  | get fields => Dispatch.get registry ctx id fields
  | update request => Dispatch.update registry ctx id request
  | addInterface info => Dispatch.addInterface registry ctx id info
  | removeInterface info => Dispatch.removeInterface registry ctx id info
  | delete => Dispatch.delete registry ctx id

theorem procedure_eq_callOwner {errand : Errand} (gentle : errand ≠ .delete) :
    errand.procedure registry ctx id = callOwner registry ctx id (errand.call id) := by
  cases errand with
  | get | update | addInterface | removeInterface => rfl
  | delete => exact absurd rfl gentle

/-- What a deletion does once the router is gone from its backend. -/
def removal (ctx : Context) (id : String) (b : Binding) : Procedure Unit := do
  .deleteBinding id
  (Procedure.release ctx b.placement.resourceId).onError
    (Procedure.addBinding (.ofBinding b)).ignoreError
  return ()

theorem removal_asks (ctx : Context) (id : String) (b : Binding) :
    (removal ctx id b).Asks (!·.isCall) :=
  .bind (.perform rfl) fun _ => .bind (.onError (.perform rfl) (.ignoreError (.perform rfl)))
    fun _ => .pure

theorem withdraw_eq (registry : Registry) (ctx : Context) (id : String) :
    Broker.withdraw ctx id (deletion registry ctx id) = (do
      let b ← .getBinding id
      let _ ← callBound registry ctx (.delete id) b
      removal ctx id b) := rfl

theorem withdraw_talks (registry : Registry) (ctx : Context)
    (read : (world (.store (.get id)) s).1 = (l.get id).mapError .error) :
    ∃ log answer more ended t,
      (Broker.withdraw ctx id (deletion registry ctx id)).Talks world s (log ++ more) ended t ∧
      Reached l registry ctx id (.delete id) log answer ∧ (∀ x ∈ more, x.1.isCall = false) ∧
      ∀ failure, answer = .error failure → ended = .error failure ∧ more = [] := by
  rw [withdraw_eq]
  obtain ⟨log, answer, t, reached, failed, answered⟩ :=
    reach_talks registry ctx (.delete id) (fun b _ => removal ctx id b) read
  cases answer with
  | error failure =>
      refine ⟨log, _, [], .error failure, t, ?_, reached, by simp, ?_⟩
      · rw [List.append_nil]
        exact failed failure rfl
      · intro other same
        cases same
        exact ⟨rfl, rfl⟩
  | ok a =>
      obtain ⟨b, goes⟩ := answered a rfl
      obtain ⟨more, ended, u, rest⟩ := Procedure.Talks.run world (removal ctx id b) t
      have uncalled : ∀ x ∈ more, x.1.isCall = false := by
        simpa using rest.all_asked (removal_asks ctx id b)
      exact ⟨log, _, more, ended, u, goes _ _ _ rest, reached, uncalled, nofun⟩

theorem talks (counted : ∀ event s, (world (.count event) s).1 = .ok ()) (errand : Errand)
    (registry : Registry) (ctx : Context)
    (read : (world (.store (.get id)) s).1 = (l.get id).mapError .error) :
    ∃ log answer more ended t,
      (errand.procedure registry ctx id).Talks world s (log ++ more) ended t ∧
      Reached l registry ctx id (errand.call id) log answer ∧
      (∀ x ∈ more, x.1.isCall = false) ∧
      ((errand = .delete → ∃ failure, answer = .error failure) →
        ended = answer ∧ ∀ x ∈ more, x.1.isIdle = true) := by
  -- Only a deletion goes on after its call; all other errands end with what the call answered.
  by_cases deletes : errand = .delete
  · subst deletes
    obtain ⟨log, answer, more, ended, t, withdraw, reached, uncalled, failed⟩ :=
      withdraw_talks registry ctx read
    obtain ⟨counts, u, whole, idle⟩ := deallocate_talks counted withdraw
    rw [List.append_assoc] at whole
    refine ⟨log, answer, more ++ counts, ended, u, whole, reached, ?_, ?_⟩
    · intro x member
      cases List.mem_append.1 member with
      | inl early => exact uncalled x early
      | inr late => exact Effect.isIdle.uncalled (idle x late)
    · intro fails
      obtain ⟨failure, rfl⟩ := fails rfl
      obtain ⟨rfl, rfl⟩ := failed failure rfl
      exact ⟨rfl, idle⟩
  · obtain ⟨log, answer, t, whole, reached⟩ := callOwner_talks registry ctx (errand.call id) read
    rw [← procedure_eq_callOwner deletes, ← List.append_nil log] at whole
    exact ⟨log, answer, [], answer, t, whole, reached, by simp, fun _ => ⟨rfl, by simp⟩⟩

/-! ## What an errand leaves behind -/

/-- One backend is called, once, and what may have changed is that backend, and more only after a
deletion that it carried out. -/
structure CalledOnce (errand : Errand) (pool : σ → π) (bindings : σ → Ledger)
    (backend : String → σ → β) (descriptor : String) (ctx : Context) (id : String)
    (log : Transcript) (answer ended : Except Failure (errand.call id).Answer) (s t : σ) : Prop where
  called : log.filter (·.1.isCall) = [⟨.backend descriptor (errand.call id) ctx, answer⟩]
  failed : ∀ failure, answer = .error failure → ended = .error failure
  answered : errand ≠ .delete → ended = answer
  others : ∀ other, other ≠ descriptor → backend other t = backend other s
  books : (errand = .delete → ∃ failure, answer = .error failure) →
    pool t = pool s ∧ bindings t = bindings s

/-- What comes of an errand, by the binding of its object. -/
structure Dispatched (errand : Errand) (pool : σ → π) (bindings : σ → Ledger)
    (backend : String → σ → β) (registry : Registry) (ctx : Context) (id : String)
    (log : Transcript) (ended : Except Failure (errand.call id).Answer) (s t : σ) : Prop where
  owned : ∀ b, (bindings s).get id = .ok b → registry.contains b.placement.descriptor = true →
    ∃ answer, errand.CalledOnce pool bindings backend b.placement.descriptor ctx id log answer
      ended s t
  unregistered : ∀ b, (bindings s).get id = .ok b →
    registry.contains b.placement.descriptor = false →
    ended = .error (.error (.unknownDescriptor b.placement.descriptor)) ∧
      World.Untouched pool bindings backend log s t
  unread : ∀ e, (bindings s).get id = .error e →
    ended = .error (.error e) ∧ World.Untouched pool bindings backend log s t
  unbound : (bindings s).active? id = none →
    ended = .error (.error (.wrongObjectId id)) ∧ World.Untouched pool bindings backend log s t

variable {errand : Errand} {answer ended : Except Failure (errand.call id).Answer} {b : Binding}

theorem calledOnce_of_called (parted : world.Parted pool bindings backend)
    (whole : (errand.procedure registry ctx id).Talks world s (⟨.store (.get id), .ok b⟩ ::
      ⟨.backend b.placement.descriptor (errand.call id) ctx, answer⟩ :: more) ended t)
    (uncalled : ∀ x ∈ more, x.1.isCall = false)
    (settled : (errand = .delete → ∃ failure, answer = .error failure) →
      ended = answer ∧ ∀ x ∈ more, x.1.isIdle = true) :
    errand.CalledOnce pool bindings backend b.placement.descriptor ctx id
      (⟨.store (.get id), .ok b⟩ ::
        ⟨.backend b.placement.descriptor (errand.call id) ctx, answer⟩ :: more) answer ended s t where
  called := by
    have none : more.filter (·.1.isCall) = [] := by
      rw [List.filter_eq_nil_iff]
      intro x member
      simp [uncalled x member]
    exact congrArg (List.cons _) none
  failed failure same := by
    rw [(settled fun _ => ⟨failure, same⟩).1, same]
  answered gentle := (settled fun deletes => absurd deletes gentle).1
  others other apart := by
    apply parted.backend_kept whole
    intro x member call ctx' same
    obtain rfl | member := List.mem_cons.1 member
    · cases same
    obtain rfl | member := List.mem_cons.1 member
    · cases same
      exact apart rfl
    · have never := uncalled x member
      rw [same] at never
      cases never
  books kept := by
    apply parted.books_kept whole
    intro x member
    obtain rfl | member := List.mem_cons.1 member
    · rfl
    obtain rfl | member := List.mem_cons.1 member
    · rfl
    · exact Effect.isIdle.quiet ((settled kept).2 x member)

theorem talks_dispatched (parted : world.Parted pool bindings backend)
    (whole : (errand.procedure registry ctx id).Talks world s (log ++ more) ended t)
    (reached : Reached (bindings s) registry ctx id (errand.call id) log answer)
    (uncalled : ∀ x ∈ more, x.1.isCall = false)
    (settled : (errand = .delete → ∃ failure, answer = .error failure) →
      ended = answer ∧ ∀ x ∈ more, x.1.isIdle = true) :
    errand.Dispatched pool bindings backend registry ctx id (log ++ more) ended s t := by
  cases reached with
  | @unread e read =>
      obtain ⟨rfl, idle⟩ := settled fun _ => ⟨_, rfl⟩
      have untouched := parted.untouched whole (List.forall_mem_cons.2 ⟨rfl, idle⟩)
      constructor
      · intro b found
        cases read.symm.trans found
      · intro b found
        cases read.symm.trans found
      · intro other found
        cases read.symm.trans found
        exact ⟨rfl, untouched⟩
      · intro missing
        rw [Ledger.get_eq, missing] at read
        cases read
        exact ⟨rfl, untouched⟩
  | @unregistered b read unknown =>
      obtain ⟨rfl, idle⟩ := settled fun _ => ⟨_, rfl⟩
      have untouched := parted.untouched whole (List.forall_mem_cons.2 ⟨rfl, idle⟩)
      constructor
      · intro other found known
        cases read.symm.trans found
        cases unknown.symm.trans known
      · intro other found _
        cases read.symm.trans found
        exact ⟨rfl, untouched⟩
      · intro e found
        cases read.symm.trans found
      · intro missing
        rw [Ledger.get_eq, missing] at read
        cases read
  | @called b read known =>
      constructor
      · intro other found _
        cases read.symm.trans found
        exact ⟨answer, calledOnce_of_called parted whole uncalled settled⟩
      · intro other found unknown
        cases read.symm.trans found
        cases unknown.symm.trans known
      · intro e found
        cases read.symm.trans found
      · intro missing
        rw [Ledger.get_eq, missing] at read
        cases read

/-- Where bindings can be looked up, a call on a router goes to the backend that the router's binding
names, just once, or nothing is called and nothing changes. -/
theorem owner_called (parted : world.Parted pool bindings backend) (errand : Errand)
    (registry : Registry) (ctx : Context)
    (read : (world (.store (.get id)) s).1 = ((bindings s).get id).mapError .error) :
    ∃ log ended t, (errand.procedure registry ctx id).Talks world s log ended t ∧
      errand.Dispatched pool bindings backend registry ctx id log ended s t := by
  obtain ⟨log, answer, more, ended, t, whole, reached, uncalled, settled⟩ :=
    errand.talks parted.counted registry ctx read
  exact ⟨_, ended, t, whole, talks_dispatched parted whole reached uncalled settled⟩

end Errand
end Dispatch

namespace State

variable {hazard : Hazard} {w : Schedule} {s t : State}

theorem Step.backend_apart {e : Effect} {o : e.Outcome} {descriptor : String}
    (step : Step hazard e s o t) (away : ∀ call ctx, e ≠ .backend descriptor call ctx) :
    t.backends.get? descriptor = s.backends.get? descriptor := by
  cases e with
  | backend place call ctx =>
      have other : descriptor ≠ place := by
        rintro rfl
        exact away call ctx rfl
      obtain ⟨_, _, _, _, rfl⟩ | ⟨_, _, _, rfl, _⟩ := step.backend
      · simp [recorded, withBackend, other]
      · rfl
  | acquire | release | store | count | readCounters => rw [(step.backends_eq (by simp)).1]

/-- Whatever faults wait, policy, bindings and backends are parts of a state. -/
theorem performUnder_parted (w : Schedule) : World.Parted (performUnder w) (·.policy)
    (·.store.ledger) (fun descriptor s => s.backends.get? descriptor) := by
  have steps : w.Moves (Step .any) := Schedule.Within.moves fun _ _ _ _ => trivial
  constructor
  · intro e s quiet
    exact ((steps e s).quietly quiet).policy
  · intro e s quiet
    exact congrArg Store.ledger ((steps e s).quietly quiet).store
  · intro e s descriptor away
    exact (steps e s).backend_apart away
  · intro event s
    obtain ⟨_, counted, _⟩ := (steps (.count event) s).count
    exact counted

/-- Both backends have a router under one id, which is bound to the second one. -/
def boundCopy : State :=
  copies.withLedger ⟨[{ bindingOn "west" with objectId := "r" }]⟩

/-- The owner's copy is read, and the other backend is not asked. -/
theorem owned_copy_read :
    let get : Dispatch.Errand := .get none
    let answer : Except Failure Router := .ok ⟨"r", some "second", ∅, ∅⟩
    (performUnder .calm (.store (.get "r")) boundCopy).1 =
        (boundCopy.store.ledger.get "r").mapError .error ∧
      ∃ log t, (get.procedure twoHomes default "r").Talks (performUnder .calm) boundCopy log answer t ∧
        log.filter (·.1.isCall) = [⟨.backend "west" (.get "r" none) default, answer⟩] ∧
        t.store.ledger = boundCopy.store.ledger := by
  intro get answer
  have read : (performUnder .calm (.store (.get "r")) boundCopy).1 =
      (boundCopy.store.ledger.get "r").mapError .error := rfl
  have bound : ∃ b, boundCopy.store.ledger.get "r" = .ok b ∧ b.placement.descriptor = "west" :=
    ⟨_, rfl, rfl⟩
  obtain ⟨b, found, west⟩ := bound
  have known : twoHomes.contains b.placement.descriptor = true := by
    rw [west]
    decide +kernel
  obtain ⟨log, ended, t, talks, dispatched⟩ :=
    Dispatch.Errand.owner_called (performUnder_parted .calm) get twoHomes default read
  obtain ⟨answered, once⟩ := dispatched.owned b found known
  have same : ended = answer := by
    have run := congrArg Prod.fst talks.ends
    exact run.symm
  obtain rfl := once.answered nofun
  rw [west, same] at once
  exact ⟨read, log, t, same ▸ talks, once.called, (once.books nofun).2⟩

end State
end Brokerage
