import Brokerage.Proofs.Gathering
import Brokerage.Proofs.Replies

/-! # How a resource is claimed from a service

An acquisition asks for a candidate, claims the first one and gives it back if its description is
defective; this and no more arrives, whatever the service replies (`Remote.acquire_disciplined`).
The claim goes to the encoded id behind the collection, but two dots are no place of their own there
(`Remote.claim_astray`).
A claim that succeeds with a text that is not JSON also ends the acquisition for what the service
said, but what was claimed is kept then (`Remote.claim_returned_iff`).
-/

namespace Brokerage.Remote

variable {σ α β : Type} {client : Client} {type id : String} {e : Error}

/-! ## What is asked -/

/-- Every request of a client has a URL. -/
def Client.Valid (client : Client) : Prop := ∀ request : Request, (request.url? client).isSome

theorem run_ask {first : Exchange α} {q : Request} {reading : Reply → Except Error α}
    (asks : ExceptT.run first = .ask q fun reply => .done (reading reply))
    (next : α → Exchange β) : ExceptT.run (first >>= next) = .ask q fun reply =>
      match reading reply with
      | .ok a => ExceptT.run (next a)
      | .error e => .done (.error e) := by
  change Dialogue.bind (ExceptT.run first) (ExceptT.bindCont next) = _
  rw [asks]
  refine congrArg (Dialogue.ask q) (funext fun reply => ?_)
  change ExceptT.bindCont next (reading reply) = _
  cases reading reply <;> rfl

theorem send_asks (valid : client.Valid) (request : Request) :
    ExceptT.run (send client request) = .ask request fun reply =>
      .done (readReply client request reply) := by
  have asked : ExceptT.run (ExceptT.lift (Dialogue.request request) : Exchange Reply) =
      .ask request fun reply => .done (.ok reply) := rfl
  obtain ⟨url, known⟩ := Option.isSome_iff_exists.1 (valid request)
  rw [send, known]
  refine (run_ask asked _).trans ?_
  refine congrArg (Dialogue.ask request) (funext fun reply => ?_)
  dsimp only
  cases readReply client request reply <;> rfl

theorem mark_asks (valid : client.Valid) (id : String) (allocated : Bool) :
    ExceptT.run (mark client id allocated) = .ask (.mark id allocated) fun reply =>
      .done ((readReply client (.mark id allocated) reply).map fun said => describedIn said.2) := by
  refine (run_ask (send_asks valid _) _).trans ?_
  refine congrArg (Dialogue.ask _) (funext fun reply => ?_)
  rcases reply.cases client (.mark id allocated) with ⟨v, said⟩ | nothing | ⟨e, fails⟩
  · rw [readReply_said said]
    simp only [describedIn, Except.map]
    cases v.field? "resource" with
    | none => rfl
    | some described =>
        cases described with
        | object entries => cases entries <;> rfl
        | _ => rfl
  · obtain ⟨found, read⟩ := readReply_nothing nothing
    rw [read]
    cases found <;> rfl
  · rw [readReply_fails fails]
    rfl

theorem listCandidates_asks (valid : client.Valid) (type : String) :
    ExceptT.run (listCandidates client type) = .ask (.list type) fun reply =>
      .done (listedBy client type reply) := by
  refine (run_ask (send_asks valid _) _).trans ?_
  refine congrArg (Dialogue.ask _) (funext fun reply => ?_)
  unfold listedBy
  cases readReply client (.list type) reply with
  | error e => rfl
  | ok said =>
      simp only [bind, Except.bind]
      cases said.2.field? "resources" with
      | none => rfl
      | some held => cases held <;> rfl

theorem giveUp_asks (valid : client.Valid) (id : String) :
    ExceptT.run (giveUp client id) = .ask (.mark id false) fun _ => .done (.ok ()) := by
  change (ExceptT.run (mark client id false)).bind _ = _
  rw [mark_asks valid]
  rfl

theorem acquire_asks (valid : client.Valid) (type : String) :
    ExceptT.run (acquire client type) = .ask (.list type) fun listing =>
      match offeredBy client type listing with
      | .error e => .done (.error e)
      | .ok id => .ask (.mark id true) fun claim =>
        match grantedBy client id claim with
        | .error e => .done (.error e)
        | .ok entries =>
          match resourceOf entries id type with
          | .ok r => .done (.ok r)
          | .error e => .ask (.mark id false) fun _ => .done (.error e) := by
  refine (run_ask (listCandidates_asks valid type) _).trans ?_
  refine congrArg (Dialogue.ask _) (funext fun listing => ?_)
  unfold offeredBy
  cases listedBy client type listing with
  | error e => rfl
  | ok candidates =>
      cases candidates with
      | nil => rfl
      | cons first rest =>
          simp only [bind, Except.bind]
          cases (first.field? "id").bind idOf with
          | none => rfl
          | some id =>
              refine (run_ask (mark_asks valid id true) _).trans ?_
              refine congrArg (Dialogue.ask _) (funext fun claim => ?_)
              unfold grantedBy
              cases readReply client (.mark id true) claim with
              | error e => rfl
              | ok said =>
                  simp only [Except.map, bind, Except.bind]
                  cases describedIn said.2 with
                  | none => rfl
                  | some entries =>
                      simp only [pure, Except.pure]
                      cases resourceOf entries id type with
                      | ok r => rfl
                      | error e => exact run_ask (giveUp_asks valid id) _

/-! ## The discipline -/

/-- What is sent, with the replies to it, and what comes of it. -/
inductive Course (client : Client) (type : String) :
    List ((_ : Request) × Reply) → Except Error Resource → Prop where
  | unoffered {listing e} : offeredBy client type listing = .error e →
      Course client type [⟨.list type, listing⟩] (.error e)
  | refused {listing id claim e} : offeredBy client type listing = .ok id →
      grantedBy client id claim = .error e →
      Course client type [⟨.list type, listing⟩, ⟨.mark id true, claim⟩] (.error e)
  | granted {listing id claim entries r} : offeredBy client type listing = .ok id →
      grantedBy client id claim = .ok entries → resourceOf entries id type = .ok r →
      Course client type [⟨.list type, listing⟩, ⟨.mark id true, claim⟩] (.ok r)
  | returned {listing id claim entries e reply} : offeredBy client type listing = .ok id →
      grantedBy client id claim = .ok entries → resourceOf entries id type = .error e →
      Course client type
        [⟨.list type, listing⟩, ⟨.mark id true, claim⟩, ⟨.mark id false, reply⟩] (.error e)

namespace Client

/-- What the service receives of what a client sends; what has no URL is not sent. -/
def forward (client : Client) (serve : Arrival → σ → Reply × σ) (request : Request) (s : σ) :
    Reply × σ :=
  match request.url? client with
  | some url => serve (request.arrival url) s
  | none => (.lost, s)

/-- What is asked of a service in an exchange, in turn, and what it replies. -/
def correspondence (client : Client) (serve : Arrival → σ → Reply × σ) (exchange : Exchange α)
    (s : σ) : List ((_ : Request) × Reply) :=
  (ExceptT.run exchange).transcript (client.forward serve) s

end Client

theorem acquire_course (valid : client.Valid) (serve : Arrival → σ → Reply × σ) (type : String)
    (s : σ) : Course client type (client.correspondence serve (acquire client type) s)
      (client.hold serve (acquire client type) s).1 := by
  have held : (client.hold serve (acquire client type) s).1 =
    ((ExceptT.run (acquire client type)).run (client.forward serve) s).1 := rfl
  rw [held, Client.correspondence, acquire_asks valid type]
  simp only [Dialogue.transcript, Dialogue.run]
  generalize (client.forward serve (.list type) s) = listed
  obtain ⟨listing, s⟩ := listed
  dsimp only
  cases offered : offeredBy client type listing with
  | error e => exact .unoffered offered
  | ok id =>
      simp only [Dialogue.transcript, Dialogue.run]
      generalize (client.forward serve (.mark id true) s) = marked
      obtain ⟨claim, s⟩ := marked
      dsimp only
      cases granted : grantedBy client id claim with
      | error e => exact .refused offered granted
      | ok entries =>
          dsimp only
          cases translated : resourceOf entries id type with
          | ok r => exact .granted offered granted translated
          | error e => exact .returned offered granted translated

namespace Course

variable {log : List ((_ : Request) × Reply)} {result : Except Error Resource} {claim : Reply}

theorem returns (h : Course client type log result) (id : String) :
    (∃ reply, ⟨.mark id false, reply⟩ ∈ log) ↔ ∃ claim entries, ⟨.mark id true, claim⟩ ∈ log ∧
      grantedBy client id claim = .ok entries ∧ ∃ e, resourceOf entries id type = .error e := by
  cases h with
  | unoffered => simp
  | refused _ refused =>
      refine ⟨by simp, ?_⟩
      rintro ⟨claim, entries, member, granted, -⟩
      obtain ⟨rfl, rfl⟩ : id = _ ∧ claim = _ := by simpa using member
      rw [refused] at granted
      cases granted
  | granted _ granted translated =>
      refine ⟨by simp, ?_⟩
      rintro ⟨claim, entries, member, again, e, failed⟩
      obtain ⟨rfl, rfl⟩ : id = _ ∧ claim = _ := by simpa using member
      rw [granted] at again
      cases again
      rw [translated] at failed
      cases failed
  | @returned _ own claim entries e reply _ granted translated =>
      constructor
      · rintro ⟨again, member⟩
        obtain ⟨rfl, rfl⟩ : id = own ∧ again = reply := by simpa using member
        exact ⟨claim, entries, by simp, granted, e, translated⟩
      · rintro ⟨again, _, member, -⟩
        obtain ⟨rfl, rfl⟩ : id = own ∧ again = claim := by simpa using member
        exact ⟨reply, by simp⟩

theorem claimed_result (h : Course client type log result)
    (member : ⟨.mark id true, claim⟩ ∈ log) : result = grantedBy client id claim >>= fun entries =>
      resourceOf entries id type := by
  cases h with
  | unoffered => simp at member
  | refused _ granted | granted _ granted translated | returned _ granted translated =>
      obtain ⟨rfl, rfl⟩ : id = _ ∧ claim = _ := by simpa using member
      simp [*, bind, Except.bind]

theorem claim_unique {other : Reply} (h : Course client type log result)
    (member : ⟨.mark id true, claim⟩ ∈ log) (again : ⟨.mark id true, other⟩ ∈ log) :
    other = claim := by
  cases h with
  | unoffered => simp at member
  | refused | granted | returned =>
      obtain ⟨rfl, rfl⟩ : id = _ ∧ claim = _ := by simpa using member
      simpa using again

end Course

/-! ## What arrives -/

/-- A service that keeps a record of what it gets and what it replies. -/
def recorded (serve : Arrival → σ → Reply × σ) (a : Arrival) (s : σ × List (Arrival × Reply)) :
    Reply × σ × List (Arrival × Reply) :=
  ((serve a s.1).1, (serve a s.1).2, s.2 ++ [(a, (serve a s.1).1)])

namespace Client

/-- What a service gets in an exchange, in turn, and what it replies. -/
def received (client : Client) (serve : Arrival → σ → Reply × σ) (exchange : Exchange α) (s : σ) :
    List (Arrival × Reply) :=
  (client.hold (recorded serve) exchange (s, [])).2.2

/-- What arrives of a request that was replied to. -/
def delivered (client : Client) (x : (_ : Request) × Reply) : Option (Arrival × Reply) :=
  (x.1.url? client).map fun url => (x.1.arrival url, x.2)

theorem run_recorded (serve : Arrival → σ → Reply × σ) (d : Dialogue Request (fun _ => Reply) α)
    (s : σ) (past : List (Arrival × Reply)) :
    (d.run (client.forward (recorded serve)) (s, past)).2.2 =
      past ++ (d.transcript (client.forward serve) s).filterMap client.delivered := by
  induction d generalizing s past with
  | done value => exact (List.append_nil past).symm
  | ask request next ih =>
      rw [Dialogue.run, Dialogue.transcript, List.filterMap_cons]
      cases known : request.url? client with
      | none => simp only [forward, delivered, known, Option.map_none, ih]
      | some url =>
          simp only [forward, delivered, known, Option.map_some, recorded, ih]
          rw [List.append_assoc, List.singleton_append]

theorem received_eq (serve : Arrival → σ → Reply × σ) (exchange : Exchange α) (s : σ) :
    client.received serve exchange s =
      (client.correspondence serve exchange s).filterMap client.delivered :=
  run_recorded serve (ExceptT.run exchange) s []

end Client

namespace Arrival

/-- A request for one free resource of a type, to the collection behind a base. -/
structure Asks [Url.Hosts] (base type : String) (a : Arrival) : Prop where
  method : a.method = "GET"
  body : a.body = ""
  asked : ∃ collection query,
    Url.ofText? (Client.trimSlashes base ++ "/resources/") = some collection ∧
      a.url = collection.withQuery query ∧ Percent.formPairs query.toList = listPairs type

/-- A request to set the mark of an id, which is encoded behind the collection. -/
structure Sets [Url.Hosts] (base id : String) (allocated : Bool) (a : Arrival) : Prop where
  method : a.method = "PUT"
  body : a.body = markText allocated
  addressed :
    Url.ofText? (Client.trimSlashes base ++ "/resources/" ++ Percent.encode id) = some a.url
  /-- It is the last segment of the path there, unless it is a dot or two. -/
  below : (∀ c ∈ base.toList, c ≠ '?' ∧ c ≠ '#') → ∃ collection,
    Url.ofText? (Client.trimSlashes base ++ "/resources/") = some collection ∧
      a.url = collection.below (Percent.encode id)

end Arrival

section

variable [Url.Hosts] {base : String} {timeout : Duration}

theorem Client.delivered_list (reached : (Client.ofBaseUrl base timeout).Valid) (type : String)
    (reply : Reply) : ∃ a, (Client.ofBaseUrl base timeout).delivered ⟨.list type, reply⟩ =
      some (a, reply) ∧ a.Asks base type := by
  obtain ⟨url, known⟩ := Option.isSome_iff_exists.1 (reached (.list type))
  refine ⟨(Request.list type).arrival url, by rw [Client.delivered, known]; rfl, rfl, rfl, ?_⟩
  obtain ⟨collection, read, rfl⟩ := Option.map_eq_some_iff.1 known
  exact ⟨collection, _, read, rfl, formPairs_listQuery type⟩

theorem Client.delivered_mark (reached : (Client.ofBaseUrl base timeout).Valid) (id : String)
    (allocated : Bool) (reply : Reply) : ∃ a,
      (Client.ofBaseUrl base timeout).delivered ⟨.mark id allocated, reply⟩ = some (a, reply) ∧
        a.Sets base id allocated := by
  obtain ⟨url, known⟩ := Option.isSome_iff_exists.1 (reached (.mark id allocated))
  refine ⟨(Request.mark id allocated).arrival url, by rw [Client.delivered, known]; rfl, rfl,
    Request.body_arrival _ _, known, fun noQuery => ?_⟩
  obtain ⟨whole, listed⟩ := Option.isSome_iff_exists.1 (reached (.list ""))
  obtain ⟨collection, read, -⟩ := Option.map_eq_some_iff.1 listed
  have place := Client.reaches_ofBaseUrl read noQuery
  obtain ⟨front, slash, -, unmarked⟩ := place
  have behind := known
  rw [Request.url?, slash] at behind
  rw [slash] at read
  rw [(Client.read?_append read unmarked).2 _ (Url.encode_plain id)] at behind
  refine ⟨collection, ?_, (Option.some.inj behind).symm⟩
  rw [← read, ← slash]
  rfl

end

/-! ## What comes of it -/

/-- A resource is described, but not as one has to be. -/
def Reply.Misdescribes (reply : Reply) : Prop :=
  ∃ entries, reply.Describes entries ∧ Defective entries

/-- How an acquisition goes on from the list that is replied: which marks are set, with the replies
to that, and what comes of it. -/
structure Disciplined [Url.Hosts] (client : Client) (base type : String) (listing : Reply)
    (marks : List (Arrival × Reply)) (result : Except Error Resource) : Prop where
  unoffered : (∀ id, ¬listing.Offers id) → marks = []
  /-- What is offered first is claimed, and given back just if its description is defective. -/
  claimed : ∀ id, listing.Offers id → ∃ claim reply, claim.Sets base id true ∧
    ((¬reply.Misdescribes ∧ marks = [(claim, reply)]) ∨
      (reply.Misdescribes ∧ ∃ back ignored, marks = [(claim, reply), (back, ignored)] ∧
        back.Sets base id false))
  exhausted : listing.Lists [] → result = .error (.noMoreResources type)
  unusable : listing.Unusable → ∃ reason, result = .error (.malformedResponse reason)
  unlisted : ∀ e, listing.Fails client (.list type) e → result = .error e
  /-- The description decides, whatever becomes of what is given back. -/
  translated : ∀ id claim reply rest entries, listing.Offers id → marks = (claim, reply) :: rest →
    reply.Describes entries → result = resourceOf entries id type
  granted : (∃ r, result = .ok r) ↔ ∃ claim reply entries, marks = [(claim, reply)] ∧
    reply.Describes entries ∧ ¬Defective entries
  rejected : ∀ id claim reply rest, listing.Offers id → marks = (claim, reply) :: rest →
    reply.Rejects → result = .error (.wrongResourceId id)
  unclaimed : ∀ id claim reply rest e, listing.Offers id → marks = (claim, reply) :: rest →
    reply.Fails client (.mark id true) e → result = .error e

namespace Disciplined

variable [Url.Hosts] {base : String} {listing reply : Reply} {claim : Arrival}
variable {rest : List (Arrival × Reply)}

theorem of_unoffered (offered : offeredBy client type listing = .error e) :
    Disciplined client base type listing [] (.error e) where
  unoffered _ := rfl
  claimed id offers := by
    rw [offeredBy_eq_ok.2 offers] at offered
    cases offered
  exhausted none := by
    rw [offeredBy_none none] at offered
    cases offered
    rfl
  unusable unusable := by
    obtain ⟨reason, failed⟩ := offeredBy_unusable unusable
    rw [failed] at offered
    cases offered
    exact ⟨reason, rfl⟩
  unlisted _ fails := by
    rw [offeredBy_fails fails] at offered
    cases offered
    rfl
  translated _ _ _ _ _ _ marked := nomatch marked
  granted := by
    constructor
    · rintro ⟨r, ⟨⟩⟩
    · rintro ⟨_, _, _, ⟨⟩, -⟩
  rejected _ _ _ _ _ marked := nomatch marked
  unclaimed _ _ _ _ _ _ marked := nomatch marked

/-- What is granted is described soundly, and then it is not given back. -/
theorem granted_iff (settled : (¬reply.Misdescribes ∧ rest = []) ∨ (reply.Misdescribes ∧
      ∃ back ignored, rest = [(back, ignored)] ∧ back.Sets base id false)) :
    (∃ r, (grantedBy client id reply >>= fun entries => resourceOf entries id type) = .ok r) ↔
      ∃ a answer entries, (claim, reply) :: rest = [(a, answer)] ∧ answer.Describes entries ∧
        ¬Defective entries := by
  constructor
  · rintro ⟨r, ended⟩
    obtain ⟨entries, granted, translated⟩ := bind_eq_ok.1 ended
    have sound : ¬Defective entries := by
      intro defective
      obtain ⟨e, failed⟩ := defective_iff.2 defective
      rw [failed] at translated
      cases translated
    rcases settled with ⟨-, rfl⟩ | ⟨⟨other, describes, defective⟩, -⟩
    · exact ⟨claim, reply, entries, rfl, grantedBy_eq_ok.1 granted, sound⟩
    · rw [grantedBy_describes describes] at granted
      cases granted
      exact absurd defective sound
  · rintro ⟨_, _, entries, ⟨⟩, describes, sound⟩
    rcases resourceOf_cases entries id type with ⟨-, r, translated⟩ | ⟨defective, -⟩
    · exact ⟨r, bind_eq_ok.2 ⟨entries, grantedBy_describes describes, translated⟩⟩
    · exact absurd defective sound

theorem of_claim (offered : offeredBy client type listing = .ok id) (sets : claim.Sets base id true)
    (settled : (¬reply.Misdescribes ∧ rest = []) ∨ (reply.Misdescribes ∧
      ∃ back ignored, rest = [(back, ignored)] ∧ back.Sets base id false)) :
    Disciplined client base type listing ((claim, reply) :: rest)
      (grantedBy client id reply >>= fun entries => resourceOf entries id type) := by
  have own : ∀ other, listing.Offers other → id = other := by
    intro other offers
    rw [offeredBy_eq_ok.2 offers] at offered
    exact (Except.ok.inj offered).symm
  constructor
  case unoffered => exact fun none => absurd (offeredBy_eq_ok.1 offered) (none id)
  case claimed =>
    intro other offers
    obtain rfl := own other offers
    rcases settled with ⟨sound, rfl⟩ | ⟨defective, back, ignored, rfl, returned⟩
    · exact ⟨claim, reply, sets, .inl ⟨sound, rfl⟩⟩
    · exact ⟨claim, reply, sets, .inr ⟨defective, back, ignored, rfl, returned⟩⟩
  case exhausted =>
    intro none
    rw [offeredBy_none none] at offered
    cases offered
  case unusable =>
    intro unusable
    obtain ⟨reason, failed⟩ := offeredBy_unusable unusable
    rw [failed] at offered
    cases offered
  case unlisted =>
    intro e fails
    rw [offeredBy_fails fails] at offered
    cases offered
  case translated =>
    rintro other _ _ _ entries offers ⟨⟩ describes
    obtain rfl := own other offers
    rw [grantedBy_describes describes]
    rfl
  case granted => exact granted_iff settled
  case rejected =>
    rintro other _ _ _ offers ⟨⟩ rejects
    obtain rfl := own other offers
    rw [grantedBy_rejects rejects]
    rfl
  case unclaimed =>
    rintro other _ _ _ e offers ⟨⟩ fails
    obtain rfl := own other offers
    rw [grantedBy_fails fails]
    rfl

end Disciplined

section

variable [Url.Hosts] {base : String} {timeout : Duration} {log : List ((_ : Request) × Reply)}
  {result : Except Error Resource}

theorem Course.disciplined (reached : (Client.ofBaseUrl base timeout).Valid)
    (h : Course (Client.ofBaseUrl base timeout) type log result) : ∃ ask listing marks,
      log.filterMap (Client.ofBaseUrl base timeout).delivered = (ask, listing) :: marks ∧
      ask.Asks base type ∧
      Disciplined (Client.ofBaseUrl base timeout) base type listing marks result := by
  cases h with
  | @unoffered listing e offered =>
      obtain ⟨ask, first, asks⟩ := Client.delivered_list reached type listing
      exact ⟨ask, listing, [], by simp [first], asks, .of_unoffered offered⟩
  | @refused listing id reply e offered refused =>
      obtain ⟨ask, first, asks⟩ := Client.delivered_list reached type listing
      obtain ⟨claim, second, sets⟩ := Client.delivered_mark reached id true reply
      have sound : ¬reply.Misdescribes := by
        rintro ⟨entries, describes, -⟩
        rw [grantedBy_describes describes] at refused
        cases refused
      have done : Disciplined _ base type listing [(claim, reply)] _ :=
        .of_claim offered sets (.inl ⟨sound, rfl⟩)
      rw [refused] at done
      exact ⟨ask, listing, _, by simp [first, second], asks, done⟩
  | @granted listing id reply entries r offered granted translated =>
      obtain ⟨ask, first, asks⟩ := Client.delivered_list reached type listing
      obtain ⟨claim, second, sets⟩ := Client.delivered_mark reached id true reply
      have sound : ¬reply.Misdescribes := by
        rintro ⟨other, describes, defective⟩
        rw [grantedBy_describes describes] at granted
        cases granted
        have failing : ∃ e, resourceOf entries id type = .error e := defective_iff.2 defective
        obtain ⟨e, failed⟩ := failing
        rw [failed] at translated
        cases translated
      have done : Disciplined _ base type listing [(claim, reply)] _ :=
        .of_claim offered sets (.inl ⟨sound, rfl⟩)
      simp only [granted, bind, Except.bind, translated] at done
      exact ⟨ask, listing, _, by simp [first, second], asks, done⟩
  | @returned listing id reply entries e ignored offered granted translated =>
      obtain ⟨ask, first, asks⟩ := Client.delivered_list reached type listing
      obtain ⟨claim, second, sets⟩ := Client.delivered_mark reached id true reply
      obtain ⟨back, third, returned⟩ := Client.delivered_mark reached id false ignored
      have defective : reply.Misdescribes :=
        ⟨entries, grantedBy_eq_ok.1 granted, defective_iff.1 ⟨e, translated⟩⟩
      have done : Disciplined _ base type listing [(claim, reply), (back, ignored)] _ :=
        .of_claim offered sets (.inr ⟨defective, back, ignored, rfl, returned⟩)
      simp only [granted, bind, Except.bind, translated] at done
      exact ⟨ask, listing, _, by simp [first, second, third], asks, done⟩

end

/-! ## Acquiring -/

theorem Client.valid_ofBaseUrl [Url.Hosts] {base : String} {timeout : Duration}
    (read : (Url.ofText? (Client.ofBaseUrl base timeout).resourcesUrl).isSome) :
    (Client.ofBaseUrl base timeout).Valid := by
  intro request
  cases request with
  | list type => simpa [Request.url?] using read
  | mark id allocated =>
      have slash : (Client.ofBaseUrl base timeout).resourcesUrl =
          Client.trimSlashes base ++ "/resources" ++ "/" := by
        simp [Client.ofBaseUrl, String.append_assoc]
      rw [slash] at read
      rw [Request.url?, slash]
      exact Url.ofText?_isSome_append read (Url.encode_plain id)

/-- A service that gives prepared replies, one after another. -/
def scripted (_ : Arrival) (script : List Reply) : Reply × List Reply :=
  (script.headD Service.exhausted, script.tail)

def local8080 : Client := .ofBaseUrl "http://localhost:8080/v1/" (.ofSeconds 30)

/-- A resource is offered whose id a path cannot carry as it is. -/
def rackOffered : Reply :=
  .answer 200 (Json.ofFields [("resources", .array [.ofFields [("id", .string "rack 2/ü")]])]).text

/-- The description of a resource that is said to be out with a text. -/
def rackMarkedYes : String :=
  (Json.ofFields [("resource",
    .ofFields [("type", .string "edge"), ("allocated", .string "yes")])]).text

variable {base : String} {timeout : Duration} {serve : Arrival → σ → Reply × σ}

/-- Whatever a service does, an acquisition keeps its discipline: one request for a candidate
arrives, at most one claim of the first that is offered, and a return of it where its description is
defective. -/
theorem acquire_disciplined [Url.Hosts]
    (valid : (Url.ofText? (Client.ofBaseUrl base timeout).resourcesUrl).isSome)
    (serve : Arrival → σ → Reply × σ) (s : σ) (type : String) :
    let client := Client.ofBaseUrl base timeout
    ∃ ask listing marks,
      client.received serve (acquire client type) s = (ask, listing) :: marks ∧ ask.Asks base type ∧
      Disciplined client base type listing marks (client.hold serve (acquire client type) s).1 := by
  intro client
  have reached : client.Valid := Client.valid_ofBaseUrl valid
  rw [Client.received_eq]
  exact (acquire_course reached serve type s).disciplined reached

/-- What is offered is claimed and given back, and the silence after that changes nothing. -/
theorem silent_return_ignored :
    let script := [rackOffered, .answer 201 rackMarkedYes, .silence]
    let log := local8080.received scripted (acquire local8080 "router") script
    let result := (local8080.hold scripted (acquire local8080 "router") script).1
    (Url.ofText? local8080.resourcesUrl).isSome ∧
      (∃ ask marks, log = (ask, rackOffered) :: marks ∧
        ask.Asks "http://localhost:8080/v1/" "router" ∧
        Disciplined local8080 "http://localhost:8080/v1/" "router" rackOffered marks result) ∧
      log.map (fun x => (x.1.method, x.1.url.target, x.1.body)) =
        [("GET", "/v1/resources/?limit=1&class=router&processing=false&unused=true", ""),
          ("PUT", "/v1/resources/rack%202%2F%C3%BC",
            "\x7b\"resource\":\x7b\"allocated\":true\x7d\x7d"),
          ("PUT", "/v1/resources/rack%202%2F%C3%BC",
            "\x7b\"resource\":\x7b\"allocated\":false\x7d\x7d")] ∧
      result = .error (.malformedResponse "'allocated' is not a boolean: \"yes\"") := by
  intro script log result
  have valid : (Url.ofText? local8080.resourcesUrl).isSome := by decide +kernel
  obtain ⟨ask, listing, marks, arrived, asks, disciplined⟩ :=
    acquire_disciplined valid scripted script "router"
  have first : log.head?.map (·.2) = some rackOffered := by decide +kernel
  have shown : log = (ask, listing) :: marks := arrived
  rw [shown] at first
  obtain rfl : listing = rackOffered := Option.some.inj first
  exact ⟨valid, ⟨ask, marks, arrived, asks, disciplined⟩, by decide +kernel, by decide +kernel⟩

/-- What is offered as two dots is claimed outside the collection. -/
theorem claim_astray :
    let offered := Reply.answer 200
      (Json.ofFields [("resources", .array [.ofFields [("id", .string "..")]])]).text
    (local8080.received scripted (acquire local8080 "router") [offered]).map
        (fun x => (x.1.method, x.1.url.path)) =
      [("GET", "/v1/resources/"), ("PUT", "/v1/")] ∧ offered.Offers ".." := by
  intro offered
  have offers : offeredBy local8080 "router" offered = .ok ".." := by decide +kernel
  exact ⟨by decide +kernel, offeredBy_eq_ok.1 offers⟩

/-- A claim that was answered with a success, but made the acquisition fail for what the answer
says, was given back just if the answer is JSON. -/
theorem claim_returned_iff [Url.Hosts]
    (valid : (Url.ofText? (Client.ofBaseUrl base timeout).resourcesUrl).isSome)
    {s : σ} {type id body reason : String} {status : Nat}
    (claimed : ⟨.mark id true, .answer status body⟩ ∈
      (Client.ofBaseUrl base timeout).correspondence serve
        (acquire (Client.ofBaseUrl base timeout) type) s)
    (success : 200 ≤ status ∧ status < 300)
    (malformed : ((Client.ofBaseUrl base timeout).hold serve
      (acquire (Client.ofBaseUrl base timeout) type) s).1 = .error (.malformedResponse reason)) :
    (∃ reply, ⟨.mark id false, reply⟩ ∈ (Client.ofBaseUrl base timeout).correspondence serve
      (acquire (Client.ofBaseUrl base timeout) type) s) ↔ (Json.read? body).isSome := by
  have course := acquire_course (Client.valid_ofBaseUrl valid) serve type s
  have outcome := course.claimed_result claimed
  rcases claim_cases (Client.ofBaseUrl base timeout) id (.answer status body) with
    ⟨entries, describes⟩ | rejects | ⟨e, fails⟩
  · have translated : resourceOf entries id type = .error (.malformedResponse reason) := by
      rw [← malformed, outcome, grantedBy_describes describes]
      rfl
    have granted : grantedBy (Client.ofBaseUrl base timeout) id _ = .ok entries :=
      grantedBy_describes describes
    obtain ⟨-, v, ⟨_, _, ⟨⟩, -, read⟩, -⟩ := describes
    exact iff_of_true ((course.returns id).2 ⟨_, entries, claimed, granted, _, translated⟩)
      (by rw [read]; rfl)
  · rw [outcome, grantedBy_rejects rejects] at malformed
    cases malformed
  · cases fails with
    | refused _ failure => exact absurd success failure
    | unreadable success visible unread =>
        refine iff_of_false ?_ (by simp [unread])
        intro returned
        obtain ⟨other, entries, again, granted, -⟩ := (course.returns id).1 returned
        rw [course.claim_unique claimed again,
          grantedBy_fails (.unreadable success visible unread)] at granted
        cases granted

theorem defective_claim_returned :
    let script := [rackOffered, .answer 201 rackMarkedYes, .silence]
    let log := local8080.correspondence scripted (acquire local8080 "router") script
    (⟨.mark "rack 2/ü" true, .answer 201 rackMarkedYes⟩ ∈ log ∧
      ∃ reply, ⟨.mark "rack 2/ü" false, reply⟩ ∈ log) ∧ (Json.read? rackMarkedYes).isSome := by
  intro script log
  have valid : (Url.ofText? local8080.resourcesUrl).isSome := by decide +kernel
  have claimed : ⟨.mark "rack 2/ü" true, .answer 201 rackMarkedYes⟩ ∈ log := by decide +kernel
  have malformed : (local8080.hold scripted (acquire local8080 "router") script).1 =
      .error (.malformedResponse "'allocated' is not a boolean: \"yes\"") := by decide +kernel
  have read : (Json.read? rackMarkedYes).isSome := by decide +kernel
  exact ⟨⟨claimed, (claim_returned_iff valid claimed (by decide) malformed).2 read⟩, read⟩

/-- A claim that succeeds with a text that is not JSON is kept, though the acquisition fails. -/
theorem unreadable_claim_kept :
    let script := [rackOffered, .answer 200 "oops"]
    local8080.correspondence scripted (acquire local8080 "router") script =
        [⟨.list "router", rackOffered⟩, ⟨.mark "rack 2/ü" true, .answer 200 "oops"⟩] ∧
      (local8080.hold scripted (acquire local8080 "router") script).1 =
        .error (.malformedResponse "update_resource: body is not JSON") := by
  decide +kernel

end Brokerage.Remote
