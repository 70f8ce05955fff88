import Brokerage.Proofs.Interchange

/-! # What replies say

A client learns three things from a service: which resources it lists, which one it describes after
a claim, and whether that description can be used. Here these are told from the replies themselves,
and the client is shown to read them so.
-/

namespace Brokerage.Remote

variable {client : Client} {request : Request} {type id : String} {reply : Reply} {v : Json}
  {e : Error} {entries : List (String × Json)}

/-! ## The kinds of replies -/

namespace Reply

/-- A success with a JSON value. -/
def Says (reply : Reply) (v : Json) : Prop :=
  ∃ status body, reply = .answer status body ∧ (200 ≤ status ∧ status < 300) ∧
    Json.read? body = some v

/-- A success without a text, or an answer that the thing asked for is not there. -/
def SaysNothing (reply : Reply) : Prop :=
  (∃ body, reply = .answer 404 body) ∨
    ∃ status body, reply = .answer status body ∧ (200 ≤ status ∧ status < 300) ∧
      blankText body = true

/-- A reply from which nothing can be learnt, and the error that it is reported as. -/
inductive Fails (client : Client) (request : Request) : Reply → Error → Prop where
  | lost : Fails client request .lost (.http "error sending request")
  | silence : Fails client request .silence (.timeout request.operation client.timeout)
  | refused {status body} : status ≠ 404 → ¬ (200 ≤ status ∧ status < 300) →
      Fails client request (.answer status body) (.remoteService status body)
  | unreadable {status body} : (200 ≤ status ∧ status < 300) → blankText body = false →
      Json.read? body = none → Fails client request (.answer status body)
        (.malformedResponse (request.operation ++ ": body is not JSON"))

theorem cases (client : Client) (request : Request) (reply : Reply) :
    (∃ v, reply.Says v) ∨ reply.SaysNothing ∨ ∃ e, reply.Fails client request e := by
  cases reply with
  | lost => exact .inr (.inr ⟨_, .lost⟩)
  | silence => exact .inr (.inr ⟨_, .silence⟩)
  | answer status body =>
      by_cases missing : status = 404
      · exact .inr (.inl (.inl ⟨body, by rw [missing]⟩))
      by_cases success : 200 ≤ status ∧ status < 300
      swap
      · exact .inr (.inr ⟨_, .refused missing success⟩)
      cases blank : blankText body with
      | true => exact .inr (.inl (.inr ⟨status, body, rfl, success, blank⟩))
      | false =>
          cases read : Json.read? body with
          | none => exact .inr (.inr ⟨_, .unreadable success blank read⟩)
          | some v => exact .inl ⟨v, status, body, rfl, success, read⟩

/-- The service lists these resources. -/
def Lists (reply : Reply) (resources : List Json) : Prop :=
  ∃ v, reply.Says v ∧ v.field? "resources" = some (.array resources)

/-- The first resource that is listed has this id. -/
def Offers (reply : Reply) (id : String) : Prop :=
  ∃ first rest, reply.Lists (first :: rest) ∧ (first.field? "id").bind idOf = some id

/-- Nothing can be claimed by a list: there is none, or its first resource has no id. -/
def Unusable (reply : Reply) : Prop :=
  reply.SaysNothing ∨
    (∃ v, reply.Says v ∧ ∀ resources, v.field? "resources" ≠ some (.array resources)) ∨
    ∃ first rest, reply.Lists (first :: rest) ∧ (first.field? "id").bind idOf = none

/-- The service describes a resource by these fields. -/
def Describes (reply : Reply) (entries : List (String × Json)) : Prop :=
  entries ≠ [] ∧ ∃ v, reply.Says v ∧ v.field? "resource" = some (.object entries)

/-- The service answers a claim and describes no resource. -/
def Rejects (reply : Reply) : Prop :=
  reply.SaysNothing ∨
    ∃ v, reply.Says v ∧ ∀ entries, entries ≠ [] → v.field? "resource" ≠ some (.object entries)

end Reply

/-- The description of a resource does not say of what kind it is, or does not say properly whether
it is out. -/
def Defective (entries : List (String × Json)) : Prop :=
  (∀ descriptor, entries.lookup "type" ≠ some (.string descriptor)) ∨
    ∃ v, entries.lookup "allocated" = some v ∧ ∀ allocated, v ≠ .bool allocated

theorem readReply_said (h : reply.Says v) : readReply client request reply = .ok (true, v) := by
  obtain ⟨status, body, rfl, success, read⟩ := h
  exact Client.readReply_ok success read

theorem readReply_nothing (h : reply.SaysNothing) :
    ∃ found, readReply client request reply = .ok (found, .object []) := by
  rcases h with ⟨body, rfl⟩ | ⟨status, body, rfl, success, blank⟩
  · exact ⟨false, rfl⟩
  · have found : status ≠ 404 := by omega
    exact ⟨true, by simp [readReply, found, success, blank]⟩

theorem readReply_fails (h : reply.Fails client request e) :
    readReply client request reply = .error e := by
  cases h with
  | lost => rfl
  | silence => rfl
  | refused missing failure =>
      rw [readReply, if_neg missing, if_pos (by simpa [-not_and, not_and_or] using failure)]
  | @unreadable status body success visible unread =>
      have found : status ≠ 404 := by omega
      simp [readReply, found, success, visible, unread]

/-! ## What comes of a reply -/

/-- The resources that a reply lists. -/
def listedBy (client : Client) (type : String) (listing : Reply) : Except Error (List Json) := do
  let (_, body) ← readReply client (.list type) listing
  match body.field? "resources" with
  | some (.array resources) => return resources
  | some .null | none => throw (.malformedResponse "list response has no 'resources' field")
  | some other => throw (.malformedResponse ("'resources' is not a list: " ++ other.text))

/-- The id of the first resource that a reply lists. -/
def offeredBy (client : Client) (type : String) (listing : Reply) : Except Error String := do
  match ← listedBy client type listing with
  | [] => throw (.noMoreResources type)
  | first :: _ =>
    match (first.field? "id").bind idOf with
    | some id => return id
    | none => throw (.malformedResponse "candidate resource has no 'id'")

/-- The fields of the resource that a body describes. -/
def describedIn (body : Json) : Option (List (String × Json)) :=
  match body.field? "resource" with
  | some (.object (entry :: rest)) => some (entry :: rest)
  | _ => none

/-- The fields of the resource that a reply to its claim describes. -/
def grantedBy (client : Client) (id : String) (claim : Reply) :
    Except Error (List (String × Json)) := do
  let (_, body) ← readReply client (.mark id true) claim
  match describedIn body with
  | some entries => return entries
  | none => throw (.wrongResourceId id)

theorem describedIn_eq_some :
    describedIn v = some entries ↔ entries ≠ [] ∧ v.field? "resource" = some (.object entries) := by
  unfold describedIn
  split
  · rename_i entry rest held
    rw [held]
    constructor
    · rintro ⟨⟩
      exact ⟨List.cons_ne_nil _ _, rfl⟩
    · rintro ⟨-, ⟨⟩⟩
      rfl
  · rename_i other
    refine ⟨nofun, ?_⟩
    rintro ⟨some, held⟩
    obtain ⟨entry, rest, rfl⟩ := List.exists_cons_of_ne_nil some
    exact absurd held (other entry rest)

section

variable {listing claim : Reply} {resources : List Json}

theorem listedBy_eq_ok :
    listedBy client type listing = .ok resources ↔ listing.Lists resources := by
  constructor
  · intro listed
    rcases listing.cases client (.list type) with ⟨v, said⟩ | nothing | ⟨e, fails⟩
    · rw [listedBy, readReply_said said] at listed
      simp only [bind, Except.bind] at listed
      split at listed <;> cases listed
      exact ⟨v, said, ‹_›⟩
    · obtain ⟨found, read⟩ := readReply_nothing nothing
      rw [listedBy, read] at listed
      cases listed
    · rw [listedBy, readReply_fails fails] at listed
      cases listed
  · rintro ⟨v, said, held⟩
    rw [listedBy, readReply_said said]
    simp only [bind, Except.bind, held]
    rfl

theorem offeredBy_eq_ok : offeredBy client type listing = .ok id ↔ listing.Offers id := by
  constructor
  · intro offered
    obtain ⟨resources, listed, chosen⟩ := bind_eq_ok.1 offered
    cases resources with
    | nil => cases chosen
    | cons first rest =>
        refine ⟨first, rest, listedBy_eq_ok.1 listed, ?_⟩
        cases named : (first.field? "id").bind idOf with
        | none =>
            simp only [named] at chosen
            cases chosen
        | some own =>
            simp only [named] at chosen
            cases chosen
            rfl
  · rintro ⟨first, rest, lists, named⟩
    rw [offeredBy, listedBy_eq_ok.2 lists]
    simp only [bind, Except.bind, named]
    rfl

theorem offeredBy_fails (fails : listing.Fails client (.list type) e) :
    offeredBy client type listing = .error e := by
  rw [offeredBy, listedBy, readReply_fails fails]
  rfl

theorem offeredBy_none (none : listing.Lists []) :
    offeredBy client type listing = .error (.noMoreResources type) := by
  rw [offeredBy, listedBy_eq_ok.2 none]
  rfl

theorem offeredBy_unusable (unusable : listing.Unusable) :
    ∃ reason, offeredBy client type listing = .error (.malformedResponse reason) := by
  rcases unusable with nothing | ⟨v, said, other⟩ | ⟨first, rest, lists, unnamed⟩
  · obtain ⟨found, read⟩ := readReply_nothing nothing
    rw [offeredBy, listedBy, read]
    exact ⟨_, rfl⟩
  · rw [offeredBy, listedBy, readReply_said said]
    simp only [bind, Except.bind]
    cases held : v.field? "resources" with
    | none => exact ⟨_, rfl⟩
    | some value =>
        cases value with
        | array resources => exact absurd held (other resources)
        | _ => exact ⟨_, rfl⟩
  · rw [offeredBy, listedBy_eq_ok.2 lists]
    simp only [bind, Except.bind, unnamed]
    exact ⟨_, rfl⟩

theorem grantedBy_describes (describes : claim.Describes entries) :
    grantedBy client id claim = .ok entries := by
  obtain ⟨some, v, said, held⟩ := describes
  rw [grantedBy, readReply_said said]
  simp only [bind, Except.bind, describedIn_eq_some.2 ⟨some, held⟩]
  rfl

theorem grantedBy_rejects (rejects : claim.Rejects) :
    grantedBy client id claim = .error (.wrongResourceId id) := by
  rcases rejects with nothing | ⟨v, said, other⟩
  · obtain ⟨found, read⟩ := readReply_nothing nothing
    rw [grantedBy, read]
    rfl
  · have none : describedIn v = none := by
      by_contra some
      obtain ⟨entries, described⟩ := Option.ne_none_iff_exists'.1 some
      have held := describedIn_eq_some.1 described
      exact other entries held.1 held.2
    rw [grantedBy, readReply_said said]
    simp only [bind, Except.bind, none]
    rfl

theorem grantedBy_fails (fails : claim.Fails client (.mark id true) e) :
    grantedBy client id claim = .error e := by
  rw [grantedBy, readReply_fails fails]
  rfl

theorem claim_cases (client : Client) (id : String) (claim : Reply) :
    (∃ entries, claim.Describes entries) ∨ claim.Rejects ∨
      ∃ e, claim.Fails client (.mark id true) e := by
  rcases claim.cases client (.mark id true) with ⟨v, said⟩ | nothing | fails
  · by_cases described : ∃ entries, entries ≠ [] ∧ v.field? "resource" = some (.object entries)
    · obtain ⟨entries, some, held⟩ := described
      exact .inl ⟨entries, some, v, said, held⟩
    · refine .inr (.inl (.inr ⟨v, said, ?_⟩))
      intro entries some held
      exact described ⟨entries, some, held⟩
  · exact .inr (.inl (.inl nothing))
  · exact .inr (.inr fails)

theorem grantedBy_eq_ok : grantedBy client id claim = .ok entries ↔ claim.Describes entries := by
  refine ⟨?_, grantedBy_describes⟩
  intro granted
  rcases claim_cases client id claim with ⟨own, describes⟩ | rejects | ⟨e, fails⟩
  · rw [grantedBy_describes describes] at granted
    cases granted
    exact describes
  · rw [grantedBy_rejects rejects] at granted
    cases granted
  · rw [grantedBy_fails fails] at granted
    cases granted

end

/-- A description is translated unless it is defective. -/
theorem resourceOf_cases (entries : List (String × Json)) (id type : String) :
    (¬ Defective entries ∧ ∃ r, resourceOf entries id type = .ok r) ∨
      (Defective entries ∧
        ∃ reason, resourceOf entries id type = .error (.malformedResponse reason)) := by
  unfold resourceOf
  simp only [bind, Except.bind, pure, Except.pure]
  split
  case h_2 v other marked =>
    exact .inr ⟨.inr ⟨v, marked, fun allocated same => other allocated same⟩, _, rfl⟩
  all_goals
    rename_i marked
    split
    · rename_i typed
      refine .inl ⟨?_, _, rfl⟩
      rintro (untyped | ⟨v, held, other⟩)
      · exact untyped _ typed
      · rw [marked] at held
        cases held <;> exact other _ rfl
    · rename_i untyped
      exact .inr ⟨.inl untyped, _, rfl⟩

theorem defective_iff : (∃ e, resourceOf entries id type = .error e) ↔ Defective entries := by
  rcases resourceOf_cases entries id type with ⟨sound, r, translated⟩ | ⟨defective, reason, failed⟩
  · simp [translated, sound]
  · simp [failed, defective]

end Brokerage.Remote
