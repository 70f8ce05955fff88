import Brokerage.Proofs.Hazards
import Brokerage.Proofs.Seeding

/-! # What a policy hands out can be recorded

The store keeps the metadata of a resource as text and reads it again. A service describes its
resources in JSON that was read under the same limit, so whatever it says can be kept. A local pool
keeps what it was filled with.
-/

namespace Brokerage

theorem Dialogue.Within.run {Q : Type} {A : Q → Type} {α σ : Type} {asks : Q → Prop}
    {ends : α → Prop} {d : Dialogue Q A α} (h : d.Within asks ends)
    (answer : (q : Q) → σ → A q × σ) (s : σ) : ends (d.run answer s).1 := by
  induction d generalizing s with
  | done value => exact h
  | ask question next ih => exact ih _ (h.2 _) _

namespace Json

variable {room : Nat} {v w : Json} {key : String}

theorem decoded_of_read? {text : String} (h : read? text = some v) :
    Draft.decodeText Draft.asJson text = .ok v := by
  unfold read? at h
  cases decoded : Draft.decodeText Draft.asJson text with
  | error e =>
      rw [decoded] at h
      cases h
  | ok value =>
      rw [decoded] at h
      cases h
      rfl

theorem fits_of_read? {text : String} (h : read? text = some v) :
    v.fits Draft.depthLimit = true :=
  Draft.fits_of_asJson _ (Draft.front_fits text) (Draft.decodeText_ok (decoded_of_read? h))

theorem fits_of_field? (h : v.fits (room + 1) = true) (found : v.field? key = some w) :
    w.fits room = true := by
  cases v with
  | object entries =>
      obtain ⟨before, after, rfl, -⟩ := List.lookup_eq_some_iff.1 found
      rw [fits, fitsEntries_iff] at h
      exact h (key, w) (by simp)
  | _ => cases found

theorem fitsEntries_ofList {entries : List (String × Json)}
    (h : fitsEntries room entries = true) :
    fitsEntries room (Dict.ofList entries).entries = true := by
  unfold Dict.ofList
  have all := fitsEntries_iff.1 h
  have start : fitsEntries room (∅ : Dict Json).entries = true := rfl
  generalize (∅ : Dict Json) = known at start ⊢
  induction entries generalizing known with
  | nil => exact start
  | cons e rest ih =>
      rw [List.forall_mem_cons] at all
      exact ih (fitsEntries_iff.2 all.2) all.2 _ (Draft.insert_fits start all.1)

end Json

namespace Remote

variable {client : Client} {α β : Type}

/-- Every result of an exchange is good, whatever the replies are. -/
def Exchange.Yields (x : Exchange α) (good : α → Prop) : Prop :=
  (ExceptT.run x).Within (fun _ => True) fun r => ∀ a, r = .ok a → good a

namespace Exchange.Yields

variable {good : α → Prop}

theorem pure {a : α} (h : good a) : Yields (Pure.pure a) good := by
  rintro _ ⟨⟩
  exact h

theorem throw {e : Error} : Yields (MonadExcept.throw e) good := nofun

theorem bind {x : Exchange β} {f : β → Exchange α} {mid : β → Prop} (h : Yields x mid)
    (next : ∀ b, mid b → Yields (f b) good) : Yields (x >>= f) good := by
  apply Dialogue.Within.bind
  refine Dialogue.Within.mono h fun r ended => ?_
  cases r with
  | ok b => exact next b (ended b rfl)
  | error e => exact nofun

theorem mono {x : Exchange α} {more : α → Prop} (h : Yields x good) (wide : ∀ a, good a → more a) :
    Yields x more :=
  Dialogue.Within.mono h fun _ ended a same => wide a (ended a same)

end Exchange.Yields

open Exchange (Yields)

theorem readReply_fits {request : Request} {reply : Reply} {found : Bool} {body : Json}
    (h : readReply client request reply = .ok (found, body)) :
    body.fits Draft.depthLimit = true := by
  unfold readReply at h
  split at h
  · cases h
  · cases h
  · split at h
    · cases h
      rfl
    split at h
    · cases h
    split at h
    · cases h
      rfl
    split at h
    · rename_i read
      cases h
      exact Json.fits_of_read? read
    · cases h

theorem send_yields (request : Request) :
    Yields (send client request) fun result => result.2.fits Draft.depthLimit = true := by
  unfold send
  split
  · exact .throw
  · have asked : Yields (ExceptT.lift (Dialogue.request request)) fun _ => True :=
      ⟨trivial, fun _ _ _ => trivial⟩
    apply asked.bind
    intro reply _
    split
    · rename_i result read
      exact .pure (readReply_fits read)
    · exact .throw

theorem mark_yields (resourceId : String) (allocated : Bool) :
    Yields (mark client resourceId allocated) fun described =>
      ∀ entries ∈ described, Json.fitsEntries 125 entries = true := by
  apply (send_yields (.mark resourceId allocated)).bind
  intro (found, body) fits
  dsimp only
  split
  · exact .pure nofun
  split
  · exact .pure nofun
  · rename_i entries _ described
    apply Exchange.Yields.pure
    rintro _ ⟨⟩
    exact Json.fits_of_field? fits described
  · exact .pure nofun

theorem resourceOf_metadata {entries : List (String × Json)} {id type : String} {r : Resource}
    (h : resourceOf entries id type = .ok r) :
    r.metadata = (Dict.ofList entries).restrict fun key =>
      key != "id" && key != "allocated" && key != "type" := by
  simp only [resourceOf, bind, Except.bind, pure, Except.pure] at h
  split at h
  case h_2 => cases h
  all_goals
    split at h
    · cases h
      rfl
    · cases h

theorem resourceOf_legible {entries : List (String × Json)} {id type : String} {r : Resource}
    (fits : Json.fitsEntries 125 entries = true) (h : resourceOf entries id type = .ok r) :
    Ledger.Legible (some r.metadata) := by
  rintro _ ⟨⟩
  have all := Json.fitsEntries_iff.1 (Json.fitsEntries_ofList fits)
  have kept : (Json.ofDict r.metadata).fits 126 = true := by
    rw [resourceOf_metadata h]
    exact Json.fitsEntries_iff.2 fun e member => all e (List.mem_of_mem_filter member)
  exact Json.fits_mono _ kept (Nat.le_succ 126)

theorem giveUp_yields (resourceId : String) : Yields (giveUp client resourceId) fun _ => True :=
  Dialogue.Within.bind (Dialogue.Within.mono (mark_yields resourceId false) fun _ _ _ _ => trivial)

theorem acquire_yields (resourceType : String) :
    Yields (acquire client resourceType) fun r => Ledger.Legible (some r.metadata) := by
  have listed : Yields (listCandidates client resourceType) fun _ => True := by
    apply (send_yields _).bind
    intro (found, body) _
    dsimp only
    split
    · exact .pure trivial
    all_goals exact .throw
  apply listed.bind
  intro candidates _
  split
  · exact .throw
  split
  · exact .throw
  apply (mark_yields _ true).bind
  intro described fits
  split
  · exact .throw
  · rename_i entries
    split
    · rename_i r usable
      exact .pure (resourceOf_legible (fits entries rfl) usable)
    · exact (giveUp_yields _).bind fun _ _ => .throw

end Remote

namespace Policy

variable {p : Policy} {type : String} {r : Resource}

/-- Whatever the policy hands out can be recorded. -/
def Readable : Policy → Prop
  | .localPool pool => pool.Readable
  | .remote .. => True

theorem Readable.legible (h : p.Readable) (given : (p.acquire type).1 = .ok r) :
    Ledger.Legible (some r.metadata) := by
  cases p with
  | localPool pool =>
      simp only [acquire, Pool.acquire] at given
      cases free : pool.entries.find? (Pool.isFree type) with
      | none =>
          rw [free] at given
          cases given
      | some x =>
          rw [free] at given
          cases given
          exact h x (Pool.find?_isFree free).1
  | remote client service =>
      exact Dialogue.Within.run (Remote.acquire_yields type) Remote.Service.answer service r given

theorem Readable.acquire (h : p.Readable) (type : String) : (p.acquire type).2.Readable := by
  cases p with
  | localPool pool =>
      simp only [Policy.acquire, Pool.acquire]
      cases pool.entries.find? (Pool.isFree type) with
      | none => exact h
      | some x => exact Pool.Readable.mark h
  | remote => trivial

theorem Readable.release (h : p.Readable) (id : String) : (p.release id).2.Readable := by
  cases p with
  | localPool pool =>
      simp only [Policy.release, Pool.release]
      cases (pool.find? id).isSome with
      | false => exact h
      | true => exact Pool.Readable.mark h
  | remote => trivial

end Policy

theorem Settings.Read.policy_readable {s : Settings} {network : Remote.Service}
    {p : Policy} {ids ids' : IdSupply} (h : s.Read)
    (built : Policy.build s.policy network ids = .ok (p, ids')) : p.Readable := by
  cases chosen : s.policy with
  | localPool pool =>
      rw [chosen] at built
      obtain ⟨⟨filled, rest⟩, made, ⟨⟩⟩ := bind_eq_ok.1 built
      exact (h.pool_ready chosen made).readable
  | remote settings =>
      rw [chosen] at built
      cases built
      trivial

end Brokerage
