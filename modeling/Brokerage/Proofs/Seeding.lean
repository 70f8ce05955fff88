import Brokerage.Proofs.Coupling
import Brokerage.Settings

/-! # What a pool is filled with

The store keeps the metadata of a resource as text and reads it again, which needs metadata that does
not nest too deeply. Every pool that is filled from settings has such metadata, because the settings
were read under the same limit; and all its resources are free.
-/

namespace Brokerage

/-! ## Room -/

namespace Json

mutual

theorem fits_mono {room more : Nat} (v : Json) (h : v.fits room = true) (le : room ≤ more) :
    v.fits more = true := by
  cases v with
  | null | bool | string => rfl
  | number => exact h
  | array items =>
      cases room with
      | zero => cases h
      | succ room =>
          cases more with
          | zero => cases le
          | succ more => exact fitsItems_mono items h (Nat.le_of_succ_le_succ le)
  | object entries =>
      cases room with
      | zero => cases h
      | succ room =>
          cases more with
          | zero => cases le
          | succ more => exact fitsEntries_mono entries h (Nat.le_of_succ_le_succ le)

theorem fitsItems_mono {room more : Nat} (items : List Json) (h : fitsItems room items = true)
    (le : room ≤ more) : fitsItems more items = true := by
  cases items with
  | nil => rfl
  | cons x rest =>
      obtain ⟨hx, others⟩ := Bool.and_eq_true_iff.1 h
      exact Bool.and_eq_true_iff.2 ⟨fits_mono x hx le, fitsItems_mono rest others le⟩

theorem fitsEntries_mono {room more : Nat} (entries : List (String × Json))
    (h : fitsEntries room entries = true) (le : room ≤ more) : fitsEntries more entries = true := by
  cases entries with
  | nil => rfl
  | cons e rest =>
      cases e with
      | mk key x =>
          obtain ⟨hx, others⟩ := Bool.and_eq_true_iff.1 h
          exact Bool.and_eq_true_iff.2 ⟨fits_mono x hx le, fitsEntries_mono rest others le⟩

end

end Json

namespace Draft

theorem fitsItems_iff {items : List Draft} : FitsItems items ↔ ∀ d ∈ items, d.Fits := by
  induction items with
  | nil => simp [FitsItems]
  | cons d rest ih => simp [FitsItems, ih]

theorem fitsEntries_iff {entries : List (Option String × Draft)} :
    FitsEntries entries ↔ ∀ e ∈ entries, e.2.Fits := by
  induction entries with
  | nil => simp [FitsEntries]
  | cons e rest ih => simp [FitsEntries, ih]

/-! ## Decoders -/

variable {α : Type} {item : Decoder α} {good : α → Prop} {room : Nat} {d : Draft}

/-- Whatever a decoder makes of a draft with 64-bit integers, within the limit, is good. -/
def Yields (item : Decoder α) (good : α → Prop) : Prop :=
  ∀ room d a, room ≤ depthLimit → Fits d → item room d = .ok a → good a

theorem asMetadata_yields : Yields asMetadata fun m => Ledger.Legible (some m) := by
  rintro room d m limit fits decoded _ ⟨⟩
  exact Json.fits_mono _ (fits_of_asMetadata fits decoded) limit

theorem decodeItems_forall {item : Draft → Except Flaw α} {items : List Draft} {values : List α}
    (each : ∀ d ∈ items, ∀ a, item d = .ok a → good a) (h : decodeItems item items = .ok values) :
    ∀ a ∈ values, good a := by
  induction items generalizing values with
  | nil =>
      cases h
      exact List.forall_mem_nil _
  | cons d rest ih =>
      obtain ⟨a, first, h⟩ := bind_eq_ok.1 h
      obtain ⟨others, later, ⟨⟩⟩ := bind_eq_ok.1 h
      rw [List.forall_mem_cons] at each ⊢
      exact ⟨each.1 a first, ih each.2 later⟩

theorem Yields.list (h : Yields item good) : Yields (asList item) fun values => ∀ a ∈ values, good a := by
  intro room d values limit fits decoded
  cases d with
  | array items closed =>
      cases room with
      | zero => cases decoded
      | succ room =>
          obtain ⟨_, ⟨⟩, decoded⟩ := bind_eq_ok.1 decoded
          obtain ⟨_, made, decoded⟩ := bind_eq_ok.1 decoded
          obtain ⟨_, _, ⟨⟩⟩ := bind_eq_ok.1 decoded
          refine decodeItems_forall (fun d inside a => ?_) made
          exact h room d a (Nat.le_of_succ_le limit) (fitsItems_iff.1 fits d inside)
  | _ => cases decoded

/-- A record within the limit whose fields have 64-bit integers. -/
structure Record.Sober (r : Record) : Prop where
  limit : r.room ≤ depthLimit
  fields : ∀ f ∈ r.fields, f.2.Fits

theorem knownEntries_fits {names : List String} {found fields : List (String × Draft)}
    {entries : List (Option String × Draft)} (fits : FitsEntries entries)
    (before : ∀ f ∈ found, f.2.Fits) (h : knownEntries names found entries = .ok fields) :
    ∀ f ∈ fields, f.2.Fits := by
  induction entries generalizing found with
  | nil =>
      cases h
      exact before
  | cons e rest ih =>
      obtain ⟨key, d⟩ := e
      obtain ⟨key, _, h⟩ := bind_eq_ok.1 h
      split at h
      · split at h
        · cases h
        · refine ih fits.2 (List.forall_mem_append.2 ⟨before, ?_⟩) h
          exact List.forall_mem_singleton.2 fits.1
      · exact ih fits.2 before h

theorem asRecord_yields {names : List String} : Yields (asRecord names) Record.Sober := by
  intro room d r limit fits decoded
  cases d with
  | object entries closed =>
      cases room with
      | zero => cases decoded
      | succ room =>
          obtain ⟨_, ⟨⟩, decoded⟩ := bind_eq_ok.1 decoded
          obtain ⟨fields, known, decoded⟩ := bind_eq_ok.1 decoded
          obtain ⟨_, _, ⟨⟩⟩ := bind_eq_ok.1 decoded
          exact ⟨Nat.le_of_succ_le limit, knownEntries_fits fits (List.forall_mem_nil _) known⟩
  | array items closed =>
      cases room with
      | zero => cases decoded
      | succ room =>
          obtain ⟨_, ⟨⟩, decoded⟩ := bind_eq_ok.1 decoded
          obtain ⟨_, _, decoded⟩ := bind_eq_ok.1 decoded
          split at decoded
          · cases decoded
            refine ⟨Nat.le_of_succ_le limit, fun f member => ?_⟩
            exact fitsItems_iff.1 fits f.2 (List.of_mem_zip member).2
          · cases decoded
  | _ => cases decoded

theorem Yields.withDefault {r : Record} {name : String} {fallback a : α} (h : Yields item good)
    (sober : r.Sober) (default : good fallback) (decoded : r.withDefault name item fallback = .ok a) :
    good a := by
  unfold Record.withDefault at decoded
  split at decoded
  · rename_i d found
    obtain ⟨before, after, same, _⟩ := List.lookup_eq_some_iff.1 found
    exact h _ _ _ sober.limit (sober.fields (name, d) (same ▸ by simp)) decoded
  · cases decoded
    exact default

theorem Yields.text (h : Yields item good) {text : String} {a : α}
    (decoded : decodeText item text = .ok a) : good a :=
  h _ _ _ (Nat.le_refl _) (front_fits text) (decodeText_ok decoded)

end Draft

/-! ## Settings -/

/-- The metadata of configured resources can be kept. -/
def PoolSettings.Readable (s : PoolSettings) : Prop :=
  ∀ seed ∈ s.resources, Ledger.Legible (some seed.metadata)

/-- If the settings are those of a local pool, its metadata can be kept. -/
def Policy.Settings.Readable (s : Settings) : Prop := ∀ pool, s = .localPool pool → pool.Readable

theorem Resource.Seed.decoder_yields :
    Draft.Yields decoder fun seed => Ledger.Legible (some seed.metadata) := by
  intro room d seed limit fits h
  obtain ⟨r, record, h⟩ := bind_eq_ok.1 h
  obtain ⟨_, _, h⟩ := bind_eq_ok.1 h
  obtain ⟨_, _, h⟩ := bind_eq_ok.1 h
  obtain ⟨_, _, h⟩ := bind_eq_ok.1 h
  obtain ⟨m, metadata, ⟨⟩⟩ := bind_eq_ok.1 h
  have sober := Draft.asRecord_yields _ _ _ limit fits record
  exact Draft.asMetadata_yields.withDefault sober (by decide) metadata

theorem PoolSettings.decoder_yields : Draft.Yields decoder Readable := by
  intro room d s limit fits h
  obtain ⟨r, record, h⟩ := bind_eq_ok.1 h
  obtain ⟨seeds, resources, h⟩ := bind_eq_ok.1 h
  obtain ⟨_, _, h⟩ := bind_eq_ok.1 h
  obtain ⟨_, _, h⟩ := bind_eq_ok.1 h
  obtain ⟨_, _, ⟨⟩⟩ := bind_eq_ok.1 h
  have sober := Draft.asRecord_yields _ _ _ limit fits record
  exact Resource.Seed.decoder_yields.list.withDefault sober (List.forall_mem_nil _) resources

namespace Policy.Settings

theorem ofTag_yields (tag : String) : Draft.Yields (ofTag tag) Readable := by
  rintro room d s limit fits h pool rfl
  unfold ofTag at h
  split at h
  · cases decoded : PoolSettings.decoder room d with
    | error => simp [decoded, Except.map] at h
    | ok found =>
        simp only [decoded, Except.map] at h
        cases h
        exact PoolSettings.decoder_yields _ _ _ limit fits decoded
  · split at h
    · cases decoded : Remote.Settings.decoder room d <;> simp [decoded, Except.map] at h
    · cases h

theorem splitTag_fits {entries fields : List (Option String × Draft)} {tags : List Draft}
    (fits : Draft.FitsEntries entries) (h : splitTag entries = (tags, fields)) :
    Draft.FitsEntries fields := by
  cases h
  rw [Draft.fitsEntries_iff] at fits ⊢
  exact fun e member => fits e (List.mem_of_mem_filter member)

theorem decoder_yields : Draft.Yields decoder Readable := by
  intro room d s limit fits h
  obtain ⟨_, _, h⟩ := bind_eq_ok.1 h
  split at h
  · split at h
    · rename_i split
      obtain ⟨tag, _, h⟩ := bind_eq_ok.1 h
      exact ofTag_yields tag _ (.object _ _) _ limit (splitTag_fits fits split) h
    · cases h
  · obtain ⟨tag, _, h⟩ := bind_eq_ok.1 h
    exact ofTag_yields tag _ (.array _ _) _ limit fits.2 h
  · cases h

theorem standard_readable : standard.Readable := by
  rintro pool ⟨⟩
  exact List.forall_mem_nil _

end Policy.Settings

/-! ## YAML -/

namespace Yaml

theorem plainDraft_fits (text : String) : (plainDraft text).Fits := by
  unfold plainDraft
  split
  · trivial
  · split
    · trivial
    · split
      · split
        · rename_i bounds
          simp only [Bool.and_eq_true, decide_eq_true_eq] at bounds
          exact bounds
        · trivial
      · split
        · trivial
        · split
          · trivial
          · split <;> trivial

theorem scalarDraft_fits (text : String) (style : Style) (tag : Option String) :
    (scalarDraft text style tag).Fits := by
  have only (accepted : Prop) [Decidable accepted] :
      (if accepted then plainDraft text else .broken).Fits := by
    split
    · exact plainDraft_fits text
    · trivial
  unfold scalarDraft
  split
  · split
    · exact plainDraft_fits text
    · trivial
  · dsimp only
    split
    · exact only _
    · split
      · exact only _
      · split
        · split <;> trivial
        · split
          · exact only _
          · split <;> trivial

namespace Node

mutual

theorem toDraft_fits (node : Node) : node.toDraft.Fits := by
  cases node with
  | void => trivial
  | scalar text style tag => exact scalarDraft_fits text style tag
  | sequence items tag =>
      unfold toDraft
      split
      · trivial
      · exact toDrafts_fits items
  | mapping entries tag =>
      unfold toDraft
      split
      · trivial
      · exact toEntries_fits entries

theorem toDrafts_fits (items : List Node) : Draft.FitsItems (toDrafts items) := by
  cases items with
  | nil => trivial
  | cons item rest => exact ⟨toDraft_fits item, toDrafts_fits rest⟩

theorem toEntries_fits (entries : List (Node × Node)) : Draft.FitsEntries (toEntries entries) := by
  cases entries with
  | nil => trivial
  | cons e rest =>
      cases e with
      | mk key value => exact ⟨toDraft_fits value, toEntries_fits rest⟩

end

end Node
end Yaml

namespace Settings

theorem policyOfNode_readable {node : Yaml.Node} {s : Policy.Settings}
    (h : policyOfNode node = some s) : s.Readable := by
  unfold policyOfNode at h
  cases decoded : Policy.Settings.decoder Draft.depthLimit node.toDraft with
  | error => simp [decoded, Except.toOption] at h
  | ok found =>
      rw [decoded] at h
      cases h
      exact Policy.Settings.decoder_yields _ _ _ (Nat.le_refl _) node.toDraft_fits decoded

theorem readable_of_yaml {text : String} {s : Settings} (h : ofYaml text = .ok s) :
    s.policy.Readable := by
  unfold ofYaml at h
  split at h
  · cases h
  · rename_i found node
    obtain ⟨_, _, ⟨⟩⟩ := bind_eq_ok.1 h
    obtain ⟨node, _, node⟩ := Option.bind_eq_some_iff.1 node
    obtain ⟨fields, _, node⟩ := Option.bind_eq_some_iff.1 node
    obtain ⟨policy, read, node⟩ := Option.bind_eq_some_iff.1 node
    obtain ⟨_, _, node⟩ := Option.bind_eq_some_iff.1 node
    obtain ⟨_, _, node⟩ := Option.bind_eq_some_iff.1 node
    obtain ⟨_, _, ⟨⟩⟩ := Option.bind_eq_some_iff.1 node
    unfold Yaml.Node.withDefault at read
    split at read
    · exact policyOfNode_readable read
    · cases read
      exact Policy.Settings.standard_readable

theorem decoder_yields : Draft.Yields decoder fun s => s.policy.Readable := by
  intro room d s limit fits h
  obtain ⟨r, record, h⟩ := bind_eq_ok.1 h
  obtain ⟨policy, decoded, h⟩ := bind_eq_ok.1 h
  obtain ⟨_, _, h⟩ := bind_eq_ok.1 h
  obtain ⟨_, _, h⟩ := bind_eq_ok.1 h
  obtain ⟨_, _, ⟨⟩⟩ := bind_eq_ok.1 h
  have sober := Draft.asRecord_yields _ _ _ limit fits record
  exact Policy.Settings.decoder_yields.withDefault sober Policy.Settings.standard_readable decoded

end Settings

/-! ## Pools -/

namespace Pool

variable {p q : Pool} {ids ids' : IdSupply}

/-- Every resource is free, and its metadata can be kept. -/
structure Ready (p : Pool) : Prop where
  free : p.AllFree
  readable : p.Readable

theorem Ready.add {r : Resource} (h : p.Ready) (free : r.allocated = false)
    (readable : Ledger.Legible (some r.metadata)) (added : p.add r = .ok q) : q.Ready := by
  unfold Pool.add at added
  split at added
  · cases added
  · cases added
    refine ⟨List.forall_mem_append.2 ⟨h.free, ?_⟩, List.forall_mem_append.2 ⟨h.readable, ?_⟩⟩
    · exact List.forall_mem_singleton.2 free
    · exact List.forall_mem_singleton.2 readable

theorem Ready.fill {α : Type} {make : α → IdSupply → Resource × IdSupply} {seeds : List α}
    (h : p.Ready)
    (made : ∀ seed ∈ seeds, ∀ ids, (make seed ids).1.allocated = false ∧
      Ledger.Legible (some (make seed ids).1.metadata))
    (filled : fill make seeds p ids = .ok (q, ids')) : q.Ready := by
  induction seeds generalizing p ids with
  | nil =>
      cases filled
      exact h
  | cons seed rest ih =>
      obtain ⟨next, added, filled⟩ := bind_eq_ok.1 filled
      rw [List.forall_mem_cons] at made
      obtain ⟨free, readable⟩ := made.1 ids
      exact ih (h.add free readable added) made.2 filled

theorem legible_ofInstance (settings : PoolSettings) (name address : String) (ids : IdSupply) :
    Ledger.Legible (some (ofInstance settings name address ids).1.metadata) := by
  rintro _ ⟨⟩
  exact Draft.insert_fits (Draft.insert_fits rfl rfl) rfl

theorem ready_of_build {s : PoolSettings} (readable : s.Readable)
    (built : build s ids = .ok (p, ids')) : p.Ready := by
  obtain ⟨⟨seeded, _⟩, first, second⟩ := bind_eq_ok.1 built
  have none : (∅ : Pool).Ready := ⟨List.forall_mem_nil _, List.forall_mem_nil _⟩
  refine (none.fill (fun seed member ids => ?_) first).fill (fun seed _ ids => ?_) second
  · have kept := readable seed member
    unfold ofSeed
    split <;> exact ⟨rfl, kept⟩
  · exact ⟨rfl, legible_ofInstance s seed.1 seed.2 ids⟩

end Pool

/-- Settings as they are read from a text. -/
inductive Settings.Read (s : Settings) : Prop where
  | yaml {text : String} (read : ofYaml text = .ok s)
  | json {text : String} (read : Draft.decodeText decoder text = .ok s)

theorem Settings.Read.pool_ready {s : Settings} {pool : PoolSettings} {p : Pool} {ids ids' : IdSupply}
    (h : s.Read) (policy : s.policy = .localPool pool)
    (built : Pool.build pool ids = .ok (p, ids')) : p.Ready := by
  refine Pool.ready_of_build ?_ built
  cases h with
  | yaml read => exact readable_of_yaml read pool policy
  | json read => exact decoder_yields.text read pool policy

end Brokerage
