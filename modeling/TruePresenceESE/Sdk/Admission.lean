import TruePresenceESE.Lib.Fallible
import TruePresenceESE.Sdk.Validation

/-! # What an admitted payload carries

A payload is admitted when the guard accepts it and the request model parses
it. The guard skips values of an unexpected shape; parsing closes all of these
gaps but one, a list under the typing summary, which both accept.
-/

namespace TruePresenceESE.Sdk

/-! ## Field readers -/

theorem parseModel_eq_some {M : Type} {setField : M → String → Json → Option M} {defaults m : M}
    {value : Json} (h : parseModel setField defaults value = some m) :
    ∃ fields, value = .obj fields ∧
      fields.foldlM (fun m p => setField m p.1 p.2) defaults = some m := by
  cases value with
  | obj fields => exact ⟨fields, rfl, h⟩
  | _ => simp [parseModel] at h

theorem asDict_eq_some {value : Json} {fields : List (String × Json)}
    (h : asDict value = some fields) : value = .obj fields := by
  cases value with
  | obj fields' =>
      cases h
      rfl
  | _ => simp [asDict] at h

theorem asStr_eq_some {value : Json} {s : String} (h : asStr value = some s) : value = .str s := by
  cases value with
  | str s' =>
      cases h
      rfl
  | _ => simp [asStr] at h

theorem orNone_eq_some {α : Type} {read : Json → Option α} {value : Json} {x : Option α}
    (h : orNone read value = some x) : value = .null ∨ ∃ y, read value = some y := by
  unfold orNone at h
  split at h
  · exact .inl rfl
  · obtain ⟨y, hy, -⟩ := Option.map_eq_some_iff.mp h
    exact .inr ⟨y, hy⟩

theorem asList_eq_some {α : Type} {read : Json → Option α} {value : Json} {xs : List α}
    (h : asList read value = some xs) :
    ∃ items, value = .arr items ∧ ∀ item ∈ items, ∃ y, read item = some y := by
  cases value with
  | arr items =>
      refine ⟨items, rfl, ?_⟩
      rw [asList] at h
      induction items generalizing xs with
      | nil => simp
      | cons item items ih =>
          rw [List.mapM_cons] at h
          obtain ⟨y, hy, hrest⟩ := Option.bind_eq_some_iff.mp h
          obtain ⟨ys, hys, -⟩ := Option.bind_eq_some_iff.mp hrest
          rw [List.forall_mem_cons]
          exact ⟨⟨y, hy⟩, ih hys⟩
  | _ => simp [asList] at h

/-! ## Parsed packets -/

section Packet

variable {c : Coercions}

/-- The shapes a parsed packet field can have: nothing else gets past the model. -/
inductive PacketFieldShape (name : String) (value : Json) : Prop
  | fields {fields : List (String × Json)} (dict : value = .obj fields)
      (free : name = "metadata") : PacketFieldShape name value
  | providers {items : List Json} (list : value = .arr items)
      (dicts : ∀ item ∈ items, ∃ fields, item = .obj fields)
      (provider : name = "external_risk_provider") : PacketFieldShape name value
  | model {allowlist : List String} (noList : ∀ items, value ≠ .arr items)
      (closed : sectionAllowlists.lookup name = some allowlist) : PacketFieldShape name value
  | scalar (scalar : value.keys = []) : PacketFieldShape name value

theorem parseExternalRisk_obj {value : Json} {m : ExternalRiskProviderFeatures}
    (h : c.parseExternalRisk value = some m) : ∃ fields, value = .obj fields := by
  obtain ⟨draft, hdraft, -⟩ := Option.bind_eq_some_iff.mp h
  obtain ⟨fields, rfl, -⟩ := parseModel_eq_some hdraft
  exact ⟨fields, rfl⟩

private theorem noList_of_section {M : Type} {setField : M → String → Json → Option M}
    {defaults : M} {value : Json} {x : Option M}
    (h : orNone (parseModel setField defaults) value = some x) : ∀ items, value ≠ .arr items := by
  rintro items rfl
  rcases orNone_eq_some h with hnull | ⟨y, hy⟩
  · simp at hnull
  · obtain ⟨fields, hobj, -⟩ := parseModel_eq_some hy
    simp at hobj

private theorem scalar_of_optional_str {value : Json} {x : Option String}
    (h : orNone asStr value = some x) : value.keys = [] := by
  rcases orNone_eq_some h with rfl | ⟨y, hy⟩
  · rfl
  · rw [asStr_eq_some hy]
    rfl

theorem setPacket_shape {m m' : InteractionFeaturePacket} {name : String} {value : Json}
    (h : c.setPacket m name value = some m') :
    name ∈ allowedPacketTopLevel ∧ PacketFieldShape name value := by
  unfold Coercions.setPacket at h
  split at h
  case h_14 => simp at h
  all_goals
    obtain ⟨x, hx, -⟩ := Option.map_eq_some_iff.mp h
    refine ⟨by decide, ?_⟩
  case h_1 =>
    rw [asStr_eq_some hx]
    exact .scalar rfl
  case h_2 => exact .scalar (scalar_of_optional_str hx)
  case h_3 => exact .scalar (scalar_of_optional_str hx)
  case h_4 => exact .scalar (scalar_of_optional_str hx)
  case h_5 =>
    rw [asDict_eq_some hx]
    exact .model (by simp) rfl
  case h_12 =>
    obtain ⟨items, hitems, hdicts⟩ := asList_eq_some hx
    refine .providers hitems (fun item hi => ?_) rfl
    obtain ⟨y, hy⟩ := hdicts item hi
    exact parseExternalRisk_obj hy
  case h_13 => exact .fields (asDict_eq_some hx) rfl
  all_goals exact .model (noList_of_section hx) rfl

/-- The free dictionaries of a parsed packet are values the payload holds. -/
theorem setPacket_dicts {m m' : InteractionFeaturePacket} {name : String} {value : Json}
    (h : c.setPacket m name value = some m') :
    (m'.pageContext = m.pageContext ∨ (name = "page_context" ∧ value = .obj m'.pageContext)) ∧
      (m'.metadata = m.metadata ∨ (name = "metadata" ∧ value = .obj m'.metadata)) := by
  unfold Coercions.setPacket at h
  split at h
  case h_14 => simp at h
  all_goals
    obtain ⟨x, hx, rfl⟩ := Option.map_eq_some_iff.mp h
  case h_5 => exact ⟨.inr ⟨rfl, asDict_eq_some hx⟩, .inl rfl⟩
  case h_13 => exact ⟨.inl rfl, .inr ⟨rfl, asDict_eq_some hx⟩⟩
  all_goals exact ⟨.inl rfl, .inl rfl⟩

theorem parsePacket_eq_some {value : Json} {packet : InteractionFeaturePacket}
    (h : c.parsePacket value = some packet) :
    PacketClean value ∧ parseModel c.setPacket {} value = some packet := by
  unfold Coercions.parsePacket at h
  split at h
  · simp at h
  next hguard => exact ⟨(ensurePrivacySafeFeaturePacket_eq_ok_iff value).mp hguard, h⟩

/-- The free dictionaries of a parsed packet passed their scanners. -/
theorem parsePacket_clean {value : Json} {packet : InteractionFeaturePacket}
    (h : c.parsePacket value = some packet) :
    SectionClean allowedPageContextFields (.obj packet.pageContext) ∧
      MetadataClean (.obj packet.metadata) := by
  obtain ⟨hclean, hparse⟩ := parsePacket_eq_some h
  obtain ⟨fields, rfl, hfold⟩ := parseModel_eq_some hparse
  refine Fallible.foldlM_invariant (P := fun m : InteractionFeaturePacket =>
    SectionClean allowedPageContextFields (.obj m.pageContext) ∧ MetadataClean (.obj m.metadata))
    ?_ hfold ?_
  · rintro ⟨name, v⟩ hmem m m' hstep ⟨hpage, hmeta⟩
    have hfield := hclean fields rfl (name, v) hmem
    obtain ⟨hpage', hmeta'⟩ := setPacket_dicts hstep
    constructor
    · rcases hpage' with heq | ⟨rfl, rfl⟩
      · rwa [heq]
      · rw [normalizeKey_of_allowed (show "page_context" ∈ allowedWords by decide)] at hfield
        exact hfield.2
    · rcases hmeta' with heq | ⟨rfl, rfl⟩
      · rwa [heq]
      · rw [normalizeKey_of_allowed (show "metadata" ∈ allowedWords by decide)] at hfield
        exact hfield.2
  · simp [SectionClean, MetadataClean]

/-- Every key and string of the free dictionaries is one the packet value holds. -/
theorem parsePacket_keys {value : Json} {packet : InteractionFeaturePacket}
    (h : c.parsePacket value = some packet) {key : String}
    (hkey : key ∈ (Json.obj packet.pageContext).keys ∨ key ∈ (Json.obj packet.metadata).keys) :
    key ∈ value.keys := by
  obtain ⟨-, hparse⟩ := parsePacket_eq_some h
  obtain ⟨fields, rfl, hfold⟩ := parseModel_eq_some hparse
  have hinv : ((Json.obj packet.pageContext).keys ⊆ (Json.obj fields).keys) ∧
      (Json.obj packet.metadata).keys ⊆ (Json.obj fields).keys := by
    refine Fallible.foldlM_invariant (P := fun m : InteractionFeaturePacket =>
      (Json.obj m.pageContext).keys ⊆ (Json.obj fields).keys ∧
        (Json.obj m.metadata).keys ⊆ (Json.obj fields).keys) ?_ hfold ?_
    · rintro ⟨name, v⟩ hmem m m' hstep ⟨hpage, hmeta⟩
      have hbelow : ∀ {dict}, v = .obj dict → (Json.obj dict).keys ⊆ (Json.obj fields).keys := by
        rintro dict rfl k hk
        exact Json.mem_keys_obj.mpr ⟨_, hmem, .inr hk⟩
      obtain ⟨hpage', hmeta'⟩ := setPacket_dicts hstep
      constructor
      · rcases hpage' with heq | ⟨-, heq⟩
        · rwa [heq]
        · exact hbelow heq
      · rcases hmeta' with heq | ⟨-, heq⟩
        · rwa [heq]
        · exact hbelow heq
    · simp [Json.keys, Json.entries, Json.entriesFields]
  exact hkey.elim (fun h => hinv.1 h) fun h => hinv.2 h

end Packet

/-! ## Raw keys in admitted payloads -/

/-- No key at any depth is on the raw-content denylist. -/
def KeysClean (value : Json) : Prop := ∀ key ∈ value.keys, isRawContentKey key = false

theorem keysClean_obj_iff {fields : List (String × Json)} :
    KeysClean (.obj fields) ↔
      ∀ p ∈ fields, isRawContentKey p.1 = false ∧ KeysClean p.2 := by
  simp only [KeysClean, Json.mem_keys_obj]
  constructor
  · exact fun h p hp => ⟨h p.1 ⟨p, hp, .inl rfl⟩, fun key hk => h key ⟨p, hp, .inr hk⟩⟩
  · rintro h key ⟨p, hp, rfl | hk⟩
    · exact (h p hp).1
    · exact (h p hp).2 key hk

theorem keysClean_arr_iff {items : List Json} :
    KeysClean (.arr items) ↔ ∀ v ∈ items, KeysClean v := by
  simp only [KeysClean, Json.mem_keys_arr]
  constructor
  · exact fun h v hv key hk => h key ⟨v, hv, hk⟩
  · intro h key hk
    obtain ⟨v, hv, hk⟩ := hk
    exact h v hv key hk

theorem keysClean_of_keys_nil {value : Json} (h : value.keys = []) : KeysClean value := by
  simp [KeysClean, h]

theorem GlobalClean.keysClean {value : Json} (h : GlobalClean value) : KeysClean value := by
  intro key hkey
  obtain ⟨v, hv⟩ := Json.mem_keys.mp hkey
  have hfield := h (key, v) hv
  rw [rejectsField, Bool.or_eq_false_iff] at hfield
  exact hfield.1

theorem SectionClean.keysClean {allowlist : List String} {value : Json}
    (h : SectionClean allowlist value) (hallowed : allowlist ⊆ allowedWords)
    (hlist : ∀ items, value ≠ .arr items) : KeysClean value := by
  cases value with
  | arr items => exact absurd rfl (hlist items)
  | obj fields =>
      rw [keysClean_obj_iff]
      intro p hp
      obtain ⟨hkey, hbelow⟩ := h fields rfl p hp
      exact ⟨isRawContentKey_of_allowed (hallowed hkey), hbelow.keysClean⟩
  | _ => exact keysClean_of_keys_nil rfl

/-- A typing summary that is a list with a raw key somewhere below it. -/
def LeakyMetadata (metadata : List (String × Json)) : Prop :=
  ∃ key items, (key, .arr items) ∈ metadata ∧ normalizeKey key = "typing_summary" ∧
    ∃ raw ∈ (Json.arr items).keys, isRawContentKey raw = true

theorem MetadataClean.keysClean_iff {metadata : List (String × Json)}
    (h : MetadataClean (.obj metadata)) :
    KeysClean (.obj metadata) ↔ ¬LeakyMetadata metadata := by
  rw [keysClean_obj_iff]
  constructor
  · rintro hclean ⟨key, items, hmem, -, raw, hraw, htrue⟩
    have hfalse := (hclean _ hmem).2 raw hraw
    rw [htrue] at hfalse
    exact Bool.false_ne_true hfalse.symm
  · rintro hleak ⟨key, value⟩ hmem
    obtain ⟨hkey, hfield⟩ := h metadata rfl _ hmem
    refine ⟨isRawContentKey_of_allowed (allowedMetadataFields_subset hkey), ?_⟩
    unfold MetadataFieldClean at hfield
    split at hfield
    next hsummary =>
      cases value with
      | arr items =>
          intro raw hraw
          by_contra htrue
          rw [Bool.not_eq_false] at htrue
          exact hleak ⟨key, items, hmem, hsummary, raw, hraw, htrue⟩
      | _ => exact hfield.keysClean allowedTypingSummaryFields_subset (by simp)
    next => exact hfield.keysClean

/-- The leak inside a packet and inside a whole payload. -/
def LeakyPacket (packet : Json) : Prop :=
  ∃ fields metadata, packet = .obj fields ∧ ("metadata", .obj metadata) ∈ fields ∧
    LeakyMetadata metadata

def LeakyPayload (payload : Json) : Prop :=
  ∃ fields packet, payload = .obj fields ∧ ("feature_packet", packet) ∈ fields ∧
    LeakyPacket packet

theorem PacketFieldShape.keysClean {name : String} {value : Json}
    (h : PacketFieldShape name value) (hname : name ∈ allowedPacketTopLevel)
    (hclean : PacketFieldClean (normalizeKey name) value)
    (hmetadata : ∀ metadata, name = "metadata" → value = .obj metadata → ¬LeakyMetadata metadata) :
    KeysClean value := by
  rw [normalizeKey_of_allowed (allowedPacketTopLevel_subset hname)] at hclean
  cases h with
  | fields dict free =>
      subst dict free
      exact (MetadataClean.keysClean_iff hclean).mpr (hmetadata _ rfl rfl)
  | providers list dicts provider =>
      subst list provider
      rw [keysClean_arr_iff]
      intro item hi
      obtain ⟨fields, rfl⟩ := dicts item hi
      exact (hclean _ rfl _ hi).keysClean allowedExternalRiskFields_subset (by simp)
  | model noList closed =>
      rw [PacketFieldClean, closed] at hclean
      exact hclean.keysClean (subset_allowedWords_of_lookup closed) noList
  | scalar scalar => exact keysClean_of_keys_nil scalar

/-- A packet the model parses has a raw key exactly where the summary is a leaky list. -/
theorem parsePacket_keysClean_iff {c : Coercions} {value : Json}
    {packet : InteractionFeaturePacket} (h : c.parsePacket value = some packet) :
    KeysClean value ↔ ¬LeakyPacket value := by
  obtain ⟨hclean, hparse⟩ := parsePacket_eq_some h
  obtain ⟨fields, rfl, hfold⟩ := parseModel_eq_some hparse
  constructor
  · rintro hkeys ⟨_, metadata, heq, hmem, hleak⟩
    cases heq
    have hbelow := (keysClean_obj_iff.mp hkeys _ hmem).2
    have hfield := hclean fields rfl _ hmem
    rw [normalizeKey_of_allowed (show "metadata" ∈ allowedWords by decide)] at hfield
    exact (MetadataClean.keysClean_iff hfield.2).mp hbelow hleak
  · intro hleak
    rw [keysClean_obj_iff]
    rintro ⟨name, value⟩ hmem
    obtain ⟨m, m', hstep⟩ := Fallible.foldlM_each hfold _ hmem
    obtain ⟨hname, hshape⟩ := setPacket_shape hstep
    obtain ⟨hkey, hfield⟩ := hclean fields rfl _ hmem
    refine ⟨isRawContentKey_of_allowed (allowedPacketTopLevel_subset hkey), ?_⟩
    refine hshape.keysClean hname hfield ?_
    rintro metadata rfl rfl hleaky
    exact hleak ⟨fields, metadata, rfl, hmem, hleaky⟩

/-- The fields of a parsed request: the packet parses, the others are strings. -/
theorem setRequest_shape {c : Coercions} {m m' : Coercions.RequestDraft} {name : String}
    {value : Json} (h : c.setRequest m name value = some m') :
    (name = "feature_packet" ∧ ∃ packet, c.parsePacket value = some packet ∧
        m'.featurePacket = some packet) ∨
      (name ≠ "feature_packet" ∧ value.keys = [] ∧ m'.featurePacket = m.featurePacket) := by
  unfold Coercions.setRequest at h
  split at h
  case h_5 => simp at h
  all_goals
    obtain ⟨x, hx, rfl⟩ := Option.map_eq_some_iff.mp h
  case h_4 => exact .inl ⟨rfl, x, hx, rfl⟩
  case h_3 =>
    refine .inr ⟨by decide, ?_, rfl⟩
    cases value with
    | str s => rfl
    | _ => simp [Coercions.asEnforcementMode] at hx
  all_goals
    refine .inr ⟨by decide, ?_, rfl⟩
    rw [asStr_eq_some hx]
    rfl

theorem parseRequest_eq_some {c : Coercions} {payload : Json}
    {request : TruePresenceEvaluationRequest} (h : c.parseRequest payload = some request) :
    ∃ fields draft, payload = .obj fields ∧ RequestClean payload ∧
      fields.foldlM (fun m p => c.setRequest m p.1 p.2) {} = some draft ∧
      draft.featurePacket = some request.featurePacket := by
  unfold Coercions.parseRequest at h
  split at h
  · simp at h
  next hguard =>
    obtain ⟨draft, hdraft, hfinish⟩ := Option.bind_eq_some_iff.mp h
    obtain ⟨fields, rfl, hfold⟩ := parseModel_eq_some hdraft
    refine ⟨fields, draft, rfl, (ensurePrivacySafePayload_eq_ok_iff _).mp hguard, hfold, ?_⟩
    unfold Coercions.RequestDraft.finish at hfinish
    split at hfinish
    next hpacket =>
      cases hfinish
      exact hpacket
    next => simp at hfinish

/-- The parsed packet comes from a feature packet field of the payload. -/
theorem parseRequest_packet {c : Coercions} {fields : List (String × Json)}
    {request : TruePresenceEvaluationRequest} (h : c.parseRequest (.obj fields) = some request) :
    ∃ packet, ("feature_packet", packet) ∈ fields ∧
      c.parsePacket packet = some request.featurePacket := by
  obtain ⟨_, draft, heq, -, hfold, hdraft⟩ := parseRequest_eq_some h
  cases heq
  have hinv := Fallible.foldlM_invariant (P := fun m : Coercions.RequestDraft =>
    ∀ parsed, m.featurePacket = some parsed → ∃ packet, ("feature_packet", packet) ∈ fields ∧
      c.parsePacket packet = some parsed) ?_ hfold (by simp)
  · exact hinv _ hdraft
  · rintro ⟨name, value⟩ hmem m m' hstep hm parsed hparsed
    rcases setRequest_shape hstep with ⟨rfl, packet, hpacket, hset⟩ | ⟨-, -, hsame⟩
    · rw [hset] at hparsed
      cases hparsed
      exact ⟨value, hmem, hpacket⟩
    · exact hm parsed (by rw [← hsame, hparsed])

/-- An admitted payload has a raw key exactly where the summary is a leaky list. -/
theorem parseRequest_keysClean_iff {c : Coercions} {payload : Json}
    {request : TruePresenceEvaluationRequest} (h : c.parseRequest payload = some request) :
    KeysClean payload ↔ ¬LeakyPayload payload := by
  obtain ⟨fields, draft, rfl, hclean, hfold, -⟩ := parseRequest_eq_some h
  have hpacket : ∀ value, ("feature_packet", value) ∈ fields →
      (KeysClean value ↔ ¬LeakyPacket value) := by
    intro value hmem
    obtain ⟨m, m', hstep⟩ := Fallible.foldlM_each hfold _ hmem
    rcases setRequest_shape hstep with ⟨-, packet, hparse, -⟩ | ⟨hne, -⟩
    · exact parsePacket_keysClean_iff hparse
    · exact absurd rfl hne
  constructor
  · rintro hkeys ⟨_, packet, heq, hmem, hleak⟩
    cases heq
    exact (hpacket packet hmem).mp (keysClean_obj_iff.mp hkeys _ hmem).2 hleak
  · intro hleak
    rw [keysClean_obj_iff]
    rintro ⟨name, value⟩ hmem
    refine ⟨isRawContentKey_of_allowed (allowedRequestTopLevel_subset (hclean _ hmem).1), ?_⟩
    obtain ⟨m, m', hstep⟩ := Fallible.foldlM_each hfold _ hmem
    rcases setRequest_shape hstep with ⟨rfl, -⟩ | ⟨-, hscalar, -⟩
    · exact (hpacket value hmem).mpr fun hp => hleak ⟨fields, value, rfl, hmem, hp⟩
    · exact keysClean_of_keys_nil hscalar

end TruePresenceESE.Sdk
