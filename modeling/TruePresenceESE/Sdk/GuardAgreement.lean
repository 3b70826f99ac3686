import TruePresenceESE.Sdk.Privacy
import TruePresenceESE.Sdk.BrowserPrivacy

/-! # Where the client guard and the server guard agree

The tables of the two guards coincide. Their key normalisers do not: on an
allowlisted key the client keeps, they differ in the blanks they trim and in
the blanks they turn into underscores. The payloads the server accepts are
therefore described by the keys the client keeps.
-/

namespace TruePresenceESE.Sdk

/-! ## Blanks and words -/

/-- Blanks are not changed by lower-casing. -/
theorem lowerChar_of_blank {c : Char} (h : isBlank c = true ∨ Browser.isBlank c = true) :
    Text.lowerChar c = [c] := by
  simp only [isBlank, Browser.isBlank, Bool.or_eq_true, Bool.and_eq_true, decide_eq_true_eq,
    beq_iff_eq] at h
  unfold Text.lowerChar
  rw [if_neg (by omega), if_neg (by omega), if_neg (by omega)]

theorem not_isWordChar_of_blank {c : Char} (h : isBlank c = true ∨ Browser.isBlank c = true) :
    isWordChar c = false ∧ c ≠ '-' := by
  simp only [isBlank, Browser.isBlank, Bool.or_eq_true, Bool.and_eq_true, decide_eq_true_eq,
    beq_iff_eq] at h
  constructor
  · simp only [isWordChar, Bool.or_eq_false_iff, Bool.and_eq_false_iff, decide_eq_false_iff_not,
      beq_eq_false_iff_ne]
    omega
  · rintro rfl
    simp at h

/-- A character from which the server's normaliser makes word characters only is
no blank for either runtime. -/
theorem not_blank_of_normalized {c : Char}
    (h : ∀ d ∈ Text.lowerChar c, isWordChar (if d = '-' then '_' else d) = true) :
    isBlank c = false ∧ Browser.isBlank c = false := by
  by_contra hblank
  rw [not_and_or, Bool.not_eq_false, Bool.not_eq_false] at hblank
  have hc := h c (by simp [lowerChar_of_blank hblank])
  have hnot := not_isWordChar_of_blank hblank
  rw [if_neg hnot.2, hnot.1] at hc
  exact Bool.false_ne_true hc

/-- The two normalisers agree as soon as both give a word. -/
theorem normalizeKey_eq_of_isWord {key : String} (hserver : IsWord (normalizeKey key))
    (hclient : IsWord (Browser.normalizeKey key)) :
    normalizeKey key = Browser.normalizeKey key := by
  obtain ⟨front, back, hsplit, hfront, hback⟩ := Text.exists_strip isBlank key.toList
  have hcore : ∀ c ∈ Text.strip isBlank key.toList,
      ∀ d ∈ Text.lowerChar c, isWordChar (if d = '-' then '_' else d) = true := by
    intro c hc d hd
    apply hserver
    simp only [normalizeKey, String.toList_ofList, Text.replace, List.mem_map]
    exact ⟨d, Text.mem_lower.mpr ⟨c, hc, hd⟩, by simp⟩
  -- the client keeps a blank only the server trims, and it would not be a word character
  have hborder : ∀ c ∈ key.toList, isBlank c = true → Browser.isBlank c = true := by
    intro c hc hblank
    by_contra hkept
    rw [Bool.not_eq_true] at hkept
    have hlower := lowerChar_of_blank (.inl hblank)
    have hnot := not_isWordChar_of_blank (.inl hblank)
    have hword : isWordChar c = true := by
      apply hclient
      simp only [Browser.normalizeKey, String.toList_ofList, Text.replace, List.mem_map]
      refine ⟨c, Text.mem_lower.mpr ⟨c, Text.mem_strip_of_mem hc hkept, by simp [hlower]⟩, ?_⟩
      simp [hkept, hnot.2]
    rw [hnot.1] at hword
    exact Bool.false_ne_true hword
  have hstrip : Text.strip Browser.isBlank key.toList = Text.strip isBlank key.toList := by
    have hmem : ∀ c, c ∈ front ∨ c ∈ back → c ∈ key.toList := by
      intro c hc
      rw [hsplit]
      rcases hc with hc | hc <;> simp [hc]
    calc
      Text.strip Browser.isBlank key.toList
          = Text.strip Browser.isBlank (front ++ Text.strip isBlank key.toList ++ back) := by
            rw [← hsplit]
      _ = Text.strip isBlank key.toList :=
          Text.strip_append (fun c hc => hborder c (hmem c (.inl hc)) (hfront c hc))
            (fun c hc => (not_blank_of_normalized (hcore c hc)).2)
            (fun c hc => hborder c (hmem c (.inr hc)) (hback c hc))
  rw [normalizeKey, Browser.normalizeKey, hstrip]
  congr 1
  apply List.map_congr_left
  intro d hd
  obtain ⟨c, hc, hdc⟩ := Text.mem_lower.mp hd
  have hword := hcore c hc d hdc
  have hblank : Browser.isBlank d = false := by
    by_contra h
    rw [Bool.not_eq_false] at h
    have hnot := not_isWordChar_of_blank (.inr h)
    rw [if_neg hnot.2, hnot.1] at hword
    exact Bool.false_ne_true hword
  simp [hblank]

/-! ## What the client keeps -/

namespace Browser

theorem isRawField_of_allowed {key : String} (h : normalizeKey key ∈ allowedWords) :
    isRawField key = false := (allowedWords_clean _ h).1

theorem ne_proto_of_allowed {key : String} (h : normalizeKey key ∈ allowedWords) :
    key ≠ "__proto__" := by
  rintro rfl
  exact absurd h (by decide +kernel)

/-- A field of a tree that survives: no key on its path is dropped or sets the
prototype, and its value is not null. -/
inductive Kept (drop : String → Bool) : Json → String → Json → Prop
  | here {fields : List (String × Json)} {key : String} {child : Json}
      (mem : (key, child) ∈ fields) (keep : drop key = false) (own : key ≠ "__proto__")
      (value : child ≠ .null) : Kept drop (.obj fields) key child
  | field {fields : List (String × Json)} {key key' : String} {child value : Json}
      (mem : (key, child) ∈ fields) (keep : drop key = false) (own : key ≠ "__proto__")
      (below : Kept drop child key' value) : Kept drop (.obj fields) key' value
  | item {items : List Json} {child value : Json} {key : String}
      (mem : child ∈ items) (below : Kept drop child key value) : Kept drop (.arr items) key value

theorem globalStripItems_eq (items : List Json) :
    globalStripItems items = items.map globalStripRawContent := by
  induction items with
  | nil => rfl
  | cons item rest ih => rw [globalStripItems, ih, List.map_cons]

theorem mem_assignKept {keep : String → Bool} {f : String → Json → Json}
    {fields : List (String × Json)} {key : String} {value : Json} :
    (key, value) ∈ assignKept keep f fields ↔
      ∃ child, (key, child) ∈ fields ∧ keep key = true ∧ key ≠ "__proto__" ∧
        value = f key child := by
  simp only [assignKept, List.mem_map, List.mem_filter, Bool.and_eq_true, decide_eq_true_eq]
  constructor
  · rintro ⟨⟨k, child⟩, ⟨hmem, hkeep, hproto⟩, heq⟩
    cases heq
    exact ⟨child, hmem, hkeep, hproto, rfl⟩
  · rintro ⟨child, hmem, hkeep, hproto, rfl⟩
    exact ⟨(key, child), ⟨hmem, hkeep, hproto⟩, rfl⟩

theorem globalStripFields_eq (fields : List (String × Json)) :
    globalStripFields fields =
      assignKept (fun key => !isRawField key) (fun _ => globalStripRawContent) fields := by
  induction fields with
  | nil => rfl
  | cons p rest ih =>
      obtain ⟨key, child⟩ := p
      rw [globalStripFields, ih]
      by_cases hraw : isRawField key <;> by_cases hproto : key = "__proto__" <;>
        simp [assignKept, hraw, hproto]

theorem mem_globalStripFields {fields : List (String × Json)} {key : String} {value : Json} :
    (key, value) ∈ globalStripFields fields ↔
      ∃ child, (key, child) ∈ fields ∧ isRawField key = false ∧ key ≠ "__proto__" ∧
        value = globalStripRawContent child := by
  rw [globalStripFields_eq, mem_assignKept]
  simp only [Bool.not_eq_true']

theorem pruneItems_eq (items : List Json) : pruneItems items = items.map pruneUndefined := by
  induction items with
  | nil => rfl
  | cons item rest ih => rw [pruneItems, ih, List.map_cons]

theorem isNull_iff {value : Json} : isNull value = true ↔ value = .null := by
  cases value <;> simp [isNull]

theorem pruneFields_eq (fields : List (String × Json)) :
    pruneFields fields =
      assignKept (fun _ => true) (fun _ => pruneUndefined) (fields.filter fun p => !isNull p.2) := by
  induction fields with
  | nil => rfl
  | cons p rest ih =>
      obtain ⟨key, child⟩ := p
      rw [pruneFields, ih]
      by_cases hnull : isNull child <;> by_cases hproto : key = "__proto__" <;>
        simp [assignKept, hnull, hproto]

theorem mem_pruneFields {fields : List (String × Json)} {key : String} {value : Json} :
    (key, value) ∈ pruneFields fields ↔
      ∃ child, (key, child) ∈ fields ∧ child ≠ .null ∧ key ≠ "__proto__" ∧
        value = pruneUndefined child := by
  rw [pruneFields_eq, mem_assignKept]
  simp [← isNull_iff, and_assoc]

/-- Pruning alone keeps what no key drops. -/
theorem mem_entries_pruneUndefined {value : Json} {key : String} {w : Json} :
    (key, w) ∈ (pruneUndefined value).entries ↔
      ∃ child, Kept (fun _ => false) value key child ∧ w = pruneUndefined child := by
  induction value using Json.tree_induction with
  | null => simpa [pruneUndefined] using fun _ h => by cases h
  | bool b => simpa [pruneUndefined] using fun _ h => by cases h
  | num q => simpa [pruneUndefined] using fun _ h => by cases h
  | str s => simpa [pruneUndefined] using fun _ h => by cases h
  | arr items ih =>
      simp only [pruneUndefined, pruneItems_eq, Json.mem_entries_arr, List.mem_map]
      constructor
      · rintro ⟨_, ⟨v, hv, rfl⟩, hentry⟩
        obtain ⟨child, hkept, hw⟩ := (ih v hv).mp hentry
        exact ⟨child, .item hv hkept, hw⟩
      · rintro ⟨child, hkept, hw⟩
        cases hkept with
        | item mem below => exact ⟨_, ⟨_, mem, rfl⟩, (ih _ mem).mpr ⟨child, below, hw⟩⟩
  | obj fields ih =>
      simp only [pruneUndefined, Json.mem_entries_obj]
      constructor
      · rintro ⟨⟨k, v⟩, hf, heq | hentry⟩
        · obtain ⟨child, hmem, hnull, hproto, rfl⟩ := mem_pruneFields.mp hf
          cases heq
          exact ⟨child, .here hmem rfl hproto hnull, rfl⟩
        · obtain ⟨c, hmem, hnull, hproto, rfl⟩ := mem_pruneFields.mp hf
          obtain ⟨child, hkept, hw⟩ := (ih _ hmem).mp hentry
          exact ⟨child, .field hmem rfl hproto hkept, hw⟩
      · rintro ⟨child, hkept, hw⟩
        cases hkept with
        | here mem keep own value =>
            exact ⟨_, mem_pruneFields.mpr ⟨child, mem, value, own, rfl⟩, .inl (by rw [hw])⟩
        | @field _ k _ c _ mem keep own below =>
            have hnull : c ≠ .null := by
              rintro rfl
              cases below
            exact ⟨_, mem_pruneFields.mpr ⟨c, mem, hnull, own, rfl⟩,
              .inr ((ih _ mem).mpr ⟨child, below, hw⟩)⟩

theorem globalStrip_eq_null_iff {value : Json} :
    globalStripRawContent value = .null ↔ value = .null := by
  cases value <;> simp [globalStripRawContent]

/-- Stripping first keeps only what no raw key drops. -/
theorem mem_entries_pruneUndefined_globalStrip {value : Json} {key : String} {w : Json} :
    (key, w) ∈ (pruneUndefined (globalStripRawContent value)).entries ↔
      ∃ child, Kept isRawField value key child ∧
        w = pruneUndefined (globalStripRawContent child) := by
  induction value using Json.tree_induction with
  | null => simpa [globalStripRawContent, pruneUndefined] using fun _ h => by cases h
  | bool b => simpa [globalStripRawContent, pruneUndefined] using fun _ h => by cases h
  | num q => simpa [globalStripRawContent, pruneUndefined] using fun _ h => by cases h
  | str s => simpa [globalStripRawContent, pruneUndefined] using fun _ h => by cases h
  | arr items ih =>
      simp only [globalStripRawContent, globalStripItems_eq, pruneUndefined, pruneItems_eq,
        Json.mem_entries_arr, List.mem_map, List.map_map]
      constructor
      · rintro ⟨_, ⟨v, hv, rfl⟩, hentry⟩
        obtain ⟨child, hkept, hw⟩ := (ih v hv).mp hentry
        exact ⟨child, .item hv hkept, hw⟩
      · rintro ⟨child, hkept, hw⟩
        cases hkept with
        | item mem below => exact ⟨_, ⟨_, mem, rfl⟩, (ih _ mem).mpr ⟨child, below, hw⟩⟩
  | obj fields ih =>
      have hmem : ∀ {k v}, (k, v) ∈ pruneFields (globalStripFields fields) ↔
          ∃ child, (k, child) ∈ fields ∧ isRawField k = false ∧ k ≠ "__proto__" ∧
            child ≠ .null ∧ v = pruneUndefined (globalStripRawContent child) := by
        intro k v
        rw [mem_pruneFields]
        constructor
        · rintro ⟨_, hstrip, hnull, -, rfl⟩
          obtain ⟨child, hchild, hraw, hproto, rfl⟩ := mem_globalStripFields.mp hstrip
          exact ⟨child, hchild, hraw, hproto, globalStrip_eq_null_iff.not.mp hnull, rfl⟩
        · rintro ⟨child, hchild, hraw, hproto, hnull, rfl⟩
          exact ⟨_, mem_globalStripFields.mpr ⟨child, hchild, hraw, hproto, rfl⟩,
            globalStrip_eq_null_iff.not.mpr hnull, hproto, rfl⟩
      simp only [globalStripRawContent, pruneUndefined, Json.mem_entries_obj]
      constructor
      · rintro ⟨⟨k, v⟩, hf, heq | hentry⟩
        · obtain ⟨child, hchild, hraw, hproto, hnull, rfl⟩ := hmem.mp hf
          cases heq
          exact ⟨child, .here hchild hraw hproto hnull, rfl⟩
        · obtain ⟨c, hchild, hraw, hproto, -, rfl⟩ := hmem.mp hf
          obtain ⟨child, hkept, hw⟩ := (ih _ hchild).mp hentry
          exact ⟨child, .field hchild hraw hproto hkept, hw⟩
      · rintro ⟨child, hkept, hw⟩
        cases hkept with
        | here mem keep own value =>
            exact ⟨_, hmem.mpr ⟨child, mem, keep, own, value, rfl⟩, .inl (by rw [hw])⟩
        | @field _ k _ c _ mem keep own below =>
            have hnull : c ≠ .null := by
              rintro rfl
              cases below
            exact ⟨_, hmem.mpr ⟨c, mem, keep, own, hnull, rfl⟩,
              .inr ((ih _ mem).mpr ⟨child, below, hw⟩)⟩

/-! ## What the client asserts -/

def AssertClean (value : Json) : Prop := ∀ p ∈ value.entries, isRawField p.1 = false

theorem assertClean_arr_iff {items : List Json} :
    AssertClean (.arr items) ↔ ∀ v ∈ items, AssertClean v := by
  simp only [AssertClean, Json.mem_entries_arr]
  constructor
  · exact fun h v hv p hp => h p ⟨v, hv, hp⟩
  · intro h p hp
    obtain ⟨v, hv, hp⟩ := hp
    exact h v hv p hp

theorem assertClean_obj_iff {fields : List (String × Json)} :
    AssertClean (.obj fields) ↔
      ∀ p ∈ fields, isRawField p.1 = false ∧ AssertClean p.2 := by
  simp only [AssertClean, Json.mem_entries_obj]
  constructor
  · exact fun h p hp => ⟨h p ⟨p, hp, .inl rfl⟩, fun q hq => h q ⟨p, hp, .inr hq⟩⟩
  · rintro h p ⟨f, hf, rfl | hp⟩
    · exact (h _ hf).1
    · exact (h f hf).2 p hp

private theorem assertItems_eq_ok_iff {items : List Json} {path : String} {index : Nat}
    (h : ∀ v ∈ items, ∀ path, assertPrivacySafePayload path v = .ok () ↔ AssertClean v) :
    assertItems path index items = .ok () ↔ ∀ v ∈ items, AssertClean v := by
  induction items generalizing index with
  | nil => simp [assertItems]
  | cons v rest ih =>
      rw [assertItems, List.forall_mem_cons,
        ← h v List.mem_cons_self (path ++ "[" ++ toString index ++ "]")]
      cases hv : assertPrivacySafePayload (path ++ "[" ++ toString index ++ "]") v with
      | error message => simp
      | ok u => simpa using ih fun v hv => h v (List.mem_cons_of_mem _ hv)

private theorem assertFields_eq_ok_iff {fields : List (String × Json)} {path : String}
    (h : ∀ p ∈ fields, ∀ path, assertPrivacySafePayload path p.2 = .ok () ↔ AssertClean p.2) :
    assertFields path fields = .ok () ↔
      ∀ p ∈ fields, isRawField p.1 = false ∧ AssertClean p.2 := by
  induction fields with
  | nil => simp [assertFields]
  | cons p rest ih =>
      obtain ⟨key, child⟩ := p
      have hrest := ih fun p hp => h p (List.mem_cons_of_mem _ hp)
      rw [assertFields, List.forall_mem_cons]
      cases hraw : isRawField key with
      | true => simp
      | false =>
          rw [← h (key, child) List.mem_cons_self (if path = "" then key else path ++ "." ++ key)]
          simp only [Bool.false_eq_true, if_false]
          cases hchild : assertPrivacySafePayload (if path = "" then key else path ++ "." ++ key)
            child with
          | error message => simp
          | ok u => simpa using hrest

theorem assertPrivacySafePayload_eq_ok_iff (path : String) (value : Json) :
    assertPrivacySafePayload path value = .ok () ↔ AssertClean value := by
  induction value using Json.tree_induction generalizing path with
  | null => simp [assertPrivacySafePayload, AssertClean]
  | bool b => simp [assertPrivacySafePayload, AssertClean]
  | num q => simp [assertPrivacySafePayload, AssertClean]
  | str s => simp [assertPrivacySafePayload, AssertClean]
  | arr items ih =>
      rw [assertPrivacySafePayload, assertItems_eq_ok_iff fun v hv path => ih v hv path,
        assertClean_arr_iff]
  | obj fields ih =>
      rw [assertPrivacySafePayload, assertFields_eq_ok_iff fun p hp path => ih p hp path,
        assertClean_obj_iff]

/-! ## The condition on the candidate -/

/-- The fields an allowlist keeps and their values satisfy `P`. Each kept key is
read the same by both normalisers. -/
def FieldsAgree (allowlist : List String) (P : String → Json → Prop)
    (fields : List (String × Json)) : Prop :=
  ∀ p ∈ fields, normalizeKey p.1 ∈ allowlist → p.2 ≠ .null →
    Sdk.normalizeKey p.1 = normalizeKey p.1 ∧ P (normalizeKey p.1) p.2

/-- No field the client keeps below `value` is rejected by the server. -/
def GlobalAgree (value : Json) : Prop :=
  ∀ key child, Kept isRawField value key child → rejectsField key child = false

def SectionAgree (allowlist : List String) (value : Json) : Prop :=
  ∀ fields, value = .obj fields → FieldsAgree allowlist (fun _ => GlobalAgree) fields

def ExternalRiskAgree (items : Json) : Prop :=
  ∀ list, items = .arr list →
    ∀ item ∈ list, SectionAgree allowedExternalRiskProviderFields item

def MetadataFieldAgree (normalized : String) (value : Json) : Prop :=
  if normalized = "typing_summary" then SectionAgree allowedTypingSummaryFields value
  else GlobalAgree value

def MetadataAgree (metadata : Json) : Prop :=
  ∀ fields, metadata = .obj fields → FieldsAgree allowedMetadataFields MetadataFieldAgree fields

def PacketFieldAgree (normalized : String) (value : Json) : Prop :=
  match sectionAllowlists.lookup normalized with
  | some allowlist => SectionAgree allowlist value
  | none =>
      if normalized = "metadata" then MetadataAgree value
      else if normalized = "external_risk_provider" then ExternalRiskAgree value
      else GlobalAgree value

def PacketAgree (packet : Json) : Prop :=
  ∀ fields, packet = .obj fields → FieldsAgree allowedPacketFields PacketFieldAgree fields

def RequestFieldAgree (normalized : String) (value : Json) : Prop :=
  if normalized = "feature_packet" then PacketAgree value else GlobalAgree value

def RequestAgree (fields : List (String × Json)) : Prop :=
  FieldsAgree allowedRequestFields RequestFieldAgree fields

/-- A value the stripper returns unchanged holds no raw field outside pruned places. -/
def NoRaw (value : Json) : Prop :=
  ∀ key child, Kept (fun _ => false) value key child → isRawField key = false

/-- Only a value that is no object passes a section stripper unchanged. -/
def SectionPasses (value : Json) : Prop := (∀ fields, value ≠ .obj fields) → NoRaw value

def ExternalRiskPasses (items : Json) : Prop :=
  match items with
  | .arr items => ∀ item ∈ items, SectionPasses item
  | items => NoRaw items

def MetadataPasses (metadata : Json) : Prop :=
  match metadata with
  | .obj fields => ∀ p ∈ fields, normalizeKey p.1 = "typing_summary" → SectionPasses p.2
  | metadata => NoRaw metadata

def PacketFieldPasses (normalized : String) (value : Json) : Prop :=
  match sectionAllowlists.lookup normalized with
  | some _ => SectionPasses value
  | none =>
      if normalized = "metadata" then MetadataPasses value
      else if normalized = "external_risk_provider" then ExternalRiskPasses value
      else True

def PacketPasses (packet : Json) : Prop :=
  match packet with
  | .obj fields => ∀ p ∈ fields, normalizeKey p.1 ∈ allowedPacketFields →
      PacketFieldPasses (normalizeKey p.1) p.2
  | packet => NoRaw packet

/-- The client's own assertion does not throw: no raw field stands inside a value
that is not of the shape its stripper expects. -/
def RequestPasses (fields : List (String × Json)) : Prop :=
  ∀ p ∈ fields, normalizeKey p.1 = "feature_packet" → PacketPasses p.2

/-! ## One level of stripping and pruning -/

theorem mem_pruneFields_stripFields {allowlist : List String} {handler : String → Json → Json}
    (hallowed : allowlist ⊆ allowedWords)
    (hnull : ∀ normalized child, handler normalized child = .null ↔ child = .null)
    {fields : List (String × Json)} {key : String} {value : Json} :
    (key, value) ∈ pruneFields (stripFields allowlist handler fields) ↔
      ∃ child, (key, child) ∈ fields ∧ normalizeKey key ∈ allowlist ∧ child ≠ .null ∧
        value = pruneUndefined (handler (normalizeKey key) child) := by
  rw [mem_pruneFields]
  constructor
  · rintro ⟨_, hmem, hne, -, rfl⟩
    obtain ⟨child, hchild, hkeep, -, rfl⟩ := mem_assignKept.mp hmem
    simp only [Bool.and_eq_true, Bool.not_eq_true', List.contains_iff_mem] at hkeep
    exact ⟨child, hchild, hkeep.2, (hnull _ _).not.mp hne, rfl⟩
  · rintro ⟨child, hchild, hkey, hne, rfl⟩
    have hproto := ne_proto_of_allowed (hallowed hkey)
    refine ⟨_, mem_assignKept.mpr ⟨child, hchild, ?_, hproto, rfl⟩, (hnull _ _).not.mpr hne,
      hproto, rfl⟩
    simp [isRawField_of_allowed (hallowed hkey), hkey]

/-- What the server demands of a stripped object, read off the candidate's fields. -/
theorem fieldsClean_iff {allowlist : List String} {handler : String → Json → Json}
    {Clean Agree : String → Json → Prop} (hallowed : allowlist ⊆ allowedWords)
    (hnull : ∀ normalized child, handler normalized child = .null ↔ child = .null)
    (h : ∀ normalized child,
      Clean normalized (pruneUndefined (handler normalized child)) ↔ Agree normalized child)
    (fields : List (String × Json)) :
    (∀ p ∈ pruneFields (stripFields allowlist handler fields),
        Sdk.normalizeKey p.1 ∈ allowlist ∧ Clean (Sdk.normalizeKey p.1) p.2) ↔
      FieldsAgree allowlist Agree fields := by
  constructor
  · rintro hclean ⟨key, child⟩ hmem hkey hne
    have hp := hclean (key, _)
      ((mem_pruneFields_stripFields hallowed hnull).mpr ⟨child, hmem, hkey, hne, rfl⟩)
    have heq := normalizeKey_eq_of_isWord (isWord_of_allowed (hallowed hp.1))
      (isWord_of_allowed (hallowed hkey))
    refine ⟨heq, (h _ _).mp ?_⟩
    rw [← heq]
    exact heq ▸ hp.2
  · rintro hagree ⟨key, value⟩ hmem
    obtain ⟨child, hchild, hkey, hne, rfl⟩ := (mem_pruneFields_stripFields hallowed hnull).mp hmem
    obtain ⟨heq, hvalue⟩ := hagree (key, child) hchild hkey hne
    dsimp only at heq hvalue ⊢
    rw [heq]
    exact ⟨hkey, (h _ _).mpr hvalue⟩

/-- What the client's assertion demands of a stripped object: only its values matter. -/
theorem fieldsAssert_iff {allowlist : List String} {handler : String → Json → Json}
    (Passes : String → Json → Prop) (hallowed : allowlist ⊆ allowedWords)
    (hnull : ∀ normalized child, handler normalized child = .null ↔ child = .null)
    (hpass : ∀ normalized, Passes normalized .null)
    (h : ∀ normalized child,
      AssertClean (pruneUndefined (handler normalized child)) ↔ Passes normalized child)
    (fields : List (String × Json)) :
    AssertClean (.obj (pruneFields (stripFields allowlist handler fields))) ↔
      ∀ p ∈ fields, normalizeKey p.1 ∈ allowlist → Passes (normalizeKey p.1) p.2 := by
  rw [assertClean_obj_iff]
  constructor
  · rintro hclean ⟨key, child⟩ hmem hkey
    by_cases hne : child = .null
    · rw [hne]
      exact hpass _
    · have hp := hclean (key, _)
        ((mem_pruneFields_stripFields hallowed hnull).mpr ⟨child, hmem, hkey, hne, rfl⟩)
      exact (h _ _).mp hp.2
  · rintro hagree ⟨key, value⟩ hmem
    obtain ⟨child, hchild, hkey, -, rfl⟩ := (mem_pruneFields_stripFields hallowed hnull).mp hmem
    exact ⟨isRawField_of_allowed (hallowed hkey), (h _ _).mpr (hagree (key, child) hchild hkey)⟩

/-! ## Every level -/

theorem globalClean_stripped_iff (value : Json) :
    GlobalClean (pruneUndefined (globalStripRawContent value)) ↔ GlobalAgree value := by
  have hreject : ∀ key child, rejectsField key (pruneUndefined (globalStripRawContent child)) =
      rejectsField key child := by
    intro key child
    cases child <;> rfl
  constructor
  · intro h key child hkept
    have hp := h (key, _) (mem_entries_pruneUndefined_globalStrip.mpr ⟨child, hkept, rfl⟩)
    rwa [hreject] at hp
  · rintro h ⟨key, value⟩ hp
    obtain ⟨child, hkept, rfl⟩ := mem_entries_pruneUndefined_globalStrip.mp hp
    rw [hreject]
    exact h key child hkept

theorem assertClean_stripped (value : Json) :
    AssertClean (pruneUndefined (globalStripRawContent value)) := by
  rintro ⟨key, value⟩ hp
  obtain ⟨child, hkept, -⟩ := mem_entries_pruneUndefined_globalStrip.mp hp
  clear hp
  dsimp only
  induction hkept with
  | here mem keep own value => exact keep
  | field mem keep own below ih => exact ih
  | item mem below ih => exact ih

theorem assertClean_pruned_iff (value : Json) : AssertClean (pruneUndefined value) ↔ NoRaw value := by
  constructor
  · intro h key child hkept
    exact h (key, _) (mem_entries_pruneUndefined.mpr ⟨child, hkept, rfl⟩)
  · rintro h ⟨key, value⟩ hp
    obtain ⟨child, hkept, -⟩ := mem_entries_pruneUndefined.mp hp
    exact h key child hkept

theorem noRaw_null : NoRaw .null := fun _ _ h => by cases h

theorem stripSection_eq_null_iff {value : Json} {allowlist : List String} :
    stripSection value allowlist = .null ↔ value = .null := by
  cases value <;> simp [stripSection, stripSectionWith]

theorem sectionClean_stripped_iff {allowlist : List String} (hallowed : allowlist ⊆ allowedWords)
    (value : Json) :
    SectionClean allowlist (pruneUndefined (stripSection value allowlist)) ↔
      SectionAgree allowlist value := by
  cases value with
  | obj fields =>
      have h := fieldsClean_iff hallowed (fun _ _ => globalStrip_eq_null_iff)
        (fun _ => globalClean_stripped_iff) fields
      simpa [stripSection, stripSectionWith, pruneUndefined, SectionClean, SectionAgree] using h
  | _ => simp [stripSection, stripSectionWith, pruneUndefined, SectionClean, SectionAgree]

theorem sectionPasses_null : SectionPasses .null := fun _ => noRaw_null

theorem assertClean_section_iff {allowlist : List String} (hallowed : allowlist ⊆ allowedWords)
    (value : Json) :
    AssertClean (pruneUndefined (stripSection value allowlist)) ↔ SectionPasses value := by
  cases value with
  | obj fields =>
      have h := fieldsAssert_iff (fun _ _ => True) hallowed
        (fun _ _ => globalStrip_eq_null_iff) (fun _ => trivial)
        (fun _ child => iff_true_intro (assertClean_stripped child)) fields
      simpa [stripSection, stripSectionWith, pruneUndefined, SectionPasses] using h
  | _ =>
      rw [stripSection, stripSectionWith, assertClean_pruned_iff]
      · simp [SectionPasses]
      · simp

theorem externalRiskClean_stripped_iff (items : Json) :
    ExternalRiskClean (pruneUndefined (stripExternalRiskProvider items)) ↔
      ExternalRiskAgree items := by
  cases items with
  | arr items =>
      have hitem := sectionClean_stripped_iff allowedExternalRiskFields_subset
      simp only [stripExternalRiskProvider, pruneUndefined, pruneItems_eq, ExternalRiskClean,
        ExternalRiskAgree, Json.arr.injEq, forall_eq', List.map_map, List.forall_mem_map]
      exact forall₂_congr fun item _ => hitem item
  | _ => simp [stripExternalRiskProvider, pruneUndefined, ExternalRiskClean, ExternalRiskAgree]

theorem stripExternalRiskProvider_eq_null_iff {items : Json} :
    stripExternalRiskProvider items = .null ↔ items = .null := by
  cases items <;> simp [stripExternalRiskProvider]

theorem assertClean_externalRisk_iff (items : Json) :
    AssertClean (pruneUndefined (stripExternalRiskProvider items)) ↔ ExternalRiskPasses items := by
  cases items with
  | arr items =>
      have hitem := assertClean_section_iff allowedExternalRiskFields_subset
      simp only [stripExternalRiskProvider, pruneUndefined, pruneItems_eq, ExternalRiskPasses,
        assertClean_arr_iff, List.map_map, List.forall_mem_map]
      exact forall₂_congr fun item _ => hitem item
  | _ =>
      rw [stripExternalRiskProvider, assertClean_pruned_iff]
      · simp [ExternalRiskPasses]
      · simp

/-- The stripper of one metadata field. -/
def stripMetadataField (normalized : String) (child : Json) : Json :=
  if normalized = "typing_summary" then stripSection child allowedTypingSummaryFields
  else globalStripRawContent child

theorem stripMetadata_eq (metadata : Json) :
    stripMetadata metadata = stripSectionWith stripMetadataField allowedMetadataFields metadata := rfl

theorem stripMetadataField_eq_null_iff {normalized : String} {child : Json} :
    stripMetadataField normalized child = .null ↔ child = .null := by
  unfold stripMetadataField
  split
  · exact stripSection_eq_null_iff
  · exact globalStrip_eq_null_iff

theorem stripMetadata_eq_null_iff {metadata : Json} :
    stripMetadata metadata = .null ↔ metadata = .null := by
  cases metadata <;> simp [stripMetadata, stripSectionWith]

theorem metadataClean_stripped_iff (metadata : Json) :
    MetadataClean (pruneUndefined (stripMetadata metadata)) ↔ MetadataAgree metadata := by
  cases metadata with
  | obj fields =>
      have hfield : ∀ normalized child, MetadataFieldClean normalized
          (pruneUndefined (stripMetadataField normalized child)) ↔
            MetadataFieldAgree normalized child := by
        intro normalized child
        unfold MetadataFieldClean stripMetadataField MetadataFieldAgree
        split
        · exact sectionClean_stripped_iff allowedTypingSummaryFields_subset child
        · exact globalClean_stripped_iff child
      have h := fieldsClean_iff allowedMetadataFields_subset
        (fun _ _ => stripMetadataField_eq_null_iff) hfield fields
      simp only [stripMetadata_eq, stripSectionWith, pruneUndefined, MetadataClean, MetadataAgree,
        Json.obj.injEq, forall_eq']
      exact h
  | _ => simp [stripMetadata, stripSectionWith, pruneUndefined, MetadataClean, MetadataAgree]

theorem assertClean_metadata_iff (metadata : Json) :
    AssertClean (pruneUndefined (stripMetadata metadata)) ↔ MetadataPasses metadata := by
  cases metadata with
  | obj fields =>
      have hfield : ∀ normalized child,
          AssertClean (pruneUndefined (stripMetadataField normalized child)) ↔
            (normalized = "typing_summary" → SectionPasses child) := by
        intro normalized child
        unfold stripMetadataField
        split
        next h =>
          have hsection := assertClean_section_iff allowedTypingSummaryFields_subset child
          exact ⟨fun hp _ => hsection.mp hp, fun hp => hsection.mpr (hp h)⟩
        next h => exact iff_of_true (assertClean_stripped child) fun heq => absurd heq h
      have h := fieldsAssert_iff
        (fun normalized child => normalized = "typing_summary" → SectionPasses child)
        allowedMetadataFields_subset (fun _ _ => stripMetadataField_eq_null_iff)
        (fun _ _ => sectionPasses_null) hfield fields
      rw [stripMetadata_eq, stripSectionWith, pruneUndefined]
      refine h.trans (forall₂_congr fun p _ => ?_)
      -- the summary is itself an allowed metadata field
      exact ⟨fun hp hsummary => hp (by rw [hsummary]; decide) hsummary, fun hp _ => hp⟩
  | _ =>
      rw [stripMetadata, stripSectionWith, assertClean_pruned_iff]
      · simp [MetadataPasses]
      · simp

theorem stripPacketField_eq_null_iff {normalized : String} {child : Json} :
    stripPacketField normalized child = .null ↔ child = .null := by
  unfold stripPacketField
  split
  · exact stripSection_eq_null_iff
  · split
    · exact stripMetadata_eq_null_iff
    · split
      · exact stripExternalRiskProvider_eq_null_iff
      · exact globalStrip_eq_null_iff

theorem packetFieldClean_stripped_iff (normalized : String) (child : Json) :
    PacketFieldClean normalized (pruneUndefined (stripPacketField normalized child)) ↔
      PacketFieldAgree normalized child := by
  unfold PacketFieldClean stripPacketField PacketFieldAgree
  cases hlookup : Sdk.sectionAllowlists.lookup normalized with
  | some allowlist =>
      rw [show sectionAllowlists.lookup normalized = some allowlist from hlookup]
      exact sectionClean_stripped_iff (subset_allowedWords_of_lookup hlookup) child
  | none =>
      rw [show sectionAllowlists.lookup normalized = none from hlookup]
      dsimp only
      split
      · exact metadataClean_stripped_iff child
      · split
        · exact externalRiskClean_stripped_iff child
        · exact globalClean_stripped_iff child

theorem packetFieldPasses_null (normalized : String) : PacketFieldPasses normalized .null := by
  unfold PacketFieldPasses
  split
  · exact sectionPasses_null
  · split
    · exact noRaw_null
    · split
      · exact noRaw_null
      · trivial

theorem assertClean_packetField_iff (normalized : String) (child : Json) :
    AssertClean (pruneUndefined (stripPacketField normalized child)) ↔
      PacketFieldPasses normalized child := by
  unfold stripPacketField PacketFieldPasses
  cases hlookup : sectionAllowlists.lookup normalized with
  | some allowlist => exact assertClean_section_iff (subset_allowedWords_of_lookup hlookup) child
  | none =>
      dsimp only
      split
      · exact assertClean_metadata_iff child
      · split
        · exact assertClean_externalRisk_iff child
        · exact iff_of_true (assertClean_stripped child) trivial

theorem packetClean_stripped_iff (packet : Json) :
    PacketClean (pruneUndefined (stripFeaturePacket packet)) ↔ PacketAgree packet := by
  cases packet with
  | obj fields =>
      have h := fieldsClean_iff allowedPacketTopLevel_subset
        (fun _ _ => stripPacketField_eq_null_iff) packetFieldClean_stripped_iff fields
      simp only [stripFeaturePacket, pruneUndefined, PacketClean, PacketAgree, Json.obj.injEq,
        forall_eq']
      exact h
  | _ => simp [stripFeaturePacket, pruneUndefined, PacketClean, PacketAgree]

theorem assertClean_packet_iff (packet : Json) :
    AssertClean (pruneUndefined (stripFeaturePacket packet)) ↔ PacketPasses packet := by
  cases packet with
  | obj fields =>
      rw [stripFeaturePacket, pruneUndefined]
      exact fieldsAssert_iff PacketFieldPasses allowedPacketTopLevel_subset
        (fun _ _ => stripPacketField_eq_null_iff) packetFieldPasses_null
        assertClean_packetField_iff fields
  | _ =>
      rw [stripFeaturePacket, assertClean_pruned_iff]
      · simp [PacketPasses]
      · simp

theorem stripRequestField_eq_null_iff {normalized : String} {child : Json} :
    stripRequestField normalized child = .null ↔ child = .null := by
  unfold stripRequestField
  split
  · cases child <;> simp [stripFeaturePacket]
  · exact globalStrip_eq_null_iff

theorem requestClean_stripped_iff (fields : List (String × Json)) :
    RequestClean (pruneUndefined (stripRawContent (.obj fields))) ↔ RequestAgree fields := by
  have hfield : ∀ normalized child, RequestFieldClean normalized
      (pruneUndefined (stripRequestField normalized child)) ↔
        RequestFieldAgree normalized child := by
    intro normalized child
    unfold RequestFieldClean stripRequestField RequestFieldAgree
    split
    · exact packetClean_stripped_iff child
    · exact globalClean_stripped_iff child
  exact fieldsClean_iff allowedRequestTopLevel_subset
    (fun _ _ => stripRequestField_eq_null_iff) hfield fields

theorem assertClean_request_iff (fields : List (String × Json)) :
    AssertClean (pruneUndefined (stripRawContent (.obj fields))) ↔ RequestPasses fields := by
  have hfield : ∀ normalized child,
      AssertClean (pruneUndefined (stripRequestField normalized child)) ↔
        (normalized = "feature_packet" → PacketPasses child) := by
    intro normalized child
    unfold stripRequestField
    split
    next h =>
      rw [assertClean_packet_iff]
      exact ⟨fun hp _ => hp, fun hp => hp h⟩
    next h => exact iff_of_true (assertClean_stripped child) fun heq => absurd heq h
  have h := fieldsAssert_iff
    (fun normalized child => normalized = "feature_packet" → PacketPasses child)
    allowedRequestTopLevel_subset (fun _ _ => stripRequestField_eq_null_iff)
    (fun _ _ => noRaw_null) hfield fields
  refine h.trans (forall₂_congr fun p _ => ?_)
  exact ⟨fun hp hpacket => hp (by rw [hpacket]; decide) hpacket, fun hp _ => hp⟩

/-! ## The two guards on one candidate -/

theorem safePayload_eq_ok_iff {candidate payload : Json} :
    safePayload candidate = .ok payload ↔
      AssertClean (pruneUndefined (stripRawContent candidate)) ∧
        payload = pruneUndefined (stripRawContent candidate) := by
  rw [← assertPrivacySafePayload_eq_ok_iff ""]
  unfold safePayload
  cases h : assertPrivacySafePayload "" (pruneUndefined (stripRawContent candidate)) with
  | error message => simp
  | ok u => simp [eq_comm]

/-- What the client sends for an object a hook returned. -/
theorem buildEvaluationPayload_of_hook {payload safeBasePayload : Json}
    {beforeSend : Json → Json} {fields : List (String × Json)}
    (hbase : safePayload payload = .ok safeBasePayload)
    (hhook : beforeSend safeBasePayload = .obj fields) :
    buildEvaluationPayload payload (some beforeSend) = safePayload (.obj fields) := by
  simp [buildEvaluationPayload, hbase, hhook, isFalsy]

/-- Every payload the client sends for the object `fields` is accepted by the
server if and only if the client's assertion throws on it, or both normalisers
read every kept key alike and no kept field is one only the server rejects. -/
theorem server_accepts_hook_result_iff (fields : List (String × Json)) :
    (∀ payload safeBasePayload beforeSend sent,
        safePayload payload = .ok safeBasePayload → beforeSend safeBasePayload = .obj fields →
        buildEvaluationPayload payload (some beforeSend) = .ok sent →
        ensurePrivacySafePayload sent = .ok ()) ↔
      (RequestPasses fields → RequestAgree fields) := by
  constructor
  · intro h hpasses
    have hsent : safePayload (.obj fields) =
        .ok (pruneUndefined (stripRawContent (.obj fields))) :=
      safePayload_eq_ok_iff.mpr ⟨(assertClean_request_iff fields).mpr hpasses, rfl⟩
    have hnull : safePayload .null = .ok .null := rfl
    have haccept := h .null .null (fun _ => .obj fields) _ hnull rfl
      ((buildEvaluationPayload_of_hook hnull rfl).trans hsent)
    exact (requestClean_stripped_iff fields).mp ((ensurePrivacySafePayload_eq_ok_iff _).mp haccept)
  · intro h payload safeBasePayload beforeSend sent hbase hhook hsent
    rw [buildEvaluationPayload_of_hook hbase hhook] at hsent
    obtain ⟨hassert, rfl⟩ := safePayload_eq_ok_iff.mp hsent
    rw [ensurePrivacySafePayload_eq_ok_iff, requestClean_stripped_iff]
    exact h ((assertClean_request_iff fields).mp hassert)

/-- A blank inside a key is an underscore for the client only. -/
theorem server_rejects_blank_key :
    buildEvaluationPayload (.obj []) (some fun _ => .obj [("session id", .str "s")]) =
        .ok (.obj [("session id", .str "s")]) ∧
      ensurePrivacySafePayload (.obj [("session id", .str "s")]) ≠ .ok () := by
  constructor
  · rfl
  · intro h
    have haccepted := congrArg Except.toBool h
    exact absurd haccepted (by decide +kernel)

end Browser

end TruePresenceESE.Sdk
