import TruePresenceESE.Lib.Alike
import TruePresenceESE.Lib.StoredValues
import TruePresenceESE.Api.EvidenceRoutes

/-! # Artifacts in a table

A deployment with a database keeps each artifact as a row, its dictionaries and lists as
documents. For the times and texts that the database takes, the rows answer like the
artifacts in memory, up to the order of keys.
-/

namespace TruePresenceESE.Evidence

open Sdk Scoring StoredValues Api

/-! ## Columns -/

inductive SqlDialect where
  | postgres
  | sqlite

/-- What the PostgreSQL server makes of the text of a time and of a document. -/
structure PostgresServer where
  timestamptz : String → Option UtcTime
  jsonb : Json → Json

/-- Times are read as `isoformat` writes them, and documents keep all but the order of keys. -/
structure PostgresServer.Lawful (server : PostgresServer) : Prop where
  timestamptz_isoformat : ∀ t : UtcTime, server.timestamptz t.isoformat = some t
  jsonb_sortKeys : ∀ value, (server.jsonb value).sortKeys = value.sortKeys

/-- A `created_at` as the column keeps it. -/
inductive Stamp where
  | text (value : String)
  | instant (time : UtcTime)

/-- The order of the column, which holds stamps of one kind. -/
def Stamp.Le : Stamp → Stamp → Prop
  | .text value, .text value' => value ≤ value'
  | .instant time, .instant time' => time ≤ time'
  | .text _, .instant _ => True
  | .instant _, .text _ => False

instance : DecidableRel Stamp.Le
  | .text value, .text value' => inferInstanceAs (Decidable (value ≤ value'))
  | .instant time, .instant time' => inferInstanceAs (Decidable (time ≤ time'))
  | .text _, .instant _ => inferInstanceAs (Decidable True)
  | .instant _, .text _ => inferInstanceAs (Decidable False)

structure ArtifactRow where
  evidencePacketId : String
  tenantId : String
  sessionId : String
  surface : String
  createdAt : Stamp
  featureSummaries : Json
  detectorSignals : Json
  reasonCodes : Json
  likelihoods : Json
  confidence : UnitInterval
  recommendedAction : RecommendedAction
  scoringMetadata : Json

def NulFree (text : String) : Prop := Char.ofNat 0 ∉ text.toList

instance (text : String) : Decidable (NulFree text) :=
  inferInstanceAs (Decidable (Char.ofNat 0 ∉ text.toList))

instance (value : Json) : Decidable (value.All NulFree NulFree) :=
  inferInstanceAs (Decidable ((∀ key ∈ value.keys, NulFree key) ∧ ∀ s ∈ value.strings, NulFree s))

/-- `VARCHAR(limit)`: blanks over the limit are cut off, other characters are refused. -/
def varchar (limit : ℕ) (value : String) : Option String :=
  if value.length ≤ limit then some value
  else if (value.toList.drop limit).all (· = ' ') then
    some (String.ofList (value.toList.take limit))
  else none

section
variable (server : PostgresServer)

namespace SqlDialect

/-- A text among the parameters of a statement. -/
def textParam : SqlDialect → String → Except String String
  | .postgres, value =>
      if NulFree value then .ok value
      else .error "A string literal cannot contain NUL (0x00) characters."
  | .sqlite, value => .ok value

/-- What a column of texts keeps. Only PostgreSQL bounds their lengths. -/
def textColumn (limit : ℕ) : SqlDialect → String → Except String String
  | .postgres, value => do
      match varchar limit (← textParam .postgres value) with
      | some kept => .ok kept
      | none => .error ("value too long for type character varying(" ++ toString limit ++ ")")
  | .sqlite, value => .ok value

def stampColumn : SqlDialect → String → Except String Stamp
  | .postgres, value =>
      match server.timestamptz value with
      | some time => .ok (.instant time)
      | none => .error "invalid input syntax for type timestamp with time zone"
  | .sqlite, value => .ok (.text value)

/-- What is read back of `_json_param(value)`. -/
def jsonColumn : SqlDialect → Json → Except String Json
  | .postgres, value =>
      if value.All NulFree NulFree then .ok (server.jsonb value)
      else .error "unsupported Unicode escape sequence"
  | .sqlite, value => .ok value.sortKeys

/-- `_artifact_params`, as the columns keep them. -/
def artifactParams (dialect : SqlDialect) (artifact : SdkEvidenceArtifact) :
    Except String ArtifactRow := do
  let evidencePacketId ← dialect.textColumn 255 artifact.evidencePacketId
  let tenantId ← dialect.textColumn 100 artifact.tenantId
  let sessionId ← dialect.textColumn 255 artifact.sessionId
  let surface ← dialect.textColumn 100 artifact.surface
  let createdAt ← dialect.stampColumn server artifact.createdAt
  let featureSummaries ← dialect.jsonColumn server (.obj artifact.featureSummaries)
  let detectorSignals ← dialect.jsonColumn server (.arr (artifact.detectorSignals.map .obj))
  let reasonCodes ← dialect.jsonColumn server (.arr (artifact.reasonCodes.map .str))
  let likelihoods ← dialect.jsonColumn server
    (.obj (artifact.likelihoods.map fun p => (p.1, dumpUnit p.2)))
  let scoringMetadata ← dialect.jsonColumn server (.obj artifact.scoringMetadata)
  return ⟨evidencePacketId, tenantId, sessionId, surface, createdAt, featureSummaries,
    detectorSignals, reasonCodes, likelihoods, artifact.confidence, artifact.recommendedAction,
    scoringMetadata⟩

end SqlDialect

/-! ## Reading a row -/

def readDict : Json → Except String (List (String × Json))
  | .obj fields => .ok fields
  | _ => .error "Input should be a valid dictionary"

def readList : Json → Except String (List Json)
  | .arr items => .ok items
  | _ => .error "Input should be a valid list"

def readText : Json → Except String String
  | .str text => .ok text
  | _ => .error "Input should be a valid string"

def readUnit : Json → Except String UnitInterval
  | .num q => if h : 0 ≤ q ∧ q ≤ 1 then .ok ⟨q, h⟩ else .error "no likelihood"
  | _ => .error "Input should be a valid number"

def readLikelihood (p : String × Json) : Except String (String × UnitInterval) := do
  return (p.1, ← readUnit p.2)

def Stamp.toText : Stamp → String
  | .text value => value
  | .instant time => time.isoformat

def artifactFromRow (row : ArtifactRow) : Except String SdkEvidenceArtifact := do
  let featureSummaries ← readDict row.featureSummaries
  let detectorSignals ← (← readList row.detectorSignals).mapM readDict
  let reasonCodes ← (← readList row.reasonCodes).mapM readText
  let likelihoods ← (← readDict row.likelihoods).mapM readLikelihood
  let scoringMetadata ← readDict row.scoringMetadata
  let artifact : SdkEvidenceArtifact :=
    ⟨row.evidencePacketId, row.sessionId, row.tenantId, row.surface, row.createdAt.toText,
      featureSummaries, detectorSignals, reasonCodes, likelihoods, row.confidence,
      row.recommendedAction, scoringMetadata⟩
  ensureSdkArtifactMinimized artifact
  return artifact

/-! ## The store -/

/-- The table by its primary key. -/
abbrev ArtifactTable := Dict String ArtifactRow

namespace SqlSdkEvidenceArtifactStore

def put (dialect : SqlDialect) (table : ArtifactTable) (artifact : SdkEvidenceArtifact) :
    Except String ArtifactTable := do
  ensureSdkArtifactMinimized artifact
  let row ← dialect.artifactParams server artifact
  return table.set row.evidencePacketId row

def get (dialect : SqlDialect) (table : ArtifactTable) (evidencePacketId : String) :
    Except String (Option SdkEvidenceArtifact) := do
  let evidencePacketId ← dialect.textParam evidencePacketId
  match table.get? evidencePacketId with
  | some row => return some (← artifactFromRow row)
  | none => return none

/-- The rows of a tenant, or all where none is given. -/
def rowsOf (table : ArtifactTable) (tenantId : Option String) : List ArtifactRow :=
  match tenantId with
  | some tenantId => table.values.filter (·.tenantId = tenantId)
  | none => table.values

/-- What `ORDER BY created_at DESC LIMIT limit` may select. Rows of one time come in any order. -/
def Selects (rows : List ArtifactRow) (limit : ℕ) (selected : List ArtifactRow) : Prop :=
  ∃ ordered : List ArtifactRow, ordered.Perm rows ∧
    ordered.Pairwise (fun row row' => row'.createdAt.Le row.createdAt) ∧
    selected = ordered.take limit

/-- `max(1, int(limit))`, which the database takes as a 64-bit number. -/
def limitParam (limit : ℤ) : Except String ℕ :=
  if max 1 limit < 2 ^ 63 then .ok (max 1 limit).toNat else .error "bigint out of range"

def listRecent (select : List ArtifactRow → ℕ → List ArtifactRow) (dialect : SqlDialect)
    (table : ArtifactTable) (tenantId : Option String) (limit : ℤ) :
    Except String (List SdkEvidenceArtifact) := do
  let tenantId ← (tenantId.filter (· ≠ "")).mapM dialect.textParam
  let limit ← limitParam limit
  (select (rowsOf table tenantId) limit).mapM artifactFromRow

end SqlSdkEvidenceArtifactStore

end

/-! ## Rows that are read back -/

/-- The same artifact up to the order of keys. -/
def SameArtifact (artifact artifact' : SdkEvidenceArtifact) : Prop :=
  artifact.dump.sortKeys = artifact'.dump.sortKeys

/-- The texts of the artifact fit the columns of the database. -/
def Fits (dialect : SqlDialect) (artifact : SdkEvidenceArtifact) : Prop :=
  dialect = .postgres →
    (artifact.evidencePacketId.length ≤ 255 ∧ artifact.tenantId.length ≤ 100 ∧
      artifact.sessionId.length ≤ 255 ∧ artifact.surface.length ≤ 100) ∧
    artifact.dump.All NulFree NulFree

/-- The columns of a row hold an artifact up to the order of keys. -/
structure Holds (row : ArtifactRow) (artifact : SdkEvidenceArtifact) : Prop where
  evidencePacketId : row.evidencePacketId = artifact.evidencePacketId
  tenantId : row.tenantId = artifact.tenantId
  sessionId : row.sessionId = artifact.sessionId
  surface : row.surface = artifact.surface
  createdAt : row.createdAt.toText = artifact.createdAt
  featureSummaries :
    row.featureSummaries.sortKeys = (Json.obj artifact.featureSummaries).sortKeys
  detectorSignals :
    row.detectorSignals.sortKeys = (Json.arr (artifact.detectorSignals.map .obj)).sortKeys
  reasonCodes : row.reasonCodes.sortKeys = (Json.arr (artifact.reasonCodes.map .str)).sortKeys
  likelihoods : row.likelihoods.sortKeys =
    (Json.obj (artifact.likelihoods.map fun p => (p.1, dumpUnit p.2))).sortKeys
  confidence : row.confidence = artifact.confidence
  recommendedAction : row.recommendedAction = artifact.recommendedAction
  scoringMetadata : row.scoringMetadata.sortKeys = (Json.obj artifact.scoringMetadata).sortKeys

/-- Which of the databases writes such a column. -/
def Stamp.dialect : Stamp → SqlDialect
  | .text _ => .sqlite
  | .instant _ => .postgres

theorem Stamp.le_iff {stamp stamp' : Stamp} (h : stamp.dialect = stamp'.dialect) :
    stamp.Le stamp' ↔ stamp.toText ≤ stamp'.toText := by
  cases stamp with
  | text value =>
      cases stamp' with
      | text value' => exact Iff.rfl
      | instant time' => cases h
  | instant time =>
      cases stamp' with
      | text value' => cases h
      | instant time' => exact UtcTime.isoformat_le_iff.symm

section
variable {server : PostgresServer} {dialect : SqlDialect}

theorem textParam_eq {value : String} (h : dialect = .postgres → NulFree value) :
    dialect.textParam value = .ok value := by
  cases dialect with
  | postgres => exact if_pos (h rfl)
  | sqlite => rfl

theorem textColumn_eq {limit : ℕ} {value : String}
    (h : dialect = .postgres → value.length ≤ limit ∧ NulFree value) :
    dialect.textColumn limit value = .ok value := by
  cases dialect with
  | postgres =>
      obtain ⟨hlength, hnul⟩ := h rfl
      have hkept : varchar limit value = some value := if_pos hlength
      rw [SqlDialect.textColumn, textParam_eq fun _ => hnul]
      simp only [bind, Except.bind, hkept]
  | sqlite => rfl

section
variable (hserver : server.Lawful)

include hserver

theorem exists_stampColumn (t : UtcTime) :
    ∃ stamp, dialect.stampColumn server t.isoformat = .ok stamp ∧ stamp.dialect = dialect ∧
      stamp.toText = t.isoformat := by
  cases dialect with
  | postgres =>
      refine ⟨.instant t, ?_, rfl, rfl⟩
      rw [SqlDialect.stampColumn, hserver.timestamptz_isoformat]
  | sqlite => exact ⟨.text t.isoformat, rfl, rfl, rfl⟩

theorem exists_jsonColumn {value : Json}
    (h : dialect = .postgres → value.All NulFree NulFree) :
    ∃ kept, dialect.jsonColumn server value = .ok kept ∧ kept.sortKeys = value.sortKeys := by
  cases dialect with
  | postgres => exact ⟨server.jsonb value, if_pos (h rfl), hserver.jsonb_sortKeys value⟩
  | sqlite => exact ⟨value.sortKeys, rfl, Json.sortKeys_sortKeys value⟩

end

/-- A loop that undoes what was done to each element. -/
theorem mapM_map_eq_ok {ε α β : Type} {write : α → β} {read : β → Except ε α}
    (h : ∀ x, read (write x) = .ok x) (xs : List α) : (xs.map write).mapM read = .ok xs := by
  induction xs with
  | nil => rfl
  | cons x xs ih =>
      rw [List.map_cons, List.mapM_cons, h, ih]
      rfl

/-- A kept list has elements of the kind that were written. -/
theorem readList_kept {α : Type} {write : α → Json} {kept : Json} {items : List α}
    (hkind : ∀ x value, value.sortKeys = (write x).sortKeys → ∃ x', value = write x')
    (h : kept.sortKeys = (Json.arr (items.map write)).sortKeys) :
    ∃ items' : List α, kept = .arr (items'.map write) := by
  rw [Json.sortKeys_arr] at h
  obtain ⟨values, rfl, hvalues⟩ := Json.eq_arr_of_sortKeys h
  have hrange : values ∈ Set.range (List.map write) := by
    rw [Set.range_list_map]
    intro value hvalue
    have hmem : value.sortKeys ∈ (items.map write).map Json.sortKeys :=
      hvalues ▸ List.mem_map_of_mem hvalue
    rw [List.map_map, List.mem_map] at hmem
    obtain ⟨x, -, hx⟩ := hmem
    obtain ⟨x', hx'⟩ := hkind x value hx.symm
    exact ⟨x', hx'.symm⟩
  obtain ⟨items', hitems⟩ := hrange
  exact ⟨items', by rw [hitems]⟩

theorem readUnits_kept {kept : Json} {units : List (String × UnitInterval)}
    (h : kept.sortKeys = (Json.obj (units.map fun p => (p.1, dumpUnit p.2))).sortKeys) :
    ∃ units' : List (String × UnitInterval),
      kept = .obj (units'.map fun p => (p.1, dumpUnit p.2)) := by
  rw [Json.sortKeys_obj] at h
  obtain ⟨fields, rfl, hfields⟩ := Json.eq_obj_of_sortKeys h
  have hrange : fields ∈ Set.range (List.map fun p : String × UnitInterval => (p.1, dumpUnit p.2)) := by
    rw [Set.range_list_map]
    intro p hp
    have hsorted : (p.1, p.2.sortKeys) ∈ Json.sortedFields (fields.map fun p => (p.1, p.2.sortKeys)) :=
      (Json.sortedFields_perm _).mem_iff.mpr (List.mem_map_of_mem hp)
    rw [hfields, (Json.sortedFields_perm _).mem_iff, List.map_map, List.mem_map] at hsorted
    obtain ⟨unit, -, hunit⟩ := hsorted
    obtain ⟨hname, hvalue⟩ := Prod.mk.inj hunit
    have hnum : p.2 = dumpUnit unit.2 := Json.eq_num_of_sortKeys hvalue.symm
    exact ⟨unit, Prod.ext hname hnum.symm⟩
  obtain ⟨units', hunits⟩ := hrange
  exact ⟨units', by rw [hunits]⟩

theorem readLikelihood_dumpUnit (p : String × UnitInterval) :
    readLikelihood (p.1, dumpUnit p.2) = .ok p := by
  have hread : readUnit (dumpUnit p.2) = .ok p.2 := dif_pos p.2.2
  rw [readLikelihood, hread]
  rfl

theorem readDict_obj (fields : List (String × Json)) : readDict (.obj fields) = .ok fields := rfl

theorem readText_str (text : String) : readText (.str text) = .ok text := rfl

/-- A row is read back as the artifact it holds. -/
theorem Holds.read {row : ArtifactRow} {artifact : SdkEvidenceArtifact} (h : Holds row artifact)
    (hminimized : Minimized artifact.dump) :
    ∃ artifact', artifactFromRow row = .ok artifact' ∧ SameArtifact artifact' artifact := by
  have hdict : ∀ fields value, value.sortKeys = (Json.obj fields).sortKeys →
      ∃ fields', value = Json.obj fields' := by
    intro fields value hvalue
    rw [Json.sortKeys_obj fields] at hvalue
    obtain ⟨fields', hfields, -⟩ := Json.eq_obj_of_sortKeys hvalue
    exact ⟨fields', hfields⟩
  have htext : ∀ text value, value.sortKeys = (Json.str text).sortKeys →
      ∃ text', value = Json.str text' := fun text value hvalue =>
    ⟨text, Json.eq_str_of_sortKeys hvalue⟩
  obtain ⟨features, hfeatures⟩ := hdict _ _ h.featureSummaries
  obtain ⟨metadata, hmetadata⟩ := hdict _ _ h.scoringMetadata
  obtain ⟨signals, hsignals⟩ := readList_kept hdict h.detectorSignals
  obtain ⟨codes, hcodes⟩ := readList_kept htext h.reasonCodes
  obtain ⟨units, hunits⟩ := readUnits_kept h.likelihoods
  obtain ⟨artifact', hartifact⟩ : ∃ artifact' : SdkEvidenceArtifact, artifact' =
    ⟨row.evidencePacketId, row.sessionId, row.tenantId, row.surface, row.createdAt.toText, features,
      signals, codes, units, row.confidence, row.recommendedAction, metadata⟩ := ⟨_, rfl⟩
  have hsame : SameArtifact artifact' artifact := by
    unfold SameArtifact SdkEvidenceArtifact.dump
    rw [Json.sortKeys_obj, Json.sortKeys_obj, hartifact]
    refine congrArg (fun fields => Json.obj (Json.sortedFields fields)) ?_
    simp only [List.map_cons, List.map_nil, ← hfeatures, ← hmetadata, ← hsignals, ← hcodes, ← hunits,
      h.featureSummaries, h.detectorSignals, h.reasonCodes, h.likelihoods, h.scoringMetadata,
      h.evidencePacketId, h.tenantId, h.sessionId, h.surface, h.createdAt, h.confidence,
      h.recommendedAction]
  have hminimized' : ensureSdkArtifactMinimized artifact' = .ok () := by
    rw [ensureSdkArtifactMinimized_eq_ok_iff, Minimized, ← Json.all_sortKeys_iff, hsame,
      Json.all_sortKeys_iff]
    exact hminimized
  refine ⟨artifact', ?_, hsame⟩
  rw [artifactFromRow, hfeatures, hmetadata, hsignals, hcodes, hunits]
  simp only [readList, readDict_obj, mapM_map_eq_ok readDict_obj, mapM_map_eq_ok readText_str,
    mapM_map_eq_ok readLikelihood_dumpUnit, bind, Except.bind]
  rw [← hartifact, hminimized']
  rfl

/-- The database takes an artifact whose texts fit, and keeps it. -/
theorem exists_row (hserver : server.Lawful) {artifact : SdkEvidenceArtifact}
    (hfits : Fits dialect artifact) (htime : ∃ t : UtcTime, artifact.createdAt = t.isoformat) :
    ∃ row, dialect.artifactParams server artifact = .ok row ∧ row.createdAt.dialect = dialect ∧
      Holds row artifact := by
  have hnul : dialect = .postgres → ∀ p ∈ [("evidence_packet_id", Json.str artifact.evidencePacketId),
      ("session_id", .str artifact.sessionId), ("tenant_id", .str artifact.tenantId),
      ("surface", .str artifact.surface), ("feature_summaries", .obj artifact.featureSummaries),
      ("detector_signals", .arr (artifact.detectorSignals.map .obj)),
      ("reason_codes", .arr (artifact.reasonCodes.map .str)),
      ("likelihoods", .obj (artifact.likelihoods.map fun p => (p.1, dumpUnit p.2))),
      ("scoring_metadata", .obj artifact.scoringMetadata)], p.2.All NulFree NulFree := by
    intro hdialect p hp
    have hall := (hfits hdialect).2
    rw [SdkEvidenceArtifact.dump, Json.all_obj_iff] at hall
    refine (hall p ?_).2
    simp only [List.mem_cons, List.not_mem_nil, or_false] at hp ⊢
    tauto
  simp only [List.forall_mem_cons, Json.all_str_iff] at hnul
  obtain ⟨t, ht⟩ := htime
  obtain ⟨stamp, hstamp, hdialect, htext⟩ := @exists_stampColumn server dialect hserver t
  obtain ⟨features, hfeatures, hsameFeatures⟩ :=
    exists_jsonColumn hserver fun hdialect => (hnul hdialect).2.2.2.2.1
  obtain ⟨signals, hsignals, hsameSignals⟩ :=
    exists_jsonColumn hserver fun hdialect => (hnul hdialect).2.2.2.2.2.1
  obtain ⟨codes, hcodes, hsameCodes⟩ :=
    exists_jsonColumn hserver fun hdialect => (hnul hdialect).2.2.2.2.2.2.1
  obtain ⟨likelihoods, hlikelihoods, hsameLikelihoods⟩ :=
    exists_jsonColumn hserver fun hdialect => (hnul hdialect).2.2.2.2.2.2.2.1
  obtain ⟨metadata, hmetadata, hsameMetadata⟩ :=
    exists_jsonColumn hserver fun hdialect => (hnul hdialect).2.2.2.2.2.2.2.2.1
  have hid := @textColumn_eq dialect 255 artifact.evidencePacketId fun hdialect =>
    ⟨(hfits hdialect).1.1, (hnul hdialect).1⟩
  have htenant := @textColumn_eq dialect 100 artifact.tenantId fun hdialect =>
    ⟨(hfits hdialect).1.2.1, (hnul hdialect).2.2.1⟩
  have hsession := @textColumn_eq dialect 255 artifact.sessionId fun hdialect =>
    ⟨(hfits hdialect).1.2.2.1, (hnul hdialect).2.1⟩
  have hsurface := @textColumn_eq dialect 100 artifact.surface fun hdialect =>
    ⟨(hfits hdialect).1.2.2.2, (hnul hdialect).2.2.2.1⟩
  refine ⟨⟨artifact.evidencePacketId, artifact.tenantId, artifact.sessionId, artifact.surface, stamp,
    features, signals, codes, likelihoods, artifact.confidence, artifact.recommendedAction,
    metadata⟩, ?_, hdialect, rfl, rfl, rfl, rfl, by rw [ht]; exact htext, hsameFeatures,
    hsameSignals, hsameCodes, hsameLikelihoods, rfl, rfl, hsameMetadata⟩
  rw [SqlDialect.artifactParams, hid, htenant, hsession, hsurface, ht, hstamp, hfeatures,
    hsignals, hcodes, hlikelihoods, hmetadata]
  rfl

end

/-! ## Runs -/

/-- The store after a run of puts. One that raises leaves it as it was. -/
def putAll {σ : Type} (put : σ → SdkEvidenceArtifact → Except String σ) (initial : σ)
    (artifacts : List SdkEvidenceArtifact) : σ :=
  artifacts.foldl (fun store artifact => (put store artifact).toOption.getD store) initial

def storedInMemory (artifacts : List SdkEvidenceArtifact) : EvidenceRows :=
  putAll InMemorySdkEvidenceArtifactStore.put Dict.empty artifacts

def storedInTable (server : PostgresServer) (dialect : SqlDialect)
    (artifacts : List SdkEvidenceArtifact) : ArtifactTable :=
  putAll (SqlSdkEvidenceArtifactStore.put server dialect) Dict.empty artifacts

/-- `items[:limit]` -/
def sliceTo {α : Type} (limit : ℤ) (items : List α) : List α :=
  items.take (if 0 ≤ limit then limit else items.length + limit).toNat

/-- `list_recent` of the store in memory, for any limit. -/
def recentInMemory (rows : EvidenceRows) (tenantId : Option String) (limit : ℤ) :
    List SdkEvidenceArtifact :=
  sliceTo limit ((SdkEvidenceStore.ofTenant rows tenantId).mergeSort fun a b =>
    b.createdAt ≤ a.createdAt)

theorem listRecent_inMemory (rows : EvidenceRows) (tenantId : Option String) (limit : ℕ) :
    SdkEvidenceStore.inMemory.listRecent rows tenantId limit =
      .ok (recentInMemory rows tenantId limit) := by
  rw [recentInMemory, sliceTo, if_pos (Int.natCast_nonneg limit), Int.toNat_natCast]
  rfl

/-- What a row and the artifact in its place have to do with each other. -/
structure Kept (dialect : SqlDialect) (artifact : SdkEvidenceArtifact) (row : ArtifactRow) :
    Prop where
  minimized : Minimized artifact.dump
  dialect : row.createdAt.dialect = dialect
  holds : Holds row artifact

section
variable {server : PostgresServer} {dialect : SqlDialect} {artifacts : List SdkEvidenceArtifact}
  {rows : List ArtifactRow}

theorem alike_put (hserver : server.Lawful) {store : EvidenceRows} {table : ArtifactTable}
    {artifact : SdkEvidenceArtifact} (halike : Dict.Alike (fun _ => Kept dialect) store table)
    (h : Minimized artifact.dump →
      Fits dialect artifact ∧ ∃ t : UtcTime, artifact.createdAt = t.isoformat) :
    Dict.Alike (fun _ => Kept dialect) ((store.put artifact).toOption.getD store)
      ((SqlSdkEvidenceArtifactStore.put server dialect table artifact).toOption.getD table) := by
  cases hensured : ensureSdkArtifactMinimized artifact with
  | error e =>
      have hmemory : store.put artifact = .error e := by
        rw [InMemorySdkEvidenceArtifactStore.put, hensured]
        rfl
      have hsql : SqlSdkEvidenceArtifactStore.put server dialect table artifact = .error e := by
        rw [SqlSdkEvidenceArtifactStore.put, hensured]
        rfl
      rw [hmemory, hsql]
      exact halike
  | ok _ =>
      have hminimized := ensureSdkArtifactMinimized_eq_ok_iff.mp hensured
      obtain ⟨hfits, htime⟩ := h hminimized
      obtain ⟨row, hrow, hdialect, hholds⟩ := exists_row hserver hfits htime
      have hmemory : store.put artifact = .ok (store.set artifact.evidencePacketId artifact) :=
        put_eq_ok_iff.mpr ⟨hminimized, rfl⟩
      have hsql : SqlSdkEvidenceArtifactStore.put server dialect table artifact =
          .ok (table.set artifact.evidencePacketId row) := by
        rw [SqlSdkEvidenceArtifactStore.put, hensured, hrow, ← hholds.evidencePacketId]
        rfl
      rw [hmemory, hsql]
      exact halike.set ⟨hminimized, hdialect, hholds⟩

/-- After any run of puts the rows stand for the artifacts in memory. -/
theorem alike_stored (hserver : server.Lawful)
    (h : ∀ artifact ∈ artifacts, Minimized artifact.dump →
      Fits dialect artifact ∧ ∃ t : UtcTime, artifact.createdAt = t.isoformat) :
    Dict.Alike (fun _ => Kept dialect) (storedInMemory artifacts)
      (storedInTable server dialect artifacts) := by
  have hrun : ∀ (store : EvidenceRows) (table : ArtifactTable),
      Dict.Alike (fun _ => Kept dialect) store table →
      Dict.Alike (fun _ => Kept dialect)
        (putAll InMemorySdkEvidenceArtifactStore.put store artifacts)
        (putAll (SqlSdkEvidenceArtifactStore.put server dialect) table artifacts) := by
    induction artifacts with
    | nil => exact fun _ _ halike => halike
    | cons artifact rest ih =>
        intro store table halike
        rw [List.forall_mem_cons] at h
        exact ih h.2 _ _ (alike_put hserver halike h.1)
  exact hrun _ _ Dict.alike_empty

theorem get_kept {store : EvidenceRows} {table : ArtifactTable}
    (halike : Dict.Alike (fun _ => Kept dialect) store table) {evidencePacketId : String}
    (hnul : dialect = .postgres → NulFree evidencePacketId) :
    ∃ found, SqlSdkEvidenceArtifactStore.get dialect table evidencePacketId = .ok found ∧
      Option.Rel SameArtifact found (store.get? evidencePacketId) := by
  rw [SqlSdkEvidenceArtifactStore.get, textParam_eq hnul]
  have hrel := halike.get? evidencePacketId
  cases hget : store.get? evidencePacketId with
  | none =>
      cases hrow : table.get? evidencePacketId with
      | none =>
          refine ⟨none, ?_, .none⟩
          simp only [bind, Except.bind, hrow]
          rfl
      | some row =>
          rw [hget, hrow] at hrel
          cases hrel
  | some artifact =>
      cases hrow : table.get? evidencePacketId with
      | none =>
          rw [hget, hrow] at hrel
          cases hrel
      | some row =>
          rw [hget, hrow] at hrel
          cases hrel with
          | some hkept =>
              obtain ⟨artifact', hread, hsame⟩ := hkept.holds.read hkept.minimized
              refine ⟨some artifact', ?_, .some hsame⟩
              simp only [bind, Except.bind, hrow, hread]
              rfl

/-! ## Listings -/

theorem rowsOf_kept {store : EvidenceRows} {table : ArtifactTable}
    (halike : Dict.Alike (fun _ => Kept dialect) store table) (tenantId : Option String) :
    List.Forall₂ (Kept dialect) (SdkEvidenceStore.ofTenant store tenantId)
      (SqlSdkEvidenceArtifactStore.rowsOf table (tenantId.filter (· ≠ ""))) := by
  have hvalues : List.Forall₂ (Kept dialect) store.values table.values := by
    rw [Dict.values, Dict.values, List.forall₂_map_left_iff, List.forall₂_map_right_iff]
    exact halike.imp fun _ _ hp => hp.2
  unfold SdkEvidenceStore.ofTenant
  cases tenantId.filter (· ≠ "") with
  | none => exact hvalues
  | some tenantId =>
      rw [SqlSdkEvidenceArtifactStore.rowsOf]
      dsimp only
      generalize store.values = artifacts, table.values = rows at hvalues ⊢
      induction hvalues with
      | nil => exact .nil
      | @cons artifact row _ _ hkept _ ih =>
          by_cases htenant : artifact.tenantId = tenantId
          · have hrow : row.tenantId = tenantId := hkept.holds.tenantId.trans htenant
            rw [List.filter_cons_of_pos (by simpa using htenant),
              List.filter_cons_of_pos (by simpa using hrow)]
            exact .cons hkept ih
          · have hrow : row.tenantId ≠ tenantId := fun h =>
              htenant (hkept.holds.tenantId.symm.trans h)
            rw [List.filter_cons_of_neg (by simpa using htenant),
              List.filter_cons_of_neg (by simpa using hrow)]
            exact ih

/-- What holds of all pairs of one list holds of those of a list related to it. -/
theorem pairwise_of_forall₂ {α β : Type} {R : α → β → Prop} {P : α → α → Prop} {Q : β → β → Prop}
    {xs : List α} {ys : List β} (h : List.Forall₂ R xs ys)
    (hstep : ∀ {x y x' y'}, R x y → R x' y' → P x x' → Q y y') (hpairs : xs.Pairwise P) :
    ys.Pairwise Q := by
  induction h with
  | nil => exact .nil
  | @cons x y xs ys hxy hrest ih =>
      rw [List.pairwise_cons] at hpairs ⊢
      refine ⟨fun y' hy' => ?_, ih hpairs.2⟩
      obtain ⟨x', hx', hrel⟩ : ∃ x' ∈ xs, R x' y' := by
        clear hpairs ih
        induction hrest with
        | nil => cases hy'
        | @cons x' z _ _ hrel _ ih =>
            cases List.mem_cons.mp hy' with
            | inl heq => exact ⟨x', List.mem_cons_self, heq ▸ hrel⟩
            | inr hmem =>
                obtain ⟨x'', hx'', hrel'⟩ := ih hmem
                exact ⟨x'', List.mem_cons_of_mem _ hx'', hrel'⟩
      exact hstep hxy hrel (hpairs.1 x' hx')

theorem createdAt_kept (h : List.Forall₂ (Kept dialect) artifacts rows) :
    rows.map (fun row => row.createdAt.toText) = artifacts.map (·.createdAt) := by
  induction h with
  | nil => rfl
  | cons hrow _ ih => rw [List.map_cons, List.map_cons, hrow.holds.createdAt, ih]

theorem dialect_kept (h : List.Forall₂ (Kept dialect) artifacts rows) :
    ∀ row ∈ rows, row.createdAt.dialect = dialect := by
  induction h with
  | nil => exact List.forall_mem_nil _
  | cons hrow _ ih => exact List.forall_mem_cons.mpr ⟨hrow.dialect, ih⟩

/-- Where no two artifacts have one time, the database has no choice of order. -/
theorem selects_kept (h : List.Forall₂ (Kept dialect) artifacts rows)
    (hdistinct : (artifacts.map (·.createdAt)).Nodup) {limit : ℕ} {selected : List ArtifactRow}
    (hselects : SqlSdkEvidenceArtifactStore.Selects rows limit selected) :
    List.Forall₂ (Kept dialect)
      ((artifacts.mergeSort fun a b => b.createdAt ≤ a.createdAt).take limit) selected := by
  obtain ⟨ordered, hperm, hordered, rfl⟩ := hselects
  have hsortedPerm : (artifacts.mergeSort fun a b => b.createdAt ≤ a.createdAt).Perm artifacts :=
    List.mergeSort_perm _ _
  have hsorted : (artifacts.mergeSort fun a b => b.createdAt ≤ a.createdAt).Pairwise
      fun a b => b.createdAt ≤ a.createdAt := by
    refine (@List.pairwise_mergeSort _ (fun a b : SdkEvidenceArtifact =>
      decide (b.createdAt ≤ a.createdAt)) ?_ ?_ artifacts).imp of_decide_eq_true
    · intro a b c hab hbc
      exact decide_eq_true ((of_decide_eq_true hbc).trans (of_decide_eq_true hab))
    · intro a b
      simpa using le_total b.createdAt a.createdAt
  obtain ⟨rows', hkept, hperm'⟩ := List.perm_comp_forall₂ hsortedPerm h
  have hrows : rows'.Pairwise fun row row' => row'.createdAt.Le row.createdAt := by
    refine pairwise_of_forall₂ hkept (fun ha hb hle => ?_) hsorted
    rw [Stamp.le_iff (hb.dialect.trans ha.dialect.symm), ha.holds.createdAt, hb.holds.createdAt]
    exact hle
  have hnodup : (rows'.map fun row => row.createdAt.toText).Nodup := by
    rw [createdAt_kept hkept, (hsortedPerm.map _).nodup_iff]
    exact hdistinct
  have hsame : rows' = ordered := by
    refine List.Perm.eq_of_pairwise ?_ hrows hordered (hperm'.trans hperm.symm)
    intro row row' hrow hrow' hle hle'
    have hmem : row' ∈ rows' := (hperm'.trans hperm.symm).mem_iff.mpr hrow'
    have hkinds := (dialect_kept hkept row hrow).trans (dialect_kept hkept row' hmem).symm
    rw [Stamp.le_iff hkinds.symm] at hle
    rw [Stamp.le_iff hkinds] at hle'
    exact List.inj_on_of_nodup_map hnodup hrow hmem (le_antisymm hle' hle)
  rw [← hsame]
  exact List.forall₂_take limit hkept

theorem mapM_kept (h : List.Forall₂ (Kept dialect) artifacts rows) :
    ∃ listing, rows.mapM artifactFromRow = .ok listing ∧
      List.Forall₂ SameArtifact listing artifacts := by
  induction h with
  | nil => exact ⟨[], rfl, .nil⟩
  | cons hkept _ ih =>
      obtain ⟨artifact', hread, hsame⟩ := hkept.holds.read hkept.minimized
      obtain ⟨listing, hlisting, hrest⟩ := ih
      refine ⟨artifact' :: listing, ?_, .cons hsame hrest⟩
      rw [List.mapM_cons, hread, hlisting]
      rfl

/-- Which slices of a list are as long as the selection of the database. -/
theorem sliceTo_length_iff {α : Type} (items : List α) (limit : ℤ) :
    (items.take (max 1 limit).toNat).length = (sliceTo limit items).length ↔
      1 ≤ limit ∨ items = [] ∨ limit < 0 ∧ (items.length : ℤ) + limit = 1 := by
  rw [sliceTo, List.length_take, List.length_take, ← List.length_eq_zero_iff]
  split
  · omega
  · omega

/-- In a run of puts whose texts the database takes, both stores answer a lookup alike. They
list the same artifacts in the same order where no two of them have one time, exactly if
the limit is positive or happens to cut the list in memory to the same length. -/
theorem stores_agree (server : PostgresServer) (hserver : server.Lawful) (dialect : SqlDialect)
    (artifacts : List SdkEvidenceArtifact)
    (htaken : ∀ artifact ∈ artifacts, Minimized artifact.dump →
      Fits dialect artifact ∧ ∃ t : UtcTime, artifact.createdAt = t.isoformat) :
    let store := storedInMemory artifacts
    let table := storedInTable server dialect artifacts
    (∀ evidencePacketId, (dialect = .postgres → NulFree evidencePacketId) →
      ∃ found, SqlSdkEvidenceArtifactStore.get dialect table evidencePacketId = .ok found ∧
        Option.Rel SameArtifact found (store.get? evidencePacketId)) ∧
      ∀ (select : List ArtifactRow → ℕ → List ArtifactRow) (tenantId : Option String) (limit : ℤ),
        (∀ rows n, SqlSdkEvidenceArtifactStore.Selects rows n (select rows n)) →
        (dialect = .postgres → ∀ text ∈ tenantId, NulFree text) → limit < 2 ^ 63 →
        ((SdkEvidenceStore.ofTenant store tenantId).map (·.createdAt)).Nodup →
        ∃ listing,
          SqlSdkEvidenceArtifactStore.listRecent select dialect table tenantId limit = .ok listing ∧
          (List.Forall₂ SameArtifact listing (recentInMemory store tenantId limit) ↔
            1 ≤ limit ∨ SdkEvidenceStore.ofTenant store tenantId = [] ∨
              limit < 0 ∧ ((SdkEvidenceStore.ofTenant store tenantId).length : ℤ) + limit = 1) := by
  intro store table
  have halike : Dict.Alike (fun _ => Kept dialect) store table := alike_stored hserver htaken
  refine ⟨fun evidencePacketId hnul => get_kept halike hnul, ?_⟩
  intro select tenantId limit hselect hnul hbound hdistinct
  have hrows := rowsOf_kept halike tenantId
  obtain ⟨listing, hlisting, hsame⟩ := mapM_kept
    (selects_kept hrows hdistinct (hselect _ (max 1 limit).toNat))
  have htenant : (tenantId.filter (· ≠ "")).mapM dialect.textParam =
      .ok (tenantId.filter (· ≠ "")) := by
    cases tenantId with
    | none => rfl
    | some text =>
        rw [Option.filter_some]
        split
        · have htext : dialect.textParam text = .ok text :=
            textParam_eq fun hdialect => hnul hdialect text rfl
          show some <$> dialect.textParam text = .ok (some text)
          rw [htext]
          rfl
        · rfl
  have hlimit : SqlSdkEvidenceArtifactStore.limitParam limit = .ok (max 1 limit).toNat :=
    if_pos (max_lt (by norm_num) hbound)
  refine ⟨listing, ?_, ?_⟩
  · rw [SqlSdkEvidenceArtifactStore.listRecent, htenant, hlimit]
    exact hlisting
  · obtain ⟨sorted, hsorted⟩ : ∃ sorted, sorted = (SdkEvidenceStore.ofTenant store tenantId).mergeSort
      fun a b => decide (b.createdAt ≤ a.createdAt) := ⟨_, rfl⟩
    have hlength : sorted.length = (SdkEvidenceStore.ofTenant store tenantId).length := by
      rw [hsorted, List.length_mergeSort]
    rw [← hsorted] at hsame
    rw [recentInMemory, ← hsorted, ← hlength, ← List.length_eq_zero_iff, ← hlength,
      List.length_eq_zero_iff, ← sliceTo_length_iff]
    constructor
    · intro h
      rw [← hsame.length_eq, h.length_eq]
    · intro h
      have hslice : sliceTo limit sorted = sorted.take (max 1 limit).toNat := by
        rw [List.length_take, sliceTo, List.length_take] at h
        exact List.take_eq_take_iff.mpr h.symm
      rw [hslice]
      exact hsame

end

/-! ## Two packets of a tenant -/

/-- The server reads what `isoformat` writes, and sorts keys. -/
noncomputable def isoServer : PostgresServer where
  timestamptz := Function.partialInv UtcTime.isoformat
  jsonb := Json.sortKeys

theorem isoServer_lawful : isoServer.Lawful where
  timestamptz_isoformat := Function.partialInv_left UtcTime.isoformat_injective
  jsonb_sortKeys := Json.sortKeys_sortKeys

theorem Stamp.Le.trans {stamp stamp' stamp'' : Stamp} (h : stamp.Le stamp')
    (h' : stamp'.Le stamp'') : stamp.Le stamp'' := by
  cases stamp <;> cases stamp' <;> cases stamp'' <;>
    first | exact trivial | exact False.elim h | exact False.elim h' | exact le_trans h h'

theorem Stamp.le_or_le (stamp stamp' : Stamp) : stamp.Le stamp' ∨ stamp'.Le stamp := by
  cases stamp <;> cases stamp' <;>
    first | exact .inl trivial | exact .inr trivial | exact le_total _ _

/-- Rows of one time in the order they come in. -/
def newestFirst (rows : List ArtifactRow) (limit : ℕ) : List ArtifactRow :=
  (rows.mergeSort fun row row' => row'.createdAt.Le row.createdAt).take limit

theorem selects_newestFirst (rows : List ArtifactRow) (limit : ℕ) :
    SqlSdkEvidenceArtifactStore.Selects rows limit (newestFirst rows limit) := by
  refine ⟨_, List.mergeSort_perm _ _, ?_, rfl⟩
  refine (@List.pairwise_mergeSort _ (fun row row' : ArtifactRow =>
    decide (row'.createdAt.Le row.createdAt)) ?_ ?_ rows).imp of_decide_eq_true
  · intro row row' row'' h h'
    exact decide_eq_true ((of_decide_eq_true h').trans (of_decide_eq_true h))
  · intro row row'
    simpa using Stamp.le_or_le row'.createdAt row.createdAt

def packetArtifact (evidencePacketId : String) (t : UtcTime) : SdkEvidenceArtifact where
  evidencePacketId := evidencePacketId
  sessionId := "session"
  tenantId := "acme"
  surface := "web"
  createdAt := t.isoformat
  featureSummaries := [("typing", .obj [("paste_count", .num 1)])]
  detectorSignals := [[("reason_code", .str "paste_heavy")]]
  reasonCodes := ["paste_heavy"]
  likelihoods := [("automation_likelihood", ⟨1 / 2, by norm_num⟩)]
  confidence := ⟨1 / 2, by norm_num⟩
  recommendedAction := .observe
  scoringMetadata := [("model", .str scoringModelVersion)]

def newYear (second : ℕ) (h : second < 60) : UtcTime :=
  ⟨2025, 1, 1, 0, 0, second, 0, by decide, by decide, by decide, by decide, by decide, h, by decide⟩

def twoPackets : List SdkEvidenceArtifact :=
  [packetArtifact "first" (newYear 1 (by decide)), packetArtifact "second" (newYear 2 (by decide))]

theorem twoPackets_taken : ∀ artifact ∈ twoPackets, Minimized artifact.dump →
    Fits .postgres artifact ∧ ∃ t : UtcTime, artifact.createdAt = t.isoformat := by
  simp only [twoPackets, List.forall_mem_cons]
  exact ⟨fun _ => ⟨fun _ => by decide, _, rfl⟩, fun _ => ⟨fun _ => by decide, _, rfl⟩,
    List.forall_mem_nil _⟩

theorem twoPackets_distinct : ((SdkEvidenceStore.ofTenant (storedInMemory twoPackets)
    (some "acme")).map (·.createdAt)).Nodup := by
  decide

/-- The newer packet is listed by both stores. -/
theorem stores_agree_two :
    ∃ listing, SqlSdkEvidenceArtifactStore.listRecent newestFirst .postgres
        (storedInTable isoServer .postgres twoPackets) (some "acme") 1 = .ok listing ∧
      List.Forall₂ SameArtifact listing (recentInMemory (storedInMemory twoPackets) (some "acme") 1) := by
  have hagree := stores_agree isoServer isoServer_lawful .postgres twoPackets twoPackets_taken
  obtain ⟨listing, hlisting, hsame⟩ := hagree.2 newestFirst (some "acme") 1 selects_newestFirst
    (fun _ => by decide) (by norm_num) twoPackets_distinct
  exact ⟨listing, hlisting, hsame.mpr (.inl le_rfl)⟩

end TruePresenceESE.Evidence
