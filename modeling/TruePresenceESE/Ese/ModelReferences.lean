import TruePresenceESE.Ese.GeneratedConfigs

/-! # References to models

A role's provider and model are put together as one text with a colon between them, and
taken apart at the first colon by the adapters and by the policy checks. The two parts come
back where the provider's name has no colon of its own.
-/

namespace TruePresenceESE.Ese

open PyText PyValue

/-- `_parse_provider_model` -/
def parseProviderModel (py : Interpreter) (model : String) : String × String :=
  if ':' ∈ model.toList then
    (py.lower (strip (partitionColon model).1), strip (partitionColon model).2)
  else ("unknown", strip model)

/-- Lower case makes no text empty and brings in no colon. -/
structure LowerKeepsNames (py : Interpreter) : Prop where
  ne_empty : ∀ text, text ≠ "" → py.lower text ≠ ""
  colon : ∀ text, ':' ∈ (py.lower text).toList → ':' ∈ text.toList

/-! ## Validated configs -/

def Trimmed (text : String) : Prop := strip text = text ∧ text ≠ ""

instance (text : String) : Decidable (Trimmed text) :=
  inferInstanceAs (Decidable (strip text = text ∧ text ≠ ""))

/-- What the validators leave of the fields a model is resolved from. -/
structure ModelsValidated (cfg : Config) : Prop where
  provider : ∃ fields name model, mappingSection cfg "provider" = some fields ∧
    fields.get? "name" = some (.str name) ∧ Trimmed name ∧
    fields.get? "model" = some (.str model) ∧ Trimmed model
  roles : ∃ rolesCfg, mappingSection cfg "roles" = some rolesCfg ∧
    ∀ role value, rolesCfg.get? role = some value → ∃ fields, value = .obj fields ∧
      ∀ key ∈ ["provider", "model"], (JsonDict.ofFields fields).get key = .null ∨
        ∃ text, (JsonDict.ofFields fields).get key = .str text ∧ Trimmed text

/-- The text a role gives under a key, or else the provider's under another. -/
def effectiveText (cfg : Config) (role key common : String) : String :=
  let own := match ((mappingSection cfg "roles").getD Dict.empty).get role with
    | .obj fields => asString ((JsonDict.ofFields fields).get key)
    | _ => none
  let shared := asString (((mappingSection cfg "provider").getD Dict.empty).get common)
  own.getD (shared.getD "")

def providerName (cfg : Config) (role : String) : String := effectiveText cfg role "provider" "name"

def modelName (cfg : Config) (role : String) : String := effectiveText cfg role "model" "model"

/-! ## Taking a reference apart -/

theorem count_behind_colon {front : List Char} (h : ':' ∈ front) (back : List Char) :
    back.count ':' < ((front ++ ':' :: back).dropWhile (· ≠ ':')).tail.count ':' := by
  induction front with
  | nil => cases h
  | cons c rest ih =>
      rw [List.cons_append]
      by_cases hc : c = ':'
      · rw [List.dropWhile_cons_of_neg (by simp [hc]), List.tail_cons, List.count_append,
          List.count_cons_self]
        omega
      · rw [List.dropWhile_cons_of_pos (by simp [hc])]
        exact ih (List.mem_of_ne_of_mem (Ne.symm hc) h)

/-- Behind the first colon of a provider's name its rest stays in front of the model. -/
theorem partitionColon_of_mem {provider : String} (h : ':' ∈ provider.toList) (model : String) :
    model.toList.count ':' < (partitionColon (provider ++ ":" ++ model)).2.toList.count ':' := by
  have hlist : (provider ++ ":" ++ model).toList = provider.toList ++ ':' :: model.toList := by
    simp
  rw [partitionColon, hlist, String.toList_ofList]
  exact count_behind_colon h model.toList

theorem parseProviderModel_reference (py : Interpreter) (provider model : String) :
    parseProviderModel py (provider ++ ":" ++ model) =
      (py.lower (strip (partitionColon (provider ++ ":" ++ model)).1),
        strip (partitionColon (provider ++ ":" ++ model)).2) := by
  rw [parseProviderModel, if_pos (by simp)]

/-- The parts come back exactly if the provider's name has no colon. -/
theorem parseProviderModel_iff (py : Interpreter) {provider model : String}
    (hprovider : Trimmed provider) (hmodel : Trimmed model) :
    parseProviderModel py (provider ++ ":" ++ model) = (py.lower provider, model) ↔
      ':' ∉ provider.toList := by
  rw [parseProviderModel_reference]
  constructor
  · intro h hcolon
    have hcount := congrArg (fun p : String × String => p.2.toList.count ':') h
    dsimp only at hcount
    rw [count_strip (by decide)] at hcount
    exact absurd hcount (partitionColon_of_mem hcolon model).ne'
  · intro hcolon
    rw [partitionColon_append hcolon, hprovider.1, hmodel.1]

section
variable {py : Interpreter} (hlower : LowerKeepsNames py) {provider model : String}
  (hprovider : Trimmed provider) (hmodel : Trimmed model) (hcolon : ':' ∉ provider.toList)
include hlower hprovider hcolon

theorem roleProvider_reference : roleProvider py (provider ++ ":" ++ model) = py.lower provider := by
  rw [roleProvider, partitionColon_append hcolon, hprovider.1, orDefault,
    if_neg (hlower.ne_empty provider hprovider.2)]

include hmodel

theorem roleIdentity_reference :
    roleIdentity py (provider ++ ":" ++ model) = py.lower provider ++ ":" ++ py.lower model := by
  rw [roleIdentity, roleProvider_reference hlower hprovider hcolon, partitionColon_append hcolon]
  dsimp only
  rw [hmodel.1, if_neg (hlower.ne_empty model hmodel.2)]

/-- Without a colon in the providers' names the identities are those of the parts. -/
theorem roleIdentity_reference_eq_iff {provider' model' : String} (hprovider' : Trimmed provider')
    (hmodel' : Trimmed model') (hcolon' : ':' ∉ provider'.toList) :
    roleIdentity py (provider ++ ":" ++ model) = roleIdentity py (provider' ++ ":" ++ model') ↔
      py.lower provider = py.lower provider' ∧ py.lower model = py.lower model' := by
  rw [roleIdentity_reference hlower hprovider hmodel hcolon,
    roleIdentity_reference hlower hprovider' hmodel' hcolon']
  constructor
  · intro h
    have hparts := congrArg partitionColon h
    rw [partitionColon_append fun hmem => hcolon (hlower.colon provider hmem),
      partitionColon_append fun hmem => hcolon' (hlower.colon provider' hmem)] at hparts
    exact Prod.mk.inj hparts
  · rintro ⟨hp, hm⟩
    rw [hp, hm]

end

/-! ## References of a config -/

section
variable {cfg : Config} (hcfg : ModelsValidated cfg)
include hcfg

/-- A role that is configured gives a text or nothing under each of the two keys. -/
theorem roleOverride_validated (role : String) {key : String}
    (hkey : key ∈ ["provider", "model"]) :
    (roleOverride (((mappingSection cfg "roles").getD Dict.empty).get role) key = .ok none ∧
      ∀ common, effectiveText cfg role key common =
        (asString (((mappingSection cfg "provider").getD Dict.empty).get common)).getD "") ∨
    ∃ text, roleOverride (((mappingSection cfg "roles").getD Dict.empty).get role) key =
        .ok (some (.str text)) ∧ Trimmed text ∧
      ∀ common, effectiveText cfg role key common = text := by
  obtain ⟨rolesCfg, hrolesCfg, hroles⟩ := hcfg.roles
  unfold effectiveText
  rw [hrolesCfg, Option.getD_some, JsonDict.get, JsonDict.getOr]
  cases hvalue : rolesCfg.get? role with
  | none => exact .inl ⟨rfl, fun _ => rfl⟩
  | some value =>
      obtain ⟨fields, rfl, hfields⟩ := hroles role value hvalue
      rw [Option.getD_some]
      dsimp only [roleOverride]
      rcases hfields key hkey with hnull | ⟨text, htext, htrimmed⟩
      · rw [hnull]
        exact .inl ⟨rfl, fun _ => rfl⟩
      · rw [htext]
        refine .inr ⟨text, ?_, htrimmed, fun _ => rfl⟩
        rw [if_pos (by simpa [truthy] using htrimmed.2)]

/-- What is resolved under a key is the effective text. -/
theorem resolvedText_validated (py : Interpreter) (role : String) {key common : String}
    (hkey : key ∈ ["provider", "model"])
    (hcommon : ∃ text, ((mappingSection cfg "provider").getD Dict.empty).get? common =
      some (.str text) ∧ Trimmed text) :
    ∃ given, roleOverride (((mappingSection cfg "roles").getD Dict.empty).get role) key =
        .ok given ∧
      str py (given.getD
        (((mappingSection cfg "provider").getD Dict.empty).getOr common (.str "unknown"))) =
          effectiveText cfg role key common ∧
      Trimmed (effectiveText cfg role key common) := by
  obtain ⟨shared, hshared, htrimmed⟩ := hcommon
  rcases roleOverride_validated hcfg role hkey with ⟨hgiven, htext⟩ | ⟨text, hgiven, hown, htext⟩
  · refine ⟨none, hgiven, ?_⟩
    rw [htext, JsonDict.get, JsonDict.getOr, JsonDict.getOr, hshared]
    exact ⟨rfl, htrimmed⟩
  · refine ⟨some (.str text), hgiven, ?_⟩
    rw [htext]
    exact ⟨rfl, hown⟩

theorem resolveRoleModel_validated {py : Interpreter} {role ref : String}
    (h : resolveRoleModel py cfg role = .ok ref) :
    ref = providerName cfg role ++ ":" ++ modelName cfg role ∧
      Trimmed (providerName cfg role) ∧ Trimmed (modelName cfg role) := by
  obtain ⟨fields, name, model, hfields, hname, hnameTrimmed, hmodel, hmodelTrimmed⟩ := hcfg.provider
  obtain ⟨given, hgiven, hprovider, hproviderTrimmed⟩ :=
    @resolvedText_validated cfg hcfg py role "provider" "name" (by simp)
      ⟨name, by rw [hfields]; exact hname, hnameTrimmed⟩
  obtain ⟨given', hgiven', hmodel', hmodelTrimmed'⟩ :=
    @resolvedText_validated cfg hcfg py role "model" "model" (by simp)
      ⟨model, by rw [hfields]; exact hmodel, hmodelTrimmed⟩
  unfold resolveRoleModel at h
  dsimp only at h
  rw [hgiven, hgiven'] at h
  dsimp only [bind, Except.bind] at h
  rw [hprovider, hmodel'] at h
  split at h
  · cases h
  · cases h
    exact ⟨rfl, hproviderTrimmed, hmodelTrimmed'⟩

end

/-- Two roles' references can be taken apart and compared exactly if neither provider's name
has a colon. -/
theorem model_references_iff {py : Interpreter} (hlower : LowerKeepsNames py) {cfg : Config}
    (hcfg : ModelsValidated cfg) {role other ref otherRef : String}
    (h : resolveRoleModel py cfg role = .ok ref)
    (hother : resolveRoleModel py cfg other = .ok otherRef) :
    ((parseProviderModel py ref = (py.lower (providerName cfg role), modelName cfg role) ∧
        roleProvider py ref = py.lower (providerName cfg role)) ∧
      (parseProviderModel py otherRef = (py.lower (providerName cfg other), modelName cfg other) ∧
        roleProvider py otherRef = py.lower (providerName cfg other)) ∧
      (roleIdentity py ref = roleIdentity py otherRef ↔
        py.lower (providerName cfg role) = py.lower (providerName cfg other) ∧
          py.lower (modelName cfg role) = py.lower (modelName cfg other))) ↔
    ':' ∉ (providerName cfg role).toList ∧ ':' ∉ (providerName cfg other).toList := by
  obtain ⟨rfl, hprovider, hmodel⟩ := resolveRoleModel_validated hcfg h
  obtain ⟨rfl, hprovider', hmodel'⟩ := resolveRoleModel_validated hcfg hother
  rw [parseProviderModel_iff py hprovider hmodel, parseProviderModel_iff py hprovider' hmodel']
  constructor
  · rintro ⟨⟨hcolon, -⟩, ⟨hcolon', -⟩, -⟩
    exact ⟨hcolon, hcolon'⟩
  · rintro ⟨hcolon, hcolon'⟩
    exact ⟨⟨hcolon, roleProvider_reference hlower hprovider hcolon⟩,
      ⟨hcolon', roleProvider_reference hlower hprovider' hcolon'⟩,
      roleIdentity_reference_eq_iff hlower hprovider hmodel hcolon hprovider' hmodel' hcolon'⟩

/-! ## A provider with a colon in its name -/

/-- The second role's provider has a colon in its name. -/
def gatewayConfig : Config :=
  JsonDict.ofFields
    [("provider", .obj [("name", .str "internal"), ("model", .str "gateway:large")]),
      ("roles", .obj [("architect", .obj []),
        ("security_auditor", .obj [("provider", .str "internal:gateway"),
          ("model", .str "large")])])]

theorem gatewayConfig_validated : ModelsValidated gatewayConfig where
  provider := ⟨_, "internal", "gateway:large", rfl, rfl, by decide +kernel, rfl, by decide +kernel⟩
  roles := by
    refine ⟨_, rfl, fun role value hvalue => ?_⟩
    have hmem := Dict.get?_eq_some_iff.1 hvalue
    have hitems : (role, value) ∈ [("architect", Json.obj []),
        ("security_auditor", Json.obj [("provider", .str "internal:gateway"),
          ("model", .str "large")])] := hmem
    simp only [List.mem_cons, List.not_mem_nil, or_false, Prod.mk.injEq] at hitems
    rcases hitems with ⟨-, rfl⟩ | ⟨-, rfl⟩
    · exact ⟨[], rfl, fun key _ => .inl rfl⟩
    · refine ⟨_, rfl, fun key hkey => .inr ?_⟩
      simp only [List.mem_cons, List.not_mem_nil, or_false] at hkey
      rcases hkey with rfl | rfl
      · exact ⟨"internal:gateway", rfl, by decide +kernel⟩
      · exact ⟨"large", rfl, by decide +kernel⟩

theorem sample_lowerKeepsNames : LowerKeepsNames sampleHost.py where
  ne_empty _ h := h
  colon _ h := h

theorem gateway_resolved :
    resolveRoleModel sampleHost.py gatewayConfig "architect" = .ok "internal:gateway:large" ∧
      resolveRoleModel sampleHost.py gatewayConfig "security_auditor" =
        .ok "internal:gateway:large" := by
  constructor <;> decide +kernel

/-- Two providers, two models, and one reference, of which another provider comes back. -/
theorem gateway_references_collide :
    ModelsValidated gatewayConfig ∧
    (∃ ref, resolveRoleModel sampleHost.py gatewayConfig "security_auditor" = .ok ref ∧
      parseProviderModel sampleHost.py ref ≠
        (sampleHost.py.lower (providerName gatewayConfig "security_auditor"),
          modelName gatewayConfig "security_auditor") ∧
      roleProvider sampleHost.py ref ≠
        sampleHost.py.lower (providerName gatewayConfig "security_auditor")) ∧
    ∃ ref other, resolveRoleModel sampleHost.py gatewayConfig "architect" = .ok ref ∧
      resolveRoleModel sampleHost.py gatewayConfig "security_auditor" = .ok other ∧
      roleIdentity sampleHost.py ref = roleIdentity sampleHost.py other ∧
      sampleHost.py.lower (providerName gatewayConfig "architect") ≠
        sampleHost.py.lower (providerName gatewayConfig "security_auditor") := by
  refine ⟨gatewayConfig_validated, ⟨_, gateway_resolved.2, ?_, ?_⟩, _, _, gateway_resolved.1,
    gateway_resolved.2, rfl, ?_⟩
  · decide +kernel
  · decide +kernel
  · decide +kernel

theorem model_references_iff_gateway :
    ((parseProviderModel sampleHost.py "internal:gateway:large" =
          (sampleHost.py.lower (providerName gatewayConfig "architect"),
            modelName gatewayConfig "architect") ∧
        roleProvider sampleHost.py "internal:gateway:large" =
          sampleHost.py.lower (providerName gatewayConfig "architect")) ∧
      (parseProviderModel sampleHost.py "internal:gateway:large" =
          (sampleHost.py.lower (providerName gatewayConfig "security_auditor"),
            modelName gatewayConfig "security_auditor") ∧
        roleProvider sampleHost.py "internal:gateway:large" =
          sampleHost.py.lower (providerName gatewayConfig "security_auditor")) ∧
      (roleIdentity sampleHost.py "internal:gateway:large" =
          roleIdentity sampleHost.py "internal:gateway:large" ↔
        sampleHost.py.lower (providerName gatewayConfig "architect") =
            sampleHost.py.lower (providerName gatewayConfig "security_auditor") ∧
          sampleHost.py.lower (modelName gatewayConfig "architect") =
            sampleHost.py.lower (modelName gatewayConfig "security_auditor"))) ↔
    ':' ∉ (providerName gatewayConfig "architect").toList ∧
      ':' ∉ (providerName gatewayConfig "security_auditor").toList :=
  model_references_iff sample_lowerKeepsNames gatewayConfig_validated gateway_resolved.1
    gateway_resolved.2

end TruePresenceESE.Ese
