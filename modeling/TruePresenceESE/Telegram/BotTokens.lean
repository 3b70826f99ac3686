import TruePresenceESE.Lib.Dict
import TruePresenceESE.Lib.PyText

/-! # Bot tokens and their tenants

A token is looked up by its tenant, and a tenant by its token. The two lookups read the
same table and environment, and part ways where a stored token does not decrypt.
-/

namespace TruePresenceESE.Telegram

/-! ## The lookups -/

/-- What the lookups read besides the table. -/
structure TokenHost where
  environ : String → Option String
  upper : String → String
  lower : String → String
  /-- Fernet under the configured key; without a key nothing decrypts. -/
  fernetDecrypt : String → Option String

/-- `telegram_bot_tokens`, by tenant. -/
abbrev TokenTable := Dict String String

section
variable (host : TokenHost)

def decryptValue (ciphertext : String) : Option String :=
  if ciphertext = "" then some ciphertext else host.fernetDecrypt ciphertext

/-- `os.environ.get(name) or rest` -/
def envOr (name : String) (rest : Option String) : Option String :=
  match host.environ name with
  | some value => if value = "" then rest else some value
  | none => rest

def truthyEnv (name : String) : Bool :=
  host.lower (PyText.strip ((host.environ name).getD "")) ∈ ["1", "true", "yes", "on"]

def isProductionMode : Bool :=
  let env := host.lower (PyText.strip ((envOr host "TRUEPRESENCE_ENV" (envOr host "ENVIRONMENT"
    (envOr host "APP_ENV" (some "")))).getD ""))
  env ∈ ["prod", "production"] || truthyEnv host "TRUEPRESENCE_PRODUCTION"

/-- The explicit fallback to tokens as they are stored. -/
def plaintextAllowed : Bool :=
  truthyEnv host "TRUEPRESENCE_ALLOW_PLAINTEXT_TELEGRAM_TOKENS" && !isProductionMode host

def environmentToken (tenantId : String) : Option String :=
  envOr host ("TELEGRAM_BOT_TOKEN_" ++ host.upper tenantId) (host.environ "TELEGRAM_BOT_TOKEN")

/-- A stored token as `_resolve_token_sync` hands it out. -/
def storedToken (stored : String) : Option String :=
  match decryptValue host stored with
  | some token => some token
  | none => if plaintextAllowed host then some stored else none

/-- The table is `none` where the database cannot be reached. -/
def resolveTokenSync (table : Option TokenTable) (tenantId : String) : Option String :=
  match table.bind (·.get? tenantId) with
  | some stored => storedToken host stored
  | none => environmentToken host tenantId

/-- A stored token as it is compared: where it does not decrypt, as it is. -/
def candidateToken (stored : String) : String := (decryptValue host stored).getD stored

def firstHolding (table : TokenTable) (botToken : String) : Option (String × String) :=
  table.items.find? fun row => candidateToken host row.2 = botToken

def resolveTenantFromToken (table : Option TokenTable) (botToken : String) : Option String :=
  let found := ((table.bind (firstHolding host · botToken)).map Prod.fst).filter (· ≠ "")
  match found with
  | some tenantId => some tenantId
  | none => if host.environ "TELEGRAM_BOT_TOKEN" = some botToken then some "default" else none

end

/-! ## Soundness -/

section
variable (host : TokenHost) (table : TokenTable) (botToken : String)

/-- The tenant a token is resolved to has that token. -/
def TokenSound : Prop :=
  ∀ tenantId, resolveTenantFromToken host (some table) botToken = some tenantId →
    resolveTokenSync host (some table) tenantId = some botToken

/-- The row of the tenant decrypts to the token, which nobody else holds. -/
def HeldAlone (tenantId : String) : Prop :=
  (∃ stored, table.get? tenantId = some stored ∧ decryptValue host stored = some botToken) ∧
    (∀ other stored, other ≠ tenantId → table.get? other = some stored →
      candidateToken host stored ≠ botToken) ∧
    ∀ name, host.environ name ≠ some botToken

def TokenComplete : Prop :=
  ∀ tenantId, HeldAlone host table botToken tenantId →
    resolveTenantFromToken host (some table) botToken = some tenantId

/-- The first row that holds the token, unless it is that of the empty tenant id. -/
def namedRow : Option (String × String) :=
  (firstHolding host table botToken).filter (·.1 ≠ "")

/-- That row decrypts, or plaintext tokens are allowed. -/
def RowUsable : Prop :=
  ∀ row, namedRow host table botToken = some row →
    (decryptValue host row.2).isSome ∨ plaintextAllowed host

/-- Where no row names a tenant and the token is the default one of the environment, the
default tenant reads it from its own row or its own variable. -/
def DefaultAgrees : Prop :=
  namedRow host table botToken = none → host.environ "TELEGRAM_BOT_TOKEN" = some botToken →
    match table.get? "default" with
    | some stored => candidateToken host stored = botToken ∧
        ((decryptValue host stored).isSome ∨ plaintextAllowed host)
    | none => host.environ ("TELEGRAM_BOT_TOKEN_" ++ host.upper "default") ∈
        [none, some "", some botToken]

end

section
variable {host : TokenHost} {table : TokenTable} {botToken stored tenantId : String}

theorem resolveTenantFromToken_eq : resolveTenantFromToken host (some table) botToken =
    match namedRow host table botToken with
    | some row => some row.1
    | none => if host.environ "TELEGRAM_BOT_TOKEN" = some botToken then some "default" else none := by
  unfold resolveTenantFromToken namedRow
  cases hfirst : firstHolding host table botToken with
  | none => simp [hfirst]
  | some row =>
      by_cases hempty : row.1 = ""
      · simp [hfirst, Option.filter, hempty]
      · simp [hfirst, Option.filter, hempty]

theorem namedRow_spec {row : String × String} (h : namedRow host table botToken = some row) :
    table.get? row.1 = some row.2 ∧ candidateToken host row.2 = botToken ∧ row.1 ≠ "" := by
  obtain ⟨hfirst, hnamed⟩ := Option.filter_eq_some_iff.mp h
  refine ⟨Dict.get?_eq_some_iff.mpr (List.mem_of_find?_eq_some hfirst), ?_, by simpa using hnamed⟩
  simpa using List.find?_some hfirst

/-- A stored token is handed out as it is compared, if at all. -/
theorem storedToken_eq_some_iff : storedToken host stored = some botToken ↔
    candidateToken host stored = botToken ∧
      ((decryptValue host stored).isSome ∨ plaintextAllowed host) := by
  unfold storedToken candidateToken
  cases hdecrypt : decryptValue host stored with
  | some token => simp
  | none => by_cases hallowed : plaintextAllowed host <;> simp [hallowed]

theorem resolveTokenSync_of_row (h : table.get? tenantId = some stored) :
    resolveTokenSync host (some table) tenantId = storedToken host stored := by
  rw [resolveTokenSync, Option.bind_some, h]

theorem environmentToken_eq_iff (h : host.environ "TELEGRAM_BOT_TOKEN" = some botToken) :
    environmentToken host tenantId = some botToken ↔
      host.environ ("TELEGRAM_BOT_TOKEN_" ++ host.upper tenantId) ∈
        [none, some "", some botToken] := by
  unfold environmentToken envOr
  rw [h]
  cases host.environ ("TELEGRAM_BOT_TOKEN_" ++ host.upper tenantId) with
  | none => simp
  | some value =>
      by_cases hempty : value = ""
      · simp [hempty]
      · simp [hempty]

theorem tokenSound_iff :
    TokenSound host table botToken ↔
      RowUsable host table botToken ∧ DefaultAgrees host table botToken := by
  unfold TokenSound RowUsable DefaultAgrees
  rw [resolveTenantFromToken_eq]
  cases hrow : namedRow host table botToken with
  | some row =>
      obtain ⟨hget, hcandidate, -⟩ := namedRow_spec hrow
      simp only [Option.some.injEq, forall_eq', reduceCtorEq, false_imp_iff, and_true]
      rw [resolveTokenSync_of_row hget, storedToken_eq_some_iff]
      simp [hcandidate]
  | none =>
      simp only [reduceCtorEq, false_imp_iff, implies_true, true_and, true_imp_iff]
      by_cases hdefault : host.environ "TELEGRAM_BOT_TOKEN" = some botToken
      · simp only [hdefault, if_true, Option.some.injEq, forall_eq', true_imp_iff]
        cases hget : table.get? "default" with
        | some stored =>
            rw [resolveTokenSync_of_row hget, storedToken_eq_some_iff]
        | none =>
            rw [resolveTokenSync, Option.bind_some, hget]
            exact environmentToken_eq_iff hdefault
      · simp [hdefault]

/-- A token that one named tenant alone holds is resolved to that tenant. -/
theorem namedRow_of_heldAlone (h : HeldAlone host table botToken tenantId) (hnamed : tenantId ≠ "") :
    ∃ stored, namedRow host table botToken = some (tenantId, stored) := by
  obtain ⟨⟨stored, hget, hdecrypt⟩, halone, -⟩ := h
  have hmem := Dict.get?_eq_some_iff.mp hget
  have hcandidate : candidateToken host stored = botToken := by
    rw [candidateToken, hdecrypt]
    rfl
  cases hfirst : firstHolding host table botToken with
  | none =>
      have hnone := List.find?_eq_none.mp hfirst _ hmem
      exact absurd hcandidate (by simpa using hnone)
  | some row =>
      have hholds : candidateToken host row.2 = botToken := by simpa using List.find?_some hfirst
      have hrow := Dict.get?_eq_some_iff.mpr (List.mem_of_find?_eq_some hfirst)
      have hsame : row.1 = tenantId := by
        by_contra hother
        exact halone row.1 row.2 hother hrow hholds
      refine ⟨row.2, Option.filter_eq_some_iff.mpr ⟨?_, by simpa using hnamed⟩⟩
      rw [hfirst, ← hsame]

theorem tokenComplete_iff :
    TokenComplete host table botToken ↔ ¬ HeldAlone host table botToken "" := by
  constructor
  · intro h halone
    have hresolved := h "" halone
    rw [resolveTenantFromToken_eq] at hresolved
    split at hresolved
    · rename_i row hrow
      exact (namedRow_spec hrow).2.2 (Option.some.inj hresolved)
    · rw [if_neg (halone.2.2 _)] at hresolved
      cases hresolved
  · intro hnameless tenantId halone
    have hnamed : tenantId ≠ "" := fun heq => hnameless (heq ▸ halone)
    obtain ⟨stored, hrow⟩ := namedRow_of_heldAlone halone hnamed
    rw [resolveTenantFromToken_eq, hrow]

end

/-- Both lookups agree on a token exactly where the row that is found for it can be used,
the default token is the default tenant's, and the empty tenant id does not hold it alone. -/
theorem token_resolution_iff (host : TokenHost) (table : TokenTable) (botToken : String) :
    (TokenSound host table botToken ∧ TokenComplete host table botToken) ↔
      RowUsable host table botToken ∧ DefaultAgrees host table botToken ∧
        ¬ HeldAlone host table botToken "" := by
  rw [tokenSound_iff, tokenComplete_iff, and_assoc]

/-! ## A row that does not decrypt -/

/-- A production environment without tokens of its own. -/
def productionHost : TokenHost where
  environ := fun name => if name = "TRUEPRESENCE_ENV" then some "production" else none
  upper := id
  lower := id
  fernetDecrypt := fun _ => none

def plaintextTable : TokenTable := Dict.empty.set "client1" "123:abc"

theorem plaintext_token_resolved :
    resolveTenantFromToken productionHost (some plaintextTable) "123:abc" = some "client1" ∧
      resolveTokenSync productionHost (some plaintextTable) "client1" = none ∧
      ¬ TokenSound productionHost plaintextTable "123:abc" := by
  have hresolved :
      resolveTenantFromToken productionHost (some plaintextTable) "123:abc" = some "client1" := by
    decide +kernel
  have hrefused : resolveTokenSync productionHost (some plaintextTable) "client1" = none := by
    decide +kernel
  refine ⟨hresolved, hrefused, fun hsound => ?_⟩
  rw [hsound "client1" hresolved] at hrefused
  cases hrefused

end TruePresenceESE.Telegram
