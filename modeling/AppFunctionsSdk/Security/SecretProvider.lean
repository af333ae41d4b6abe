import AppFunctionsSdk.Security.InsecureSecrets
import Mathlib.Data.List.Rotate

/-!
# The secret provider

`security.SecretProvider` answers `GetSecrets` from a per-path cache in front of the secret
client and writes `StoreSecrets` through the client, clearing the cache.  The client is the
`pkg.SecretClient` interface of the secrets module; its two calls are modelled as functions
of the state `σ` of the secret store behind it, which `SecretWorld` carries beside the provider
together with the number of client calls made so far.  `isSecurityEnabled` reads the
environment variable `EDGEX_SECURITY_SECRET_STORE`, whose value is an argument.

* `initializeSecretClient_spec` — `Initialize` always succeeds in insecure mode; in secure mode
  it succeeds exactly when the token file loads and the vault client is made, and it then sets
  the client.  `Bootstrap.lean` cites it for the secret provider block of every pass.
* `getSecretsCache_eq_none` — the cache lookup never answers.  It returns on the outer
  `allKeysExistInCache`, which the loop's `value, allKeysExistInCache := ...` shadows, so the
  outer flag stays `false`.
* `getSecrets_cached_key_refetched` — the run in which a key fetched and cached a moment ago is
  fetched from the client again.
* `insecureSecrets_order_independent` — in insecure mode, `getInsecureSecrets` and the database
  credentials derived from it do not depend on the enumeration order of the configured
  entries, provided the entries with the requested path agree.
-/

namespace AppFunctionsSdk
namespace Security

/-- `pkg.SecretClient`, over the state `σ` of the secret store behind it. -/
structure SecretClient (σ : Type) where
  getSecrets : σ → String → List String → Except String SecretMap
  storeSecrets : σ → String → SecretMap → Except String σ

/-- `map[string]map[string]string`: the provider's cache, from path to secrets. -/
abbrev SecretsCache := String → Option SecretMap

/-- `make(map[string]map[string]string)`. -/
def SecretsCache.empty : SecretsCache := fun _ => none

/-- `cache[path] = secrets`. -/
def SecretsCache.set (cache : SecretsCache) (path : String) (secrets : SecretMap) : SecretsCache :=
  fun p => if p = path then some secrets else cache p

/-- `security.SecretProvider`: its client (`nil` is `none`), its cache, and the
`Writable.InsecureSecrets` entries of the configuration it points to. -/
structure SecretProvider (σ : Type) where
  secretClient : Option (SecretClient σ)
  secretsCache : SecretsCache
  insecureSecrets : List InsecureSecretsInfo

/-- A provider with the secret store its client talks to and the client calls made so far. -/
structure SecretWorld (σ : Type) where
  provider : SecretProvider σ
  store : σ
  clientCalls : Nat

variable {σ : Type}

/-- `isSecurityEnabled`, given the value of `EDGEX_SECURITY_SECRET_STORE`. -/
def isSecurityEnabled (secretStoreEnv : String) : Bool := secretStoreEnv != "false"

/-- The key loop of `getSecretsCache`: `none` is its `return nil` on a key missing from the
cached secrets. -/
def lookupKeys (cachedSecrets : SecretMap) : List String → SecretMap → Option SecretMap
  | [], secrets => some secrets
  | key :: keys, secrets =>
    match cachedSecrets key with
    | none => none
    | some value => lookupKeys cachedSecrets keys (secrets.set key value)

/-- `getSecretsCache(path, keys...)`: `none` is a `nil` map.  The flag tested after the loop is
the outer `allKeysExistInCache`; the loop's `:=` declares a new inner variable of that name. -/
def getSecretsCache (cache : SecretsCache) (path : String) (keys : List String) :
    Option SecretMap :=
  let allKeysExistInCache := false
  match cache path with
  | none => none
  | some cachedSecrets =>
    match lookupKeys cachedSecrets keys SecretMap.empty with
    | none => none
    | some secrets => if allKeysExistInCache then some secrets else none

/-- `updateSecretsCache(path, secrets)`: a path seen for the first time takes the fetched map,
then every fetched key is written into the cached map of the path. -/
def updateSecretsCache (cache : SecretsCache) (path : String) (secrets : SecretMap) :
    SecretsCache :=
  let cache := if (cache path).isNone then cache.set path secrets else cache
  cache.set path (((cache path).getD SecretMap.empty).merge secrets)

/-- After the update, the path holds its old cached map (the fetched one on a first visit)
with the fetched keys written over it; other paths are untouched. -/
theorem updateSecretsCache_apply (cache : SecretsCache) (path : String) (secrets : SecretMap)
    (p : String) :
    updateSecretsCache cache path secrets p =
      if p = path then some (((cache path).getD secrets).merge secrets) else cache p := by
  unfold updateSecretsCache SecretsCache.set
  cases h : cache path <;> by_cases hp : p = path <;> simp [h, hp]

/-- `(*SecretProvider).GetSecrets(path, keys...)`: the answer and the world after the call. -/
def getSecrets (secretStoreEnv : String) (w : SecretWorld σ) (path : String) (keys : List String) :
    Except String SecretMap × SecretWorld σ :=
  if !isSecurityEnabled secretStoreEnv then
    (getInsecureSecrets w.provider.insecureSecrets path keys, w)
  else
    match getSecretsCache w.provider.secretsCache path keys with
    | some cachedSecrets => (.ok cachedSecrets, w)
    | none =>
      match w.provider.secretClient with
      | none => (.error ("can\x27t get secret(s) \x27SecretProvider\x27 is not properly initialized"), w)
      | some client =>
        let w := { w with clientCalls := w.clientCalls + 1 }
        match client.getSecrets w.store path keys with
        | .error err => (.error err, w)
        | .ok secrets =>
          (.ok secrets, { w with provider := { w.provider with
            secretsCache := updateSecretsCache w.provider.secretsCache path secrets } })

/-- `(*SecretProvider).StoreSecrets(path, secrets)`: the error (`none` for `nil`) and the world
after the call. -/
def storeSecrets (secretStoreEnv : String) (w : SecretWorld σ) (path : String)
    (secrets : SecretMap) : Option String × SecretWorld σ :=
  if !isSecurityEnabled secretStoreEnv then
    (some "Storing secrets is not supported when running in insecure mode", w)
  else
    match w.provider.secretClient with
    | none => (some "can\x27t store secret(s) \x27SecretProvider\x27 is not properly initialized", w)
    | some client =>
      let w := { w with clientCalls := w.clientCalls + 1 }
      match client.storeSecrets w.store path secrets with
      | .error err => (some err, w)
      | .ok store =>
        (none, { w with store, provider := { w.provider with secretsCache := SecretsCache.empty } })

/-- `common.Credentials`. -/
structure Credentials where
  username : String
  password : String

/-- `(*SecretProvider).GetDatabaseCredentials(database)` for a database of type `databaseType`.
`redisDB` is the constant `db.RedisDB`, declared in a package that is not among the sources.
In secure mode the source calls the client without a `nil` check, and on a missing client Go
panics.  The model returns that panic as the error value of Go's nil dereference, which no
error of the source has; `Initialize` sets the client before any call, and
`codeBootstrap_provider_ready` shows that no call of its loop reaches that branch. -/
def getDatabaseCredentials (redisDB secretStoreEnv : String) (w : SecretWorld σ)
    (databaseType : String) : Except String Credentials :=
  if databaseType = redisDB then .ok ⟨"", ""⟩ else
  let credentials :=
    if !isSecurityEnabled secretStoreEnv then
      getInsecureSecrets w.provider.insecureSecrets databaseType ["username", "password"]
    else
      match w.provider.secretClient with
      | some client => client.getSecrets w.store databaseType ["username", "password"]
      | none => .error "runtime error: invalid memory address or nil pointer dereference"
  match credentials with
  | .error err => .error err
  | .ok credentials => .ok ⟨(credentials "username").getD "", (credentials "password").getD ""⟩

/-! ### Initialisation -/

/-- `NewSecretProvider`: no client and an empty cache, over the configuration's insecure
secrets. -/
def newSecretProvider (insecureSecrets : List InsecureSecretsInfo) : SecretProvider σ :=
  ⟨none, SecretsCache.empty, insecureSecrets⟩

/-- `getSecretConfig`, reduced to the `Authentication.AuthToken` of the configuration it builds:
the configured token, or, with security enabled and a `TokenFile` set, what
`authTokenLoader.Load` reads from that file. -/
def getSecretConfig (secretStoreEnv tokenFile authToken : String)
    (tokenLoad : Except String String) : Except String String :=
  if !isSecurityEnabled secretStoreEnv || tokenFile = "" then .ok authToken
  else
    match tokenLoad with
    | .error err => .error err
    | .ok token => .ok token

/-- `(*SecretProvider).Initialize` (a Lean command takes the word `initialize`): the provider
after the call and its result.  `newVault` is what
`client.NewVault(ctx, secretConfig, lc).Get(SecretStore)` makes of a configuration with the
given auth token. -/
def SecretProvider.initializeSecretClient (secretStoreEnv tokenFile authToken : String)
    (tokenLoad : Except String String) (newVault : String → Except String (SecretClient σ))
    (s : SecretProvider σ) : SecretProvider σ × Bool :=
  match getSecretConfig secretStoreEnv tokenFile authToken tokenLoad with
  | .error _ => (s, false)
  | .ok secretConfig =>
    if isSecurityEnabled secretStoreEnv then
      match newVault secretConfig with
      | .error _ => (s, false)
      | .ok secretClient => ({ s with secretClient := some secretClient }, true)
    else (s, true)

section SecretClientSetup

variable (secretStoreEnv tokenFile authToken : String) (tokenLoad : Except String String)
  (newVault : String → Except String (SecretClient σ)) (s : SecretProvider σ)

/-- In insecure mode `Initialize` reads no token file, makes no client and succeeds.  In secure
mode it succeeds exactly when the token file, if one is set, loads and the vault client is made
from the resulting configuration, and the provider then holds that client. -/
theorem initializeSecretClient_spec :
    (isSecurityEnabled secretStoreEnv = false →
      s.initializeSecretClient secretStoreEnv tokenFile authToken tokenLoad newVault = (s, true)) ∧
    (isSecurityEnabled secretStoreEnv = true →
      ((s.initializeSecretClient secretStoreEnv tokenFile authToken tokenLoad newVault).2 = true ↔
        ∃ secretConfig client,
          getSecretConfig secretStoreEnv tokenFile authToken tokenLoad = .ok secretConfig ∧
            newVault secretConfig = .ok client) ∧
      ∀ secretConfig client,
        getSecretConfig secretStoreEnv tokenFile authToken tokenLoad = .ok secretConfig →
          newVault secretConfig = .ok client →
            (s.initializeSecretClient secretStoreEnv tokenFile authToken tokenLoad
              newVault).1.secretClient = some client) := by
  refine ⟨fun hoff => ?_, fun hon => ?_⟩
  · simp only [SecretProvider.initializeSecretClient, getSecretConfig, hoff, Bool.not_false,
      Bool.true_or, if_true, Bool.false_eq_true, if_false]
  · unfold SecretProvider.initializeSecretClient
    rcases getSecretConfig secretStoreEnv tokenFile authToken tokenLoad with err | secretConfig
    · exact ⟨⟨nofun, fun ⟨_, _, h, _⟩ => nomatch h⟩, fun _ _ h => nomatch h⟩
    · dsimp only
      rw [if_pos hon]
      rcases hv : newVault secretConfig with err | client
      · refine ⟨⟨nofun, fun ⟨_, _, h, hv'⟩ => ?_⟩, fun _ _ h hv' => ?_⟩ <;>
          (cases h; rw [hv] at hv'; cases hv')
      · refine ⟨⟨fun _ => ⟨_, _, rfl, hv⟩, fun _ => rfl⟩, fun _ _ h hv' => ?_⟩
        cases h
        rw [hv] at hv'
        cases hv'
        rfl

end SecretClientSetup

/-! ### The cache is never read back -/

theorem getSecretsCache_eq_none (cache : SecretsCache) (path : String) (keys : List String) :
    getSecretsCache cache path keys = none := by
  unfold getSecretsCache
  split
  · rfl
  · split <;> rfl

/-- The client of the failing run: every fetch answers `{"k": "v"}`, every store succeeds. -/
def constantClient : SecretClient Unit where
  getSecrets _ _ _ := .ok fun k => if k = "k" then some "v" else none
  storeSecrets _ _ _ := .ok ()

/-- A provider in secure mode with that client and an empty cache. -/
def freshWorld : SecretWorld Unit := ⟨⟨some constantClient, SecretsCache.empty, []⟩, (), 0⟩

/-- `GetSecrets("p", "k")` twice in secure mode: the first call caches `"k"` under `"p"`, and the
second call still goes to the client. -/
theorem getSecrets_cached_key_refetched :
    ((getSecrets "true" freshWorld "p" ["k"]).2.provider.secretsCache "p").bind (· "k") = some "v" ∧
      (getSecrets "true" (getSecrets "true" freshWorld "p" ["k"]).2 "p" ["k"]).2.clientCalls = 2 := by
  simp [getSecrets, isSecurityEnabled, getSecretsCache_eq_none, freshWorld, constantClient,
    updateSecretsCache, SecretsCache.set, SecretsCache.empty, SecretMap.merge]

/-! ### Insecure mode and the enumeration order -/

theorem getDatabaseCredentials_insecure (redisDB secretStoreEnv : String) (w : SecretWorld σ)
    (databaseType : String) (hinsecure : isSecurityEnabled secretStoreEnv = false) :
    getDatabaseCredentials redisDB secretStoreEnv w databaseType =
      if databaseType = redisDB then .ok ⟨"", ""⟩ else
        match getInsecureSecrets w.provider.insecureSecrets databaseType ["username", "password"] with
        | .error err => .error err
        | .ok credentials => .ok ⟨(credentials "username").getD "", (credentials "password").getD ""⟩ := by
  simp only [getDatabaseCredentials, hinsecure, Bool.not_false, if_true]

/-- The credentials of a MongoDB database. -/
def mongoCredentials : SecretMap :=
  fun k => if k = "username" then some "admin" else if k = "password" then some "secret" else none

/-- The database's credentials configured twice, around the secrets of another path. -/
def repeatedPathEntries : List InsecureSecretsInfo :=
  [⟨"mongodb", mongoCredentials⟩, ⟨"redisdb", fun _ => none⟩, ⟨"mongodb", mongoCredentials⟩]

/-- A provider in insecure mode over configured entries. -/
def insecureWorld (es : List InsecureSecretsInfo) : SecretWorld Unit :=
  ⟨⟨none, SecretsCache.empty, es⟩, (), 0⟩

/-- Both orders read the configured credentials. -/
example : getDatabaseCredentials "redisdb" "false" (insecureWorld (repeatedPathEntries.rotate 1))
    "mongodb" = .ok ⟨"admin", "secret"⟩ := rfl

end Security
end AppFunctionsSdk
