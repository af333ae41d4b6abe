import AppFunctionsSdk.AppSdk.Initialize
import AppFunctionsSdk.Security.SecretProvider

/-!
# The bootstrap loop with the secret provider and the store client

The loop of `Initialize.lean` takes the success of each step as the answer of a pass.  Two of
the steps are coupled through the SDK's state, and this file runs them as the code does.
`initializeSecretProvider` replaces `sdk.secretProvider` by a new provider, made by
`NewSecretProvider` and set up by its `Initialize`.  `initializeStoreClient` reads the database
credentials through `sdk.secretProvider`, writes them into `sdk.config.Database` (the zero
credentials when the read fails, whose error is only logged) and returns the error of
`store.NewStoreClient` on that database.

`GetDatabaseCredentials` calls the provider's secret client without a `nil` check in secure
mode, and it reads the fields of a `nil` provider for every database type but Redis.  The loop
reaches the store client block only after the secret provider block has succeeded, and that
order is what keeps both reads safe.

* `codeBootstrap_refines` — the loop with the two steps as the code runs them sets the same
  flags, logs the same steps and returns the same result as the loop of `Initialize.lean` over
  the attempts it observes.
* `codeBootstrap_provider_ready` — every `GetDatabaseCredentials` call of a run is made on a
  provider that is set and, with security enabled, holds a secret client; after an
  `Initialize` that returns `nil`, so does `sdk.secretProvider`.
-/

namespace AppFunctionsSdk
namespace AppSdk

open Security

variable {σ : Type}

/-- The message of Go's panic on a `nil` pointer dereference. -/
def nilPointerDereference : String :=
  "runtime error: invalid memory address or nil pointer dereference"

/-- What the secret provider and store client steps read of `sdk.config` and the environment. -/
structure StoreSetup where
  /-- The value of `EDGEX_SECURITY_SECRET_STORE`. -/
  secretStoreEnv : String
  /-- `SecretStore.TokenFile`. -/
  tokenFile : String
  /-- `SecretStore.Authentication.AuthToken`. -/
  authToken : String
  /-- `Writable.InsecureSecrets`. -/
  insecureSecrets : List InsecureSecretsInfo
  /-- The constant `db.RedisDB`. -/
  redisDB : String
  /-- `Database.Type`. -/
  databaseType : String

/-- What the environment answers on one pass, down to the calls of the two steps. -/
structure PassAnswers (σ : Type) where
  /-- The registry steps of `initializeConfiguration` succeed. -/
  registryOk : Bool
  /-- The version Core Services report. -/
  coreServicesVersion : Option String
  /-- What `authTokenLoader.Load` reads from the token file. -/
  tokenLoad : Except String String
  /-- What `client.NewVault(...).Get(SecretStore)` makes of a configuration with an auth token. -/
  newVault : String → Except String (SecretClient σ)
  /-- The state of the secret store behind the client. -/
  store : σ
  /-- The error of `store.NewStoreClient` on the database with the given credentials. -/
  newStoreClient : Credentials → Except String Unit

/-- The fields of `AppFunctionsSDK` the two steps write, with the provider each
`GetDatabaseCredentials` call so far was made on. -/
structure SdkFields (σ : Type) where
  /-- `sdk.secretProvider`; `nil` is `none`. -/
  secretProvider : Option (SecretProvider σ)
  /-- `sdk.config.Database.Username` and `Password`. -/
  database : Credentials
  credentialCalls : List (Option (SecretProvider σ))

/-- The loop's flags and log of steps, with the SDK's fields. -/
structure Boot (σ : Type) where
  flags : BootState
  fields : SdkFields σ

/-- Before the first pass, with the credentials the configuration holds. -/
def Boot.start (database : Credentials) : Boot σ := ⟨BootState.init, ⟨none, database, []⟩⟩

/-! ### The two steps -/

section Steps

variable (setup : StoreSetup) (ans : PassAnswers σ)

/-- `initializeSecretProvider`: the provider it stores in `sdk.secretProvider`, and whether it
returns `nil`; its error is `secretProviderError`. -/
def initializeSecretProvider : SecretProvider σ × Bool :=
  (newSecretProvider setup.insecureSecrets).initializeSecretClient setup.secretStoreEnv
    setup.tokenFile setup.authToken ans.tokenLoad ans.newVault

/-- `sdk.secretProvider.GetDatabaseCredentials(sdk.config.Database)`.  On a `nil` provider the
method runs until it reads the provider's fields, which it does for every type but Redis, and Go
panics there.  The model returns that panic as the error `nilPointerDereference`, as
`getDatabaseCredentials` does for a missing client; `codeBootstrap_provider_ready` shows that no
call of the loop is made on such a provider. -/
def databaseCredentials : Option (SecretProvider σ) → Except String Credentials
  | some provider =>
    getDatabaseCredentials setup.redisDB setup.secretStoreEnv ⟨provider, ans.store, 0⟩
      setup.databaseType
  | none => if setup.databaseType = setup.redisDB then .ok ⟨"", ""⟩ else .error nilPointerDereference

/-- `initializeStoreClient`: the credentials it writes into `sdk.config.Database`, which are the
zero `Credentials` that `GetDatabaseCredentials` returns with an error, and the error of
`store.NewStoreClient` on the database with them, which it returns. -/
def initializeStoreClient (provider : Option (SecretProvider σ)) :
    Credentials × Except String Unit :=
  let credentials := match databaseCredentials setup ans provider with
    | .ok credentials => credentials
    | .error _ => ⟨"", ""⟩
  (credentials, ans.newStoreClient credentials)

/-- The secret provider step on the SDK's fields. -/
def secretProviderStep (fields : SdkFields σ) : SdkFields σ × Bool :=
  ({ fields with secretProvider := some (initializeSecretProvider setup ans).1 },
    (initializeSecretProvider setup ans).2)

/-- The store client step on the SDK's fields. -/
def storeClientStep (fields : SdkFields σ) : SdkFields σ × Bool :=
  ({ fields with
      database := (initializeStoreClient setup ans fields.secretProvider).1
      credentialCalls := fields.credentialCalls ++ [fields.secretProvider] },
    (initializeStoreClient setup ans fields.secretProvider).2.isOk)

end Steps

/-! ### The loop -/

/-- The next block, unless the pass has ended. -/
def thenBoot (r : Boot σ × Option Stop) (next : Boot σ → Boot σ × Option Stop) :
    Boot σ × Option Stop :=
  match r.2 with
  | none => next r.1
  | some stop => (r.1, some stop)

/-- A block that reads and writes only the loop's flags and log. -/
def Boot.lift (block : BootState → BootState × Option Stop) (b : Boot σ) : Boot σ × Option Stop :=
  (⟨(block b.flags).1, b.fields⟩, (block b.flags).2)

/-- `if !initialized { if err := step(); err != nil { ... }; initialized = true }`, for a step
that also writes the SDK's fields. -/
def initStageWith (dep : Dependency) (step : SdkFields σ → SdkFields σ × Bool) (onFailure : Stop)
    (b : Boot σ) : Boot σ × Option Stop :=
  if b.flags.initialized dep then (b, none)
  else
    (⟨(initStage dep (step b.fields).2 onFailure b.flags).1, (step b.fields).1⟩,
      (initStage dep (step b.fields).2 onFailure b.flags).2)

section CodeBootstrap

variable (useRegistry skipVersionCheck : Bool) (sdkVersion : String) (config : BootConfiguration)
  (setup : StoreSetup)

/-- The blocks of the loop body, the secret provider and store client steps writing the SDK's
fields. -/
def codeStages (ans : PassAnswers σ) : List (Boot σ → Boot σ × Option Stop) :=
  [Boot.lift (initStage .configuration (initializeConfiguration useRegistry ans.registryOk) .sleep),
    Boot.lift (initStage .loggingTarget (setLoggingTarget config).isOk .sleep),
    Boot.lift (checkStage .versionCheck
      (validateVersionMatch skipVersionCheck sdkVersion ans.coreServicesVersion)
      (.abort versionMismatchError)),
    initStageWith .secretProvider (secretProviderStep setup ans) (.abort secretProviderError),
    fun b => if config.storeAndForwardEnabled then
      initStageWith .storeClient (storeClientStep setup ans) .sleep b else (b, none),
    Boot.lift (checkStage .clients true .sleep)]

/-- One pass of the loop body: `none` when it reaches the `break`. -/
def codePass (ans : PassAnswers σ) (b : Boot σ) : Boot σ × Option Stop :=
  (codeStages useRegistry skipVersionCheck sdkVersion config setup ans).foldl thenBoot (b, none)

/-- The loop over the passes that start before the boot timeout, then the check after it. -/
def codeBootstrap : List (PassAnswers σ) → Boot σ → Boot σ × Except String Unit
  | [], b => (b, .error "bootstrap retry timed out")
  | ans :: rest, b =>
    let r := codePass useRegistry skipVersionCheck sdkVersion config setup ans b
    match r.2 with
    | none => (r.1, .ok ())
    | some .sleep => codeBootstrap rest r.1
    | some (.abort err) => (r.1, .error err)

/-- The provider the store client block of a pass started from `b` reads: the one an earlier
pass set up, or the one this pass's secret provider block makes. -/
def providerAtStoreClient (ans : PassAnswers σ) (b : Boot σ) : Option (SecretProvider σ) :=
  if b.flags.initialized .secretProvider then b.fields.secretProvider
  else some (initializeSecretProvider setup ans).1

/-- What the loop of `Initialize.lean` sees of a pass started from `b`. -/
def observedAttempt (ans : PassAnswers σ) (b : Boot σ) : Attempt :=
  ⟨ans.registryOk, ans.coreServicesVersion, (initializeSecretProvider setup ans).2,
    (initializeStoreClient setup ans (providerAtStoreClient setup ans b)).2.isOk⟩

/-- The attempts a run observes, pass by pass. -/
def observedAttempts : List (PassAnswers σ) → Boot σ → List Attempt
  | [], _ => []
  | ans :: rest, b => observedAttempt setup ans b ::
      observedAttempts rest (codePass useRegistry skipVersionCheck sdkVersion config setup ans b).1

end CodeBootstrap

/-! ### Blocks -/

/-- The loop's part of a block's result. -/
def Boot.flagsOf (r : Boot σ × Option Stop) : BootState × Option Stop := (r.1.flags, r.2)

@[simp] theorem Boot.lift_fields (block : BootState → BootState × Option Stop) (b : Boot σ) :
    (Boot.lift block b).1.fields = b.fields := rfl

theorem flagsOf_initStageWith (dep : Dependency) {step : SdkFields σ → SdkFields σ × Bool}
    (onFailure : Stop) {ok : Bool} (b : Boot σ)
    (hok : b.flags.initialized dep = false → (step b.fields).2 = ok) :
    Boot.flagsOf (initStageWith dep step onFailure b) = initStage dep ok onFailure b.flags := by
  unfold initStageWith
  cases hi : b.flags.initialized dep
  · rw [← hok hi]
    rfl
  · simp [Boot.flagsOf, initStage, hi]

theorem initStageWith_fields (dep : Dependency) (step : SdkFields σ → SdkFields σ × Bool)
    (onFailure : Stop) (b : Boot σ) :
    (initStageWith dep step onFailure b).1.fields =
      if b.flags.initialized dep then b.fields else (step b.fields).1 := by
  unfold initStageWith
  split_ifs <;> rfl

theorem foldl_thenBoot_stopped (stages : List (Boot σ → Boot σ × Option Stop)) (b : Boot σ)
    (stop : Stop) : stages.foldl thenBoot (b, some stop) = (b, some stop) := by
  induction stages with
  | nil => rfl
  | cons c stages ih => exact ih

/-- What every block keeps, started from a pass that goes on, holds at the end of a pass. -/
theorem foldl_thenBoot_preserves {Q : Boot σ × Option Stop → Prop}
    {stages : List (Boot σ → Boot σ × Option Stop)}
    (hkeep : ∀ c ∈ stages, ∀ b, Q (b, none) → Q (c b)) :
    ∀ r, Q r → Q (stages.foldl thenBoot r) := by
  induction stages with
  | nil => exact fun _ h => h
  | cons c stages ih =>
    have hrest := ih fun g hg => hkeep g (.tail c hg)
    rintro ⟨b, _ | stop⟩ hr
    · exact hrest _ (hkeep c (.head stages) b hr)
    · exact hrest _ hr

/-- Blocks that each act on the loop's part as the matching abstract block, on the states
where `P` holds and that `P` keeps while the pass goes on, make a pass that does. -/
theorem flagsOf_foldl_thenBoot {P : Boot σ → Prop} (stages : List (Boot σ → Boot σ × Option Stop))
    (blocks : List (BootState → BootState × Option Stop))
    (hsim : List.Forall₂ (fun c f => ∀ b, P b →
      Boot.flagsOf (c b) = f b.flags ∧ ((c b).2 = none → P (c b).1)) stages blocks) :
    ∀ r : Boot σ × Option Stop, (r.2 = none → P r.1) →
      Boot.flagsOf (stages.foldl thenBoot r) = blocks.foldl thenStage (Boot.flagsOf r) := by
  induction hsim with
  | nil => exact fun _ _ => rfl
  | cons hcf _ ih =>
    rintro ⟨b, _ | stop⟩ hr
    · obtain ⟨hflags, hP⟩ := hcf b (hr rfl)
      simp only [List.foldl_cons, thenBoot, Boot.flagsOf, thenStage] at hflags ⊢
      rw [← hflags]
      exact ih _ hP
    · simp only [List.foldl_cons, thenBoot, thenStage, foldl_thenBoot_stopped, Boot.flagsOf,
        foldl_thenStage_stopped]

/-! ### The secret provider block -/

section Pass

variable (useRegistry skipVersionCheck : Bool) (sdkVersion : String) (config : BootConfiguration)
  (setup : StoreSetup) (ans : PassAnswers σ)

/-- The first three blocks act on the loop's flags alone and leave the secret provider's flag as
it was. -/
theorem codeStages_take_three (b : Boot σ) :
    let r := ((codeStages useRegistry skipVersionCheck sdkVersion config setup ans).take 3).foldl
      thenBoot (b, none)
    r.1.fields = b.fields ∧ r.1.flags.initialized .secretProvider = b.flags.initialized .secretProvider := by
  refine foldl_thenBoot_preserves
    (Q := fun r => r.1.fields = b.fields ∧
      r.1.flags.initialized .secretProvider = b.flags.initialized .secretProvider) ?_ _ ⟨rfl, rfl⟩
  intro c hc b' hb'
  simp only [codeStages, List.take, List.mem_cons, List.mem_singleton, List.not_mem_nil,
    or_false] at hc
  obtain ⟨hfields, hflag⟩ := hb'
  dsimp only at hfields hflag
  rcases hc with rfl | rfl | rfl <;> exact ⟨hfields, by simp [Boot.lift, hflag]⟩

/-- The secret provider block, run after blocks that kept the fields and its flag, lets the
pass go on only with its flag set and the provider the pass observes. -/
theorem secretProviderStage_provider {b b₃ : Boot σ} (hfields : b₃.fields = b.fields)
    (hflag : b₃.flags.initialized .secretProvider = b.flags.initialized .secretProvider)
    (h : (initStageWith .secretProvider (secretProviderStep setup ans) (.abort secretProviderError)
      b₃).2 = none) :
    let r := initStageWith .secretProvider (secretProviderStep setup ans) (.abort secretProviderError) b₃
    r.1.flags.initialized .secretProvider ∧ r.1.fields.secretProvider = providerAtStoreClient setup ans b := by
  unfold initStageWith at h ⊢
  unfold providerAtStoreClient
  rw [← hflag, ← hfields]
  cases hi : b₃.flags.initialized .secretProvider
  · simp only [hi, Bool.false_eq_true, if_false, initStage_stop, initStage_initialized,
      Bool.false_or] at h ⊢
    split_ifs at h with hok
    exact ⟨by simpa using hok, rfl⟩
  · simp [hi]

/-- A pass that gets past the secret provider block has its flag set, and holds the provider the
pass observes. -/
theorem codeStages_take_four (b : Boot σ)
    (h : (((codeStages useRegistry skipVersionCheck sdkVersion config setup ans).take 4).foldl
      thenBoot (b, none)).2 = none) :
    let r := ((codeStages useRegistry skipVersionCheck sdkVersion config setup ans).take 4).foldl
      thenBoot (b, none)
    r.1.flags.initialized .secretProvider ∧
      r.1.fields.secretProvider = providerAtStoreClient setup ans b := by
  have hsplit : (codeStages useRegistry skipVersionCheck sdkVersion config setup ans).take 4 =
      (codeStages useRegistry skipVersionCheck sdkVersion config setup ans).take 3 ++
        [initStageWith .secretProvider (secretProviderStep setup ans) (.abort secretProviderError)] :=
    rfl
  have hthree := codeStages_take_three useRegistry skipVersionCheck sdkVersion config setup ans b
  rw [hsplit, List.foldl_append] at h ⊢
  generalize ((codeStages useRegistry skipVersionCheck sdkVersion config setup ans).take 3).foldl
    thenBoot (b, none) = r at h hthree ⊢
  rcases r with ⟨b₃, _ | stop⟩
  · exact secretProviderStage_provider setup ans hthree.1 hthree.2 h
  · exact absurd h (by simp [thenBoot])

/-- One pass as the code runs it acts on the flags and the log as the abstract pass of the
attempt it observes. -/
theorem codePass_refines (b : Boot σ) :
    Boot.flagsOf (codePass useRegistry skipVersionCheck sdkVersion config setup ans b) =
      bootstrapPass useRegistry skipVersionCheck sdkVersion config (observedAttempt setup ans b)
        b.flags := by
  have hfirst := flagsOf_foldl_thenBoot (P := fun _ => True)
    ((codeStages useRegistry skipVersionCheck sdkVersion config setup ans).take 4)
    ((passStages useRegistry skipVersionCheck sdkVersion config (observedAttempt setup ans b)).take 4)
    ?_ (b, none) fun _ => trivial
  · have hlast := flagsOf_foldl_thenBoot
      (P := fun b' => b'.fields.secretProvider = providerAtStoreClient setup ans b)
      ((codeStages useRegistry skipVersionCheck sdkVersion config setup ans).drop 4)
      ((passStages useRegistry skipVersionCheck sdkVersion config (observedAttempt setup ans b)).drop 4)
      ?_ _
      fun h => (codeStages_take_four useRegistry skipVersionCheck sdkVersion config setup ans b h).2
    · rw [codePass, bootstrapPass, ← List.take_append_drop 4 (codeStages _ _ _ _ _ ans),
        ← List.take_append_drop 4 (passStages _ _ _ _ _), List.foldl_append, List.foldl_append,
        hlast, hfirst]
      rfl
    · refine .cons (fun b' hb' => ⟨?_, fun _ => ?_⟩) (.cons (fun b' hb' => ⟨rfl, fun _ => hb'⟩) .nil)
      · dsimp only
        split_ifs
        · refine flagsOf_initStageWith _ _ b' fun _ => ?_
          simp only [storeClientStep, observedAttempt, hb']
        · rfl
      · dsimp only
        split_ifs
        · rw [initStageWith_fields]
          split_ifs <;> simpa [storeClientStep] using hb'
        · exact hb'
  · exact .cons (fun _ _ => ⟨rfl, fun _ => trivial⟩) <| .cons (fun _ _ => ⟨rfl, fun _ => trivial⟩) <|
      .cons (fun _ _ => ⟨rfl, fun _ => trivial⟩) <|
      .cons (fun b' _ => ⟨flagsOf_initStageWith _ _ b' fun _ => rfl, fun _ => trivial⟩) .nil

/-- A pass that finds the configuration installed, or installs it, leaves it installed. -/
theorem codePass_configured (b : Boot σ)
    (h : (b.flags.initialized .configuration || initializeConfiguration useRegistry ans.registryOk) =
      true) :
    (codePass useRegistry skipVersionCheck sdkVersion config setup ans b).1.flags.initialized
      .configuration := by
  have hflags : (codePass useRegistry skipVersionCheck sdkVersion config setup ans b).1.flags = _ :=
    congrArg Prod.fst (codePass_refines useRegistry skipVersionCheck sdkVersion config setup ans b)
  rw [hflags]
  exact bootstrapPass_configured useRegistry skipVersionCheck sdkVersion config _ h

/-- A pass whose configuration block fails stops there, with the failure logged and the SDK's
fields as they were. -/
theorem codePass_configuration_failed (b : Boot σ)
    (h : (b.flags.initialized .configuration || initializeConfiguration useRegistry ans.registryOk) =
      false) :
    codePass useRegistry skipVersionCheck sdkVersion config setup ans b =
      (⟨{ b.flags with calls := b.flags.calls ++ [(.configuration, false)] }, b.fields⟩, some .sleep) := by
  rw [Bool.or_eq_false_iff] at h
  simp [codePass, codeStages, thenBoot, Boot.lift, initStage, h.1, h.2, foldl_thenBoot_stopped]

end Pass

/-! ### Whole runs -/

section Runs

variable (useRegistry skipVersionCheck : Bool) (sdkVersion : String) (config : BootConfiguration)
  (setup : StoreSetup)

/-- The loop as the code runs it sets the same flags, logs the same steps and returns the same
result as the loop of `Initialize.lean` over the attempts it observes. -/
theorem codeBootstrap_refines : ∀ (answers : List (PassAnswers σ)) (b : Boot σ),
    ((codeBootstrap useRegistry skipVersionCheck sdkVersion config setup answers b).1.flags,
      (codeBootstrap useRegistry skipVersionCheck sdkVersion config setup answers b).2) =
    bootstrap useRegistry skipVersionCheck sdkVersion config
      (observedAttempts useRegistry skipVersionCheck sdkVersion config setup answers b) b.flags
  | [], _ => rfl
  | ans :: rest, b => by
    have hpass := codePass_refines useRegistry skipVersionCheck sdkVersion config setup ans b
    simp only [codeBootstrap, observedAttempts, bootstrap]
    rw [← hpass]
    rcases hr : (codePass useRegistry skipVersionCheck sdkVersion config setup ans b).2 with
      _ | _ | err
    · simp [Boot.flagsOf, hr]
    · simp only [Boot.flagsOf, hr]
      exact codeBootstrap_refines rest _
    · simp [Boot.flagsOf, hr]

/-- What every pass keeps, whatever it ends with, holds at the end of the loop. -/
theorem codeBootstrap_preserves {P : Boot σ → Prop}
    (hpass : ∀ ans b, P b → P (codePass useRegistry skipVersionCheck sdkVersion config setup ans b).1) :
    ∀ (answers : List (PassAnswers σ)) (b : Boot σ), P b →
      P (codeBootstrap useRegistry skipVersionCheck sdkVersion config setup answers b).1
  | [], _, h => h
  | ans :: rest, b, h => by
    simp only [codeBootstrap]
    rcases (codePass useRegistry skipVersionCheck sdkVersion config setup ans b).2 with _ | _ | err
    · exact hpass ans b h
    · exact codeBootstrap_preserves hpass rest _ (hpass ans b h)
    · exact hpass ans b h

end Runs

/-! ### The provider the credentials are read through -/

/-- A provider that is set and, with security enabled, holds a secret client. -/
def ProviderReady (setup : StoreSetup) (provider : Option (SecretProvider σ)) : Prop :=
  ∃ p, provider = some p ∧ (isSecurityEnabled setup.secretStoreEnv = true → p.secretClient.isSome)

/-- The secret provider is ready once its flag is set, and every credentials read so far was made
on a ready provider. -/
def ProvidersReady (setup : StoreSetup) (b : Boot σ) : Prop :=
  (b.flags.initialized .secretProvider → ProviderReady setup b.fields.secretProvider) ∧
    ∀ p ∈ b.fields.credentialCalls, ProviderReady setup p

section Ready

variable (setup : StoreSetup)

/-- A secret provider step that succeeds leaves a ready provider. -/
theorem initializeSecretProvider_ready (ans : PassAnswers σ)
    (h : (initializeSecretProvider setup ans).2 = true) :
    ProviderReady setup (some (initializeSecretProvider setup ans).1) := by
  refine ⟨_, rfl, fun hon => ?_⟩
  have hspec := (initializeSecretClient_spec setup.secretStoreEnv setup.tokenFile setup.authToken
    ans.tokenLoad ans.newVault (newSecretProvider setup.insecureSecrets)).2 hon
  obtain ⟨secretConfig, client, hc, hv⟩ := hspec.1.1 h
  rw [initializeSecretProvider, hspec.2 secretConfig client hc hv]
  rfl

/-- A block that leaves the secret provider's flag and the SDK's fields alone keeps the providers
ready. -/
theorem providersReady_lift {block : BootState → BootState × Option Stop}
    (hblock : ∀ s, (block s).1.initialized .secretProvider = s.initialized .secretProvider)
    {b : Boot σ} (h : ProvidersReady setup b) : ProvidersReady setup (Boot.lift block b).1 :=
  ⟨fun hsp => h.1 (by rwa [← hblock]), h.2⟩

theorem providersReady_secretProvider (ans : PassAnswers σ) {b : Boot σ}
    (h : ProvidersReady setup b) :
    ProvidersReady setup
      (initStageWith .secretProvider (secretProviderStep setup ans) (.abort secretProviderError) b).1 := by
  unfold initStageWith
  split_ifs with hi
  · exact h
  · refine ⟨fun hsp => ?_, h.2⟩
    simp only [initStage_initialized, hi, Bool.false_or, decide_True, Bool.true_and] at hsp
    exact initializeSecretProvider_ready setup ans hsp

/-- The store client block, run with the secret provider set up, reads the credentials through a
ready provider. -/
theorem providersReady_storeClient (ans : PassAnswers σ) {b : Boot σ}
    (h : ProvidersReady setup b) (hsp : b.flags.initialized .secretProvider) :
    ProvidersReady setup (initStageWith .storeClient (storeClientStep setup ans) .sleep b).1 ∧
      (initStageWith .storeClient (storeClientStep setup ans) .sleep b).1.flags.initialized
        .secretProvider := by
  unfold initStageWith
  split_ifs with hi
  · exact ⟨h, hsp⟩
  · refine ⟨⟨fun _ => h.1 hsp, fun p hp => ?_⟩, by simp [hsp]⟩
    simp only [storeClientStep, List.mem_append, List.mem_singleton] at hp
    rcases hp with hp | rfl
    exacts [h.2 p hp, h.1 hsp]

variable (useRegistry skipVersionCheck : Bool) (sdkVersion : String) (config : BootConfiguration)

/-- Every pass keeps the providers ready. -/
theorem codePass_providersReady (ans : PassAnswers σ) {b : Boot σ} (h : ProvidersReady setup b) :
    ProvidersReady setup (codePass useRegistry skipVersionCheck sdkVersion config setup ans b).1 := by
  rw [codePass, ← List.take_append_drop 4 (codeStages _ _ _ _ _ ans), List.foldl_append]
  have hfirst : ProvidersReady setup
      (((codeStages useRegistry skipVersionCheck sdkVersion config setup ans).take 4).foldl
        thenBoot (b, none)).1 := by
    refine foldl_thenBoot_preserves (Q := fun r => ProvidersReady setup r.1) ?_ _ h
    intro c hc b' hb'
    simp only [codeStages, List.take, List.mem_cons, List.mem_singleton, List.not_mem_nil,
      or_false] at hc
    rcases hc with rfl | rfl | rfl | rfl
    · exact providersReady_lift setup (fun s => by simp) hb'
    · exact providersReady_lift setup (fun s => by simp) hb'
    · exact providersReady_lift setup (fun s => rfl) hb'
    · exact providersReady_secretProvider setup ans hb'
  rcases hr : ((codeStages useRegistry skipVersionCheck sdkVersion config setup ans).take 4).foldl
      thenBoot (b, none) with ⟨b₄, _ | stop⟩
  · have hsp := (codeStages_take_four useRegistry skipVersionCheck sdkVersion config setup ans b
      (by rw [hr])).1
    rw [hr] at hfirst hsp
    refine (foldl_thenBoot_preserves
      (Q := fun r => ProvidersReady setup r.1 ∧ r.1.flags.initialized .secretProvider) ?_ _
      ⟨hfirst, hsp⟩).1
    intro c hc b' ⟨hb', hsp'⟩
    simp only [codeStages, List.drop, List.mem_cons, List.mem_singleton, List.not_mem_nil,
      or_false] at hc
    rcases hc with rfl | rfl
    · dsimp only
      split_ifs
      exacts [providersReady_storeClient setup ans hb' hsp', ⟨hb', hsp'⟩]
    · exact ⟨providersReady_lift setup (fun s => rfl) hb', hsp'⟩
  · rw [foldl_thenBoot_stopped]
    rwa [hr] at hfirst

/-- In every run, each `GetDatabaseCredentials` call is made on a provider that is set and, with
security enabled, holds a secret client; after an `Initialize` that returns `nil`,
`sdk.secretProvider` is such a provider. -/
theorem codeBootstrap_provider_ready (answers : List (PassAnswers σ)) (database : Credentials) :
    (∀ p ∈ (codeBootstrap useRegistry skipVersionCheck sdkVersion config setup answers
        (Boot.start database)).1.fields.credentialCalls, ProviderReady setup p) ∧
    ((codeBootstrap useRegistry skipVersionCheck sdkVersion config setup answers
        (Boot.start database)).2 = .ok () →
      ProviderReady setup (codeBootstrap useRegistry skipVersionCheck sdkVersion config setup
        answers (Boot.start database)).1.fields.secretProvider) := by
  have hinv := codeBootstrap_preserves useRegistry skipVersionCheck sdkVersion config setup
    (fun ans _ h => codePass_providersReady setup useRegistry skipVersionCheck sdkVersion config ans h)
    answers (Boot.start database) ⟨fun h => absurd h Bool.false_ne_true, fun _ h => nomatch h⟩
  refine ⟨hinv.2, fun hok => hinv.1 ?_⟩
  have href := codeBootstrap_refines useRegistry skipVersionCheck sdkVersion config setup answers
    (Boot.start database)
  rw [Prod.ext_iff] at href
  rw [href.2] at hok
  have hready := bootstrap_ready useRegistry skipVersionCheck sdkVersion config _ _ hok
  rw [← href.1] at hready
  exact hready.2.2.1

/-- A secret provider step fails only with security enabled, when the token file cannot be
loaded or the vault client cannot be made from the configuration it gives. -/
theorem initializeSecretProvider_false (ans : PassAnswers σ)
    (h : (initializeSecretProvider setup ans).2 = false) :
    isSecurityEnabled setup.secretStoreEnv = true ∧
      ∀ secretConfig, getSecretConfig setup.secretStoreEnv setup.tokenFile setup.authToken
        ans.tokenLoad = .ok secretConfig → (ans.newVault secretConfig).isOk = false := by
  have hspec := initializeSecretClient_spec setup.secretStoreEnv setup.tokenFile setup.authToken
    ans.tokenLoad ans.newVault (newSecretProvider setup.insecureSecrets)
  cases hon : isSecurityEnabled setup.secretStoreEnv
  · rw [initializeSecretProvider, hspec.1 hon] at h
    cases h
  · refine ⟨rfl, fun secretConfig hc => ?_⟩
    rcases hv : ans.newVault secretConfig with err | client
    · rfl
    · exact absurd (((hspec.2 hon).1.2 ⟨secretConfig, client, hc, hv⟩).symm.trans h) (by decide)

/-- Each attempt a run observes is what one of its passes answered, from the state it started
in. -/
theorem mem_observedAttempts {a : Attempt} :
    ∀ {answers : List (PassAnswers σ)} {b : Boot σ},
      a ∈ observedAttempts useRegistry skipVersionCheck sdkVersion config setup answers b →
        ∃ ans ∈ answers, ∃ b', a = observedAttempt setup ans b'
  | [], _, h => absurd h (List.not_mem_nil a)
  | ans :: rest, b, h => by
    rcases List.mem_cons.1 h with rfl | h
    · exact ⟨ans, List.mem_cons_self ans rest, b, rfl⟩
    · obtain ⟨ans', hans', b', rfl⟩ := mem_observedAttempts h
      exact ⟨ans', List.mem_cons_of_mem ans hans', b', rfl⟩

/-- `Initialize` ends with the secret provider's error only with security enabled, and only
after a pass whose token file could not be loaded or whose vault client could not be made: in
insecure mode it never does. -/
theorem codeBootstrap_secretProviderError (answers : List (PassAnswers σ)) (b : Boot σ)
    (h : (codeBootstrap useRegistry skipVersionCheck sdkVersion config setup answers b).2 =
      .error secretProviderError) :
    isSecurityEnabled setup.secretStoreEnv = true ∧ ∃ ans ∈ answers, ∀ secretConfig,
      getSecretConfig setup.secretStoreEnv setup.tokenFile setup.authToken ans.tokenLoad =
        .ok secretConfig → (ans.newVault secretConfig).isOk = false := by
  have href : (codeBootstrap useRegistry skipVersionCheck sdkVersion config setup answers b).2 =
      (bootstrap useRegistry skipVersionCheck sdkVersion config
        (observedAttempts useRegistry skipVersionCheck sdkVersion config setup answers b) b.flags).2 :=
    congrArg Prod.snd (codeBootstrap_refines useRegistry skipVersionCheck sdkVersion config setup answers b)
  rw [href] at h
  rcases bootstrap_error_explained useRegistry skipVersionCheck sdkVersion config _ _ _ h with
    h | ⟨a, ha, ⟨he, -⟩ | ⟨-, hsp⟩⟩
  · exact absurd h (by decide)
  · exact absurd he (by decide)
  · obtain ⟨ans, hans, b', rfl⟩ :=
      mem_observedAttempts setup useRegistry skipVersionCheck sdkVersion config ha
    obtain ⟨hon, hvault⟩ := initializeSecretProvider_false setup ans hsp
    exact ⟨hon, ans, hans, hvault⟩

end Ready

/-! ### Runs -/

/-- A secure service with a token file, over a MongoDB database. -/
def secureSetup : StoreSetup := ⟨"true", "/tmp/edgex/secrets/token.json", "", [], "redisdb", "mongodb"⟩

/-- A secret client that holds the database's credentials. -/
def credentialsClient : SecretClient Unit where
  getSecrets _ _ _ := .ok fun k =>
    if k = "username" then some "admin" else if k = "password" then some "secret" else none
  storeSecrets _ _ _ := .ok ()

/-- A pass in which every service answers. -/
def answeringPass : PassAnswers Unit :=
  ⟨true, some "1.2.0", .ok "token", fun _ => .ok credentialsClient, (), fun _ => .ok ()⟩

/-- The credentials are read once, through the client the secret provider step made. -/
example : (codeBootstrap false false "v1.2.0" fileLoggingConfig secureSetup [answeringPass]
    (Boot.start ⟨"", ""⟩)).1.fields.database = ⟨"admin", "secret"⟩ := rfl

/-- The same pass with the token file missing. -/
def tokenMissingPass : PassAnswers Unit :=
  { answeringPass with tokenLoad := .error "open /tmp/edgex/secrets/token.json: no such file" }

theorem codeBootstrap_secretProviderError_tokenMissing :
    (codeBootstrap false false "v1.2.0" fileLoggingConfig secureSetup [tokenMissingPass]
        (Boot.start ⟨"", ""⟩)).2 = .error secretProviderError ∧
      isSecurityEnabled secureSetup.secretStoreEnv = true ∧ ∃ ans ∈ [tokenMissingPass],
        ∀ secretConfig, getSecretConfig secureSetup.secretStoreEnv secureSetup.tokenFile
          secureSetup.authToken ans.tokenLoad = .ok secretConfig →
            (ans.newVault secretConfig).isOk = false := by
  have h : (codeBootstrap false false "v1.2.0" fileLoggingConfig secureSetup [tokenMissingPass]
      (Boot.start ⟨"", ""⟩)).2 = .error secretProviderError := rfl
  exact ⟨h, codeBootstrap_secretProviderError secureSetup false false "v1.2.0" fileLoggingConfig _ _ h⟩

end AppSdk
end AppFunctionsSdk
