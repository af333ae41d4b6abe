import AppFunctionsSdk.Util.Strings

/-!
# The start-up of `Initialize`

`Initialize` derives the service key from the profile, then sets up the service's dependencies
in a retry loop that runs until `Service.BootTimeout` has passed.  Each pass of the loop runs,
in order, `initializeConfiguration`, `setLoggingTarget`, `validateVersionMatch`,
`initializeSecretProvider`, `initializeStoreClient` (when store-and-forward is enabled) and
`initializeClients`.  A flag per step keeps a step that has succeeded from being run again.  A
failed configuration, logging target or store client sends the loop to sleep and retry; a
failed version check or secret provider ends `Initialize` with an error.

The answers of the registry, of Core Services, of the secret store and of the database are the
inputs of the model, one `Attempt` for every pass that starts before the timeout.  The later
steps read the configuration that `initializeConfiguration` installs, which is fixed once that
step has succeeded, so `setLoggingTarget` answers the same on every pass that reaches it.  The
configuration step's outcome is an answer here; `Startup.lean` runs it as the code does, with its
panic, and connects that loop to this one.

* `serviceKeyForProfile_injective` — on a service key with the placeholder, different profiles
  give different service keys.
* `bootstrap_correct` — a bootstrap that returns `nil` has set up the configuration, the
  logger, the secret provider and, with store-and-forward enabled, the store client; and every
  guarded step is retried only while it fails, and never run again once it has succeeded.
* `bootstrap_error_cases` — the loop ends with an error only by timing out, or on a pass whose
  version check or secret provider step failed; the version check, which no flag guards, runs
  again on every pass that gets past the logging target.
* `bootstrap_storeClient_after_secretProvider` — the store client step, which reads the database
  credentials through the secret provider, only ever runs after the secret provider step has
  succeeded.
-/

namespace AppFunctionsSdk
namespace AppSdk

open Util

/-! ### The service key -/

/-- `ProfileSuffixPlaceholder`. -/
def profileSuffixPlaceholder : String := "<profile>"

/-- The service key `Initialize` derives from `ServiceKey` and the profile flag. -/
def serviceKeyForProfile (serviceKey configProfile : String) : String :=
  if stringsContains serviceKey profileSuffixPlaceholder then
    if configProfile = "" then stringsReplace serviceKey profileSuffixPlaceholder ""
    else stringsReplace serviceKey profileSuffixPlaceholder ("-" ++ configProfile)
  else serviceKey

/-- On a key with the placeholder, the key is built from the profile: instances of one
executable started with different profiles register under different keys. -/
theorem serviceKeyForProfile_injective {serviceKey : String}
    (h : stringsContains serviceKey profileSuffixPlaceholder = true) :
    Function.Injective (serviceKeyForProfile serviceKey) := by
  obtain ⟨pre, post, hr⟩ := replaceFirst_of_infix (of_decide_eq_true h)
  have hkey : ∀ p, (serviceKeyForProfile serviceKey p).data =
      pre ++ (if p = "" then [] else '-' :: p.data) ++ post := by
    intro p
    unfold serviceKeyForProfile stringsReplace
    rw [if_pos h]
    split_ifs <;> exact hr _
  intro p q hpq
  have hmid := List.append_cancel_left (List.append_cancel_right
    ((hkey p).symm.trans ((congrArg String.data hpq).trans (hkey q))))
  by_cases hp : p = "" <;> by_cases hq : q = "" <;> simp only [hp, hq, if_true, if_false] at hmid
  · exact hp.trans hq.symm
  · exact nomatch hmid
  · exact nomatch hmid
  · exact String.ext (List.cons.inj hmid).2

theorem serviceKeyForProfile_injective_appService :
    stringsContains "AppService<profile>" profileSuffixPlaceholder = true ∧
      Function.Injective (serviceKeyForProfile "AppService<profile>") :=
  ⟨by decide, serviceKeyForProfile_injective (by decide)⟩

/-! ### The steps of a pass -/

/-- The steps of a pass of the loop, in the order it takes them. -/
inductive Dependency where
  /-- `initializeConfiguration`, guarded by `configurationInitialized`. -/
  | configuration
  /-- `setLoggingTarget` and the logging client, guarded by `loggerInitialized`. -/
  | loggingTarget
  /-- `validateVersionMatch`, run on every pass. -/
  | versionCheck
  /-- `initializeSecretProvider`, guarded by `secretProviderInitialized`. -/
  | secretProvider
  /-- `initializeStoreClient`, guarded by `databaseInitialized`. -/
  | storeClient
  /-- `initializeClients`, which cannot fail. -/
  | clients
deriving DecidableEq

/-- The steps a flag guards: all but the version check and `initializeClients`. -/
def Dependency.guarded : Dependency → Bool
  | .versionCheck => false
  | .clients => false
  | _ => true

/-- The `Logging` section of the configuration. -/
structure LoggingInfo where
  enableRemote : Bool
  file : String

/-- What a pass reads of `sdk.config` once `initializeConfiguration` has installed it. -/
structure BootConfiguration where
  logging : LoggingInfo
  /-- `Clients[name].Url()` of every configured client. -/
  clients : String → Option String
  /-- `Writable.StoreAndForward.Enabled`. -/
  storeAndForwardEnabled : Bool

/-- `setLoggingTarget`: the URL of the `Logging` client for remote logging, the log file
otherwise.  The API route appended to the URL is left out. -/
def setLoggingTarget (config : BootConfiguration) : Except String String :=
  if config.logging.enableRemote then
    match config.clients "Logging" with
    | none => .error "logging client configuration is missing"
    | some url => .ok url
  else .ok config.logging.file

/-- `validateVersionMatch`, with `coreServicesVersion` the `version` entry of the reply of Core
Services: `none` when the request, the decoding of the reply or the entry fails. -/
def validateVersionMatch (skipVersionCheck : Bool) (sdkVersion : String)
    (coreServicesVersion : Option String) : Bool :=
  if skipVersionCheck then true else
  let sdkVersionParts := stringsSplit sdkVersion '.'
  if sdkVersionParts.length < 3 then false else
  let major := stringsReplace (sdkVersionParts.getD 0 "") "v" ""
  if major = "0" then true else
  match coreServicesVersion with
  | none => false
  | some version =>
    let coreVersionParts := stringsSplit version '.'
    if coreVersionParts.length ≠ 3 then false else coreVersionParts.getD 0 "" = major

/-- `initializeConfiguration`: without the registry it installs the configuration read from the
file and cannot fail; with it, it succeeds when the registry steps do. -/
def initializeConfiguration (useRegistry registryOk : Bool) : Bool :=
  !useRegistry || registryOk

/-- What the environment answers on one pass of the loop. -/
structure Attempt where
  /-- The registry steps of `initializeConfiguration` succeed. -/
  registryOk : Bool
  /-- The version Core Services report. -/
  coreServicesVersion : Option String
  /-- `SecretProvider.Initialize` succeeds. -/
  secretProviderOk : Bool
  /-- `initializeStoreClient` succeeds. -/
  storeClientOk : Bool

/-- How a block ends a pass early: `goto ContinueWithSleep`, or a `return` of an error. -/
inductive Stop where
  | sleep
  | abort (err : String)

/-- The flags of the loop and the steps run so far, with their outcome. -/
structure BootState where
  /-- `configurationInitialized`, `loggerInitialized`, `secretProviderInitialized` and
  `databaseInitialized`, by step. -/
  initialized : Dependency → Bool
  calls : List (Dependency × Bool)

/-- Before the first pass: no flag set, no step run. -/
def BootState.init : BootState := ⟨fun _ => false, []⟩

/-- `if !initialized { if step fails { goto ContinueWithSleep or return }; initialized = true }`:
the state after the block, and `none` when the pass goes on. -/
def initStage (dep : Dependency) (ok : Bool) (onFailure : Stop) (s : BootState) :
    BootState × Option Stop :=
  if s.initialized dep then (s, none)
  else if ok then
    ({ initialized := fun d => d = dep || s.initialized d, calls := s.calls ++ [(dep, true)] }, none)
  else ({ s with calls := s.calls ++ [(dep, false)] }, some onFailure)

/-- A step run on every pass. -/
def checkStage (dep : Dependency) (ok : Bool) (onFailure : Stop) (s : BootState) :
    BootState × Option Stop :=
  ({ s with calls := s.calls ++ [(dep, ok)] }, if ok then none else some onFailure)

/-- The next block, unless the pass has ended. -/
def thenStage (r : BootState × Option Stop) (next : BootState → BootState × Option Stop) :
    BootState × Option Stop :=
  match r.2 with
  | none => next r.1
  | some stop => (r.1, some stop)

section Bootstrap

variable (useRegistry skipVersionCheck : Bool) (sdkVersion : String) (config : BootConfiguration)

/-- The blocks of the loop body, in order. -/
def passStages (a : Attempt) : List (BootState → BootState × Option Stop) :=
  [initStage .configuration (initializeConfiguration useRegistry a.registryOk) .sleep,
    initStage .loggingTarget (setLoggingTarget config).isOk .sleep,
    checkStage .versionCheck (validateVersionMatch skipVersionCheck sdkVersion a.coreServicesVersion)
      (.abort "core service\x27s version is not compatible with SDK\x27s version"),
    initStage .secretProvider a.secretProviderOk (.abort "unable to initialize secret provider"),
    fun s => if config.storeAndForwardEnabled then initStage .storeClient a.storeClientOk .sleep s
      else (s, none),
    checkStage .clients true .sleep]

/-- One pass of the loop body: `none` when it reaches the `break`. -/
def bootstrapPass (a : Attempt) (s : BootState) : BootState × Option Stop :=
  (passStages useRegistry skipVersionCheck sdkVersion config a).foldl thenStage (s, none)

/-- The loop over the passes that start before the boot timeout, then the check after it. -/
def bootstrap : List Attempt → BootState → BootState × Except String Unit
  | [], s => (s, .error "bootstrap retry timed out")
  | a :: as, s =>
    let r := bootstrapPass useRegistry skipVersionCheck sdkVersion config a s
    match r.2 with
    | none => (r.1, .ok ())
    | some .sleep => bootstrap as r.1
    | some (.abort err) => (r.1, .error err)

end Bootstrap

/-! ### Blocks -/

@[simp] theorem initStage_initialized (dep : Dependency) (ok : Bool) (onFailure : Stop)
    (s : BootState) (d : Dependency) :
    (initStage dep ok onFailure s).1.initialized d = (s.initialized d || (d = dep && ok)) := by
  unfold initStage
  by_cases hd : d = dep
  · subst hd
    split_ifs <;> simp_all
  · split_ifs <;> simp [hd]

@[simp] theorem initStage_stop (dep : Dependency) (ok : Bool) (onFailure : Stop) (s : BootState) :
    (initStage dep ok onFailure s).2 = if s.initialized dep || ok then none else some onFailure := by
  unfold initStage
  split_ifs <;> simp_all

@[simp] theorem checkStage_initialized (dep : Dependency) (ok : Bool) (onFailure : Stop)
    (s : BootState) : (checkStage dep ok onFailure s).1.initialized = s.initialized := rfl

@[simp] theorem checkStage_stop (dep : Dependency) (ok : Bool) (onFailure : Stop) (s : BootState) :
    (checkStage dep ok onFailure s).2 = if ok then none else some onFailure := rfl

theorem thenStage_none {r : BootState × Option Stop} (h : r.2 = none)
    (next : BootState → BootState × Option Stop) : thenStage r next = next r.1 := by
  rw [thenStage, h]

/-- A pass that has ended stays ended. -/
theorem foldl_thenStage_stopped (stages : List (BootState → BootState × Option Stop))
    (s : BootState) (stop : Stop) : stages.foldl thenStage (s, some stop) = (s, some stop) := by
  induction stages with
  | nil => rfl
  | cons f stages ih => exact ih

/-- What every block keeps, started from a pass that goes on, holds at the end of a pass. -/
theorem foldl_thenStage_preserves {Q : BootState × Option Stop → Prop}
    {stages : List (BootState → BootState × Option Stop)}
    (hkeep : ∀ f ∈ stages, ∀ s, Q (s, none) → Q (f s)) :
    ∀ r, Q r → Q (stages.foldl thenStage r) := by
  induction stages with
  | nil => exact fun _ h => h
  | cons f stages ih =>
    have hrest := ih fun g hg => hkeep g (.tail f hg)
    rintro ⟨s, _ | stop⟩ hr
    · exact hrest _ (hkeep f (.head stages) s hr)
    · exact hrest _ hr

/-- A pass that reaches its end has run, with success, a block that sets a flag. -/
theorem initialized_of_foldl_thenStage {stages : List (BootState → BootState × Option Stop)}
    {d : Dependency} (hkeep : ∀ f ∈ stages, ∀ s, s.initialized d → (f s).1.initialized d)
    {f : BootState → BootState × Option Stop} (hf : f ∈ stages)
    (hset : ∀ s, (f s).2 = none → (f s).1.initialized d) :
    ∀ s, (stages.foldl thenStage (s, none)).2 = none →
      (stages.foldl thenStage (s, none)).1.initialized d := by
  induction stages with
  | nil => exact absurd hf (List.not_mem_nil f)
  | cons g stages ih =>
    intro s
    have hkeep' := fun h hh => hkeep h (.tail g hh)
    have hg := hset s
    rw [List.foldl_cons, thenStage_none rfl]
    rcases hgs : g s with ⟨s', _ | stop⟩
    · rcases List.mem_cons.1 hf with rfl | hf
      · rw [hgs] at hg
        exact fun _ => foldl_thenStage_preserves (Q := fun r => r.1.initialized d)
          (fun h hh s => hkeep' h hh s) _ (hg rfl)
      · exact ih hkeep' hf s'
    · rw [foldl_thenStage_stopped]
      exact nofun

/-- A pass whose blocks never fail reaches its end. -/
theorem foldl_thenStage_none {stages : List (BootState → BootState × Option Stop)}
    (hall : ∀ f ∈ stages, ∀ s, (f s).2 = none) (s : BootState) :
    (stages.foldl thenStage (s, none)).2 = none :=
  foldl_thenStage_preserves (Q := fun r => r.2 = none) (fun f hf s _ => hall f hf s) _ rfl

/-! ### What a pass keeps -/

/-- The outcomes of the runs of one step, in order. -/
def BootState.outcomes (s : BootState) (dep : Dependency) : List Bool :=
  (s.calls.filter fun c => c.1 = dep).map Prod.snd

/-- The step has failed some number of times, followed by one success exactly when its flag is
set. -/
def RetriedUntilSuccess (s : BootState) (dep : Dependency) : Prop :=
  ∃ k, s.outcomes dep = List.replicate k false ++ if s.initialized dep then [true] else []

/-- What a bootstrap that returns `nil` has set up. -/
def Ready (config : BootConfiguration) (s : BootState) : Prop :=
  s.initialized .configuration ∧ s.initialized .loggingTarget ∧ s.initialized .secretProvider ∧
    (config.storeAndForwardEnabled → s.initialized .storeClient)

theorem Dependency.ne_of_guarded {d : Dependency} (hd : d.guarded) :
    Dependency.versionCheck ≠ d ∧ Dependency.clients ≠ d := by
  cases d <;> simp_all [Dependency.guarded]

theorem outcomes_append (s : BootState) (initialized : Dependency → Bool) (dep d : Dependency)
    (ok : Bool) : BootState.outcomes ⟨initialized, s.calls ++ [(dep, ok)]⟩ d =
      s.outcomes d ++ if dep = d then [ok] else [] := by
  by_cases h : dep = d <;> simp [BootState.outcomes, List.filter_append, h]

theorem initStage_retried (dep : Dependency) (ok : Bool) (onFailure : Stop) {s : BootState}
    {d : Dependency} (h : RetriedUntilSuccess s d) :
    RetriedUntilSuccess (initStage dep ok onFailure s).1 d := by
  obtain ⟨k, hk⟩ := h
  unfold initStage
  split_ifs with hi hok
  · exact ⟨k, hk⟩
  · refine ⟨k, ?_⟩
    rw [outcomes_append, hk]
    by_cases hd : dep = d
    · subst hd
      simp [hi]
    · simp [hd, Ne.symm hd]
  · refine ⟨if dep = d then k + 1 else k, ?_⟩
    rw [outcomes_append, hk]
    by_cases hd : dep = d
    · subst hd
      simp [hi, List.replicate_succ']
    · simp [hd]

theorem checkStage_retried (dep : Dependency) (ok : Bool) (onFailure : Stop) {s : BootState}
    {d : Dependency} (hd : dep ≠ d) (h : RetriedUntilSuccess s d) :
    RetriedUntilSuccess (checkStage dep ok onFailure s).1 d := by
  obtain ⟨k, hk⟩ := h
  exact ⟨k, by rw [checkStage, outcomes_append, hk, if_neg hd, List.append_nil]⟩

/-- A block that has not stopped the pass leaves its step initialised. -/
theorem initStage_initialized_of_stop {dep : Dependency} {ok : Bool} {onFailure : Stop}
    {s : BootState} (h : (initStage dep ok onFailure s).2 = none) :
    (initStage dep ok onFailure s).1.initialized dep := by
  rw [initStage_stop] at h
  split_ifs at h with hc
  simpa using hc

theorem initStage_sleep (dep : Dependency) (ok : Bool) (s : BootState) :
    (initStage dep ok .sleep s).2 = none ∨ (initStage dep ok .sleep s).2 = some .sleep := by
  rw [initStage_stop]
  split_ifs
  exacts [.inl rfl, .inr rfl]

/-- A block that cannot succeed, after one that can only sleep, stops the pass with its flag
unset. -/
theorem thenStage_initStage_false {r : BootState × Option Stop}
    (hr : r.2 = none ∨ r.2 = some .sleep) (dep : Dependency) (hdep : r.1.initialized dep = false) :
    ∃ s', thenStage r (initStage dep false .sleep) = (s', some .sleep) ∧ s'.initialized dep = false := by
  rcases hr with h | h
  · rw [thenStage_none h]
    exact ⟨_, Prod.ext rfl (by simp [hdep]), by simp [hdep]⟩
  · exact ⟨r.1, by rw [thenStage, h], hdep⟩

section BootstrapRuns

variable (useRegistry skipVersionCheck : Bool) (sdkVersion : String) (config : BootConfiguration)

theorem passStages_keep (a : Attempt) :
    ∀ f ∈ passStages useRegistry skipVersionCheck sdkVersion config a, ∀ s d,
      s.initialized d → (f s).1.initialized d := by
  intro f hf s d hs
  simp only [passStages, List.mem_cons, List.mem_singleton, List.not_mem_nil, or_false] at hf
  rcases hf with rfl | rfl | rfl | rfl | rfl | rfl
  all_goals try simp [hs]
  split_ifs <;> simp [hs]

theorem passStages_retried (a : Attempt) {d : Dependency} (hd : d.guarded) :
    ∀ f ∈ passStages useRegistry skipVersionCheck sdkVersion config a, ∀ s,
      RetriedUntilSuccess s d → RetriedUntilSuccess (f s).1 d := by
  intro f hf s hs
  simp only [passStages, List.mem_cons, List.mem_singleton, List.not_mem_nil, or_false] at hf
  rcases hf with rfl | rfl | rfl | rfl | rfl | rfl
  · exact initStage_retried _ _ _ hs
  · exact initStage_retried _ _ _ hs
  · exact checkStage_retried _ _ _ (Dependency.ne_of_guarded hd).1 hs
  · exact initStage_retried _ _ _ hs
  · dsimp only
    split_ifs
    exacts [initStage_retried _ _ _ hs, hs]
  · exact checkStage_retried _ _ _ (Dependency.ne_of_guarded hd).2 hs

/-- A pass that reaches its `break` leaves every step it needs set up. -/
theorem bootstrapPass_ready (a : Attempt) (s : BootState)
    (h : (bootstrapPass useRegistry skipVersionCheck sdkVersion config a s).2 = none) :
    Ready config (bootstrapPass useRegistry skipVersionCheck sdkVersion config a s).1 := by
  have hkeep := fun d f hf s => passStages_keep useRegistry skipVersionCheck sdkVersion config a f hf s d
  refine ⟨?_, ?_, ?_, fun hen => ?_⟩
  · exact initialized_of_foldl_thenStage (hkeep _) (.head _)
      (fun _ => initStage_initialized_of_stop) s h
  · exact initialized_of_foldl_thenStage (hkeep _) (.tail _ <| .head _)
      (fun _ => initStage_initialized_of_stop) s h
  · exact initialized_of_foldl_thenStage (hkeep _) (.tail _ <| .tail _ <| .tail _ <| .head _)
      (fun _ => initStage_initialized_of_stop) s h
  · refine initialized_of_foldl_thenStage (hkeep _)
      (.tail _ <| .tail _ <| .tail _ <| .tail _ <| .head _) ?_ s h
    intro s' hs'
    simp only [hen, if_true] at hs' ⊢
    exact initStage_initialized_of_stop hs'

/-- With every service answering, a pass reaches its `break`. -/
theorem bootstrapPass_none (hlog : (setLoggingTarget config).isOk = true) {a : Attempt}
    (hc : initializeConfiguration useRegistry a.registryOk = true)
    (hv : validateVersionMatch skipVersionCheck sdkVersion a.coreServicesVersion = true)
    (hsp : a.secretProviderOk = true) (hst : a.storeClientOk = true) (s : BootState) :
    (bootstrapPass useRegistry skipVersionCheck sdkVersion config a s).2 = none := by
  refine foldl_thenStage_none ?_ s
  intro f hf s'
  simp only [passStages, List.mem_cons, List.mem_singleton, List.not_mem_nil, or_false] at hf
  rcases hf with rfl | rfl | rfl | rfl | rfl | rfl
  all_goals try simp [hc, hlog, hv, hsp]
  split_ifs <;> simp [hst]

/-- While Core Services stay compatible and the secret provider initialises, a pass ends by
sleeping or reaches its `break`. -/
theorem bootstrapPass_sleep {a : Attempt}
    (hv : validateVersionMatch skipVersionCheck sdkVersion a.coreServicesVersion = true)
    (hsp : a.secretProviderOk = true) (s : BootState) :
    (bootstrapPass useRegistry skipVersionCheck sdkVersion config a s).2 = none ∨
      (bootstrapPass useRegistry skipVersionCheck sdkVersion config a s).2 = some .sleep := by
  refine foldl_thenStage_preserves (Q := fun r => r.2 = none ∨ r.2 = some .sleep) ?_ _ (.inl rfl)
  intro f hf s' _
  simp only [passStages, List.mem_cons, List.mem_singleton, List.not_mem_nil, or_false] at hf
  rcases hf with rfl | rfl | rfl | rfl | rfl | rfl
  · exact initStage_sleep _ _ _
  · exact initStage_sleep _ _ _
  · exact .inl (by simp [hv])
  · exact .inl (by simp [hsp])
  · dsimp only
    split_ifs
    exacts [initStage_sleep _ _ _, .inl rfl]
  · exact .inl rfl

/-- A failing logging target stops every pass at its second block, and leaves its flag unset. -/
theorem bootstrapPass_of_loggingTarget (hlog : (setLoggingTarget config).isOk = false)
    (a : Attempt) {s : BootState} (hs : s.initialized .loggingTarget = false) :
    (bootstrapPass useRegistry skipVersionCheck sdkVersion config a s).2 = some .sleep ∧
      (bootstrapPass useRegistry skipVersionCheck sdkVersion config a s).1.initialized
        .loggingTarget = false := by
  rw [bootstrapPass, passStages, hlog, List.foldl_cons, List.foldl_cons, thenStage_none (r := (s, none)) rfl]
  obtain ⟨s', hs', hflag⟩ := thenStage_initStage_false
    (initStage_sleep .configuration (initializeConfiguration useRegistry a.registryOk) s) .loggingTarget
    (by simp [hs])
  rw [hs', foldl_thenStage_stopped]
  exact ⟨rfl, hflag⟩

/-- A pass that finds the configuration installed, or installs it, leaves it installed. -/
theorem bootstrapPass_configured (a : Attempt) {s : BootState}
    (h : (s.initialized .configuration || initializeConfiguration useRegistry a.registryOk) = true) :
    (bootstrapPass useRegistry skipVersionCheck sdkVersion config a s).1.initialized .configuration := by
  rw [bootstrapPass, passStages, List.foldl_cons, thenStage_none (r := (s, none)) rfl]
  refine foldl_thenStage_preserves (Q := fun r => r.1.initialized .configuration)
    (fun f hf s' => passStages_keep useRegistry skipVersionCheck sdkVersion config a f (.tail _ hf) s' _)
    _ ?_
  simpa using h

theorem bootstrap_ready : ∀ (attempts : List Attempt) (s : BootState),
    (bootstrap useRegistry skipVersionCheck sdkVersion config attempts s).2 = .ok () →
      Ready config (bootstrap useRegistry skipVersionCheck sdkVersion config attempts s).1
  | [], _, h => nomatch h
  | a :: as, s, h => by
    simp only [bootstrap] at h ⊢
    cases hr : (bootstrapPass useRegistry skipVersionCheck sdkVersion config a s).2 with
    | none => exact bootstrapPass_ready useRegistry skipVersionCheck sdkVersion config a s hr
    | some stop =>
      rw [hr] at h
      cases stop with
      | sleep => exact bootstrap_ready as _ h
      | abort err => cases h

/-- What every pass keeps, whatever it ends with, holds at the end of the loop. -/
theorem bootstrap_preserves {P : BootState → Prop}
    (hpass : ∀ a s, P s → P (bootstrapPass useRegistry skipVersionCheck sdkVersion config a s).1) :
    ∀ (attempts : List Attempt) (s : BootState), P s →
      P (bootstrap useRegistry skipVersionCheck sdkVersion config attempts s).1
  | [], _, h => h
  | a :: as, s, h => by
    simp only [bootstrap]
    rcases (bootstrapPass useRegistry skipVersionCheck sdkVersion config a s).2 with _ | _ | err
    · exact hpass a s h
    · exact bootstrap_preserves hpass as _ (hpass a s h)
    · exact hpass a s h

theorem bootstrap_retried {d : Dependency} (hd : d.guarded) :
    ∀ (attempts : List Attempt) (s : BootState), RetriedUntilSuccess s d →
      RetriedUntilSuccess (bootstrap useRegistry skipVersionCheck sdkVersion config attempts s).1 d :=
  bootstrap_preserves useRegistry skipVersionCheck sdkVersion config fun a s h =>
    foldl_thenStage_preserves (Q := fun r => RetriedUntilSuccess r.1 d)
      (passStages_retried useRegistry skipVersionCheck sdkVersion config a hd) (s, none) h

/-- A bootstrap that returns `nil` has set up every step it needs, and each guarded step has
been run until it first succeeded and never after. -/
theorem bootstrap_correct (attempts : List Attempt) :
    ((bootstrap useRegistry skipVersionCheck sdkVersion config attempts BootState.init).2 = .ok () →
      Ready config (bootstrap useRegistry skipVersionCheck sdkVersion config attempts
        BootState.init).1) ∧
    ∀ d : Dependency, d.guarded →
      RetriedUntilSuccess (bootstrap useRegistry skipVersionCheck sdkVersion config attempts
        BootState.init).1 d :=
  ⟨bootstrap_ready useRegistry skipVersionCheck sdkVersion config attempts _,
    fun _ hd => bootstrap_retried useRegistry skipVersionCheck sdkVersion config hd attempts _
      ⟨0, rfl⟩⟩

end BootstrapRuns

/-! ### The store client after the secret provider

`initializeStoreClient` reads the database credentials through the secret provider, which calls
its client without a `nil` check in secure mode.  The client is set by the secret provider step,
so the order of the steps is what keeps that call safe.
-/

/-- Every run of the store client step in a log comes after a successful run of the secret
provider step. -/
def StoreClientAfterSecretProvider (calls : List (Dependency × Bool)) : Prop :=
  ∀ pre ok post, calls = pre ++ (.storeClient, ok) :: post → (.secretProvider, true) ∈ pre

/-- The order holds of the log, and a set secret provider flag was set by a successful run. -/
def SecretProviderFirst (s : BootState) : Prop :=
  StoreClientAfterSecretProvider s.calls ∧
    (s.initialized .secretProvider → (.secretProvider, true) ∈ s.calls)

/-- A step added to the log keeps the order when it is not the store client step, or when the
secret provider step has already succeeded. -/
theorem storeClientAfterSecretProvider_append {calls : List (Dependency × Bool)}
    (h : StoreClientAfterSecretProvider calls) (c : Dependency × Bool)
    (hc : c.1 = .storeClient → (.secretProvider, true) ∈ calls) :
    StoreClientAfterSecretProvider (calls ++ [c]) := by
  intro pre ok post heq
  rcases List.append_eq_append_iff.1 heq with ⟨a', rfl, ha'⟩ | ⟨c', rfl, hc'⟩
  · rcases a' with _ | ⟨y, a'⟩
    · obtain ⟨rfl, -⟩ := List.cons_eq_cons.1 ha'
      simpa using hc rfl
    · have := congrArg List.length ha'
      simp at this
  · rcases c' with _ | ⟨y, c''⟩
    · obtain ⟨rfl, -⟩ := List.cons_eq_cons.1 hc'
      simpa using hc rfl
    · obtain ⟨rfl, rfl⟩ := List.cons_eq_cons.1 hc'
      exact h pre ok c'' rfl

/-- A block keeps the order, where the store client block starts with the secret provider set
up. -/
theorem initStage_secretProviderFirst {dep : Dependency} {ok : Bool} {onFailure : Stop}
    {s : BootState} (h : SecretProviderFirst s)
    (hdep : dep = .storeClient → s.initialized .secretProvider) :
    SecretProviderFirst (initStage dep ok onFailure s).1 := by
  obtain ⟨horder, hflag⟩ := h
  have happend := storeClientAfterSecretProvider_append horder (dep, ok)
    fun hd => hflag (hdep hd)
  unfold initStage
  split_ifs with hi hok
  · exact ⟨horder, hflag⟩
  · subst hok
    refine ⟨happend, fun hsp => ?_⟩
    by_cases hd : Dependency.secretProvider = dep
    · subst hd
      exact List.mem_append_right _ (List.mem_singleton_self _)
    · have hsp : s.initialized .secretProvider := by simpa [hd] using hsp
      exact List.mem_append_left _ (hflag hsp)
  · rw [Bool.not_eq_true] at hok
    subst hok
    exact ⟨happend, fun hsp => List.mem_append_left _ (hflag hsp)⟩

theorem checkStage_secretProviderFirst {dep : Dependency} {ok : Bool} {onFailure : Stop}
    {s : BootState} (h : SecretProviderFirst s) (hdep : dep ≠ .storeClient) :
    SecretProviderFirst (checkStage dep ok onFailure s).1 :=
  ⟨storeClientAfterSecretProvider_append h.1 (dep, ok) (absurd · hdep),
    fun hsp => List.mem_append_left _ (h.2 hsp)⟩

section SecretProviderFirstRuns

variable (useRegistry skipVersionCheck : Bool) (sdkVersion : String) (config : BootConfiguration)

/-- A pass keeps the order: its store client block comes after its secret provider block. -/
theorem bootstrapPass_secretProviderFirst (a : Attempt) {s : BootState}
    (h : SecretProviderFirst s) :
    SecretProviderFirst (bootstrapPass useRegistry skipVersionCheck sdkVersion config a s).1 := by
  have hkeep := passStages_keep useRegistry skipVersionCheck sdkVersion config a
  rw [bootstrapPass, ← List.take_append_drop 4 (passStages _ _ _ _ a), List.foldl_append]
  have hfirst : ∀ f ∈ (passStages useRegistry skipVersionCheck sdkVersion config a).take 4,
      ∀ s, SecretProviderFirst s → SecretProviderFirst (f s).1 := by
    intro f hf s hs
    simp only [passStages, List.take, List.mem_cons, List.mem_singleton, List.not_mem_nil,
      or_false] at hf
    rcases hf with rfl | rfl | rfl | rfl
    · exact initStage_secretProviderFirst hs nofun
    · exact initStage_secretProviderFirst hs nofun
    · exact checkStage_secretProviderFirst hs nofun
    · exact initStage_secretProviderFirst hs nofun
  have hA := foldl_thenStage_preserves (Q := fun r => SecretProviderFirst r.1)
    (fun f hf s hs => hfirst f hf s hs) (s, none) h
  rcases hr : ((passStages useRegistry skipVersionCheck sdkVersion config a).take 4).foldl
      thenStage (s, none) with ⟨s₁, _ | stop⟩
  · have hsp : s₁.initialized .secretProvider := by
      have h4 : (((passStages useRegistry skipVersionCheck sdkVersion config a).take 4).foldl
          thenStage (s, none)).1.initialized .secretProvider :=
        initialized_of_foldl_thenStage (fun f hf s => hkeep f (List.mem_of_mem_take hf) s _)
          (f := initStage .secretProvider a.secretProviderOk
            (.abort "unable to initialize secret provider"))
          (.tail _ <| .tail _ <| .tail _ <| .head _) (fun _ => initStage_initialized_of_stop) s
          (by rw [hr])
      rwa [hr] at h4
    rw [hr] at hA
    refine (foldl_thenStage_preserves
      (Q := fun r => SecretProviderFirst r.1 ∧ r.1.initialized .secretProvider) ?_ _ ⟨hA, hsp⟩).1
    intro f hf s' ⟨hs', hsp'⟩
    have hmem := List.mem_of_mem_drop hf
    refine ⟨?_, hkeep f hmem s' _ hsp'⟩
    simp only [passStages, List.drop, List.mem_cons, List.mem_singleton, List.not_mem_nil,
      or_false] at hf
    rcases hf with rfl | rfl
    · dsimp only
      split_ifs
      exacts [initStage_secretProviderFirst hs' fun _ => hsp', hs']
    · exact checkStage_secretProviderFirst hs' nofun
  · rw [foldl_thenStage_stopped]
    rwa [hr] at hA

/-- The order holds over whole runs of the loop. -/
theorem bootstrap_secretProviderFirst :
    ∀ (attempts : List Attempt) (s : BootState), SecretProviderFirst s →
      SecretProviderFirst (bootstrap useRegistry skipVersionCheck sdkVersion config attempts s).1 :=
  bootstrap_preserves useRegistry skipVersionCheck sdkVersion config fun a _ h =>
    bootstrapPass_secretProviderFirst useRegistry skipVersionCheck sdkVersion config a h

/-- In every bootstrap, each run of the store client step comes after a successful run of the
secret provider step, in the same pass or an earlier one. -/
theorem bootstrap_storeClient_after_secretProvider (attempts : List Attempt) :
    StoreClientAfterSecretProvider
      (bootstrap useRegistry skipVersionCheck sdkVersion config attempts BootState.init).1.calls :=
  (bootstrap_secretProviderFirst useRegistry skipVersionCheck sdkVersion config attempts _
    ⟨fun pre _ _ h => absurd h.symm (List.append_ne_nil_of_right_ne_nil pre (List.cons_ne_nil _ _)),
      fun h => absurd h Bool.false_ne_true⟩).1

end SecretProviderFirstRuns

/-! ### How the loop fails -/

/-- The error of a pass whose version check fails. -/
def versionMismatchError : String :=
  "core service\x27s version is not compatible with SDK\x27s version"

/-- The error of a pass whose secret provider step fails. -/
def secretProviderError : String := "unable to initialize secret provider"

section BootstrapErrors

variable (useRegistry skipVersionCheck : Bool) (sdkVersion : String) (config : BootConfiguration)

/-- How a pass of the attempt `a` may stop: it goes on or sleeps, or it ends `Initialize` with the
version error after a failed version check, or with the secret provider error after a failed
secret provider step. -/
def StopExplained (a : Attempt) : Option Stop → Prop
  | some (.abort err) =>
    (err = versionMismatchError ∧
        validateVersionMatch skipVersionCheck sdkVersion a.coreServicesVersion = false) ∨
      (err = secretProviderError ∧ a.secretProviderOk = false)
  | _ => True

theorem stopExplained_of_sleep {a : Attempt} {r : Option Stop} (h : r = none ∨ r = some .sleep) :
    StopExplained skipVersionCheck sdkVersion a r := by
  rcases h with rfl | rfl <;> trivial

/-- Every block of a pass stops it only as `StopExplained` allows. -/
theorem bootstrapPass_stopExplained (a : Attempt) (s : BootState) :
    StopExplained skipVersionCheck sdkVersion a
      (bootstrapPass useRegistry skipVersionCheck sdkVersion config a s).2 := by
  refine foldl_thenStage_preserves (Q := fun r => StopExplained skipVersionCheck sdkVersion a r.2)
    ?_ (s, none) trivial
  intro f hf s' _
  simp only [passStages, List.mem_cons, List.mem_singleton, List.not_mem_nil, or_false] at hf
  rcases hf with rfl | rfl | rfl | rfl | rfl | rfl
  · exact stopExplained_of_sleep _ _ (initStage_sleep _ _ _)
  · exact stopExplained_of_sleep _ _ (initStage_sleep _ _ _)
  · rw [checkStage_stop]
    split_ifs with h
    · trivial
    · exact .inl ⟨rfl, by simpa using h⟩
  · rw [initStage_stop]
    split_ifs with h
    · trivial
    · exact .inr ⟨rfl, by simp_all⟩
  · dsimp only
    split_ifs
    exacts [stopExplained_of_sleep _ _ (initStage_sleep _ _ _), trivial]
  · trivial

/-- The loop ends with an error only by timing out, or with the error of a pass that stopped as
`StopExplained` allows. -/
theorem bootstrap_error_explained : ∀ (attempts : List Attempt) (s : BootState) (err : String),
    (bootstrap useRegistry skipVersionCheck sdkVersion config attempts s).2 = .error err →
      err = "bootstrap retry timed out" ∨
        ∃ a ∈ attempts, StopExplained skipVersionCheck sdkVersion a (some (.abort err))
  | [], _, _, h => .inl (by cases h; rfl)
  | a :: as, s, err, h => by
    have hpass := bootstrapPass_stopExplained useRegistry skipVersionCheck sdkVersion config a s
    simp only [bootstrap] at h
    cases hr : (bootstrapPass useRegistry skipVersionCheck sdkVersion config a s).2 with
    | none =>
      rw [hr] at h
      cases h
    | some stop =>
      rw [hr] at h hpass
      cases stop with
      | sleep =>
        rcases bootstrap_error_explained as _ err h with h | ⟨b, hb, hexp⟩
        · exact .inl h
        · exact .inr ⟨b, List.mem_cons_of_mem a hb, hexp⟩
      | abort err' =>
        cases h
        exact .inr ⟨a, List.mem_cons_self a as, hpass⟩

/-- A pass that starts with the configuration installed and the logging target set runs the
version check, and an incompatible version ends it with the version error. -/
theorem bootstrapPass_versionMismatch (a : Attempt) {s : BootState}
    (hc : s.initialized .configuration) (hl : s.initialized .loggingTarget)
    (hv : validateVersionMatch skipVersionCheck sdkVersion a.coreServicesVersion = false) :
    (bootstrapPass useRegistry skipVersionCheck sdkVersion config a s).2 =
      some (.abort versionMismatchError) := by
  simp [bootstrapPass, passStages, thenStage, initStage, checkStage, hc, hl, hv,
    foldl_thenStage_stopped, versionMismatchError]

/-- The loop ends with an error only by timing out, or on a pass whose version check failed, or
on a pass whose secret provider step failed.  No flag guards the version check: from any state
with the configuration installed and the logging target set, whatever passes came before, a pass
on which Core Services answer an incompatible version ends the loop with the version error. -/
theorem bootstrap_error_cases :
    (∀ (attempts : List Attempt) (s : BootState) (err : String),
      (bootstrap useRegistry skipVersionCheck sdkVersion config attempts s).2 = .error err →
        err = "bootstrap retry timed out" ∨
        (err = versionMismatchError ∧ ∃ a ∈ attempts,
          validateVersionMatch skipVersionCheck sdkVersion a.coreServicesVersion = false) ∨
        (err = secretProviderError ∧ ∃ a ∈ attempts, a.secretProviderOk = false)) ∧
    ∀ (a : Attempt) (attempts : List Attempt) (s : BootState),
      s.initialized .configuration → s.initialized .loggingTarget →
      validateVersionMatch skipVersionCheck sdkVersion a.coreServicesVersion = false →
        (bootstrap useRegistry skipVersionCheck sdkVersion config (a :: attempts) s).2 =
          .error versionMismatchError := by
  refine ⟨fun attempts s err h => ?_, fun a attempts s hc hl hv => ?_⟩
  · obtain h | ⟨a, ha, ⟨he, hv⟩ | ⟨he, hsp⟩⟩ :=
      bootstrap_error_explained useRegistry skipVersionCheck sdkVersion config attempts s err h
    exacts [.inl h, .inr (.inl ⟨he, a, ha, hv⟩), .inr (.inr ⟨he, a, ha, hsp⟩)]
  · simp only [bootstrap,
      bootstrapPass_versionMismatch useRegistry skipVersionCheck sdkVersion config a hc hl hv]

end BootstrapErrors

/-! ### Runs -/

/-- A configuration that logs to a file, with store-and-forward enabled. -/
def fileLoggingConfig : BootConfiguration := ⟨⟨false, "./logs/app.log"⟩, fun _ => none, true⟩

/-- A pass in which every service answers, Core Services reporting version `1.2.0`. -/
def answeringAttempt : Attempt := ⟨true, some "1.2.0", true, true⟩

/-- The pass with the database down. -/
def databaseDownAttempt : Attempt := { answeringAttempt with storeClientOk := false }

/-- The pass with Core Services not answering. -/
def coreDownAttempt : Attempt := { answeringAttempt with coreServicesVersion := none }

/-- The version check is not guarded by a flag: a first pass confirms the version and sleeps on
the database, and the second pass, with Core Services not answering, ends `Initialize` with the
version error. -/
theorem bootstrap_error_cases_versionRechecked :
    (bootstrap false false "v1.2.0" fileLoggingConfig [databaseDownAttempt, coreDownAttempt]
        BootState.init).2 = .error versionMismatchError ∧
      (versionMismatchError = "bootstrap retry timed out" ∨
        (versionMismatchError = versionMismatchError ∧ ∃ a ∈ [databaseDownAttempt, coreDownAttempt],
          validateVersionMatch false "v1.2.0" a.coreServicesVersion = false) ∨
        (versionMismatchError = secretProviderError ∧
          ∃ a ∈ [databaseDownAttempt, coreDownAttempt], a.secretProviderOk = false)) ∧
      let s := (bootstrapPass false false "v1.2.0" fileLoggingConfig databaseDownAttempt
        BootState.init).1
      s.initialized .configuration ∧ s.initialized .loggingTarget ∧
        validateVersionMatch false "v1.2.0" coreDownAttempt.coreServicesVersion = false ∧
        (bootstrap false false "v1.2.0" fileLoggingConfig [coreDownAttempt] s).2 =
          .error versionMismatchError := by
  have h : (bootstrap false false "v1.2.0" fileLoggingConfig [databaseDownAttempt, coreDownAttempt]
      BootState.init).2 = .error versionMismatchError := rfl
  have hcases := bootstrap_error_cases false false "v1.2.0" fileLoggingConfig
  exact ⟨h, hcases.1 _ _ _ h, rfl, rfl, rfl, hcases.2 _ _ _ rfl rfl rfl⟩

/-- Remote logging with no `Logging` client configured. -/
def remoteLoggingConfig : BootConfiguration := ⟨⟨true, ""⟩, fun _ => none, false⟩

end AppSdk
end AppFunctionsSdk
