import AppFunctionsSdk.AppSdk.Configuration
import AppFunctionsSdk.AppSdk.Bootstrap

/-!
# The bootstrap loop with the configuration step as the code runs it

The loops of `Initialize.lean` and `Bootstrap.lean` take the outcome of `initializeConfiguration`
as an answer of each pass.  This file runs the step as `Configuration.lean` models it.  Every
pass that finds the configuration not yet installed calls `initializeConfiguration` on the
configuration the loop passes by pointer, which keeps the overrides of the failed calls before
it.  A call that succeeds installs `sdk.config`, whose sections the later steps read from then
on.  A call can also panic: the loop sets `sdk.LoggingClient` only after the configuration is
installed, so during the calls it is what the caller set, and a configuration read from the
registry whose `Service.Port` is 0 is reported through it.  The panic ends `Initialize`.

* `startup_refines` — a run that does not panic is a run of `codeBootstrap`, over the answers of
  its passes with the outcome of their configuration blocks, and with the sections of the
  configuration it installs.
* `startup_panics_iff` — `Initialize` panics exactly when, with the registry in use and the
  logging client unset, one of the configuration calls it makes reads a configuration whose
  `Service.Port` is 0.
* `startup_ok_of_attempt` — without a panic, while Core Services stay compatible and the secret
  provider initialises, a pass on which the configuration call succeeds and the database can be
  set up lets `Initialize` return `nil`, when the configuration it installs has a working logging
  target.
* `startup_timeout_of_loggingTarget` — a run that ends with a configuration asking for remote
  logging without a `Logging` client has timed out.
* `startup_installs_registry_configuration` — with the registry in use, an `Initialize` that
  returns `nil` has installed the registry's configuration, read without `-overwrite`, or the one
  read back from the tree it pushed.
-/

namespace AppFunctionsSdk
namespace AppSdk

open Configuration (ConfigTools ConfigurationRun ConfigurationStruct RegistryClient RegistryConfig
  ReadsPortZero applyOverrides registryConfigOf)

/-- What `Initialize` reads that stays the same from pass to pass. -/
structure StartupSetting (R T : Type) where
  /-- The environment's overrides and the TOML encoding. -/
  tools : ConfigTools R T
  /-- `internal.ConfigRegistryStem`. -/
  configRegistryStem : String
  /-- `sdk.ServiceKey`, with the profile in it. -/
  serviceKey : String
  useRegistry : Bool
  overwriteConfig : Bool
  /-- `sdk.LoggingClient` is set when `Initialize` starts. -/
  loggingClient : Bool
  skipVersionCheck : Bool
  /-- `internal.SDKVersion`. -/
  sdkVersion : String
  /-- What the logging target and the store-and-forward check read of a configuration's other
  sections. -/
  bootConfigOf : R → BootConfiguration
  /-- What the secret provider and store client steps read of a configuration's other sections
  and of the environment. -/
  storeSetupOf : R → StoreSetup

/-- What the environment answers on one pass: the registry client `NewRegistryClient` makes for
the configuration step, and the answers of the later steps, whose `registryOk` is not read. -/
structure StartupAnswers (R T σ : Type) where
  newRegistryClient : RegistryConfig → Except String (RegistryClient R T)
  pass : PassAnswers σ

/-- The loop's flags and log with the SDK's fields, the configuration the pointer passed to
`initializeConfiguration` points to, and `sdk.config` as that step installs it; the store client
step's write of its `Database` credentials is kept in the fields. -/
structure StartupState (R σ : Type) where
  boot : Boot σ
  configuration : ConfigurationStruct R
  config : ConfigurationStruct R

variable {R T σ : Type}

section Startup

variable (env : StartupSetting R T)

/-- The configuration block's call of `initializeConfiguration`, on the pass's registry. -/
def configurationCall (ans : StartupAnswers R T σ) (configuration : ConfigurationStruct R) :
    ConfigurationRun R T :=
  Configuration.initializeConfiguration env.tools env.configRegistryStem env.serviceKey
    ans.newRegistryClient env.useRegistry env.overwriteConfig env.loggingClient configuration

/-- The configuration block: `none` for a panic, else whether the pass goes on, the configuration
the pointer then points to and `sdk.config`.  With its flag set the block makes no call. -/
def configurationStep (ans : StartupAnswers R T σ) (st : StartupState R σ) :
    Option (Bool × ConfigurationStruct R × ConfigurationStruct R) :=
  if st.boot.flags.initialized .configuration then some (true, st.configuration, st.config)
  else
    let run := configurationCall env ans st.configuration
    run.result.map fun
      | .ok config => (true, run.configuration, config)
      | .error _ => (false, run.configuration, st.config)

/-- A pass as `codePass` runs it, with the configuration block's outcome `ok` and the sections
of `config`. -/
def codePassWith (ans : StartupAnswers R T σ) (ok : Bool) (config : ConfigurationStruct R)
    (b : Boot σ) : Boot σ × Option Stop :=
  codePass env.useRegistry env.skipVersionCheck env.sdkVersion (env.bootConfigOf config.rest)
    (env.storeSetupOf config.rest) { ans.pass with registryOk := ok } b

/-- One pass of the loop body: the configuration block, then the later blocks on the sections of
`sdk.config` after it; `none` for a panic. -/
def startupPass (ans : StartupAnswers R T σ) (st : StartupState R σ) :
    Option (StartupState R σ × Option Stop) :=
  (configurationStep env ans st).map fun (ok, configuration, config) =>
    (⟨(codePassWith env ans ok config st.boot).1, configuration, config⟩,
      (codePassWith env ans ok config st.boot).2)

/-- The loop over the passes that start before the boot timeout, then the check after it;
`none` for a panic. -/
def startup : List (StartupAnswers R T σ) → StartupState R σ →
    Option (StartupState R σ × Except String Unit)
  | [], st => some (st, .error "bootstrap retry timed out")
  | ans :: rest, st =>
    match startupPass env ans st with
    | none => none
    | some (st', none) => some (st', .ok ())
    | some (st', some .sleep) => startup rest st'
    | some (st', some (.abort err)) => some (st', .error err)

/-- The configuration calls of a run that starts with the configuration not installed: the
pass's answers and the configuration each call is made on.  A call that fails leaves its
overrides for the next; the first call that does not fail is the last. -/
def configurationCalls : List (StartupAnswers R T σ) → ConfigurationStruct R →
    List (StartupAnswers R T σ × ConfigurationStruct R)
  | [], _ => []
  | ans :: rest, configuration =>
    (ans, configuration) :: match (configurationCall env ans configuration).result with
      | some (.error _) =>
        configurationCalls rest (configurationCall env ans configuration).configuration
      | _ => []

end Startup

/-! ### One pass -/

section Passes

variable (env : StartupSetting R T)

theorem configurationStep_of_configured (ans : StartupAnswers R T σ) {st : StartupState R σ}
    (h : st.boot.flags.initialized .configuration = true) :
    configurationStep env ans st = some (true, st.configuration, st.config) := by
  simp [configurationStep, h]

/-- A configuration call fails only with the registry in use. -/
theorem configurationCall_error {ans : StartupAnswers R T σ} {configuration : ConfigurationStruct R}
    {err : String} (h : (configurationCall env ans configuration).result = some (.error err)) :
    env.useRegistry = true := by
  cases hr : env.useRegistry
  · simp [configurationCall, Configuration.initializeConfiguration, hr] at h
  · rfl

theorem startupPass_of_configurationStep {ans : StartupAnswers R T σ} {st : StartupState R σ}
    {ok : Bool} {configuration config : ConfigurationStruct R}
    (h : configurationStep env ans st = some (ok, configuration, config)) :
    startupPass env ans st = some (⟨(codePassWith env ans ok config st.boot).1, configuration, config⟩,
      (codePassWith env ans ok config st.boot).2) := by
  simp [startupPass, h]

/-- A pass that does not panic is its configuration block followed by `codePassWith`. -/
theorem startupPass_eq_some {ans : StartupAnswers R T σ} {st st' : StartupState R σ}
    {stop : Option Stop} (h : startupPass env ans st = some (st', stop)) :
    ∃ ok, configurationStep env ans st = some (ok, st'.configuration, st'.config) ∧
      (st'.boot, stop) = codePassWith env ans ok st'.config st.boot := by
  rcases hs : configurationStep env ans st with _ | ⟨ok, configuration, config⟩
  · simp [startupPass, hs] at h
  · rw [startupPass_of_configurationStep env hs, Option.some.injEq, Prod.mk.injEq] at h
    obtain ⟨rfl, rfl⟩ := h
    exact ⟨ok, rfl, rfl⟩

/-- A pass that finds the configuration installed, or installs it, leaves it installed. -/
theorem codePassWith_configured (ans : StartupAnswers R T σ) (ok : Bool)
    (config : ConfigurationStruct R) (b : Boot σ)
    (h : (b.flags.initialized .configuration || initializeConfiguration env.useRegistry ok) = true) :
    (codePassWith env ans ok config b).1.flags.initialized .configuration :=
  codePass_configured _ _ _ _ _ _ b h

/-- A pass whose configuration block fails stops there, whatever sections it would read. -/
theorem codePassWith_failed (ans : StartupAnswers R T σ) (ok : Bool)
    (config config' : ConfigurationStruct R) (b : Boot σ)
    (h : (b.flags.initialized .configuration || initializeConfiguration env.useRegistry ok) = false) :
    codePassWith env ans ok config b = codePassWith env ans ok config' b := by
  rw [codePassWith, codePassWith, codePass_configuration_failed _ _ _ _ _ _ b h,
    codePass_configuration_failed _ _ _ _ _ _ b h]

/-- A pass whose configuration call fails sleeps at its configuration block, with the flag
unset and the pointer's target as the call left it. -/
theorem startupPass_of_error {ans : StartupAnswers R T σ} {st : StartupState R σ} {err : String}
    (hflag : st.boot.flags.initialized .configuration = false)
    (hres : (configurationCall env ans st.configuration).result = some (.error err)) :
    startupPass env ans st = some
      (⟨⟨{ st.boot.flags with calls := st.boot.flags.calls ++ [(.configuration, false)] },
          st.boot.fields⟩, (configurationCall env ans st.configuration).configuration, st.config⟩,
        some .sleep) := by
  have hfailed :
      (st.boot.flags.initialized .configuration || initializeConfiguration env.useRegistry false) =
        false := by
    simp [hflag, initializeConfiguration, configurationCall_error env hres]
  have hstep : configurationStep env ans st =
      some (false, (configurationCall env ans st.configuration).configuration, st.config) := by
    simp [configurationStep, hflag, hres]
  rw [startupPass_of_configurationStep env hstep, codePassWith,
    codePass_configuration_failed _ _ _ _ _ _ _ hfailed]

/-- A pass ends as the abstract pass ends on the attempt it observes. -/
theorem codePassWith_snd (ans : StartupAnswers R T σ) (ok : Bool) (config : ConfigurationStruct R)
    (b : Boot σ) :
    (codePassWith env ans ok config b).2 = (bootstrapPass env.useRegistry env.skipVersionCheck
      env.sdkVersion (env.bootConfigOf config.rest)
      (observedAttempt (env.storeSetupOf config.rest) { ans.pass with registryOk := ok } b) b.flags).2 :=
  congrArg Prod.snd (codePass_refines _ _ _ _ _ _ b)

/-- A failing logging target stops every pass at its second block, and leaves its flag unset. -/
theorem codePassWith_loggingTarget (ans : StartupAnswers R T σ) (ok : Bool)
    {config : ConfigurationStruct R} {b : Boot σ}
    (hlog : (setLoggingTarget (env.bootConfigOf config.rest)).isOk = false)
    (hs : b.flags.initialized .loggingTarget = false) :
    (codePassWith env ans ok config b).2 = some .sleep ∧
      (codePassWith env ans ok config b).1.flags.initialized .loggingTarget = false := by
  obtain ⟨hsleep, hflag⟩ := bootstrapPass_of_loggingTarget env.useRegistry env.skipVersionCheck
    env.sdkVersion _ hlog (observedAttempt (env.storeSetupOf config.rest)
      { ans.pass with registryOk := ok } b) hs
  rw [← codePass_refines] at hsleep hflag
  exact ⟨hsleep, hflag⟩

end Passes

/-! ### Whole runs -/

section Runs

variable (env : StartupSetting R T)

/-- A pass that leaves the configuration installed, followed by runs that keep an installed
configuration, keeps the pass's. -/
theorem startup_cons_of_configured {ans : StartupAnswers R T σ} {rest : List (StartupAnswers R T σ)}
    {st : StartupState R σ} {ok : Bool} {configuration config : ConfigurationStruct R}
    (hstep : configurationStep env ans st = some (ok, configuration, config))
    (hflag : (codePassWith env ans ok config st.boot).1.flags.initialized .configuration)
    (hrest : ∀ st₁ : StartupState R σ, st₁.boot.flags.initialized .configuration = true →
      ∃ st' res, startup env rest st₁ = some (st', res) ∧ st'.config = st₁.config) :
    ∃ st' res, startup env (ans :: rest) st = some (st', res) ∧ st'.config = config := by
  simp only [startup, startupPass_of_configurationStep env hstep]
  rcases (codePassWith env ans ok config st.boot).2 with _ | _ | err
  · exact ⟨_, _, rfl, rfl⟩
  · exact hrest _ hflag
  · exact ⟨_, _, rfl, rfl⟩

/-- Once the configuration is installed, a run no longer panics and keeps `sdk.config`. -/
theorem startup_of_configured : ∀ (inputs : List (StartupAnswers R T σ)) (st : StartupState R σ),
    st.boot.flags.initialized .configuration = true →
      ∃ st' res, startup env inputs st = some (st', res) ∧ st'.config = st.config
  | [], st, _ => ⟨st, _, rfl, rfl⟩
  | _ :: rest, _, h =>
    startup_cons_of_configured env (configurationStep_of_configured env _ h)
      (codePassWith_configured env _ _ _ _ (by simp [h])) (startup_of_configured rest)

/-- A run whose first configuration call succeeds installs what it returns, and no later pass
panics. -/
theorem startup_of_ok_call (rest : List (StartupAnswers R T σ)) {ans : StartupAnswers R T σ}
    {st : StartupState R σ} {config : ConfigurationStruct R}
    (hflag : st.boot.flags.initialized .configuration = false)
    (hres : (configurationCall env ans st.configuration).result = some (.ok config)) :
    ∃ st' res, startup env (ans :: rest) st = some (st', res) ∧ st'.config = config := by
  have hstep : configurationStep env ans st =
      some (true, (configurationCall env ans st.configuration).configuration, config) := by
    simp [configurationStep, hflag, hres]
  exact startup_cons_of_configured env hstep
    (codePassWith_configured env _ _ _ _ (by simp [initializeConfiguration]))
    (startup_of_configured env rest)

theorem startup_config_of_configured {inputs : List (StartupAnswers R T σ)}
    {st st' : StartupState R σ} {res : Except String Unit}
    (h : st.boot.flags.initialized .configuration = true)
    (hrun : startup env inputs st = some (st', res)) : st'.config = st.config := by
  obtain ⟨st'', res'', hrun', hconfig⟩ := startup_of_configured env inputs st h
  rw [hrun] at hrun'
  cases hrun'
  exact hconfig

/-- The first pass of a run that ends with `sdk.config` equal to `config` runs as it does on
the sections of `config`: it has stopped at its configuration block, or `config` is installed. -/
theorem codePassWith_final {ans : StartupAnswers R T σ} {rest : List (StartupAnswers R T σ)}
    {st st₁ st' : StartupState R σ} {ok : Bool} {stop : Option Stop} {res : Except String Unit}
    (hcode : (st₁.boot, stop) = codePassWith env ans ok st₁.config st.boot)
    (hrun : startup env rest st₁ = some (st', res)) :
    codePassWith env ans ok st'.config st.boot = (st₁.boot, stop) := by
  cases hc : (st.boot.flags.initialized .configuration || initializeConfiguration env.useRegistry ok)
  · rw [hcode, codePassWith_failed env ans ok _ _ st.boot hc]
  · have hflag : st₁.boot.flags.initialized .configuration := by
      rw [show st₁.boot = _ from congrArg Prod.fst hcode]
      exact codePassWith_configured env ans ok _ st.boot hc
    rw [startup_config_of_configured env hflag hrun, hcode]

/-- A run that does not panic is a run of `codeBootstrap`: over its passes' answers, with the
outcome of each configuration block for the registry's, and with the sections of the
configuration it ends with.  Before that configuration is installed, the passes stop at their
configuration block, which reads no section. -/
theorem startup_refines : ∀ (inputs : List (StartupAnswers R T σ)) (st : StartupState R σ),
    startup env inputs st = none ∨
      ∃ (st' : StartupState R σ) (res : Except String Unit) (oks : List Bool),
        startup env inputs st = some (st', res) ∧
        oks.length = inputs.length ∧
        (st'.boot, res) = codeBootstrap env.useRegistry env.skipVersionCheck env.sdkVersion
          (env.bootConfigOf st'.config.rest) (env.storeSetupOf st'.config.rest)
          (List.zipWith (fun ans ok => { ans.pass with registryOk := ok }) inputs oks) st.boot
  | [], st => .inr ⟨st, _, [], rfl, rfl, rfl⟩
  | ans :: rest, st => by
    rcases hp : startupPass env ans st with _ | ⟨st₁, stop⟩
    · exact .inl (by simp [startup, hp])
    obtain ⟨ok, -, hcode⟩ := startupPass_eq_some env hp
    have hcode' := hcode
    unfold codePassWith at hcode'
    rcases stop with _ | _ | err
    · exact .inr ⟨st₁, .ok (), ok :: rest.map fun _ => true, by simp [startup, hp], by simp,
        by simp only [List.zipWith_cons_cons, codeBootstrap, ← hcode']⟩
    · rcases startup_refines rest st₁ with hnone | ⟨st', res, oks, hrun, hlen, hboot⟩
      · exact .inl (by simp [startup, hp, hnone])
      · have hfinal := codePassWith_final env hcode hrun
        unfold codePassWith at hfinal
        exact .inr ⟨st', res, ok :: oks, by simp [startup, hp, hrun], by simp [hlen],
          by simp only [List.zipWith_cons_cons, codeBootstrap, hfinal]; exact hboot⟩
    · exact .inr ⟨st₁, .error err, ok :: rest.map fun _ => true, by simp [startup, hp], by simp,
        by simp only [List.zipWith_cons_cons, codeBootstrap, ← hcode']⟩

/-- From a start with the configuration not installed, a run panics exactly when one of its
configuration calls does. -/
theorem startup_eq_none_iff : ∀ (inputs : List (StartupAnswers R T σ)) (st : StartupState R σ),
    st.boot.flags.initialized .configuration = false →
      (startup env inputs st = none ↔ ∃ p ∈ configurationCalls env inputs st.configuration,
        (configurationCall env p.1 p.2).result = none)
  | [], _, _ => by simp [startup, configurationCalls]
  | ans :: rest, st, hflag => by
    match hres : (configurationCall env ans st.configuration).result with
    | none =>
      simp [startup, startupPass, configurationStep, configurationCalls, hflag, hres]
    | some (.error err) =>
      simp only [startup, startupPass_of_error env hflag hres]
      exact (startup_eq_none_iff rest _ (by exact hflag)).trans (by simp [configurationCalls, hres])
    | some (.ok config) =>
      obtain ⟨st', res, hrun, -⟩ := startup_of_ok_call env rest hflag hres
      simp [hrun, configurationCalls, hres]

/-- `Initialize` panics exactly when, with the registry in use and the logging client unset, one
of the configuration calls it makes reads from the registry a configuration whose `Service.Port`
is 0. -/
theorem startup_panics_iff (inputs : List (StartupAnswers R T σ)) (st : StartupState R σ)
    (hflag : st.boot.flags.initialized .configuration = false) :
    startup env inputs st = none ↔
      env.useRegistry = true ∧ env.loggingClient = false ∧
        ∃ p ∈ configurationCalls env inputs st.configuration,
          ReadsPortZero env.tools env.configRegistryStem env.serviceKey p.1.newRegistryClient
            env.overwriteConfig p.2 := by
  simp only [startup_eq_none_iff env inputs st hflag, configurationCall,
    Configuration.initializeConfiguration_port_zero_panics]
  exact ⟨fun ⟨p, hp, huse, hlog, hreads⟩ => ⟨huse, hlog, p, hp, hreads⟩,
    fun ⟨huse, hlog, p, hp, hreads⟩ => ⟨p, hp, huse, hlog, hreads⟩⟩

/-- While Core Services stay compatible and the secret provider initialises, and no
configuration call panics, a pass on which the configuration call succeeds and the database can
be set up lets `Initialize` return `nil`, when the configuration it installs has a working logging
target. -/
theorem startup_ok_of_attempt : ∀ (inputs : List (StartupAnswers R T σ)) (st : StartupState R σ),
    (∀ ans ∈ inputs, ∀ configuration, (configurationCall env ans configuration).result ≠ none) →
    (∀ ans ∈ inputs,
      validateVersionMatch env.skipVersionCheck env.sdkVersion ans.pass.coreServicesVersion ∧
        ∀ config : ConfigurationStruct R,
          (initializeSecretProvider (env.storeSetupOf config.rest) ans.pass).2) →
    (∃ ans ∈ inputs, (∀ configuration, ∃ config,
        (configurationCall env ans configuration).result = some (.ok config)) ∧
      ∀ (config : ConfigurationStruct R) provider,
        (initializeStoreClient (env.storeSetupOf config.rest) ans.pass provider).2.isOk) →
    ∃ st' res, startup env inputs st = some (st', res) ∧
      ((setLoggingTarget (env.bootConfigOf st'.config.rest)).isOk → res = .ok ())
  | [], _, _, _, ⟨_, ha, _⟩ => absurd ha (List.not_mem_nil _)
  | ans :: rest, st, hpanic, hall, ⟨good, hgood, hcall, hstore⟩ => by
    obtain ⟨hv, hsp⟩ := hall ans (List.mem_cons_self _ _)
    obtain ⟨⟨ok, configuration, config⟩, hstep⟩ : ∃ v, configurationStep env ans st = some v := by
      unfold configurationStep
      split_ifs
      · exact ⟨_, rfl⟩
      · exact Option.ne_none_iff_exists'.1 (by simpa using hpanic ans (List.mem_cons_self _ _) _)
    have hsleep := codePassWith_snd env ans ok config st.boot ▸ bootstrapPass_sleep env.useRegistry
      env.skipVersionCheck env.sdkVersion (env.bootConfigOf config.rest) hv (hsp config) st.boot.flags
    simp only [startup, startupPass_of_configurationStep env hstep]
    rcases hsleep with h | h
    · exact ⟨_, _, by rw [h], fun _ => rfl⟩
    rw [h]
    rcases List.mem_cons.1 hgood with rfl | hgood
    · -- the good pass sleeps only on its logging target, with the configuration installed
      have hok : ok = true := by
        obtain ⟨c, hc⟩ := hcall st.configuration
        cases hflag : st.boot.flags.initialized .configuration <;>
          simp [configurationStep, hflag, hc, eq_comm] at hstep <;> exact hstep.1
      subst hok
      obtain ⟨st', res, hrun, hconfig⟩ := startup_of_configured env rest
        ⟨(codePassWith env good true config st.boot).1, configuration, config⟩
        (codePassWith_configured env good true config st.boot (by simp [initializeConfiguration]))
      refine ⟨st', res, hrun, fun hlog => ?_⟩
      rw [hconfig] at hlog
      have hnone : (codePassWith env good true config st.boot).2 = none := by
        rw [codePassWith_snd]
        exact bootstrapPass_none env.useRegistry env.skipVersionCheck env.sdkVersion _ hlog
          (by simp [initializeConfiguration, observedAttempt]) hv (hsp config) (hstore config _) _
      cases h.symm.trans hnone
    · exact startup_ok_of_attempt rest _ (fun a ha => hpanic a (List.mem_cons_of_mem _ ha))
        (fun a ha => hall a (List.mem_cons_of_mem _ ha)) ⟨good, hgood, hcall, hstore⟩

/-- A run that ends with a configuration asking for remote logging without a `Logging` client
has timed out: no pass gets past the logging target, and none ends the loop early. -/
theorem startup_timeout_of_loggingTarget : ∀ (inputs : List (StartupAnswers R T σ))
    (st st' : StartupState R σ) (res : Except String Unit),
    startup env inputs st = some (st', res) →
    (setLoggingTarget (env.bootConfigOf st'.config.rest)).isOk = false →
    st.boot.flags.initialized .loggingTarget = false → res = .error "bootstrap retry timed out"
  | [], _, _, _, h, _, _ => (Prod.mk.inj (Option.some.inj h)).2.symm
  | ans :: rest, st, st', res, h, hlog, hs => by
    rcases hp : startupPass env ans st with _ | ⟨st₁, stop⟩
    · simp [startup, hp] at h
    obtain ⟨ok, -, hcode⟩ := startupPass_eq_some env hp
    obtain ⟨hsleep, hflag⟩ := codePassWith_loggingTarget env ans ok hlog hs
    simp only [startup, hp] at h
    rcases stop with _ | _ | err
    · -- the run ended on this pass, which slept all the same
      obtain ⟨rfl, -⟩ := Prod.mk.inj (Option.some.inj h)
      simp [← hcode] at hsleep
    · rw [codePassWith_final env hcode h] at hflag
      exact startup_timeout_of_loggingTarget rest st₁ st' res h hlog hflag
    · obtain ⟨rfl, -⟩ := Prod.mk.inj (Option.some.inj h)
      simp [← hcode] at hsleep

/-- From a start with the configuration not installed, a run that returns `nil` has installed
what one of its configuration calls returned. -/
theorem startup_config_of_ok : ∀ (inputs : List (StartupAnswers R T σ)) (st st' : StartupState R σ),
    st.boot.flags.initialized .configuration = false → startup env inputs st = some (st', .ok ()) →
      ∃ p ∈ configurationCalls env inputs st.configuration,
        (configurationCall env p.1 p.2).result = some (.ok st'.config)
  | [], _, _, _, h => by simp [startup] at h
  | ans :: rest, st, st', hflag, h => by
    match hres : (configurationCall env ans st.configuration).result with
    | none => simp [startup, startupPass, configurationStep, hflag, hres] at h
    | some (.error err) =>
      simp only [startup, startupPass_of_error env hflag hres] at h
      obtain ⟨p, hp, hcall⟩ := startup_config_of_ok rest _ st' (by exact hflag) h
      exact ⟨p, by simp [configurationCalls, hres, hp], hcall⟩
    | some (.ok config) =>
      obtain ⟨st'', res, hrun, hconfig⟩ := startup_of_ok_call env rest hflag hres
      rw [h, Option.some.injEq, Prod.mk.injEq] at hrun
      obtain ⟨rfl, -⟩ := hrun
      exact ⟨(ans, st.configuration), by simp [configurationCalls], by rw [hconfig]; exact hres⟩

/-- With the registry in use, an `Initialize` that returns `nil` has installed either the
configuration the registry held, read without `-overwrite`, or the one read back from the tree it
pushed; and each of its configuration calls pushed only with `-overwrite` set or to a registry
that reported it held no configuration. -/
theorem startup_installs_registry_configuration (inputs : List (StartupAnswers R T σ))
    (st st' : StartupState R σ) (huse : env.useRegistry = true)
    (hflag : st.boot.flags.initialized .configuration = false)
    (h : startup env inputs st = some (st', .ok ())) :
    (∀ p ∈ configurationCalls env inputs st.configuration, ∀ tree,
      .putConfigurationToml tree ∈ (configurationCall env p.1 p.2).calls →
        env.overwriteConfig = true ∨ ∃ client, p.1.newRegistryClient (registryConfigOf
          env.configRegistryStem env.serviceKey (applyOverrides env.tools p.2)) = .ok client ∧
            client.hasConfiguration = .ok false) ∧
    ∃ p ∈ configurationCalls env inputs st.configuration, ∃ client,
      p.1.newRegistryClient (registryConfigOf env.configRegistryStem env.serviceKey
        (applyOverrides env.tools p.2)) = .ok client ∧
      ((env.overwriteConfig = false ∧ client.hasConfiguration = .ok true ∧
          client.getConfiguration (applyOverrides env.tools p.2) = .ok (some st'.config)) ∨
        ∃ tree, .putConfigurationToml tree ∈ (configurationCall env p.1 p.2).calls ∧
          env.tools.unmarshal tree (applyOverrides env.tools p.2) = .ok st'.config) := by
  have hspec := fun p : StartupAnswers R T σ × ConfigurationStruct R =>
    Configuration.initializeConfiguration_registry_spec env.tools env.configRegistryStem
      env.serviceKey p.1.newRegistryClient env.overwriteConfig env.loggingClient p.2
  simp only [configurationCall, huse] at h ⊢
  refine ⟨fun p _ => (hspec p).1, ?_⟩
  obtain ⟨p, hp, hcall⟩ := startup_config_of_ok env inputs st st' hflag h
  refine ⟨p, hp, ?_⟩
  obtain ⟨client, hclient, hread | ⟨tree, htree, hcalls⟩⟩ := (hspec p).2 _ (by simpa [configurationCall, huse] using hcall)
  · exact ⟨client, hclient, .inl ⟨hread.1, hread.2.1, hread.2.2.1⟩⟩
  · exact ⟨client, hclient, .inr ⟨tree, by simp [hcalls], htree⟩⟩

end Runs

/-! ### Runs -/

/-- A configuration file naming a Consul registry and a service on port 48095. -/
def fileConfiguration : ConfigurationStruct Unit :=
  ⟨⟨"localhost", 8500, "consul"⟩, ⟨"localhost", 48095, "http", "10s"⟩, ()⟩

/-- A service that uses the registry, its logging client unset, logging to a file and reading the
database through a secure secret store. -/
def registrySetting : StartupSetting Unit Unit :=
  ⟨Configuration.plainTools, "edgex/appservices/1.0/", "AppService", true, false, false, false,
    "v1.2.0", fun _ => fileLoggingConfig, fun _ => secureSetup⟩

/-- The same service with remote logging and no `Logging` client configured. -/
def remoteSetting : StartupSetting Unit Unit :=
  { registrySetting with bootConfigOf := fun _ => remoteLoggingConfig }

/-- Before the first pass, with the configuration read from the file. -/
def fileStart : StartupState Unit Unit := ⟨Boot.start ⟨"", ""⟩, fileConfiguration, fileConfiguration⟩

/-- A pass on which no registry client can be made. -/
def unreachablePass : StartupAnswers Unit Unit Unit :=
  ⟨fun _ => .error "connection refused", answeringPass⟩

/-- A pass on which the registry holds `fileConfiguration`. -/
def servedPass : StartupAnswers Unit Unit Unit :=
  ⟨fun _ => .ok ⟨true, .ok true, fun _ => .ok (some fileConfiguration), fun _ => .ok (), .ok ()⟩,
    answeringPass⟩

/-- A pass on which the registry holds a configuration whose `Service.Port` is 0. -/
def portlessPass : StartupAnswers Unit Unit Unit :=
  ⟨fun _ => .ok Configuration.portlessRegistry, answeringPass⟩

theorem startup_panics_iff_portless :
    fileStart.boot.flags.initialized .configuration = false ∧
      startup registrySetting [unreachablePass, portlessPass] fileStart = none ∧
      registrySetting.useRegistry = true ∧ registrySetting.loggingClient = false ∧
      ∃ p ∈ configurationCalls registrySetting [unreachablePass, portlessPass]
          fileStart.configuration,
        ReadsPortZero registrySetting.tools registrySetting.configRegistryStem
          registrySetting.serviceKey p.1.newRegistryClient registrySetting.overwriteConfig p.2 := by
  have h : startup registrySetting [unreachablePass, portlessPass] fileStart = none := rfl
  exact ⟨rfl, h, (startup_panics_iff registrySetting _ _ rfl).1 h⟩

theorem startup_ok_of_attempt_served :
    (∀ ans ∈ [unreachablePass, servedPass], ∀ configuration,
      (configurationCall registrySetting ans configuration).result ≠ none) ∧
    (∀ ans ∈ [unreachablePass, servedPass],
      validateVersionMatch registrySetting.skipVersionCheck registrySetting.sdkVersion
          ans.pass.coreServicesVersion ∧
        ∀ config : ConfigurationStruct Unit,
          (initializeSecretProvider (registrySetting.storeSetupOf config.rest) ans.pass).2) ∧
    (∃ ans ∈ [unreachablePass, servedPass], (∀ configuration, ∃ config,
        (configurationCall registrySetting ans configuration).result = some (.ok config)) ∧
      ∀ (config : ConfigurationStruct Unit) provider,
        (initializeStoreClient (registrySetting.storeSetupOf config.rest) ans.pass provider).2.isOk) ∧
    ∃ st' res, startup registrySetting [unreachablePass, servedPass] fileStart = some (st', res) ∧
      ((setLoggingTarget (registrySetting.bootConfigOf st'.config.rest)).isOk → res = .ok ()) := by
  refine ⟨?hpanic, ?hall, ?hgood, startup_ok_of_attempt registrySetting _ _ ?hpanic ?hall ?hgood⟩
  · simp only [List.mem_cons, List.mem_singleton, List.not_mem_nil, or_false]
    rintro ans (rfl | rfl) configuration <;> exact Option.some_ne_none _
  · simp only [List.mem_cons, List.mem_singleton, List.not_mem_nil, or_false]
    rintro ans (rfl | rfl) <;> exact ⟨rfl, fun _ => rfl⟩
  · exact ⟨servedPass, by simp, fun _ => ⟨_, rfl⟩, fun _ _ => rfl⟩

/-- The run returns `nil` on its second pass. -/
example : (startup registrySetting [unreachablePass, servedPass] fileStart).map Prod.snd =
    some (.ok ()) := rfl

theorem startup_timeout_of_loggingTarget_remote :
    ∃ st' res, startup remoteSetting [servedPass, servedPass] fileStart = some (st', res) ∧
      (setLoggingTarget (remoteSetting.bootConfigOf st'.config.rest)).isOk = false ∧
      fileStart.boot.flags.initialized .loggingTarget = false ∧
      res = .error "bootstrap retry timed out" :=
  ⟨_, _, rfl, rfl, rfl, startup_timeout_of_loggingTarget remoteSetting [servedPass, servedPass] fileStart _ _ rfl rfl
    rfl⟩

theorem startup_installs_registry_configuration_served :
    ∃ st', registrySetting.useRegistry = true ∧
      fileStart.boot.flags.initialized .configuration = false ∧
      startup registrySetting [unreachablePass, servedPass] fileStart = some (st', .ok ()) ∧
      ∃ p ∈ configurationCalls registrySetting [unreachablePass, servedPass] fileStart.configuration,
        ∃ client, p.1.newRegistryClient (registryConfigOf registrySetting.configRegistryStem
          registrySetting.serviceKey (applyOverrides registrySetting.tools p.2)) = .ok client ∧
        ((registrySetting.overwriteConfig = false ∧ client.hasConfiguration = .ok true ∧
            client.getConfiguration (applyOverrides registrySetting.tools p.2) =
              .ok (some st'.config)) ∨
          ∃ tree, .putConfigurationToml tree ∈ (configurationCall registrySetting p.1 p.2).calls ∧
            registrySetting.tools.unmarshal tree (applyOverrides registrySetting.tools p.2) =
              .ok st'.config) :=
  ⟨_, rfl, rfl, rfl,
    (startup_installs_registry_configuration registrySetting [unreachablePass, servedPass] fileStart _
      rfl rfl rfl).2⟩


end AppSdk
end AppFunctionsSdk
