import Mathlib.Tactic.SplitIfs

/-!
# `initializeConfiguration` and the registry

The first step of a pass of the bootstrap installs the service's configuration in `sdk.config`.
Without the registry it installs the configuration read from the file.  With it, the step
applies the environment's overrides to the `Registry` and `Service` sections of that
configuration, parses `Service.CheckInterval`, makes a registry client and checks that the
registry is alive.  It then reads the registry's configuration, when the registry has one and
`-overwrite` is not set, or else pushes its own configuration, with the environment's overrides,
to the registry and reads it back from the pushed tree.  Last it registers the service.  Each
failure returns an error that names the step, and leaves `sdk.config` as it was.

The configuration is passed by pointer, and the loop passes the same one on every pass, so the
overrides and the read-back of a failed pass stay in it.

A configuration read from the registry whose `Service.Port` is 0 is reported through
`sdk.LoggingClient`.  The logging client is set up by the next step of the pass, so during
`Initialize` it is still `nil` at that point unless the caller set it, and the report panics.

The registry client, the environment's overrides and the TOML encoding are in packages that are
not among the sources, and their answers are arguments.  `OverrideFromEnvironment` sets the
values in the tree it is given and returns that tree, so the read-back reads the tree that was
pushed.

* `initializeConfiguration_registry_spec` — the step pushes its configuration to the registry
  only when `-overwrite` is set or the registry holds none; it succeeds only by registering the
  service after it has read the registry's configuration or pushed its own, and it installs
  that configuration.
* `initializeConfiguration_port_zero_panics` — with the logging client unset, the step panics
  exactly when it reads from the registry a configuration whose `Service.Port` is 0.

`Startup.lean` runs the step in the bootstrap loop and carries both facts over to whole runs.
-/

namespace AppFunctionsSdk
namespace AppSdk
namespace Configuration

/-- `common.RegistryInfo`. -/
structure RegistryInfo where
  host : String
  port : Int
  type : String
deriving DecidableEq

/-- The fields of `common.ServiceInfo` the registry steps read. -/
structure ServiceInfo where
  host : String
  port : Int
  protocol : String
  checkInterval : String
deriving DecidableEq

/-- `common.ConfigurationStruct`: the `Registry` and `Service` sections, which the registry steps
read, and the other sections, which they carry along. -/
structure ConfigurationStruct (R : Type) where
  registry : RegistryInfo
  service : ServiceInfo
  rest : R

/-- The `types.Config` the registry client is made from. -/
structure RegistryConfig where
  host : String
  port : Int
  type : String
  stem : String
  checkInterval : String
  checkRoute : String
  serviceKey : String
  serviceHost : String
  servicePort : Int
  serviceProtocol : String
deriving DecidableEq

/-- `clients.ApiPingRoute`. -/
def apiPingRoute : String := "/api/v1/ping"

/-- The answers of the `registry.Client` that `NewRegistryClient` makes. -/
structure RegistryClient (R T : Type) where
  isAlive : Bool
  hasConfiguration : Except String Bool
  /-- `GetConfiguration(configuration)`: `none` when its value is not a `*ConfigurationStruct`. -/
  getConfiguration : ConfigurationStruct R → Except String (Option (ConfigurationStruct R))
  putConfigurationToml : T → Except String Unit
  register : Except String Unit

/-- A call of `initializeConfiguration` on the registry client. -/
inductive RegistryCall (T : Type) where
  | isAlive
  | hasConfiguration
  | getConfiguration
  | putConfigurationToml (tree : T)
  | register

/-- The environment's overrides and the TOML encoding, over trees of type `T`. -/
structure ConfigTools (R T : Type) where
  /-- `OverrideRegistryInfoFromEnvironment`. -/
  overrideRegistryInfo : RegistryInfo → RegistryInfo
  /-- `OverrideServiceInfoFromEnvironment`. -/
  overrideServiceInfo : ServiceInfo → ServiceInfo
  /-- The error of `time.ParseDuration`; `none` is `nil`. -/
  parseDuration : String → Option String
  /-- `toml.Marshal` followed by `toml.LoadBytes`, each of whose errors is returned as it is. -/
  marshal : ConfigurationStruct R → Except String T
  /-- `OverrideFromEnvironment`, which sets the values in the tree it is given and returns it. -/
  overrideFromEnvironment : T → T
  /-- `configTree.Unmarshal(configuration)`. -/
  unmarshal : T → ConfigurationStruct R → Except String (ConfigurationStruct R)

/-- What a call of `initializeConfiguration` leaves: the configuration its pointer argument points
to afterwards, the calls it made on the registry client, in order, and what it returns, `none`
for a panic and the configuration installed in `sdk.config` on success. -/
structure ConfigurationRun (R T : Type) where
  configuration : ConfigurationStruct R
  calls : List (RegistryCall T)
  result : Option (Except String (ConfigurationStruct R))

variable {R T : Type}

/-- A call that returns the error `err` after the registry calls `calls`. -/
def ConfigurationRun.failed (configuration : ConfigurationStruct R) (calls : List (RegistryCall T))
    (err : String) : ConfigurationRun R T :=
  ⟨configuration, calls, some (.error err)⟩

section Steps

variable (tools : ConfigTools R T) (configRegistryStem serviceKey : String)
  (newRegistryClient : RegistryConfig → Except String (RegistryClient R T))

/-- The configuration with the environment's overrides of its `Registry` and `Service` sections. -/
def applyOverrides (configuration : ConfigurationStruct R) : ConfigurationStruct R :=
  { configuration with
    registry := tools.overrideRegistryInfo configuration.registry
    service := tools.overrideServiceInfo configuration.service }

/-- The `types.Config` `initializeConfiguration` builds; `configRegistryStem` is the constant
`internal.ConfigRegistryStem`, declared in a package that is not among the sources. -/
def registryConfigOf (configuration : ConfigurationStruct R) : RegistryConfig :=
  ⟨configuration.registry.host, configuration.registry.port, configuration.registry.type,
    configRegistryStem, configuration.service.checkInterval, apiPingRoute, serviceKey,
    configuration.service.host, configuration.service.port, configuration.service.protocol⟩

/-- `sdk.registryClient.Register()`, then `sdk.config = *configuration`, after the registry calls
`calls`; `target` is what the pointer argument points to. -/
def registerService (client : RegistryClient R T) (target configuration : ConfigurationStruct R)
    (calls : List (RegistryCall T)) : ConfigurationRun R T :=
  match client.register with
  | .error err => .failed target (calls ++ [.register]) ("could not register service with Registry: " ++ err)
  | .ok () => ⟨target, calls ++ [.register], some (.ok configuration)⟩

/-- The registry steps after the client is made, on the configuration with its overrides; the
`Type` of the registry's `types.Config` is the configuration's `Registry.Type`. -/
def registryConfiguration (overwriteConfig loggingClient : Bool) (client : RegistryClient R T)
    (configuration : ConfigurationStruct R) : ConfigurationRun R T :=
  if !client.isAlive then
    .failed configuration [.isAlive] ("registry (" ++ configuration.registry.type ++ ") is not running")
  else
    match client.hasConfiguration with
    | .error err => .failed configuration [.isAlive, .hasConfiguration]
        ("could not determine if registry has configuration: " ++ err)
    | .ok hasConfig =>
      if !overwriteConfig && hasConfig then
        match client.getConfiguration configuration with
        | .error err => .failed configuration [.isAlive, .hasConfiguration, .getConfiguration]
            ("could not get configuration from Registry: " ++ err)
        | .ok none => .failed configuration [.isAlive, .hasConfiguration, .getConfiguration]
            "configuration from Registry failed type check"
        | .ok (some actual) =>
          if actual.service.port = 0 && !loggingClient then
            ⟨configuration, [.isAlive, .hasConfiguration, .getConfiguration], none⟩
          else registerService client configuration actual [.isAlive, .hasConfiguration, .getConfiguration]
      else
        match tools.marshal configuration with
        | .error err => .failed configuration [.isAlive, .hasConfiguration] err
        | .ok configTree =>
          match client.putConfigurationToml (tools.overrideFromEnvironment configTree) with
          | .error err => .failed configuration
              [.isAlive, .hasConfiguration, .putConfigurationToml (tools.overrideFromEnvironment configTree)]
              ("could not push configuration into registry: " ++ err)
          | .ok () =>
            match tools.unmarshal (tools.overrideFromEnvironment configTree) configuration with
            | .error err => .failed configuration
                [.isAlive, .hasConfiguration, .putConfigurationToml (tools.overrideFromEnvironment configTree)]
                ("could not marshal configTree to configuration: " ++ err)
            | .ok configuration =>
              registerService client configuration configuration
                [.isAlive, .hasConfiguration, .putConfigurationToml (tools.overrideFromEnvironment configTree)]

/-- `initializeConfiguration(configuration)`, with `useRegistry` and `overwriteConfig` the flags
and `loggingClient` whether `sdk.LoggingClient` is set. -/
def initializeConfiguration (useRegistry overwriteConfig loggingClient : Bool)
    (configuration : ConfigurationStruct R) : ConfigurationRun R T :=
  if !useRegistry then ⟨configuration, [], some (.ok configuration)⟩
  else
    let configuration := applyOverrides tools configuration
    match tools.parseDuration configuration.service.checkInterval with
    | some err => .failed configuration [] ("failed to parse Service.CheckInterval: " ++ err)
    | none =>
      match newRegistryClient (registryConfigOf configRegistryStem serviceKey configuration) with
      | .error err => .failed configuration [] ("connection to Registry could not be made: " ++ err)
      | .ok client =>
        registryConfiguration tools overwriteConfig loggingClient client configuration

end Steps

/-! ### What the step does with the registry -/

section Registry

variable (tools : ConfigTools R T) (configRegistryStem serviceKey : String)
  (newRegistryClient : RegistryConfig → Except String (RegistryClient R T))

@[simp] theorem registerService_calls (client : RegistryClient R T)
    (target configuration : ConfigurationStruct R) (calls : List (RegistryCall T)) :
    (registerService client target configuration calls).calls = calls ++ [.register] := by
  unfold registerService
  split <;> rfl

theorem registerService_result_ok {client : RegistryClient R T}
    {target configuration c : ConfigurationStruct R} {calls : List (RegistryCall T)}
    (h : (registerService client target configuration calls).result = some (.ok c)) :
    c = configuration := by
  unfold registerService at h
  split at h
  · cases h
  · simpa using h.symm

theorem registerService_result_ne_none (client : RegistryClient R T)
    (target configuration : ConfigurationStruct R) (calls : List (RegistryCall T)) :
    (registerService client target configuration calls).result ≠ none := by
  unfold registerService
  split <;> nofun

/-- The registry steps push only when `-overwrite` is set or the registry has no configuration. -/
theorem registryConfiguration_push {overwriteConfig loggingClient : Bool} {client : RegistryClient R T}
    {configuration : ConfigurationStruct R} {tree : T}
    (h : .putConfigurationToml tree ∈
      (registryConfiguration tools overwriteConfig loggingClient client configuration).calls) :
    overwriteConfig = true ∨ client.hasConfiguration = .ok false := by
  unfold registryConfiguration at h
  split_ifs at h
  · simp [ConfigurationRun.failed] at h
  split at h
  · simp [ConfigurationRun.failed] at h
  rename_i hasConfig hhas
  split_ifs at h with hget
  · split at h <;> (try split_ifs at h) <;> simp [ConfigurationRun.failed] at h
  · rw [hhas]
    cases overwriteConfig <;> cases hasConfig <;> simp at hget ⊢

/-- A successful run of the registry steps has read the registry's configuration or pushed its
own, then registered the service, and it installs that configuration. -/
theorem registryConfiguration_ok {overwriteConfig loggingClient : Bool} {client : RegistryClient R T}
    {configuration c : ConfigurationStruct R}
    (h : (registryConfiguration tools overwriteConfig loggingClient client configuration).result =
      some (.ok c)) :
    (overwriteConfig = false ∧ client.hasConfiguration = .ok true ∧
        client.getConfiguration configuration = .ok (some c) ∧
        (registryConfiguration tools overwriteConfig loggingClient client configuration).calls =
          [.isAlive, .hasConfiguration, .getConfiguration, .register]) ∨
      ∃ tree, tools.unmarshal tree configuration = .ok c ∧
        (registryConfiguration tools overwriteConfig loggingClient client configuration).calls =
          [.isAlive, .hasConfiguration, .putConfigurationToml tree, .register] := by
  have hrun := h
  unfold registryConfiguration at hrun
  split_ifs at hrun with halive
  · cases hrun
  split at hrun
  · cases hrun
  rename_i hasConfig hhas
  split_ifs at hrun with hget
  · split at hrun
    · cases hrun
    · cases hrun
    rename_i actual hactual
    split_ifs at hrun with hport
    obtain rfl := registerService_result_ok hrun
    obtain ⟨rfl, rfl⟩ : overwriteConfig = false ∧ hasConfig = true := by simpa using hget
    refine .inl ⟨rfl, hhas, hactual, ?_⟩
    simp [registryConfiguration, halive, hhas, hactual, hport]
  · split at hrun
    · cases hrun
    rename_i configTree hmarshal
    split at hrun
    · cases hrun
    rename_i hput
    split at hrun
    · cases hrun
    rename_i configuration' hunmarshal
    obtain rfl := registerService_result_ok hrun
    refine .inr ⟨_, hunmarshal, ?_⟩
    simp [registryConfiguration, halive, hhas, hget, hmarshal, hput, hunmarshal]

/-- The registry steps panic only on a configuration read from the registry with `Service.Port`
0 and the logging client unset. -/
theorem registryConfiguration_none {overwriteConfig loggingClient : Bool} {client : RegistryClient R T}
    {configuration : ConfigurationStruct R}
    (h : (registryConfiguration tools overwriteConfig loggingClient client configuration).result = none) :
    client.isAlive = true ∧ overwriteConfig = false ∧ client.hasConfiguration = .ok true ∧
      ∃ actual, client.getConfiguration configuration = .ok (some actual) ∧
        actual.service.port = 0 ∧ loggingClient = false := by
  unfold registryConfiguration at h
  split_ifs at h with halive
  · cases h
  split at h
  · cases h
  rename_i hasConfig hhas
  split_ifs at h with hget
  · split at h
    · cases h
    · cases h
    rename_i actual hactual
    split_ifs at h with hport
    · obtain ⟨rfl, rfl⟩ : overwriteConfig = false ∧ hasConfig = true := by simpa using hget
      exact ⟨by simpa using halive, rfl, hhas, actual, hactual, by simpa using hport⟩
    · exact absurd h (registerService_result_ne_none _ _ _ _)
  · split at h
    · cases h
    split at h
    · cases h
    split at h
    · cases h
    · exact absurd h (registerService_result_ne_none _ _ _ _)

/-- With the registry in use, `initializeConfiguration` pushes its configuration only when
`-overwrite` is set or the registry reports that it holds none.  It succeeds only by registering
the service, as its last call, after it has either read the registry's configuration, which it
then installs, or pushed its own and read it back from the pushed tree, which it then installs. -/
theorem initializeConfiguration_registry_spec (overwriteConfig loggingClient : Bool)
    (configuration : ConfigurationStruct R) :
    let run := initializeConfiguration tools configRegistryStem serviceKey newRegistryClient true
      overwriteConfig loggingClient configuration
    let configuration := applyOverrides tools configuration
    (∀ tree, .putConfigurationToml tree ∈ run.calls →
      overwriteConfig = true ∨ ∃ client,
        newRegistryClient (registryConfigOf configRegistryStem serviceKey configuration) = .ok client ∧
          client.hasConfiguration = .ok false) ∧
    ∀ c, run.result = some (.ok c) → ∃ client,
      newRegistryClient (registryConfigOf configRegistryStem serviceKey configuration) = .ok client ∧
      ((overwriteConfig = false ∧ client.hasConfiguration = .ok true ∧
          client.getConfiguration configuration = .ok (some c) ∧
          run.calls = [.isAlive, .hasConfiguration, .getConfiguration, .register]) ∨
        ∃ tree, tools.unmarshal tree configuration = .ok c ∧
          run.calls = [.isAlive, .hasConfiguration, .putConfigurationToml tree, .register]) := by
  intro run configuration'
  simp only [run, initializeConfiguration, Bool.not_true, Bool.false_eq_true, if_false]
  split
  · exact ⟨fun _ h => absurd h (List.not_mem_nil _), fun _ h => (nomatch h)⟩
  · split
    · exact ⟨fun _ h => absurd h (List.not_mem_nil _), fun _ h => (nomatch h)⟩
    · rename_i client hclient
      refine ⟨fun tree h => ?_, fun c h => ⟨client, hclient, registryConfiguration_ok tools h⟩⟩
      rcases registryConfiguration_push tools h with h | h
      · exact .inl h
      · exact .inr ⟨client, hclient, h⟩

/-- The read of the configuration step on `configuration` finds in the registry a configuration
whose `Service.Port` is 0: `Service.CheckInterval` parses, the client is made, the registry is
alive and holds a configuration, and `-overwrite` is not set. -/
def ReadsPortZero (overwriteConfig : Bool) (configuration : ConfigurationStruct R) : Prop :=
  tools.parseDuration (applyOverrides tools configuration).service.checkInterval = none ∧
    ∃ client actual,
      newRegistryClient (registryConfigOf configRegistryStem serviceKey
        (applyOverrides tools configuration)) = .ok client ∧
      client.isAlive = true ∧ overwriteConfig = false ∧ client.hasConfiguration = .ok true ∧
      client.getConfiguration (applyOverrides tools configuration) = .ok (some actual) ∧
      actual.service.port = 0

/-- `initializeConfiguration` panics exactly when, with the registry in use and the logging
client unset, it reads from the registry a configuration whose `Service.Port` is 0. -/
theorem initializeConfiguration_port_zero_panics (useRegistry overwriteConfig loggingClient : Bool)
    (configuration : ConfigurationStruct R) :
    (initializeConfiguration tools configRegistryStem serviceKey newRegistryClient useRegistry
        overwriteConfig loggingClient configuration).result = none ↔
      useRegistry = true ∧ loggingClient = false ∧
        ReadsPortZero tools configRegistryStem serviceKey newRegistryClient overwriteConfig
          configuration := by
  constructor
  · intro h
    unfold initializeConfiguration at h
    split_ifs at h with hreg
    dsimp only at h
    split at h
    · cases h
    rename_i hparse
    split at h
    · cases h
    rename_i client hclient
    obtain ⟨halive, hover, hhas, actual, hactual, hport, hlog⟩ := registryConfiguration_none tools h
    exact ⟨by simpa using hreg, hlog, hparse, client, actual, hclient, halive, hover, hhas, hactual, hport⟩
  · rintro ⟨rfl, rfl, hparse, client, actual, hclient, halive, rfl, hhas, hactual, hport⟩
    simp [initializeConfiguration, hparse, hclient, registryConfiguration, halive, hhas, hactual, hport]

/-- Overrides that change nothing, and a TOML encoding of nothing. -/
def plainTools : ConfigTools Unit Unit :=
  ⟨id, id, fun _ => none, fun _ => .ok (), id, fun _ configuration => .ok configuration⟩

/-- A configuration whose `Service.Port` is unset. -/
def portlessConfiguration : ConfigurationStruct Unit :=
  ⟨⟨"localhost", 8500, "consul"⟩, ⟨"localhost", 0, "http", "10s"⟩, ()⟩

/-- A registry that is alive and holds `portlessConfiguration`. -/
def portlessRegistry : RegistryClient Unit Unit :=
  ⟨true, .ok true, fun _ => .ok (some portlessConfiguration), fun _ => .ok (), .ok ()⟩

example : (initializeConfiguration plainTools "edgex/appservices/1.0/" "AppService"
    (fun _ => .ok portlessRegistry) true false false portlessConfiguration).result = none := rfl

end Registry

end Configuration
end AppSdk
end AppFunctionsSdk
