import AppFunctionsSdk.AppSdk.Pipeline

/-!
# The service lifecycle and configuration changes

`MakeItRun` creates the runtime and starts the store-and-forward retry loop when
`Writable.StoreAndForward.Enabled` is set; it stops the loop again on shutdown.  In between,
`listenForConfigChanges` receives new `Writable` values from the registry: it copies each one
over `config.Writable` and then acts on the first of `LogLevel`, `MaxRetryCount`,
`RetryInterval` and `Enabled` that differs from the values before the copy, or reloads the
pipeline when none does.  Its comment assumes that the registry changes one setting at a time.

The handlers compare the new value with the SDK's own copy, not with the previous value the
registry sent, and two of them leave the copy different from what was sent: a failed
`initializeStoreClient` sets `Enabled` back to `false`, and a negative `MaxRetryCount` is
replaced by `1`.  The next value then differs from the copy in two settings, and the `switch`
acts on one of them only.

A panic (`storeForwardCancelCtx()` on a `nil` function, a call on a `nil` runtime) is `none`;
`initializeStoreClient` is modelled by its outcome, which each update carries with the orders
the `range`s of a reload of the pipeline take.

* `updateWritable_loopInv` — when the new value differs from the SDK's copy in `Enabled`
  alone or not at all, one update keeps exactly one retry loop running while store-and-forward
  is enabled, and none otherwise.
* `runLifecycle_no_panic` — when the registry changes one setting at a time, every store client
  initialises, and no negative `MaxRetryCount` is sent, a whole run keeps that invariant and
  shuts down without a panic and without a running loop.
* `storeForward_enabled_without_retryLoop` — a failed store start, then a log-level change:
  store-and-forward is enabled, no retry loop runs, and shutdown panics.
* `maxRetryCount_clamp_drops_change` — after a negative `MaxRetryCount`, a log-level change
  leaves `MaxRetryCount` negative, and a pipeline change is not applied.
* `listenForConfigChanges_pipeline` — under the same assumptions no change of the pipeline
  section is lost: a value that changes the pipeline section alone installs the reloaded
  pipeline in the runtime, or leaves the runtime as it was when the reload fails.
-/

namespace AppFunctionsSdk
namespace AppSdk

open Util

variable {A F : Type}

/-! ### The handlers -/

/-- `startStoreForward`: a new wait group and cancellable context, and a retry loop started
on the runtime. -/
def startStoreForward (sdk : Sdk A F) : Option (Sdk A F) :=
  match sdk.runtime with
  | none => none
  | some _ => some { sdk with
      retryLoops := sdk.retryLoops ++ [true]
      storeForwardCancelCtx := some sdk.retryLoops.length }

/-- `stopStoreForward`: cancel the context of `storeForwardCancelCtx` and wait for its loop. -/
def stopStoreForward (sdk : Sdk A F) : Option (Sdk A F) :=
  match sdk.storeForwardCancelCtx with
  | none => none
  | some i => some { sdk with retryLoops := sdk.retryLoops.set i false }

/-- `processConfigChangedStoreForwardRetryInterval`: restart the loop when it is enabled. -/
def processConfigChangedStoreForwardRetryInterval (sdk : Sdk A F) : Option (Sdk A F) :=
  if sdk.writable.storeAndForward.enabled then (stopStoreForward sdk).bind startStoreForward
  else some sdk

/-- `processConfigChangedStoreForwardEnabled`, with `storeClientOk` the outcome of
`initializeStoreClient` should it be called. -/
def processConfigChangedStoreForwardEnabled (storeClientOk : Bool) (sdk : Sdk A F) :
    Option (Sdk A F) :=
  if sdk.writable.storeAndForward.enabled then
    if !sdk.storeClient then
      if !storeClientOk then some { sdk with writable.storeAndForward.enabled := false }
      else
        match sdk.runtime with
        | none => none
        | some _ => startStoreForward { sdk with storeClient := true }
    else startStoreForward sdk
  else stopStoreForward sdk

/-- `processConfigChangedPipeline`: reload the configurable pipeline, if it is the one in use,
and install it when it loads. -/
def processConfigChangedPipeline (methodByName : String → Option (Method A F))
    (toLower : String → String) (ranges : GoMap.RangeOrder String) (sdk : Sdk A F) : Sdk A F :=
  if sdk.usingConfigurablePipeline then
    match loadConfigurablePipeline methodByName toLower ranges sdk with
    | (sdk, .error _) => sdk
    | (sdk, .ok transforms) => (setFunctionsPipeline transforms sdk).1
  else sdk

/-- The arm of `listenForConfigChanges` for a value `actual` received on `updates`. -/
def updateWritable (methodByName : String → Option (Method A F)) (toLower : String → String)
    (storeClientOk : Bool) (ranges : GoMap.RangeOrder String) (actual : WritableInfo A)
    (sdk : Sdk A F) : Option (Sdk A F) :=
  let previousLogLevel := sdk.writable.logLevel
  let previousStoreForward := sdk.writable.storeAndForward
  let sdk := { sdk with writable := actual }
  if previousLogLevel ≠ sdk.writable.logLevel then
    some { sdk with loggingLevel := sdk.writable.logLevel }
  else if previousStoreForward.maxRetryCount ≠ sdk.writable.storeAndForward.maxRetryCount then
    if sdk.writable.storeAndForward.maxRetryCount < 0 then
      some { sdk with writable.storeAndForward.maxRetryCount := 1 }
    else some sdk
  else if previousStoreForward.retryInterval ≠ sdk.writable.storeAndForward.retryInterval then
    processConfigChangedStoreForwardRetryInterval sdk
  else if previousStoreForward.enabled ≠ sdk.writable.storeAndForward.enabled then
    processConfigChangedStoreForwardEnabled storeClientOk sdk
  else some (processConfigChangedPipeline methodByName toLower ranges sdk)

/-- A value received from the registry, with the outcome `initializeStoreClient` would have
and the orders the `range`s of a reload of the pipeline would take. -/
structure Update (A : Type) where
  writable : WritableInfo A
  storeClientOk : Bool
  ranges : GoMap.RangeOrder String

/-- `listenForConfigChanges` over the values received on `updates`, in order. -/
def listenForConfigChanges (methodByName : String → Option (Method A F))
    (toLower : String → String) : List (Update A) → Sdk A F → Option (Sdk A F)
  | [], sdk => some sdk
  | u :: us, sdk =>
    (updateWritable methodByName toLower u.storeClientOk u.ranges u.writable sdk).bind
      (listenForConfigChanges methodByName toLower us)

/-- The start-up of `MakeItRun`: the runtime, with the SDK's target type and transforms, and
the retry loop when store-and-forward is enabled. -/
def makeItRunStartUp (sdk : Sdk A F) : Option (Sdk A F) :=
  let sdk := { sdk with runtime := some ⟨sdk.targetType, sdk.transforms⟩ }
  if sdk.writable.storeAndForward.enabled then startStoreForward sdk else some sdk

/-- The shutdown of `MakeItRun`: when store-and-forward is enabled, `storeForwardCancelCtx()`
and `storeForwardWg.Wait()`, the two calls of `stopStoreForward`. -/
def makeItRunShutdown (sdk : Sdk A F) : Option (Sdk A F) :=
  if sdk.writable.storeAndForward.enabled then stopStoreForward sdk else some sdk

/-- A run of the service: start-up, the values received, shutdown. -/
def runLifecycle (methodByName : String → Option (Method A F)) (toLower : String → String)
    (updates : List (Update A)) (sdk : Sdk A F) : Option (Sdk A F) :=
  ((makeItRunStartUp sdk).bind (listenForConfigChanges methodByName toLower updates)).bind
    makeItRunShutdown

/-! ### One setting at a time -/

/-- The settings the handler tells apart. -/
inductive Setting where
  | logLevel
  | maxRetryCount
  | retryInterval
  | enabled
  | pipeline

/-- `w'` differs from `w` in the setting. -/
def Setting.Differs : Setting → WritableInfo A → WritableInfo A → Prop
  | .logLevel, w, w' => w.logLevel ≠ w'.logLevel
  | .maxRetryCount, w, w' => w.storeAndForward.maxRetryCount ≠ w'.storeAndForward.maxRetryCount
  | .retryInterval, w, w' => w.storeAndForward.retryInterval ≠ w'.storeAndForward.retryInterval
  | .enabled, w, w' => w.storeAndForward.enabled ≠ w'.storeAndForward.enabled
  | .pipeline, w, w' => w.pipeline ≠ w'.pipeline

/-- The assumption of the handler's comment: `w'` differs from `w` in at most one setting. -/
def OneSettingAtATime (w w' : WritableInfo A) : Prop :=
  ∀ s₁ s₂ : Setting, s₁.Differs w w' → s₂.Differs w w' → s₁ = s₂

theorem oneSettingAtATime_of_only {w w' : WritableInfo A} (s : Setting)
    (h : ∀ s', s' ≠ s → ¬ s'.Differs w w') : OneSettingAtATime w w' := by
  intro s₁ s₂ h₁ h₂
  by_contra hne
  by_cases h₁s : s₁ = s
  · exact h s₂ (fun h₂s => hne (h₁s.trans h₂s.symm)) h₂
  · exact h s₁ h₁s h₁

theorem oneSettingAtATime_logLevel (w : WritableInfo A) (logLevel : String) :
    OneSettingAtATime w { w with logLevel } :=
  oneSettingAtATime_of_only .logLevel fun s hs => by
    cases s <;> first | exact absurd rfl hs | exact fun h => h rfl

theorem oneSettingAtATime_maxRetryCount (w : WritableInfo A) (maxRetryCount : Int) :
    OneSettingAtATime w { w with storeAndForward.maxRetryCount := maxRetryCount } :=
  oneSettingAtATime_of_only .maxRetryCount fun s hs => by
    cases s <;> first | exact absurd rfl hs | exact fun h => h rfl

theorem oneSettingAtATime_enabled (w : WritableInfo A) (enabled : Bool) :
    OneSettingAtATime w { w with storeAndForward.enabled := enabled } :=
  oneSettingAtATime_of_only .enabled fun s hs => by
    cases s <;> first | exact absurd rfl hs | exact fun h => h rfl

theorem oneSettingAtATime_pipeline (w : WritableInfo A) (pipeline : PipelineInfo A) :
    OneSettingAtATime w { w with pipeline } :=
  oneSettingAtATime_of_only .pipeline fun s hs => by
    cases s <;> first | exact absurd rfl hs | exact fun h => h rfl

/-- The four settings the `switch` compares agree. -/
def SwitchSynced (w w' : WritableInfo A) : Prop :=
  w.logLevel = w'.logLevel ∧ w.storeAndForward = w'.storeAndForward

/-- If `Enabled` changes, nothing else the `switch` compares does. -/
def EnabledChangeAlone (w w' : WritableInfo A) : Prop :=
  w.storeAndForward.enabled ≠ w'.storeAndForward.enabled →
    w.logLevel = w'.logLevel ∧
      w.storeAndForward.maxRetryCount = w'.storeAndForward.maxRetryCount ∧
      w.storeAndForward.retryInterval = w'.storeAndForward.retryInterval

theorem enabledChangeAlone_of_synced {w₀ w w' : WritableInfo A} (hsync : SwitchSynced w w₀)
    (hone : OneSettingAtATime w₀ w') : EnabledChangeAlone w w' := by
  obtain ⟨hlog, hsf⟩ := hsync
  intro hen
  rw [hsf] at hen
  rw [hlog, hsf]
  refine ⟨?_, ?_, ?_⟩ <;> by_contra hne
  · exact absurd (hone .logLevel .enabled hne hen) nofun
  · exact absurd (hone .maxRetryCount .enabled hne hen) nofun
  · exact absurd (hone .retryInterval .enabled hne hen) nofun

/-! ### Retry loops -/

/-- Retry loops started and not cancelled. -/
def runningLoops (sdk : Sdk A F) : Nat := sdk.retryLoops.count true

/-- Exactly one retry loop runs, and it is the loop `storeForwardCancelCtx` cancels. -/
def OneLoop (sdk : Sdk A F) : Prop :=
  ∃ i, sdk.storeForwardCancelCtx = some i ∧ sdk.retryLoops[i]? = some true ∧ runningLoops sdk = 1

/-- The runtime is set, and one retry loop runs while store-and-forward is enabled and none
otherwise. -/
def LoopInv (sdk : Sdk A F) : Prop :=
  sdk.runtime.isSome ∧ if sdk.writable.storeAndForward.enabled then OneLoop sdk else runningLoops sdk = 0

/-- The invariant reads only the runtime, `Enabled`, the loops and the cancel function. -/
theorem LoopInv.of_eq {sdk sdk' : Sdk A F} (h : LoopInv sdk)
    (hrt : sdk'.runtime.isSome = sdk.runtime.isSome)
    (hen : sdk'.writable.storeAndForward.enabled = sdk.writable.storeAndForward.enabled)
    (hl : sdk'.retryLoops = sdk.retryLoops) (hc : sdk'.storeForwardCancelCtx = sdk.storeForwardCancelCtx) :
    LoopInv sdk' := by
  unfold LoopInv OneLoop runningLoops at *
  rw [hrt, hen, hl, hc]
  exact h

/-- Starting a loop where none runs leaves exactly that loop running. -/
theorem startStoreForward_oneLoop {sdk : Sdk A F} (hrt : sdk.runtime.isSome)
    (h0 : runningLoops sdk = 0) :
    ∃ sdk', startStoreForward sdk = some sdk' ∧ OneLoop sdk' ∧ sdk'.writable = sdk.writable ∧
      sdk'.runtime = sdk.runtime := by
  obtain ⟨rt, hrt⟩ := Option.isSome_iff_exists.1 hrt
  unfold runningLoops at h0
  simp only [startStoreForward, hrt]
  refine ⟨_, rfl, ⟨sdk.retryLoops.length, rfl, by simp, ?_⟩, rfl, rfl⟩
  simp [runningLoops, List.count_append, h0]

/-- Stopping the one running loop leaves none running. -/
theorem stopStoreForward_of_oneLoop {sdk : Sdk A F} (h : OneLoop sdk) :
    ∃ sdk', stopStoreForward sdk = some sdk' ∧ runningLoops sdk' = 0 ∧
      sdk'.writable = sdk.writable ∧ sdk'.runtime = sdk.runtime ∧ sdk'.storeClient = sdk.storeClient := by
  obtain ⟨i, hc, hi, h1⟩ := h
  obtain ⟨hlt, hget⟩ := List.getElem?_eq_some_iff.1 hi
  simp only [stopStoreForward, hc]
  refine ⟨_, rfl, ?_, rfl, rfl, rfl⟩
  unfold runningLoops at h1 ⊢
  rw [List.count_set _ _ _ _ hlt, hget, h1]
  rfl

theorem setFunctionsPipeline_fst (transforms : List F) (sdk : Sdk A F) :
    (setFunctionsPipeline transforms sdk).1 =
      if transforms.length = 0 then sdk
      else { sdk with transforms, runtime := sdk.runtime.map fun _ => ⟨sdk.targetType, transforms⟩ } := by
  unfold setFunctionsPipeline
  split_ifs
  · rfl
  · cases sdk.runtime <;> rfl

/-- Reloading the pipeline touches neither the settings the `switch` compares nor the retry
loops. -/
theorem processConfigChangedPipeline_frame (methodByName : String → Option (Method A F))
    (toLower : String → String) (ranges : GoMap.RangeOrder String) (sdk : Sdk A F) :
    let sdk' := processConfigChangedPipeline methodByName toLower ranges sdk
    sdk'.writable.logLevel = sdk.writable.logLevel ∧
      sdk'.writable.storeAndForward = sdk.writable.storeAndForward ∧
      sdk'.runtime.isSome = sdk.runtime.isSome ∧ sdk'.retryLoops = sdk.retryLoops ∧
      sdk'.storeForwardCancelCtx = sdk.storeForwardCancelCtx := by
  dsimp only
  unfold processConfigChangedPipeline
  split
  · obtain ⟨functions, hfst⟩ := loadConfigurablePipeline_fst methodByName toLower ranges sdk
    cases hl : loadConfigurablePipeline methodByName toLower ranges sdk with
    | mk sdk₁ result =>
      rw [hl] at hfst
      subst hfst
      cases result with
      | error => exact ⟨rfl, rfl, rfl, rfl, rfl⟩
      | ok transforms =>
        dsimp only
        rw [setFunctionsPipeline_fst]
        by_cases ht : transforms.length = 0
        · rw [if_pos ht]
          exact ⟨rfl, rfl, rfl, rfl, rfl⟩
        · rw [if_neg ht]
          exact ⟨rfl, rfl, by cases sdk.runtime <;> rfl, rfl, rfl⟩
  · exact ⟨rfl, rfl, rfl, rfl, rfl⟩

/-! ### One update keeps one loop per enabled store-and-forward -/

/-- The arm of the `switch` one value takes: the first of the four settings that differs from
the SDK's copy, or the pipeline when none does. -/
theorem updateWritable_cases (methodByName : String → Option (Method A F))
    (toLower : String → String) (storeClientOk : Bool) (ranges : GoMap.RangeOrder String)
    (actual : WritableInfo A) (sdk : Sdk A F) :
    (sdk.writable.logLevel ≠ actual.logLevel ∧
      updateWritable methodByName toLower storeClientOk ranges actual sdk =
        some { sdk with writable := actual, loggingLevel := actual.logLevel }) ∨
    (sdk.writable.logLevel = actual.logLevel ∧
      sdk.writable.storeAndForward.maxRetryCount ≠ actual.storeAndForward.maxRetryCount ∧
      updateWritable methodByName toLower storeClientOk ranges actual sdk =
        if actual.storeAndForward.maxRetryCount < 0 then
          some { sdk with writable := { actual with storeAndForward.maxRetryCount := 1 } }
        else some { sdk with writable := actual }) ∨
    (sdk.writable.logLevel = actual.logLevel ∧
      sdk.writable.storeAndForward.maxRetryCount = actual.storeAndForward.maxRetryCount ∧
      sdk.writable.storeAndForward.retryInterval ≠ actual.storeAndForward.retryInterval ∧
      updateWritable methodByName toLower storeClientOk ranges actual sdk =
        processConfigChangedStoreForwardRetryInterval { sdk with writable := actual }) ∨
    (sdk.writable.logLevel = actual.logLevel ∧
      sdk.writable.storeAndForward.maxRetryCount = actual.storeAndForward.maxRetryCount ∧
      sdk.writable.storeAndForward.retryInterval = actual.storeAndForward.retryInterval ∧
      sdk.writable.storeAndForward.enabled ≠ actual.storeAndForward.enabled ∧
      updateWritable methodByName toLower storeClientOk ranges actual sdk =
        processConfigChangedStoreForwardEnabled storeClientOk { sdk with writable := actual }) ∨
    (sdk.writable.logLevel = actual.logLevel ∧
      sdk.writable.storeAndForward.maxRetryCount = actual.storeAndForward.maxRetryCount ∧
      sdk.writable.storeAndForward.retryInterval = actual.storeAndForward.retryInterval ∧
      sdk.writable.storeAndForward.enabled = actual.storeAndForward.enabled ∧
      updateWritable methodByName toLower storeClientOk ranges actual sdk =
        some (processConfigChangedPipeline methodByName toLower ranges { sdk with writable := actual })) := by
  unfold updateWritable
  dsimp only
  by_cases hlog : sdk.writable.logLevel = actual.logLevel
  swap
  · exact .inl ⟨hlog, by rw [if_pos hlog]⟩
  rw [if_neg (not_not.2 hlog)]
  by_cases hmax : sdk.writable.storeAndForward.maxRetryCount = actual.storeAndForward.maxRetryCount
  swap
  · exact .inr (.inl ⟨hlog, hmax, by rw [if_pos hmax]⟩)
  rw [if_neg (not_not.2 hmax)]
  by_cases hri : sdk.writable.storeAndForward.retryInterval = actual.storeAndForward.retryInterval
  swap
  · exact .inr (.inr (.inl ⟨hlog, hmax, hri, by rw [if_pos hri]⟩))
  rw [if_neg (not_not.2 hri)]
  by_cases hen : sdk.writable.storeAndForward.enabled = actual.storeAndForward.enabled
  swap
  · exact .inr (.inr (.inr (.inl ⟨hlog, hmax, hri, hen, by rw [if_pos hen]⟩)))
  rw [if_neg (not_not.2 hen)]
  exact .inr (.inr (.inr (.inr ⟨hlog, hmax, hri, hen, rfl⟩)))

theorem startStoreForward_writable {sdk sdk' : Sdk A F} (h : startStoreForward sdk = some sdk') :
    sdk'.writable = sdk.writable := by
  unfold startStoreForward at h
  split at h
  · cases h
  · cases h; rfl

theorem stopStoreForward_writable {sdk sdk' : Sdk A F} (h : stopStoreForward sdk = some sdk') :
    sdk'.writable = sdk.writable := by
  unfold stopStoreForward at h
  split at h
  · cases h
  · cases h; rfl

theorem retryInterval_loopInv {sdk : Sdk A F} (h : LoopInv sdk) :
    ∃ sdk', processConfigChangedStoreForwardRetryInterval sdk = some sdk' ∧ LoopInv sdk' := by
  obtain ⟨hrt, hloops⟩ := h
  unfold processConfigChangedStoreForwardRetryInterval
  split_ifs with hen
  · rw [if_pos hen] at hloops
    obtain ⟨sdk₁, hstop, h0, hw₁, hrt₁, -⟩ := stopStoreForward_of_oneLoop hloops
    obtain ⟨sdk₂, hstart, hone, hw₂, hrt₂⟩ := startStoreForward_oneLoop (hrt₁ ▸ hrt) h0
    refine ⟨sdk₂, by rw [hstop, Option.some_bind, hstart], by rw [hrt₂, hrt₁]; exact hrt, ?_⟩
    rw [hw₂, hw₁, if_pos hen]
    exact hone
  · exact ⟨sdk, rfl, hrt, hloops⟩

/-- The `Enabled` handler, from a state whose loops match the value of `Enabled` before the
change, leaves the loops matching the value after it. -/
theorem storeForwardEnabled_loopInv (storeClientOk : Bool) {sdk : Sdk A F}
    (hrt : sdk.runtime.isSome)
    (hpre : if sdk.writable.storeAndForward.enabled then runningLoops sdk = 0 else OneLoop sdk) :
    ∃ sdk', processConfigChangedStoreForwardEnabled storeClientOk sdk = some sdk' ∧ LoopInv sdk' := by
  unfold processConfigChangedStoreForwardEnabled
  by_cases hen : sdk.writable.storeAndForward.enabled = true
  · rw [if_pos hen] at hpre ⊢
    have hstart : ∀ s : Sdk A F, s.runtime = sdk.runtime → s.writable = sdk.writable →
        runningLoops s = 0 → ∃ sdk', startStoreForward s = some sdk' ∧ LoopInv sdk' := by
      intro s hs hw h0
      obtain ⟨s', hs', hone, hw', hrt'⟩ := startStoreForward_oneLoop (hs ▸ hrt) h0
      exact ⟨s', hs', by rw [hrt', hs]; exact hrt, by rw [hw', hw, if_pos hen]; exact hone⟩
    split_ifs with hsc hok
    · exact ⟨_, rfl, hrt, by simpa [runningLoops] using hpre⟩
    · obtain ⟨rt, hrt'⟩ := Option.isSome_iff_exists.1 hrt
      simp only [hrt']
      exact hstart _ hrt'.symm rfl hpre
    · exact hstart sdk rfl rfl hpre
  · rw [if_neg hen] at hpre ⊢
    obtain ⟨s', hs', h0, hw', hrt', -⟩ := stopStoreForward_of_oneLoop hpre
    exact ⟨s', hs', by rw [hrt']; exact hrt, by rw [hw', if_neg hen]; exact h0⟩

/-- One value from the registry keeps the loop invariant, and is handled without a panic, when
it changes `Enabled` only alone. -/
theorem updateWritable_loopInv (methodByName : String → Option (Method A F))
    (toLower : String → String) (storeClientOk : Bool) (ranges : GoMap.RangeOrder String)
    {actual : WritableInfo A} {sdk : Sdk A F}
    (hinv : LoopInv sdk) (halone : EnabledChangeAlone sdk.writable actual) :
    ∃ sdk', updateWritable methodByName toLower storeClientOk ranges actual sdk = some sdk' ∧
      LoopInv sdk' := by
  have hcopy : ∀ s : Sdk A F, s.runtime.isSome = sdk.runtime.isSome → s.retryLoops = sdk.retryLoops →
      s.storeForwardCancelCtx = sdk.storeForwardCancelCtx →
      s.writable.storeAndForward.enabled = sdk.writable.storeAndForward.enabled → LoopInv s :=
    fun s hrt hl hc hen => hinv.of_eq hrt hen hl hc
  rcases updateWritable_cases methodByName toLower storeClientOk ranges actual sdk with
    ⟨hlog, h⟩ | ⟨-, hmax, h⟩ | ⟨-, -, hri, h⟩ | ⟨-, -, -, hen, h⟩ | ⟨-, -, -, hen, h⟩ <;> rw [h]
  · exact ⟨_, rfl, hcopy _ rfl rfl rfl (by_contra fun h => hlog (halone (Ne.symm h)).1)⟩
  · have hen := by_contra fun h => hmax (halone (Ne.symm h)).2.1
    split_ifs
    · exact ⟨_, rfl, hcopy _ rfl rfl rfl hen⟩
    · exact ⟨_, rfl, hcopy _ rfl rfl rfl hen⟩
  · exact retryInterval_loopInv
      (hcopy _ rfl rfl rfl (by_contra fun h => hri (halone (Ne.symm h)).2.2))
  · refine storeForwardEnabled_loopInv storeClientOk hinv.1 ?_
    have hloops := hinv.2
    show if actual.storeAndForward.enabled then runningLoops sdk = 0 else OneLoop sdk
    revert hen hloops
    cases actual.storeAndForward.enabled <;> cases sdk.writable.storeAndForward.enabled <;>
      first | exact fun h => absurd rfl h | exact fun _ h => h
  · obtain ⟨-, hsf, hrt, hl, hc⟩ :=
      processConfigChangedPipeline_frame methodByName toLower ranges { sdk with writable := actual }
    exact ⟨_, rfl, hcopy _ hrt hl hc (by rw [hsf]; exact hen.symm)⟩

/-! ### Whole runs -/

theorem retryInterval_writable {sdk sdk' : Sdk A F}
    (h : processConfigChangedStoreForwardRetryInterval sdk = some sdk') : sdk'.writable = sdk.writable := by
  unfold processConfigChangedStoreForwardRetryInterval at h
  split_ifs at h
  · obtain ⟨sdk₁, h₁, h₂⟩ := Option.bind_eq_some.1 h
    rw [startStoreForward_writable h₂, stopStoreForward_writable h₁]
  · cases h; rfl

/-- With a store client that initialises, the `Enabled` handler keeps the settings it got. -/
theorem storeForwardEnabled_writable {sdk sdk' : Sdk A F}
    (h : processConfigChangedStoreForwardEnabled true sdk = some sdk') : sdk'.writable = sdk.writable := by
  unfold processConfigChangedStoreForwardEnabled at h
  simp only [Bool.not_true, Bool.false_eq_true, if_false] at h
  split_ifs at h
  · split at h
    · cases h
    · exact (startStoreForward_writable h).trans rfl
  · exact startStoreForward_writable h
  · exact stopStoreForward_writable h

/-- With a store client that initialises and a `MaxRetryCount` that is not negative, the SDK's
copy of the settings the `switch` compares is the value received. -/
theorem updateWritable_switchSynced (methodByName : String → Option (Method A F))
    (toLower : String → String) (ranges : GoMap.RangeOrder String) {actual : WritableInfo A}
    {sdk sdk' : Sdk A F} (hnonneg : 0 ≤ actual.storeAndForward.maxRetryCount)
    (h : updateWritable methodByName toLower true ranges actual sdk = some sdk') :
    SwitchSynced sdk'.writable actual := by
  rcases updateWritable_cases methodByName toLower true ranges actual sdk with
    ⟨-, h'⟩ | ⟨-, -, h'⟩ | ⟨-, -, -, h'⟩ | ⟨-, -, -, -, h'⟩ | ⟨-, -, -, -, h'⟩ <;> rw [h'] at h
  · cases h; exact ⟨rfl, rfl⟩
  · rw [if_neg (not_lt.2 hnonneg)] at h
    cases h; exact ⟨rfl, rfl⟩
  · rw [SwitchSynced, retryInterval_writable h]; exact ⟨rfl, rfl⟩
  · rw [SwitchSynced, storeForwardEnabled_writable h]; exact ⟨rfl, rfl⟩
  · cases h
    obtain ⟨hlog', hsf, -⟩ := processConfigChangedPipeline_frame methodByName toLower ranges
      { sdk with writable := actual }
    exact ⟨hlog', hsf⟩

/-- The start-up from a state without retry loops establishes the invariant. -/
theorem makeItRunStartUp_loopInv {sdk : Sdk A F} (h0 : runningLoops sdk = 0) :
    ∃ sdk', makeItRunStartUp sdk = some sdk' ∧ LoopInv sdk' ∧ sdk'.writable = sdk.writable := by
  unfold makeItRunStartUp
  dsimp only
  split_ifs with hen
  · obtain ⟨s', hs', hone, hw, hrt⟩ := startStoreForward_oneLoop
      (show ({ sdk with runtime := some ⟨sdk.targetType, sdk.transforms⟩ } : Sdk A F).runtime.isSome
        from rfl) h0
    exact ⟨s', hs', ⟨by rw [hrt]; rfl, by rw [hw, if_pos hen]; exact hone⟩, hw⟩
  · exact ⟨_, rfl, ⟨rfl, by rw [if_neg hen]; exact h0⟩, rfl⟩

/-- Under the invariant the shutdown cancels the running loop without a panic. -/
theorem makeItRunShutdown_of_loopInv {sdk : Sdk A F} (h : LoopInv sdk) :
    ∃ sdk', makeItRunShutdown sdk = some sdk' ∧ runningLoops sdk' = 0 := by
  obtain ⟨-, hloops⟩ := h
  unfold makeItRunShutdown
  split_ifs with hen
  · rw [if_pos hen] at hloops
    obtain ⟨s', hs', h0, -⟩ := stopStoreForward_of_oneLoop hloops
    exact ⟨s', hs', h0⟩
  · rw [if_neg hen] at hloops
    exact ⟨sdk, rfl, hloops⟩

/-- A handler whose `startStoreForward` or `stopStoreForward` returns changes only the retry
loops and the cancel function. -/
theorem startStoreForward_eq {sdk sdk' : Sdk A F} (h : startStoreForward sdk = some sdk') :
    sdk' = { sdk with
      retryLoops := sdk.retryLoops ++ [true]
      storeForwardCancelCtx := some sdk.retryLoops.length } := by
  unfold startStoreForward at h
  split at h
  · cases h
  · exact (Option.some.inj h).symm

theorem stopStoreForward_eq {sdk sdk' : Sdk A F} (h : stopStoreForward sdk = some sdk') :
    ∃ i, sdk' = { sdk with retryLoops := sdk.retryLoops.set i false } := by
  unfold stopStoreForward at h
  split at h
  · cases h
  · exact ⟨_, (Option.some.inj h).symm⟩

/-- No handler switches the configurable pipeline on or off. -/
theorem updateWritable_usingConfigurablePipeline (methodByName : String → Option (Method A F))
    (toLower : String → String) (storeClientOk : Bool) (ranges : GoMap.RangeOrder String)
    {actual : WritableInfo A} {sdk sdk' : Sdk A F}
    (h : updateWritable methodByName toLower storeClientOk ranges actual sdk = some sdk') :
    sdk'.usingConfigurablePipeline = sdk.usingConfigurablePipeline := by
  have hstart : ∀ s s' : Sdk A F, startStoreForward s = some s' →
      s'.usingConfigurablePipeline = s.usingConfigurablePipeline := fun s s' h => by
    rw [startStoreForward_eq h]
  have hstop : ∀ s s' : Sdk A F, stopStoreForward s = some s' →
      s'.usingConfigurablePipeline = s.usingConfigurablePipeline := fun s s' h => by
    obtain ⟨i, rfl⟩ := stopStoreForward_eq h; rfl
  rcases updateWritable_cases methodByName toLower storeClientOk ranges actual sdk with
    ⟨-, h'⟩ | ⟨-, -, h'⟩ | ⟨-, -, -, h'⟩ | ⟨-, -, -, -, h'⟩ | ⟨-, -, -, -, h'⟩ <;> rw [h'] at h
  · cases h; rfl
  · split_ifs at h <;> cases h <;> rfl
  · unfold processConfigChangedStoreForwardRetryInterval at h
    split_ifs at h
    · obtain ⟨sdk₁, h₁, h₂⟩ := Option.bind_eq_some.1 h
      rw [hstart _ _ h₂, hstop _ _ h₁]
    · cases h; rfl
  · unfold processConfigChangedStoreForwardEnabled at h
    split_ifs at h
    · cases h; rfl
    · split at h
      · cases h
      · exact (hstart _ _ h).trans rfl
    · exact (hstart _ _ h).trans rfl
    · exact (hstop _ _ h).trans rfl
  · cases h
    unfold processConfigChangedPipeline
    split_ifs with husing
    · obtain ⟨functions, hfst⟩ := loadConfigurablePipeline_fst methodByName toLower ranges
        { sdk with writable := actual }
      cases hl : loadConfigurablePipeline methodByName toLower ranges { sdk with writable := actual } with
      | mk sdk₁ result =>
        rw [hl] at hfst
        subst hfst
        have hset : ∀ (t : List F) (s : Sdk A F),
            (setFunctionsPipeline t s).1.usingConfigurablePipeline = s.usingConfigurablePipeline :=
          fun t s => by rw [setFunctionsPipeline_fst]; split_ifs <;> rfl
        cases result with
        | error => exact husing.symm
        | ok transforms => exact (hset _ _).trans husing.symm
    · rfl

/-- When the registry changes one setting at a time, every store client initialises and no
`MaxRetryCount` sent is negative, the invariant holds after every value received, the SDK's copy
of the settings the `switch` compares is the last value received, and the configurable pipeline
stays in use or out of use. -/
theorem listenForConfigChanges_loopInv (methodByName : String → Option (Method A F))
    (toLower : String → String) :
    ∀ (updates : List (Update A)) (sdk : Sdk A F) (delivered : WritableInfo A),
      LoopInv sdk → SwitchSynced sdk.writable delivered →
      List.Chain OneSettingAtATime delivered (updates.map Update.writable) →
      (∀ u ∈ updates, u.storeClientOk = true) →
      (∀ u ∈ updates, 0 ≤ u.writable.storeAndForward.maxRetryCount) →
      ∃ sdk', listenForConfigChanges methodByName toLower updates sdk = some sdk' ∧ LoopInv sdk' ∧
        SwitchSynced sdk'.writable ((updates.map Update.writable).getLastD delivered) ∧
        sdk'.usingConfigurablePipeline = sdk.usingConfigurablePipeline
  | [], sdk, _, hinv, hsync, _, _, _ => ⟨sdk, rfl, hinv, hsync, rfl⟩
  | u :: us, sdk, delivered, hinv, hsync, hchain, hok, hnonneg => by
    rw [List.map_cons, List.chain_cons] at hchain
    have hu := List.mem_cons_self u us
    obtain ⟨sdk₁, hstep, hinv₁⟩ := updateWritable_loopInv methodByName toLower u.storeClientOk u.ranges hinv
      (enabledChangeAlone_of_synced hsync hchain.1)
    have hsync₁ := updateWritable_switchSynced methodByName toLower u.ranges (hnonneg u hu)
      (hok u hu ▸ hstep)
    obtain ⟨sdk', hrun, hinv', hsync', husing'⟩ := listenForConfigChanges_loopInv methodByName toLower us
      sdk₁ u.writable hinv₁ hsync₁ hchain.2 (fun v hv => hok v (List.mem_cons_of_mem u hv))
      (fun v hv => hnonneg v (List.mem_cons_of_mem u hv))
    refine ⟨sdk', by rw [listenForConfigChanges, hstep, Option.some_bind, hrun], hinv', ?_,
      husing'.trans (updateWritable_usingConfigurablePipeline methodByName toLower _ _ hstep)⟩
    rw [List.map_cons, List.getLastD_cons]
    exact hsync'

/-- When the registry changes one setting at a time, every store client initialises and no
`MaxRetryCount` sent is negative, a run from a state without retry loops keeps one loop per
enabled store-and-forward and shuts down without a panic and without a running loop. -/
theorem runLifecycle_no_panic (methodByName : String → Option (Method A F))
    (toLower : String → String) (updates : List (Update A)) (sdk : Sdk A F)
    (h0 : runningLoops sdk = 0)
    (hchain : List.Chain OneSettingAtATime sdk.writable (updates.map Update.writable))
    (hok : ∀ u ∈ updates, u.storeClientOk = true)
    (hnonneg : ∀ u ∈ updates, 0 ≤ u.writable.storeAndForward.maxRetryCount) :
    (∃ sdk', (makeItRunStartUp sdk).bind (listenForConfigChanges methodByName toLower updates) =
      some sdk' ∧ LoopInv sdk') ∧
    ∃ sdk', runLifecycle methodByName toLower updates sdk = some sdk' ∧ runningLoops sdk' = 0 := by
  obtain ⟨sdk₁, hstart, hinv₁, hw₁⟩ := makeItRunStartUp_loopInv h0
  obtain ⟨sdk₂, hrun, hinv₂, -⟩ := listenForConfigChanges_loopInv methodByName toLower updates sdk₁
    sdk.writable hinv₁ (by rw [hw₁]; exact ⟨rfl, rfl⟩) hchain hok hnonneg
  obtain ⟨sdk₃, hstop, h₃⟩ := makeItRunShutdown_of_loopInv hinv₂
  refine ⟨⟨sdk₂, by rw [hstart, Option.some_bind, hrun], hinv₂⟩, sdk₃, ?_, h₃⟩
  rw [runLifecycle, hstart, Option.some_bind, hrun, Option.some_bind, hstop]

/-! ### Runs -/

/-- Settings with store-and-forward off. -/
def quietWritable : WritableInfo Unit :=
  { logLevel := "INFO", storeAndForward := ⟨false, "10s", 5⟩, pipeline := ⟨"", false, GoMap.empty⟩ }

/-- An SDK before `MakeItRun` with those settings, no store client and no retry loop. -/
def quietSdk : Sdk Unit String :=
  { writable := quietWritable, applicationSettings := none, loggingLevel := "INFO"
    usingConfigurablePipeline := false, targetType := .unset, transforms := [], runtime := none
    storeClient := false, retryLoops := [], storeForwardCancelCtx := none }

/-- Store-and-forward switched on. -/
def enabledWritable : WritableInfo Unit := { quietWritable with storeAndForward.enabled := true }

/-- Then the log level changed. -/
def debugWritable : WritableInfo Unit := { enabledWritable with logLevel := "DEBUG" }

theorem runLifecycle_no_panic_enable :
    runningLoops quietSdk = 0 ∧ List.Chain OneSettingAtATime quietSdk.writable [enabledWritable] ∧
      ((∃ sdk', (makeItRunStartUp quietSdk).bind
          (listenForConfigChanges (fun _ => none) id [⟨enabledWritable, true, .insertion⟩]) = some sdk' ∧
          LoopInv sdk') ∧
        ∃ sdk', runLifecycle (fun _ => none) id [⟨enabledWritable, true, .insertion⟩] quietSdk = some sdk' ∧
          runningLoops sdk' = 0) := by
  have hchain : List.Chain OneSettingAtATime quietSdk.writable [enabledWritable] :=
    .cons (oneSettingAtATime_enabled _ _) .nil
  exact ⟨rfl, hchain, runLifecycle_no_panic (fun _ => none) id [⟨enabledWritable, true, .insertion⟩] quietSdk rfl
    hchain (by simp) (by simp [enabledWritable, quietWritable])⟩

/-- The registry switches store-and-forward on, the store client fails to initialise, and the
registry then changes the log level: the SDK's copy has `Enabled` set while no retry loop runs,
and the shutdown calls the `nil` cancel function. -/
theorem storeForward_enabled_without_retryLoop :
    OneSettingAtATime quietSdk.writable enabledWritable ∧
      OneSettingAtATime enabledWritable debugWritable ∧
      ∃ sdk, (makeItRunStartUp quietSdk).bind (listenForConfigChanges (fun _ => none) id
          [⟨enabledWritable, false, .insertion⟩, ⟨debugWritable, true, .insertion⟩]) = some sdk ∧
        sdk.writable.storeAndForward.enabled = true ∧ runningLoops sdk = 0 ∧
        makeItRunShutdown sdk = none :=
  ⟨oneSettingAtATime_enabled _ _, oneSettingAtATime_logLevel _ _, _, rfl, rfl, rfl, rfl⟩

/-- `filterSdk` with the configurable pipeline in use. -/
def clampSdk : Sdk Unit String := { filterSdk with usingConfigurablePipeline := true }

/-- `MaxRetryCount` set to `-1`. -/
def negativeWritable : WritableInfo Unit :=
  { filterSdk.writable with storeAndForward.maxRetryCount := -1 }

/-- Then the log level changed. -/
def negativeDebugWritable : WritableInfo Unit := { negativeWritable with logLevel := "DEBUG" }

/-- Or then the pipeline changed: the filter listed twice. -/
def doubledWritable : WritableInfo Unit :=
  { negativeWritable with pipeline.executionOrder := "FilterByDeviceName, FilterByDeviceName" }

/-- The registry sets `MaxRetryCount` to `-1`, which the SDK's copy turns into `1`.  A following
log-level change copies `-1` back and keeps it; a following pipeline change is taken for a
`MaxRetryCount` change, so the runtime keeps its old pipeline although the new section loads. -/
theorem maxRetryCount_clamp_drops_change :
    OneSettingAtATime clampSdk.writable negativeWritable ∧
      OneSettingAtATime negativeWritable negativeDebugWritable ∧
      OneSettingAtATime negativeWritable doubledWritable ∧
      (∃ sdk, (makeItRunStartUp clampSdk).bind (listenForConfigChanges filterMethods lowerDeviceNames
          [⟨negativeWritable, true, .insertion⟩, ⟨negativeDebugWritable, true, .insertion⟩]) = some sdk ∧
        sdk.writable.storeAndForward.maxRetryCount = -1) ∧
      (loadConfigurablePipeline filterMethods lowerDeviceNames GoMap.RangeOrder.insertion
          { clampSdk with writable := doubledWritable }).2 =
        .ok ["Random-Float-Device", "Random-Float-Device"] ∧
      ∃ sdk, (makeItRunStartUp clampSdk).bind (listenForConfigChanges filterMethods lowerDeviceNames
          [⟨negativeWritable, true, .insertion⟩, ⟨doubledWritable, true, .insertion⟩]) = some sdk ∧
        sdk.runtime = some ⟨.unset, []⟩ :=
  ⟨oneSettingAtATime_maxRetryCount _ _, oneSettingAtATime_logLevel _ _,
    oneSettingAtATime_pipeline _ _, ⟨_, rfl, rfl⟩, rfl, _, rfl, rfl⟩

/-! ### A change of the pipeline section alone -/

/-- A value that changes the pipeline section and none of the settings the `switch` compares
reloads the configurable pipeline: the runtime then runs the functions loaded from the new
section with the target type it asks for, or is left as it was when the load fails. -/
theorem updateWritable_pipeline (methodByName : String → Option (Method A F))
    (toLower : String → String) (storeClientOk : Bool) (ranges : GoMap.RangeOrder String)
    {actual : WritableInfo A} {sdk : Sdk A F}
    (hsync : SwitchSynced sdk.writable actual) (husing : sdk.usingConfigurablePipeline = true) :
    ∃ sdk', updateWritable methodByName toLower storeClientOk ranges actual sdk = some sdk' ∧
      (∀ transforms, (loadConfigurablePipeline methodByName toLower ranges
          { sdk with writable := actual }).2 = .ok transforms →
        sdk'.runtime = sdk.runtime.map fun _ =>
          ⟨if actual.pipeline.useTargetTypeOfByteArray then .byteArray else .unset, transforms⟩) ∧
      (∀ err, (loadConfigurablePipeline methodByName toLower ranges
          { sdk with writable := actual }).2 = .error err →
        sdk'.runtime = sdk.runtime ∧ sdk'.transforms = sdk.transforms) := by
  obtain ⟨hlog, hsf⟩ := hsync
  have hstep : updateWritable methodByName toLower storeClientOk ranges actual sdk =
      some (processConfigChangedPipeline methodByName toLower ranges { sdk with writable := actual }) := by
    rcases updateWritable_cases methodByName toLower storeClientOk ranges actual sdk with
      ⟨h, -⟩ | ⟨-, h, -⟩ | ⟨-, -, h, -⟩ | ⟨-, -, -, h, -⟩ | ⟨-, -, -, -, h⟩
    · exact absurd hlog h
    · exact absurd (congrArg (·.maxRetryCount) hsf) h
    · exact absurd (congrArg (·.retryInterval) hsf) h
    · exact absurd (congrArg (·.enabled) hsf) h
    · exact h
  refine ⟨_, hstep, ?_⟩
  unfold processConfigChangedPipeline
  rw [if_pos husing]
  obtain ⟨functions, hfst⟩ := loadConfigurablePipeline_fst methodByName toLower ranges
    { sdk with writable := actual }
  cases hl : loadConfigurablePipeline methodByName toLower ranges { sdk with writable := actual } with
  | mk sdk₁ result =>
    rw [hl] at hfst
    subst hfst
    cases result with
    | error err => exact ⟨fun _ h => (by cases h), fun _ _ => ⟨rfl, rfl⟩⟩
    | ok transforms =>
      have hne := loadConfigurablePipeline_ne_nil methodByName toLower ranges (congrArg Prod.snd hl)
      refine ⟨fun transforms' h => ?_, fun _ h => by cases h⟩
      cases h
      dsimp only
      rw [setFunctionsPipeline_fst, if_neg (by simpa [List.length_eq_zero] using hne)]

/-- When the registry changes one setting at a time, every store client initialises and no
`MaxRetryCount` sent is negative, no change of the pipeline section is lost: in a run from a
state without retry loops that uses the configurable pipeline, a value that keeps the settings
the `switch` compares as the value before it had them reloads the pipeline, and the runtime then
runs the functions loaded from its section, with the target type it asks for, or is left as it
was when the load fails. -/
theorem listenForConfigChanges_pipeline (methodByName : String → Option (Method A F))
    (toLower : String → String) (sdk : Sdk A F) (updates : List (Update A)) (u : Update A)
    (h0 : runningLoops sdk = 0) (husing : sdk.usingConfigurablePipeline = true)
    (hchain : List.Chain OneSettingAtATime sdk.writable (updates.map Update.writable))
    (hok : ∀ v ∈ updates, v.storeClientOk = true)
    (hnonneg : ∀ v ∈ updates, 0 ≤ v.writable.storeAndForward.maxRetryCount)
    (hsame : SwitchSynced ((updates.map Update.writable).getLastD sdk.writable) u.writable) :
    ∃ sdk₁ sdk₂, (makeItRunStartUp sdk).bind (listenForConfigChanges methodByName toLower updates) =
        some sdk₁ ∧
      updateWritable methodByName toLower u.storeClientOk u.ranges u.writable sdk₁ = some sdk₂ ∧
      (∀ transforms, (loadConfigurablePipeline methodByName toLower u.ranges
          { sdk₁ with writable := u.writable }).2 = .ok transforms →
        ∃ rt, sdk₁.runtime = some rt ∧ sdk₂.runtime = some
          ⟨if u.writable.pipeline.useTargetTypeOfByteArray then .byteArray else .unset, transforms⟩) ∧
      (∀ err, (loadConfigurablePipeline methodByName toLower u.ranges
          { sdk₁ with writable := u.writable }).2 = .error err →
        sdk₂.runtime = sdk₁.runtime ∧ sdk₂.transforms = sdk₁.transforms) := by
  obtain ⟨sdk₀, hstart, hinv₀, hw₀⟩ := makeItRunStartUp_loopInv h0
  have husing₀ : sdk₀.usingConfigurablePipeline = true := by
    unfold makeItRunStartUp at hstart
    dsimp only at hstart
    split_ifs at hstart
    · rw [startStoreForward_eq hstart]; exact husing
    · cases hstart; exact husing
  obtain ⟨sdk₁, hrun, ⟨hrt, -⟩, hsync₁, husing₁⟩ := listenForConfigChanges_loopInv methodByName toLower
    updates sdk₀ sdk.writable hinv₀ (by rw [hw₀]; exact ⟨rfl, rfl⟩) hchain hok hnonneg
  have hsync : SwitchSynced sdk₁.writable u.writable :=
    ⟨hsync₁.1.trans hsame.1, hsync₁.2.trans hsame.2⟩
  obtain ⟨sdk₂, hstep, hloaded, hfailed⟩ := updateWritable_pipeline methodByName toLower
    u.storeClientOk u.ranges hsync (husing₁.trans husing₀)
  obtain ⟨rt, hrt⟩ := Option.isSome_iff_exists.1 hrt
  refine ⟨sdk₁, sdk₂, by rw [hstart, Option.some_bind, hrun], hstep,
    fun transforms h => ⟨rt, hrt, by rw [hloaded transforms h, hrt]; rfl⟩, hfailed⟩

/-- `filterSdk` with the log level changed. -/
def debugFilterWritable : WritableInfo Unit := { filterSdk.writable with logLevel := "DEBUG" }

/-- Then the filter listed twice. -/
def doubledFilterWritable : WritableInfo Unit :=
  { debugFilterWritable with pipeline.executionOrder := "FilterByDeviceName, FilterByDeviceName" }

theorem listenForConfigChanges_pipeline_doubled :
    runningLoops clampSdk = 0 ∧ clampSdk.usingConfigurablePipeline = true ∧
      List.Chain OneSettingAtATime clampSdk.writable
        (([⟨debugFilterWritable, true, .insertion⟩] : List (Update Unit)).map Update.writable) ∧
      (∀ v ∈ ([⟨debugFilterWritable, true, .insertion⟩] : List (Update Unit)), v.storeClientOk = true) ∧
      (∀ v ∈ ([⟨debugFilterWritable, true, .insertion⟩] : List (Update Unit)),
        0 ≤ v.writable.storeAndForward.maxRetryCount) ∧
      SwitchSynced (([⟨debugFilterWritable, true, .insertion⟩] : List (Update Unit)).map
        Update.writable |>.getLastD clampSdk.writable) doubledFilterWritable ∧
      ∃ sdk₁ sdk₂, (makeItRunStartUp clampSdk).bind (listenForConfigChanges filterMethods
          lowerDeviceNames [⟨debugFilterWritable, true, .insertion⟩]) = some sdk₁ ∧
        updateWritable filterMethods lowerDeviceNames true .insertion doubledFilterWritable sdk₁ =
          some sdk₂ ∧
        (∀ transforms, (loadConfigurablePipeline filterMethods lowerDeviceNames .insertion
            { sdk₁ with writable := doubledFilterWritable }).2 = .ok transforms →
          ∃ rt, sdk₁.runtime = some rt ∧ sdk₂.runtime = some
            ⟨if doubledFilterWritable.pipeline.useTargetTypeOfByteArray then .byteArray else .unset,
              transforms⟩) ∧
        (∀ err, (loadConfigurablePipeline filterMethods lowerDeviceNames .insertion
            { sdk₁ with writable := doubledFilterWritable }).2 = .error err →
          sdk₂.runtime = sdk₁.runtime ∧ sdk₂.transforms = sdk₁.transforms) := by
  have hchain : List.Chain OneSettingAtATime clampSdk.writable
      (([⟨debugFilterWritable, true, .insertion⟩] : List (Update Unit)).map Update.writable) :=
    .cons (oneSettingAtATime_logLevel _ _) .nil
  have hok : ∀ v ∈ ([⟨debugFilterWritable, true, .insertion⟩] : List (Update Unit)),
      v.storeClientOk = true := by simp
  have hnonneg : ∀ v ∈ ([⟨debugFilterWritable, true, .insertion⟩] : List (Update Unit)),
      0 ≤ v.writable.storeAndForward.maxRetryCount := by
    simp [debugFilterWritable, filterSdk]
  exact ⟨rfl, rfl, hchain, hok, hnonneg, ⟨rfl, rfl⟩,
    listenForConfigChanges_pipeline filterMethods lowerDeviceNames clampSdk
      [⟨debugFilterWritable, true, .insertion⟩] ⟨doubledFilterWritable, true, .insertion⟩ rfl rfl
      hchain hok hnonneg ⟨rfl, rfl⟩⟩

example : ∃ sdk₂, ((makeItRunStartUp clampSdk).bind (listenForConfigChanges filterMethods
    lowerDeviceNames [⟨debugFilterWritable, true, .insertion⟩, ⟨doubledFilterWritable, true, .insertion⟩]))
      = some sdk₂ ∧ sdk₂.runtime = some ⟨.unset, ["Random-Float-Device", "Random-Float-Device"]⟩ :=
  ⟨_, rfl, rfl⟩

end AppSdk
end AppFunctionsSdk
