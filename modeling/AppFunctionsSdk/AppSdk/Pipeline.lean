import Mathlib.Data.List.Forall2
import AppFunctionsSdk.Util.CommaList
import AppFunctionsSdk.Util.GoMap

/-!
# The configurable pipeline

`LoadConfigurablePipeline` builds the functions pipeline from `Writable.Pipeline`.  It reads
the execution order through `parseCommaList`, and for each name it finds the name's entry of
`Pipeline.Functions` and the method of `AppFunctionsSDKConfigurable` that reflection finds by
that name, writes every parameter under its lower-case key, and calls the method with the
arguments its parameter types ask for.  The methods reflection can find are a table
`methodByName`, `strings.ToLower` is the argument `toLower`, and `A` and `F` are the types of
`models.Addressable` and of `AppFunction`, which the loader only passes on.  The check
`result.IsNil()` never holds of a method value and is left out, as are the loader's
`LoggingClient.Debug` calls, made on the logging client that `Initialize` sets up first.

The `Parameters` map of an entry is shared with the configuration, so the key-lowering loop
writes into `sdk.config`, and a name listed twice lowers the keys of one map twice.  Each of those
loops ranges over the map in an order Go does not fix and may choose anew each time: the orders
are an argument, one per position of the execution order (`GoMap.RangeOrder`).  When two keys of a
map have one lower-case spelling, the value the spelling ends up with depends on that order, so
the two positions of a name listed twice can be built from different maps.

* `lowerKeys_spec` — in every order, the key-lowering loop keeps every key and makes every key
  readable under its lower-case spelling with the value of one of its spellings; on a map with
  no two keys of one lower-case spelling, its reads do not depend on the order, and a second run
  changes none of them.
* `loadConfigurablePipeline_correct` — the loader fails exactly when the execution order is
  empty or, at one of its positions, the name has no entry, no built-in method, a parameter of
  another type, or does not yield an `AppFunction`; otherwise it returns one function per
  position, in order, the name's method applied to the name's `Parameters` as the key-lowering
  loop leaves them at that position, and its `Addressable`.
* `getAppSettingStrings_spec` — a present setting is read as the comma list, and the error for
  a missing one starts with the setting's name.
-/

namespace AppFunctionsSdk
namespace AppSdk

open Util

/-! ### Configuration and SDK state -/

/-- A parameter type of a built-in function, as `reflect.Type` reports it. -/
inductive ParamType where
  /-- `map[string]string` -/
  | stringMap
  /-- `models.Addressable` -/
  | addressable
  /-- Any other type, by its `String()`. -/
  | other (name : String)

/-- An argument of a call through reflection. -/
inductive ParamValue (A : Type) where
  | stringMap (parameters : StringMap)
  | addressable (addressable : A)

/-- A method of `AppFunctionsSDKConfigurable` that `reflect.Value.MethodByName` finds: its
parameter types, and what a call returns (`none` when it is not an `AppFunction`). -/
structure Method (A F : Type) where
  params : List ParamType
  call : List (ParamValue A) → Option F

/-- `common.PipelineFunction`. -/
structure PipelineFunction (A : Type) where
  parameters : StringMap
  addressable : A

/-- `common.PipelineInfo`. -/
structure PipelineInfo (A : Type) where
  executionOrder : String
  useTargetTypeOfByteArray : Bool
  functions : GoMap (PipelineFunction A)

/-- `common.StoreAndForwardInfo`. -/
structure StoreAndForwardInfo where
  enabled : Bool
  retryInterval : String
  maxRetryCount : Int

/-- `common.WritableInfo`. -/
structure WritableInfo (A : Type) where
  logLevel : String
  storeAndForward : StoreAndForwardInfo
  pipeline : PipelineInfo A

/-- The value of `sdk.TargetType`: `nil`, `&[]byte{}`, or a type the application set. -/
inductive TargetType where
  | unset
  | byteArray
  | other (name : String)

/-- The fields of `runtime.GolangRuntime` the SDK sets. -/
structure Runtime (F : Type) where
  targetType : TargetType
  transforms : List F

/-- The fields of `AppFunctionsSDK` that the modelled methods read and write.  `loggingLevel`
is the level last handed to `LoggingClient.SetLogLevel`; `storeClient` is
`sdk.storeClient != nil`; `retryLoops` has one flag per store-and-forward retry loop ever
started, true until its context is cancelled; `storeForwardCancelCtx` is the loop whose
context `sdk.storeForwardCancelCtx` cancels (`none` while it is `nil`; `storeForwardWg` is set
with it). -/
structure Sdk (A F : Type) where
  writable : WritableInfo A
  applicationSettings : Option StringMap
  loggingLevel : String
  usingConfigurablePipeline : Bool
  targetType : TargetType
  transforms : List F
  runtime : Option (Runtime F)
  storeClient : Bool
  retryLoops : List Bool
  storeForwardCancelCtx : Option Nat

variable {A F : Type}

/-! ### The key-lowering loop -/

/-- One turn of the loop, on the key its `range` visits:
`Parameters[strings.ToLower(key)] = Parameters[key]`. -/
def lowerStep (toLower : String → String) (parameters : StringMap) (key : String) : StringMap :=
  parameters.set (toLower key) ((parameters.lookup key).getD "")

/-- The key-lowering loop, its `range` visiting the keys in `order`.  The `range` visits the keys
the map holds when it starts; a key the loop adds is a lower-case spelling, which a `range` that
visited it too would write back to itself. -/
def lowerKeys (toLower : String → String) (order : List String) (parameters : StringMap) :
    StringMap :=
  order.foldl (lowerStep toLower) parameters

/-- An entry of `Pipeline.Functions` after the loop has lowered its keys in `order`. -/
def lowerParameters (toLower : String → String) (order : List String)
    (configuration : PipelineFunction A) : PipelineFunction A :=
  { configuration with parameters := lowerKeys toLower order configuration.parameters }

/-- The writes of the loop that change something: every key visited that is not in lower case,
written under its lower-case spelling with the value it has in `m`, in the order visited. -/
def lowerWrites (toLower : String → String) (m : StringMap) (order : List String) :
    List (String × String) :=
  (order.filter fun k => toLower k != k).map fun k => (toLower k, (m.lookup k).getD "")

/-- No two keys of the map have one lower-case spelling. -/
def CaseDistinct (toLower : String → String) (m : StringMap) : Prop :=
  ∀ k₁ ∈ m.keys, ∀ k₂ ∈ m.keys, toLower k₁ = toLower k₂ → k₁ = k₂

/-- What a key reads after the loop, on a map with no two keys of one lower-case spelling: the
value of the key it is the lower-case spelling of, if there is one, and its own otherwise. -/
def loweredLookup (toLower : String → String) (m : StringMap) (x : String) : Option String :=
  match m.keys.find? fun k => toLower k == x && k != x with
  | some k => m.lookup k
  | none => m.lookup x

section Lowering

variable {toLower : String → String}

/-- The loop writes a key that is already in lower case back to itself, and a key that is
not to its lower-case spelling, with the value it has in `m`. -/
theorem foldl_lowerStep (hidem : ∀ s, toLower (toLower s) = toLower s) (m : StringMap) :
    ∀ (order : List String) (acc : StringMap), (∀ k ∈ order, k ∈ acc.keys) →
      (∀ k ∈ order, toLower k ≠ k → acc.lookup k = m.lookup k) →
      order.foldl (lowerStep toLower) acc = acc.writeAll (lowerWrites toLower m order)
  | [], _, _, _ => rfl
  | k :: order, acc, hkeys, hvals => by
    have hkeys' : ∀ k' ∈ order, k' ∈ acc.keys := fun k' h => hkeys k' (List.mem_cons_of_mem k h)
    by_cases hk : toLower k = k
    · obtain ⟨v, hv⟩ := Option.isSome_iff_exists.1
        ((GoMap.mem_keys_iff acc k).1 (hkeys k (List.mem_cons_self k order)))
      have hstep : lowerStep toLower acc k = acc := by
        rw [lowerStep, hk, hv, Option.getD_some, GoMap.set_of_lookup hv]
      have hw : lowerWrites toLower m (k :: order) = lowerWrites toLower m order := by
        simp [lowerWrites, hk]
      rw [List.foldl_cons, hstep, hw]
      exact foldl_lowerStep hidem m order acc hkeys' fun k' h => hvals k' (List.mem_cons_of_mem k h)
    · have hstep : lowerStep toLower acc k = acc.set (toLower k) ((m.lookup k).getD "") := by
        rw [lowerStep, hvals k (List.mem_cons_self k order) hk]
      have hw : lowerWrites toLower m (k :: order) =
          (toLower k, (m.lookup k).getD "") :: lowerWrites toLower m order := by
        simp [lowerWrites, hk]
      rw [List.foldl_cons, hstep, hw, GoMap.writeAll, List.foldl_cons, ← GoMap.writeAll]
      refine foldl_lowerStep hidem m order _ (fun k' h => GoMap.keys_subset_set _ _ _ (hkeys' k' h))
        fun k' h hne => ?_
      have hne' : k' ≠ toLower k := fun h' => hne (by rw [h', hidem])
      rw [GoMap.lookup_set, if_neg hne']
      exact hvals k' (List.mem_cons_of_mem k h) hne

variable {m : StringMap} {order : List String}

/-- A write of the loop comes from a key of the map that is not in lower case. -/
theorem mem_lowerWrites (horder : ∀ k ∈ order, k ∈ m.keys) {w : String × String}
    (hw : w ∈ lowerWrites toLower m order) :
    ∃ k ∈ m.keys, toLower k ≠ k ∧ w = (toLower k, (m.lookup k).getD "") := by
  obtain ⟨k, hk, rfl⟩ := List.mem_map.1 hw
  obtain ⟨hko, hlow⟩ := List.mem_filter.1 hk
  exact ⟨k, horder k hko, by simpa using hlow, rfl⟩

variable (hidem : ∀ s, toLower (toLower s) = toLower s) (horder : ∀ k ∈ order, k ∈ m.keys)
include hidem horder

theorem lowerKeys_eq_writeAll : lowerKeys toLower order m = m.writeAll (lowerWrites toLower m order) :=
  foldl_lowerStep hidem m order m horder fun _ _ _ => rfl

/-- After the loop a key reads the value of the last key visited that is spelled like it in
other case, and otherwise its own. -/
theorem lookup_lowerKeys (x : String) :
    (lowerKeys toLower order m).lookup x =
      ((lowerWrites toLower m order).reverse.lookup x).or (m.lookup x) := by
  rw [lowerKeys_eq_writeAll hidem horder, GoMap.lookup_writeAll]

/-- After the loop a visited key's lower-case spelling reads the value of one of the map's
keys with that lower-case spelling. -/
theorem lookup_lowerKeys_lower {k : String} (hk : k ∈ order) :
    ∃ k' ∈ m.keys, toLower k' = toLower k ∧
      (lowerKeys toLower order m).lookup (toLower k) = m.lookup k' := by
  rw [lookup_lowerKeys hidem horder]
  cases hw : (lowerWrites toLower m order).reverse.lookup (toLower k) with
  | some v =>
    obtain ⟨l₁, l₂, hl, -⟩ := List.lookup_eq_some_iff.1 hw
    obtain ⟨k', hk', -, hkv⟩ := mem_lowerWrites horder
      (List.mem_reverse.1 (hl ▸ List.mem_append_right _ (List.mem_cons_self _ _)))
    obtain ⟨hlow, rfl⟩ := Prod.mk.inj hkv
    obtain ⟨v, hv⟩ := Option.isSome_iff_exists.1 ((GoMap.mem_keys_iff m k').1 hk')
    exact ⟨k', hk', hlow.symm, by rw [hv]; rfl⟩
  | none =>
    by_cases hlow : toLower k = k
    · exact ⟨k, horder k hk, rfl, by rw [hlow]; rfl⟩
    · have hmem : (toLower k, (m.lookup k).getD "") ∈ (lowerWrites toLower m order).reverse :=
        List.mem_reverse.2 (List.mem_map.2 ⟨k, List.mem_filter.2 ⟨hk, by simpa using hlow⟩, rfl⟩)
      have hsome := List.lookup_isSome_iff.2 ⟨_, hmem, beq_self_eq_true (toLower k)⟩
      rw [hw] at hsome
      cases hsome

/-- A key the loop did not write reads as before. -/
theorem lookup_lowerKeys_of_not_lower {k : String} (hk : toLower k ≠ k) :
    (lowerKeys toLower order m).lookup k = m.lookup k := by
  rw [lookup_lowerKeys hidem horder]
  suffices h : (lowerWrites toLower m order).reverse.lookup k = none by rw [h]; rfl
  refine List.lookup_eq_none_iff.2 fun w hw => ?_
  obtain ⟨k', -, -, rfl⟩ := mem_lowerWrites horder (List.mem_reverse.1 hw)
  simpa using fun h : k = toLower k' => hk (by rw [h, hidem])

/-- The keys after the loop are the map's and lower-case spellings of them. -/
theorem mem_keys_lowerKeys {k : String} (hk : k ∈ (lowerKeys toLower order m).keys)
    (hlow : toLower k ≠ k) : k ∈ m.keys := by
  rw [lowerKeys_eq_writeAll hidem horder] at hk
  rcases List.mem_append.1 (GoMap.keys_writeAll_subset m _ hk) with h | h
  · exact h
  · obtain ⟨w, hw, rfl⟩ := List.mem_map.1 h
    obtain ⟨k', -, -, rfl⟩ := mem_lowerWrites horder hw
    exact absurd (hidem k') hlow

end Lowering

section CaseDistinct

variable {toLower : String → String} {m : StringMap}

/-- A key that is not in lower case holds what its lower-case spelling reads after the loop. -/
theorem loweredLookup_of_spelling (hcd : CaseDistinct toLower m) {k : String} (hk : k ∈ m.keys) (hlow : toLower k ≠ k) :
    loweredLookup toLower m (toLower k) = some ((m.lookup k).getD "") := by
  have hsome : (m.keys.find? fun k' => toLower k' == toLower k && k' != toLower k).isSome :=
    List.find?_isSome.2 ⟨k, hk, by simpa using Ne.symm hlow⟩
  obtain ⟨k₀, hk₀⟩ := Option.isSome_iff_exists.1 hsome
  have hp := List.find?_some hk₀
  simp only [Bool.and_eq_true, beq_iff_eq] at hp
  have hk₀k : k₀ = k := hcd k₀ (List.mem_of_find?_eq_some hk₀) k hk hp.1
  obtain ⟨v, hv⟩ := Option.isSome_iff_exists.1 ((GoMap.mem_keys_iff m k).1 hk)
  rw [loweredLookup, hk₀, hk₀k]
  simp [hv]

/-- A string that is no key's lower-case spelling reads as before. -/
theorem loweredLookup_of_no_spelling {x : String}
    (h : ∀ k ∈ m.keys, toLower k ≠ k → toLower k ≠ x) : loweredLookup toLower m x = m.lookup x := by
  have hnone : (m.keys.find? fun k => toLower k == x && k != x) = none :=
    List.find?_eq_none.2 fun k hk hp => by
      simp only [Bool.and_eq_true, beq_iff_eq, bne_iff_ne, ne_eq] at hp
      exact h k hk (fun hl => hp.2 (hl.symm.trans hp.1)) hp.1
  rw [loweredLookup, hnone]

/-- Reads after writes of the loop, each from a key of `m` that is not in lower case, and on a map
that reads `loweredLookup` where no key is spelled in lower case. -/
theorem lookup_or_of_writes (hcd : CaseDistinct toLower m) {ws : List (String × String)} {base : Option String} {x : String}
    (hws : ∀ w ∈ ws, ∃ k ∈ m.keys, toLower k ≠ k ∧ w = (toLower k, (m.lookup k).getD ""))
    (hbase : ws.reverse.lookup x = none → base = loweredLookup toLower m x) :
    (ws.reverse.lookup x).or base = loweredLookup toLower m x := by
  cases hw : ws.reverse.lookup x with
  | none => exact hbase hw
  | some v =>
    obtain ⟨l₁, l₂, hl, -⟩ := List.lookup_eq_some_iff.1 hw
    obtain ⟨k, hk, hlow, hkv⟩ := hws _
      (List.mem_reverse.1 (hl ▸ List.mem_append_right _ (List.mem_cons_self _ _)))
    obtain ⟨rfl, rfl⟩ := Prod.mk.inj hkv
    exact (loweredLookup_of_spelling hcd hk hlow).symm

variable (hcd : CaseDistinct toLower m) (hidem : ∀ s, toLower (toLower s) = toLower s)
include hcd hidem

/-- On a map with no two keys of one lower-case spelling, the loop gives the same reads in every
order of its `range`. -/
theorem lookup_lowerKeys_caseDistinct {order : List String} (horder : order.Perm m.keys)
    (x : String) : (lowerKeys toLower order m).lookup x = loweredLookup toLower m x := by
  have hmem : ∀ k ∈ order, k ∈ m.keys := fun k hk => horder.subset hk
  rw [lookup_lowerKeys hidem hmem]
  refine lookup_or_of_writes hcd (fun w hw => mem_lowerWrites hmem hw) fun hw => ?_
  refine (loweredLookup_of_no_spelling fun k hk hlow hkx => ?_).symm
  have hin : (toLower k, (m.lookup k).getD "") ∈ (lowerWrites toLower m order).reverse :=
    List.mem_reverse.2 (List.mem_map.2 ⟨k, List.mem_filter.2 ⟨horder.mem_iff.2 hk, by simpa using hlow⟩, rfl⟩)
  exact absurd (List.lookup_eq_none_iff.1 hw _ hin) (by simp [hkx])

/-- On such a map, a second run of the loop, in any order, changes no read. -/
theorem lookup_lowerKeys_twice {order order' : List String} (horder : order.Perm m.keys)
    (horder' : order'.Perm (lowerKeys toLower order m).keys) (x : String) :
    (lowerKeys toLower order' (lowerKeys toLower order m)).lookup x = loweredLookup toLower m x := by
  have hmem : ∀ k ∈ order, k ∈ m.keys := fun k hk => horder.subset hk
  have hmem' : ∀ k ∈ order', k ∈ (lowerKeys toLower order m).keys := fun k hk => horder'.subset hk
  rw [lookup_lowerKeys hidem hmem']
  refine lookup_or_of_writes hcd (fun w hw => ?_)
    fun _ => lookup_lowerKeys_caseDistinct hcd hidem horder x
  obtain ⟨k, hk, hlow, rfl⟩ := mem_lowerWrites hmem' hw
  exact ⟨k, mem_keys_lowerKeys hidem hmem hk hlow, hlow,
    by rw [lookup_lowerKeys_of_not_lower hidem hmem hlow]⟩

end CaseDistinct

/-- The key-lowering loop, whatever order its `range` takes, keeps every key and makes every key
readable under its lower-case spelling with the value of one of the keys spelled like it.  On a
map with no two keys of one lower-case spelling it gives the same reads in every order, and a
second run on its result, as for a name listed twice in the execution order, changes no read. -/
theorem lowerKeys_spec {toLower : String → String} (hidem : ∀ s, toLower (toLower s) = toLower s)
    (m : StringMap) {order : List String} (horder : order.Perm m.keys) :
    m.keys ⊆ (lowerKeys toLower order m).keys ∧
      (∀ k ∈ m.keys, ∃ k' ∈ m.keys, toLower k' = toLower k ∧
        (lowerKeys toLower order m).lookup (toLower k) = m.lookup k') ∧
      (CaseDistinct toLower m → ∀ order', order'.Perm (lowerKeys toLower order m).keys → ∀ x,
        (lowerKeys toLower order m).lookup x = loweredLookup toLower m x ∧
          (lowerKeys toLower order' (lowerKeys toLower order m)).lookup x =
            loweredLookup toLower m x) := by
  have hmem : ∀ k ∈ order, k ∈ m.keys := fun k hk => horder.subset hk
  refine ⟨?_, fun k hk => lookup_lowerKeys_lower hidem hmem (horder.mem_iff.2 hk),
    fun hcd order' horder' x => ⟨lookup_lowerKeys_caseDistinct hcd hidem horder x,
      lookup_lowerKeys_twice hcd hidem horder horder' x⟩⟩
  rw [lowerKeys_eq_writeAll hidem hmem]
  exact GoMap.keys_subset_writeAll m _

/-- `strings.ToLower` on the key of the examples below: it lowers `DeviceNames` and leaves
every other string as it is. -/
def lowerDeviceNames (s : String) : String := if s = "DeviceNames" then "devicenames" else s

/-- The parameters of a `FilterByDeviceName` entry, with the key in mixed case. -/
def deviceNamesParameters : StringMap := ⟨[("DeviceNames", "Random-Float-Device")], by decide⟩

theorem lowerDeviceNames_idempotent (s : String) :
    lowerDeviceNames (lowerDeviceNames s) = lowerDeviceNames s := by
  unfold lowerDeviceNames
  split_ifs <;> simp_all

theorem lowerKeys_spec_deviceNames :
    (∀ s, lowerDeviceNames (lowerDeviceNames s) = lowerDeviceNames s) ∧
      deviceNamesParameters.keys.Perm deviceNamesParameters.keys ∧
      deviceNamesParameters.keys ⊆
        (lowerKeys lowerDeviceNames deviceNamesParameters.keys deviceNamesParameters).keys ∧
      (∀ k ∈ deviceNamesParameters.keys, ∃ k' ∈ deviceNamesParameters.keys,
        lowerDeviceNames k' = lowerDeviceNames k ∧
          (lowerKeys lowerDeviceNames deviceNamesParameters.keys deviceNamesParameters).lookup
            (lowerDeviceNames k) = deviceNamesParameters.lookup k') ∧
      (CaseDistinct lowerDeviceNames deviceNamesParameters → ∀ order',
        order'.Perm (lowerKeys lowerDeviceNames deviceNamesParameters.keys deviceNamesParameters).keys →
        ∀ x, (lowerKeys lowerDeviceNames deviceNamesParameters.keys deviceNamesParameters).lookup x =
            loweredLookup lowerDeviceNames deviceNamesParameters x ∧
          (lowerKeys lowerDeviceNames order'
              (lowerKeys lowerDeviceNames deviceNamesParameters.keys deviceNamesParameters)).lookup x =
            loweredLookup lowerDeviceNames deviceNamesParameters x) :=
  ⟨lowerDeviceNames_idempotent, List.Perm.refl _,
    lowerKeys_spec lowerDeviceNames_idempotent deviceNamesParameters (List.Perm.refl _)⟩

/-! ### `LoadConfigurablePipeline` -/

section Load

variable (methodByName : String → Option (Method A F)) (toLower : String → String)
  (ranges : GoMap.RangeOrder String)

/-- The loop over the parameter types: one argument per type, or the error for the first
type that is neither `map[string]string` nor `models.Addressable`. -/
def inputParameters (functionName : String) (configuration : PipelineFunction A) :
    List ParamType → Except String (List (ParamValue A))
  | [] => .ok []
  | .stringMap :: params =>
    (inputParameters functionName configuration params).map
      (.stringMap configuration.parameters :: ·)
  | .addressable :: params =>
    (inputParameters functionName configuration params).map
      (.addressable configuration.addressable :: ·)
  | .other name :: _ =>
    .error ("function " ++ functionName ++ " has an unsupported parameter type: " ++ name)

/-- The body of the loop for the name at position `position` of the execution order: the
`Functions` map after the body's writes, and the function built or the error.  The key-lowering
loop writes into the entry's `Parameters` map, which the configuration shares, in the order
`ranges` gives the `range` of this position. -/
def loadFunction (position : Nat) (functions : GoMap (PipelineFunction A)) (functionName : String) :
    GoMap (PipelineFunction A) × Except String F :=
  match functions.lookup functionName with
  | none => (functions,
      .error ("function " ++ functionName ++ " configuration not found in Pipeline.Functions section"))
  | some configuration =>
    match methodByName functionName with
    | none => (functions, .error ("function " ++ functionName ++ " is not a built in SDK function"))
    | some result =>
      let order := ranges.visit position configuration.parameters
      let functions := functions.modify functionName (lowerParameters toLower order)
      let configuration := lowerParameters toLower order configuration
      match inputParameters functionName configuration result.params with
      | .error err => (functions, .error err)
      | .ok inputParameters =>
        match result.call inputParameters with
        | none => (functions, .error ("failed to cast function " ++ functionName ++ " as AppFunction type"))
        | some function => (functions, .ok function)

/-- The loop of `LoadConfigurablePipeline` over the execution order from position `position`,
from the `Functions` map and the pipeline built so far. -/
def loadFunctions :
    Nat → List String → GoMap (PipelineFunction A) → List F →
      GoMap (PipelineFunction A) × Except String (List F)
  | _, [], functions, pipeline => (functions, .ok pipeline)
  | position, functionName :: executionOrder, functions, pipeline =>
    match loadFunction methodByName toLower ranges position functions (trimSpace functionName) with
    | (functions, .error err) => (functions, .error err)
    | (functions, .ok function) =>
      loadFunctions (position + 1) executionOrder functions (pipeline ++ [function])

/-- `(*AppFunctionsSDK).LoadConfigurablePipeline()`: the SDK after the call and the pipeline
or the error. -/
def loadConfigurablePipeline (sdk : Sdk A F) : Sdk A F × Except String (List F) :=
  let sdk := { sdk with
    usingConfigurablePipeline := true
    targetType := if sdk.writable.pipeline.useTargetTypeOfByteArray then .byteArray else .unset }
  let executionOrder := parseCommaList sdk.writable.pipeline.executionOrder
  if executionOrder.length ≤ 0 then
    (sdk, .error
      "execution Order has 0 functions specified. You must have a least one function in the pipeline")
  else
    let loaded := loadFunctions methodByName toLower ranges 0 executionOrder
      sdk.writable.pipeline.functions []
    ({ sdk with writable := { sdk.writable with
        pipeline := { sdk.writable.pipeline with functions := loaded.1 } } }, loaded.2)

/-- The argument a parameter type asks for, from a name's `Parameters` and `Addressable`. -/
def argumentOf (parameters : StringMap) (addressable : A) : ParamType → Option (ParamValue A)
  | .stringMap => some (.stringMap parameters)
  | .addressable => some (.addressable addressable)
  | .other _ => none

/-- The `Parameters` of the entry `name` after the key-lowering loop has run at the positions
below `k` of the execution order `names`: lowered once at each of them that lists `name`, in
the order of that position's `range`.  A name listed twice shares one map, lowered twice. -/
def loweredParameters (names : List String) (name : String) (k : Nat) (parameters : StringMap) :
    StringMap :=
  (List.range k).foldl (fun m j =>
    if names[j]? = some name then lowerKeys toLower (ranges.visit j m) m else m) parameters

/-- What the pipeline holds at position `i`, in the words of the loader's contract: the `i`-th
name's built-in method applied to the name's `Parameters`, as the key-lowering loop leaves them
at that position, and its `Addressable`; `none` when the name has no entry, no built-in method, a
parameter of another type, or does not yield an `AppFunction`. -/
def configuredFunctionAt (functions : GoMap (PipelineFunction A)) (names : List String) (i : Nat) :
    Option F := do
  let name ← names[i]?
  let configuration ← functions.lookup name
  let method ← methodByName name
  let arguments ← method.params.mapM
    (argumentOf (loweredParameters toLower ranges names name (i + 1) configuration.parameters)
      configuration.addressable)
  method.call arguments

end Load

/-- A successful loop has appended one function per name. -/
theorem loadFunctions_length (methodByName : String → Option (Method A F))
    (toLower : String → String) (ranges : GoMap.RangeOrder String) :
    ∀ (position : Nat) (executionOrder : List String) (functions : GoMap (PipelineFunction A))
      (pipeline result : List F),
      (loadFunctions methodByName toLower ranges position executionOrder functions pipeline).2 =
        .ok result → result.length = pipeline.length + executionOrder.length
  | _, [], _, pipeline, result, h => by cases h; rfl
  | position, name :: executionOrder, functions, pipeline, result, h => by
    simp only [loadFunctions] at h
    split at h
    · cases h
    · rw [loadFunctions_length methodByName toLower ranges _ _ _ _ _ h]
      simp only [List.length_append, List.length_cons, List.length_nil]
      omega

/-- A successful load returns at least one function. -/
theorem loadConfigurablePipeline_ne_nil (methodByName : String → Option (Method A F))
    (toLower : String → String) (ranges : GoMap.RangeOrder String) {sdk : Sdk A F}
    {pipeline : List F} (h : (loadConfigurablePipeline methodByName toLower ranges sdk).2 = .ok pipeline) :
    pipeline ≠ [] := by
  unfold loadConfigurablePipeline at h
  dsimp only at h
  by_cases hlen : (parseCommaList sdk.writable.pipeline.executionOrder).length ≤ 0
  · rw [if_pos hlen] at h
    cases h
  · rw [if_neg hlen] at h
    have := loadFunctions_length methodByName toLower ranges _ _ _ _ _ h
    intro hp
    subst hp
    simp only [List.length_nil, Nat.zero_add] at this
    omega

/-! ### The loader meets its contract -/

section LoadCorrect

variable (methodByName : String → Option (Method A F)) (toLower : String → String)
  (ranges : GoMap.RangeOrder String)

theorem inputParameters_toOption (functionName : String) (configuration : PipelineFunction A) :
    ∀ params : List ParamType, (inputParameters functionName configuration params).toOption =
      params.mapM (argumentOf configuration.parameters configuration.addressable)
  | [] => rfl
  | .stringMap :: params => by
    simp only [inputParameters, List.mapM_cons, ← inputParameters_toOption functionName configuration params]
    cases inputParameters functionName configuration params <;> rfl
  | .addressable :: params => by
    simp only [inputParameters, List.mapM_cons, ← inputParameters_toOption functionName configuration params]
    cases inputParameters functionName configuration params <;> rfl
  | .other _ :: _ => rfl

/-- One more position of the loop lowers the map of the name it lists. -/
theorem loweredParameters_succ (names : List String) (name : String) (k : Nat)
    (parameters : StringMap) :
    loweredParameters toLower ranges names name (k + 1) parameters =
      if names[k]? = some name then
        lowerKeys toLower (ranges.visit k (loweredParameters toLower ranges names name k parameters))
          (loweredParameters toLower ranges names name k parameters)
      else loweredParameters toLower ranges names name k parameters := by
  rw [loweredParameters, List.range_succ, List.foldl_append]
  rfl

/-- The `Functions` map of the loop at position `k`: every entry of `orig`, its `Parameters`
lowered at the positions below `k`. -/
def LoweredBefore (orig : GoMap (PipelineFunction A)) (names : List String) (k : Nat)
    (functions : GoMap (PipelineFunction A)) : Prop :=
  ∀ name, functions.lookup name = (orig.lookup name).map fun c =>
    { c with parameters := loweredParameters toLower ranges names name k c.parameters }

/-- One turn of the loop builds what the contract asks for at its position and, when it
succeeds, leaves the map lowered up to the next position. -/
theorem loadFunction_spec {orig functions : GoMap (PipelineFunction A)} {names : List String}
    {k : Nat} {name : String} (hname : names[k]? = some name)
    (h : LoweredBefore toLower ranges orig names k functions) :
    (loadFunction methodByName toLower ranges k functions name).2.toOption =
        configuredFunctionAt methodByName toLower ranges orig names k ∧
      ∀ function, (loadFunction methodByName toLower ranges k functions name).2 = .ok function →
        LoweredBefore toLower ranges orig names (k + 1)
          (loadFunction methodByName toLower ranges k functions name).1 := by
  have hlow : ∀ c : PipelineFunction A, lowerParameters toLower
      (ranges.visit k (loweredParameters toLower ranges names name k c.parameters))
      { c with parameters := loweredParameters toLower ranges names name k c.parameters } =
      { c with parameters := loweredParameters toLower ranges names name (k + 1) c.parameters } :=
    fun c => by rw [loweredParameters_succ, if_pos hname]; rfl
  have hkeep : ∀ n, n ≠ name → functions.lookup n = (orig.lookup n).map fun c =>
      { c with parameters := loweredParameters toLower ranges names n (k + 1) c.parameters } := by
    intro n hn
    rw [h n]
    refine Option.map_congr fun c _ => ?_
    rw [loweredParameters_succ, if_neg (by rw [hname]; exact fun h => hn (Option.some.inj h).symm)]
  have hfun := h name
  unfold loadFunction configuredFunctionAt
  simp only [hname, bind, Option.some_bind]
  cases ho : orig.lookup name with
  | none =>
    rw [ho, Option.map_none'] at hfun
    simp only [hfun, Option.none_bind]
    exact ⟨rfl, fun _ h => by cases h⟩
  | some c =>
    rw [ho, Option.map_some'] at hfun
    simp only [hfun, Option.some_bind]
    cases methodByName name with
    | none => exact ⟨rfl, fun _ h => by cases h⟩
    | some result =>
      have hmod : LoweredBefore toLower ranges orig names (k + 1) (functions.modify name
          (lowerParameters toLower
            (ranges.visit k (loweredParameters toLower ranges names name k c.parameters)))) := by
        intro n
        rw [GoMap.lookup_modify]
        split_ifs with hn
        · rw [hn, hfun, ho, Option.map_some', Option.map_some', hlow]
        · exact hkeep n hn
      have hargs := inputParameters_toOption name
        ({ c with parameters := loweredParameters toLower ranges names name (k + 1) c.parameters } :
          PipelineFunction A) result.params
      simp only [Option.some_bind, hlow]
      generalize inputParameters name _ result.params = arguments at hargs ⊢
      dsimp only at hargs
      rw [← hargs]
      cases arguments with
      | error err => exact ⟨rfl, fun _ h => by cases h⟩
      | ok arguments =>
        cases hc : result.call arguments with
        | none => exact ⟨by simp [Except.toOption, hc], fun _ h => by simp [hc] at h⟩
        | some function => exact ⟨by simp [Except.toOption, hc], fun _ _ => by simp only [hc]; exact hmod⟩

/-- The loop, from position `k` on, builds after the functions already built what the contract
asks for at every remaining position, and fails where the contract has nothing. -/
theorem loadFunctions_spec (orig : GoMap (PipelineFunction A)) (names : List String)
    (htrim : ∀ name ∈ names, trimSpace name = name) :
    ∀ (rest : List String) (k : Nat) (functions : GoMap (PipelineFunction A)) (pipeline : List F),
      names.drop k = rest → LoweredBefore toLower ranges orig names k functions →
      (loadFunctions methodByName toLower ranges k rest functions pipeline).2.toOption =
        ((List.range' k rest.length).mapM
          (configuredFunctionAt methodByName toLower ranges orig names)).map (pipeline ++ ·)
  | [], _, _, pipeline, _, _ => by
    show some pipeline = (some []).map (pipeline ++ ·)
    simp
  | name :: rest, k, functions, pipeline, hdrop, h => by
    have hname : names[k]? = some name := by
      have h0 := List.getElem?_drop names k 0
      rw [hdrop] at h0
      simpa using h0.symm
    have hdrop' : names.drop (k + 1) = rest := by
      rw [← List.drop_drop, hdrop]
      rfl
    have htrim' : trimSpace name = name :=
      htrim name (List.mem_of_mem_drop (hdrop ▸ List.mem_cons_self name rest))
    obtain ⟨hres, hnext⟩ := loadFunction_spec methodByName toLower ranges hname h
    simp only [loadFunctions, htrim', List.length_cons, List.range'_succ, List.mapM_cons]
    rw [← hres]
    cases hl : loadFunction methodByName toLower ranges k functions name with
    | mk functions' result =>
      rw [hl] at hnext
      cases result with
      | error err => rfl
      | ok function =>
        dsimp only
        rw [loadFunctions_spec orig names htrim rest (k + 1) functions' (pipeline ++ [function])
          hdrop' (hnext function rfl)]
        cases (List.range' (k + 1) rest.length).mapM
          (configuredFunctionAt methodByName toLower ranges orig names) <;> simp [Except.toOption]

theorem loadConfigurablePipeline_toOption (sdk : Sdk A F) :
    (loadConfigurablePipeline methodByName toLower ranges sdk).2.toOption =
      if parseCommaList sdk.writable.pipeline.executionOrder = [] then none
      else (List.range (parseCommaList sdk.writable.pipeline.executionOrder).length).mapM
        (configuredFunctionAt methodByName toLower ranges sdk.writable.pipeline.functions
          (parseCommaList sdk.writable.pipeline.executionOrder)) := by
  unfold loadConfigurablePipeline
  dsimp only
  by_cases hnil : parseCommaList sdk.writable.pipeline.executionOrder = []
  · rw [if_pos (by simp [hnil]), if_pos hnil]
    rfl
  · rw [if_neg (by simpa [List.length_eq_zero] using hnil), if_neg hnil]
    have hstart : LoweredBefore toLower ranges sdk.writable.pipeline.functions
        (parseCommaList sdk.writable.pipeline.executionOrder) 0 sdk.writable.pipeline.functions :=
      fun name => by cases sdk.writable.pipeline.functions.lookup name <;> rfl
    show (loadFunctions methodByName toLower ranges 0 _ _ []).2.toOption = _
    rw [loadFunctions_spec methodByName toLower ranges _ _
      (fun _ hn => trimSpace_of_mem_parseCommaList hn) (parseCommaList sdk.writable.pipeline.executionOrder)
      0 _ [] rfl hstart, List.range_eq_range']
    simp

theorem mapM_eq_none_iff {α β : Type} (f : α → Option β) :
    ∀ l : List α, l.mapM f = none ↔ ∃ a ∈ l, f a = none
  | [] => by
    simp only [List.mapM_nil, List.not_mem_nil, false_and, exists_false, iff_false]
    exact Option.some_ne_none _
  | a :: l => by
    rw [List.mapM_cons, List.exists_mem_cons_iff, ← mapM_eq_none_iff f l]
    cases f a <;> cases l.mapM f <;> simp

theorem mapM_eq_some_iff_forall₂ {α β : Type} (f : α → Option β) :
    ∀ (l : List α) (r : List β), l.mapM f = some r ↔ List.Forall₂ (fun a b => f a = some b) l r
  | [], r => by
    rw [List.mapM_nil, List.forall₂_nil_left_iff]
    exact ⟨fun h => (Option.some.inj h).symm, fun h => by subst h; rfl⟩
  | a :: l, r => by
    rw [List.mapM_cons]
    cases r with
    | nil => cases f a <;> cases l.mapM f <;> simp
    | cons b r =>
      rw [List.forall₂_cons, ← mapM_eq_some_iff_forall₂ f l r]
      cases f a <;> cases l.mapM f <;> simp

/-- An `Except` fails exactly when its `toOption` is `none`, and succeeds with the value that
`toOption` holds. -/
theorem toOption_eq_iff {ε α : Type} {e : Except ε α} {o : Option α} (h : e.toOption = o) :
    ((∃ err, e = .error err) ↔ o = none) ∧ ∀ a, e = .ok a ↔ o = some a := by
  subst h
  cases e <;> simp [Except.toOption]

/-- `LoadConfigurablePipeline` fails exactly when the execution order is empty or the function
the contract asks for at one of its positions is missing, and otherwise returns, position by
position, the function the contract asks for: the name's method applied to its `Parameters`
as the key-lowering loop leaves them there, in whatever order each `range` takes. -/
theorem loadConfigurablePipeline_correct (sdk : Sdk A F) :
    ((∃ err, (loadConfigurablePipeline methodByName toLower ranges sdk).2 = .error err) ↔
      parseCommaList sdk.writable.pipeline.executionOrder = [] ∨
        ∃ i < (parseCommaList sdk.writable.pipeline.executionOrder).length,
          configuredFunctionAt methodByName toLower ranges sdk.writable.pipeline.functions
            (parseCommaList sdk.writable.pipeline.executionOrder) i = none) ∧
    ∀ pipeline, (loadConfigurablePipeline methodByName toLower ranges sdk).2 = .ok pipeline ↔
      parseCommaList sdk.writable.pipeline.executionOrder ≠ [] ∧
        List.Forall₂ (fun i function =>
            configuredFunctionAt methodByName toLower ranges sdk.writable.pipeline.functions
              (parseCommaList sdk.writable.pipeline.executionOrder) i = some function)
          (List.range (parseCommaList sdk.writable.pipeline.executionOrder).length) pipeline := by
  obtain ⟨herr, hok⟩ := toOption_eq_iff (loadConfigurablePipeline_toOption methodByName toLower ranges sdk)
  refine ⟨herr.trans ?_, fun pipeline => (hok pipeline).trans ?_⟩ <;>
    by_cases hnil : parseCommaList sdk.writable.pipeline.executionOrder = []
  · rw [if_pos hnil]
    exact ⟨fun _ => .inl hnil, fun _ => rfl⟩
  · rw [if_neg hnil, mapM_eq_none_iff, or_iff_right hnil]
    simp only [List.mem_range]
  · rw [if_pos hnil]
    exact ⟨nofun, fun h => absurd hnil h.1⟩
  · rw [if_neg hnil, mapM_eq_some_iff_forall₂, and_iff_right hnil]

/-- A stand-in for the built-in `FilterByDeviceName`, which is not among the sources: a table with
that one method, taking the parameter map, whose function is modelled by the device names it is
configured with.  Unlike the upstream method, which on a missing `devicenames` key returns a `nil`
function that the cast accepts, it yields no function then. -/
def filterMethods : String → Option (Method Unit String) := fun name =>
  if name = "FilterByDeviceName" then
    some ⟨[.stringMap], fun arguments => match arguments with
      | [.stringMap parameters] => parameters.lookup "devicenames"
      | _ => none⟩
  else none

/-- An SDK whose pipeline lists `FilterByDeviceName`, with white space around it and its
parameter key in mixed case. -/
def filterSdk : Sdk Unit String where
  writable :=
    { logLevel := "INFO"
      storeAndForward := ⟨false, "10s", 1⟩
      pipeline :=
        { executionOrder := " FilterByDeviceName "
          useTargetTypeOfByteArray := false
          functions := ⟨[("FilterByDeviceName", ⟨deviceNamesParameters, ()⟩)], by decide⟩ } }
  applicationSettings := none
  loggingLevel := "INFO"
  usingConfigurablePipeline := false
  targetType := .unset
  transforms := []
  runtime := none
  storeClient := false
  retryLoops := []
  storeForwardCancelCtx := none

example : (loadConfigurablePipeline filterMethods lowerDeviceNames GoMap.RangeOrder.insertion
    filterSdk).2 = .ok ["Random-Float-Device"] := rfl

end LoadCorrect

/-- What `LoadConfigurablePipeline` writes into the SDK: the flag that the configurable
pipeline is in use, the target type, and the lowered `Parameters` of the names it reached. -/
theorem loadConfigurablePipeline_fst (methodByName : String → Option (Method A F))
    (toLower : String → String) (ranges : GoMap.RangeOrder String) (sdk : Sdk A F) :
    ∃ functions, (loadConfigurablePipeline methodByName toLower ranges sdk).1 =
      { sdk with
        usingConfigurablePipeline := true
        targetType := if sdk.writable.pipeline.useTargetTypeOfByteArray then .byteArray else .unset
        writable := { sdk.writable with pipeline := { sdk.writable.pipeline with functions } } } := by
  unfold loadConfigurablePipeline
  dsimp only
  split_ifs <;> exact ⟨_, rfl⟩

/-! ### `SetFunctionsPipeline` and `GetAppSettingStrings` -/

/-- `(*AppFunctionsSDK).SetFunctionsPipeline(transforms...)`: the SDK after the call and the
error (`none` for `nil`). -/
def setFunctionsPipeline (transforms : List F) (sdk : Sdk A F) : Sdk A F × Option String :=
  if transforms.length = 0 then (sdk, some "no transforms provided to pipeline") else
  let sdk := { sdk with transforms }
  match sdk.runtime with
  | none => (sdk, none)
  | some _ => ({ sdk with runtime := some ⟨sdk.targetType, transforms⟩ }, none)

/-- `(*AppFunctionsSDK).GetAppSettingStrings(setting)`, over `config.ApplicationSettings`
(`none` for a `nil` map). -/
def getAppSettingStrings (applicationSettings : Option StringMap) (setting : String) :
    Except String (List String) :=
  match applicationSettings with
  | none => .error (setting ++ " setting not found: ApplicationSettings section is missing")
  | some settings =>
    match settings.lookup setting with
    | none => .error (setting ++ " setting not found in ApplicationSettings")
    | some settingValue => .ok (parseCommaList settingValue)

/-- A present setting is read as the documented comma list; a missing setting, or a missing
section, is an error whose text starts with the setting's name. -/
theorem getAppSettingStrings_spec (applicationSettings : Option StringMap) (setting : String) :
    (∀ value, applicationSettings.bind (fun settings => settings.lookup setting) = some value →
      getAppSettingStrings applicationSettings setting = .ok (commaListSpec value)) ∧
    (applicationSettings.bind (fun settings => settings.lookup setting) = none →
      ∃ rest, getAppSettingStrings applicationSettings setting = .error (setting ++ rest)) := by
  cases applicationSettings with
  | none => exact ⟨fun _ h => (nomatch h), fun _ => ⟨_, rfl⟩⟩
  | some settings =>
    simp only [Option.some_bind]
    cases h : settings.lookup setting with
    | none =>
      refine ⟨fun _ h' => (nomatch h'), fun _ => ?_⟩
      simp only [getAppSettingStrings, h]
      exact ⟨_, rfl⟩
    | some value =>
      refine ⟨fun v hv => ?_, fun h' => nomatch h'⟩
      simp only [getAppSettingStrings, h, ← Option.some.inj hv, parseCommaList_eq_spec]

theorem getAppSettingStrings_deviceNames :
    getAppSettingStrings (some deviceNamesParameters) "DeviceNames" =
        .ok (commaListSpec "Random-Float-Device") ∧
      ∃ rest, getAppSettingStrings none "DeviceNames" = .error ("DeviceNames" ++ rest) :=
  ⟨(getAppSettingStrings_spec _ _).1 _ rfl, (getAppSettingStrings_spec none _).2 rfl⟩

end AppSdk
end AppFunctionsSdk
