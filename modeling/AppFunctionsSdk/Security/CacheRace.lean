import AppFunctionsSdk.Security.SecretProvider

/-!
# `GetSecrets` and `StoreSecrets` interleaved

Several goroutines may call one secure-mode `SecretProvider`.  Each `cacheMuxtex` critical
section and each secret-client call is one atomic step; a call in flight is a thread at one of
the positions of `Call`.  The secret store is a key-value store that changes only through the
client's `StoreSecrets`, and the client (`kvClient`) answers a fetch from it.

`GetSecrets` takes the lock for the lookup, releases it for the fetch, and takes it again for
`updateSecretsCache`; `StoreSecrets` writes through the client and then clears the cache under
the lock.  A fetch that reads the store before a `StoreSecrets` and writes the cache after that
call's clearing leaves a value the store no longer holds.

* `coherent_of_reachableWithoutOverlap` — in every state reached without a store landing
  between a fetch and its cache write, and with no `StoreSecrets` between its client call and
  its clearing, every cached value is the value the store holds.
* `stale_secret_survives_store` — the run in which a fetch overlaps a `StoreSecrets`: afterwards
  no call is in flight and the cache holds the old value.
-/

namespace AppFunctionsSdk
namespace Security

/-- A key-value secret store: the secrets of every path. -/
abbrev SecretStore := String → SecretMap

/-- A client over a key-value store.  A fetch returns every secret of the path when no key is
requested, the requested keys when all are present, and fails otherwise; a store writes the
given keys into the path. -/
def kvClient : SecretClient SecretStore where
  getSecrets st path keys :=
    if keys.isEmpty then .ok (st path)
    else if keys.all fun k => (st path k).isSome then .ok fun k => if k ∈ keys then st path k else none
    else .error "secrets not found"
  storeSecrets st path secrets := .ok fun p => if p = path then (st p).merge secrets else st p

/-- Where a call in flight stands: before its next atomic step. -/
inductive Call where
  /-- `GetSecrets(path, keys...)`, before the locked cache lookup. -/
  | lookup (path : String) (keys : List String)
  /-- The lookup missed; next is the client's `GetSecrets`. -/
  | fetch (path : String) (keys : List String)
  /-- The client answered `secrets`; next is the locked `updateSecretsCache`. -/
  | update (path : String) (secrets : SecretMap)
  /-- `StoreSecrets(path, secrets)`, before the client's `StoreSecrets`. -/
  | store (path : String) (secrets : SecretMap)
  /-- The client stored; next is clearing the cache under the lock. -/
  | clear
  /-- The call has returned. -/
  | done

/-- The shared cache, the secret store, and every call in flight. -/
structure RaceState where
  cache : SecretsCache
  store : SecretStore
  calls : List Call

/-- One atomic step of a call, with its successor position. -/
def stepCall (cache : SecretsCache) (store : SecretStore) : Call → Option (SecretsCache × SecretStore × Call)
  | .lookup path keys =>
    match getSecretsCache cache path keys with
    | some _ => some (cache, store, .done)
    | none => some (cache, store, .fetch path keys)
  | .fetch path keys =>
    match kvClient.getSecrets store path keys with
    | .error _ => some (cache, store, .done)
    | .ok secrets => some (cache, store, .update path secrets)
  | .update path secrets => some (updateSecretsCache cache path secrets, store, .done)
  | .store path secrets =>
    match kvClient.storeSecrets store path secrets with
    | .error _ => some (cache, store, .done)
    | .ok store' => some (cache, store', .clear)
  | .clear => some (SecretsCache.empty, store, .done)
  | .done => none

/-- Call `i` takes its next atomic step. -/
def step (s : RaceState) (i : Nat) : Option RaceState :=
  match s.calls[i]? with
  | none => none
  | some c => (stepCall s.cache s.store c).map fun (cache, store, c') =>
      { cache, store, calls := s.calls.set i c' }

/-- The calls start with an empty cache over any store. -/
def RaceState.init (store : SecretStore) (calls : List Call) : RaceState :=
  { cache := SecretsCache.empty, store, calls }

/-- States reached by any interleaving of the calls' steps. -/
inductive Reachable (init : RaceState) : RaceState → Prop
  | init : Reachable init init
  | step {s s' : RaceState} (i : Nat) : Reachable init s → step s i = some s' → Reachable init s'

/-- Every cached value is the value the store holds for that key. -/
def Coherent (cache : SecretsCache) (store : SecretStore) : Prop :=
  ∀ path m, cache path = some m → ∀ k v, m k = some v → store path k = some v

/-- A `StoreSecrets` is between its client call and its clearing. -/
def storeInProgress (s : RaceState) : Prop := Call.clear ∈ s.calls

/-- Run the steps of a schedule of call indices. -/
def run : RaceState → List Nat → Option RaceState
  | s, [] => some s
  | s, i :: is => (step s i).bind (run · is)

theorem reachable_of_run {init s s' : RaceState} (hs : Reachable init s) :
    ∀ {is : List Nat}, run s is = some s' → Reachable init s'
  | [], h => by cases h; exact hs
  | i :: is, h => by
    simp only [run, Option.bind_eq_some] at h
    obtain ⟨s₁, h₁, h₂⟩ := h
    exact reachable_of_run (Reachable.step i hs h₁) h₂

/-! ### Coherence without overlap -/

/-- A fetched answer waits for its cache write. -/
def updatePending (s : RaceState) : Prop := ∃ path secrets, Call.update path secrets ∈ s.calls

/-- A `StoreSecrets` client call. -/
def Call.isStore : Call → Bool
  | .store _ _ => true
  | _ => false

/-- States reached by interleavings in which no store lands while a fetched answer waits for
its cache write. -/
inductive ReachableWithoutOverlap (init : RaceState) : RaceState → Prop
  | init : ReachableWithoutOverlap init init
  | step {s s' : RaceState} (i : Nat) : ReachableWithoutOverlap init s → step s i = some s' →
      (∀ c, s.calls[i]? = some c → c.isStore → ¬ updatePending s) → ReachableWithoutOverlap init s'

/-- A fetched answer waiting for its cache write. -/
def Call.isUpdate : Call → Bool
  | .update _ _ => true
  | _ => false

/-- Run the steps of a schedule, failing at a store that would land while an answer waits. -/
def runWithoutOverlap : RaceState → List Nat → Option RaceState
  | s, [] => some s
  | s, i :: is =>
    if (s.calls[i]?).any Call.isStore && s.calls.any Call.isUpdate then none
    else (step s i).bind (runWithoutOverlap · is)

theorem reachableWithoutOverlap_of_run {init s s' : RaceState}
    (hs : ReachableWithoutOverlap init s) :
    ∀ {is : List Nat}, runWithoutOverlap s is = some s' → ReachableWithoutOverlap init s'
  | [], h => by cases h; exact hs
  | i :: is, h => by
    simp only [runWithoutOverlap] at h
    split_ifs at h with hguard
    obtain ⟨s₁, h₁, h₂⟩ := Option.bind_eq_some.1 h
    refine reachableWithoutOverlap_of_run (.step i hs h₁ fun c hc hstore ⟨p, m, hp⟩ => hguard ?_) h₂
    simp only [hc, Option.any_some, hstore, Bool.true_and, List.any_eq_true]
    exact ⟨_, hp, rfl⟩

/-- The invariant: every waiting answer agrees with the store, and with no `StoreSecrets`
between its two steps the cache agrees with the store. -/
def RaceInv (s : RaceState) : Prop :=
  (∀ path secrets, Call.update path secrets ∈ s.calls →
      ∀ k v, secrets k = some v → s.store path k = some v) ∧
    (¬ storeInProgress s → Coherent s.cache s.store)

theorem coherent_empty (store : SecretStore) : Coherent SecretsCache.empty store := by
  intro path m h
  simp [SecretsCache.empty] at h

/-- A fetch from the key-value store answers what the store holds. -/
theorem kvClient_getSecrets_sound {store : SecretStore} {path : String} {keys : List String}
    {m : SecretMap} (h : kvClient.getSecrets store path keys = .ok m) :
    ∀ k v, m k = some v → store path k = some v := by
  intro k v hk
  simp only [kvClient] at h
  split_ifs at h with h1 h2
  · cases h; exact hk
  · cases h
    dsimp only at hk
    split_ifs at hk
    exact hk

/-- Writing store-consistent secrets into a coherent cache keeps it coherent. -/
theorem coherent_updateSecretsCache {cache : SecretsCache} {store : SecretStore} {path : String}
    {m : SecretMap} (hc : Coherent cache store) (hm : ∀ k v, m k = some v → store path k = some v) :
    Coherent (updateSecretsCache cache path m) store := by
  intro p m' hp k v hk
  rw [updateSecretsCache_apply] at hp
  split_ifs at hp with hpp
  · subst hpp
    obtain rfl := Option.some.inj hp
    unfold SecretMap.merge at hk
    split at hk
    · rename_i w hw
      exact hm k v (Option.some.inj hk ▸ hw)
    · cases hcp : cache p with
      | none => rw [hcp] at hk; exact hm k v hk
      | some cm => rw [hcp] at hk; exact hc p cm hcp k v hk
  · exact hc p m' hp k v hk

/-- An element other than the one replaced stays in the list. -/
theorem mem_set_of_getElem?_ne {l : List Call} {i : Nat} {x c : Call} (hx : x ∈ l)
    (hi : l[i]? ≠ some x) : x ∈ l.set i c := by
  obtain ⟨j, hj⟩ := List.mem_iff_getElem?.1 hx
  have hji : i ≠ j := fun h => hi (h ▸ hj)
  exact List.getElem?_mem (by rw [List.getElem?_set_ne hji, hj])

/-- One step of a call preserves the invariant, unless it lands a store while an answer waits. -/
theorem raceInv_step {s s' : RaceState} {i : Nat} (hinv : RaceInv s) (hstep : step s i = some s')
    (hguard : ∀ c, s.calls[i]? = some c → c.isStore → ¬ updatePending s) : RaceInv s' := by
  obtain ⟨hwait, hcoh⟩ := hinv
  unfold step at hstep
  cases hc : s.calls[i]? with
  | none => simp [hc] at hstep
  | some c =>
    simp only [hc, Option.map_eq_some'] at hstep
    obtain ⟨⟨cache', store', c'⟩, hsc, rfl⟩ := hstep
    -- an answer waiting after the step waited before it, or is where the call moved to
    have hold : ∀ p m, Call.update p m ∈ s.calls.set i c' →
        Call.update p m = c' ∨ Call.update p m ∈ s.calls :=
      fun _ _ hx => (List.mem_or_eq_of_mem_set hx).symm
    -- a store in progress before the step, other than the stepping call, still is
    have hclear : c ≠ .clear → Call.clear ∈ s.calls → Call.clear ∈ s.calls.set i c' := fun hcl hx =>
      mem_set_of_getElem?_ne hx (by rw [hc]; exact fun h => hcl (Option.some.inj h))
    cases c with
    | lookup path keys =>
      simp only [stepCall, getSecretsCache_eq_none, Option.some.injEq, Prod.mk.injEq] at hsc
      obtain ⟨rfl, rfl, rfl⟩ := hsc
      exact ⟨fun p m hp => hwait p m ((hold p m hp).resolve_left nofun),
        fun hno => hcoh fun hcl => hno (hclear nofun hcl)⟩
    | fetch path keys =>
      simp only [stepCall] at hsc
      split at hsc <;> simp only [Option.some.injEq, Prod.mk.injEq] at hsc <;>
        obtain ⟨rfl, rfl, rfl⟩ := hsc
      · exact ⟨fun p m hp => hwait p m ((hold p m hp).resolve_left nofun),
          fun hno => hcoh fun hcl => hno (hclear nofun hcl)⟩
      · rename_i m hget
        refine ⟨fun p m' hp => ?_, fun hno => hcoh fun hcl => hno (hclear nofun hcl)⟩
        rcases hold p m' hp with h | h
        · cases h; exact kvClient_getSecrets_sound hget
        · exact hwait p m' h
    | update path m =>
      simp only [stepCall, Option.some.injEq, Prod.mk.injEq] at hsc
      obtain ⟨rfl, rfl, rfl⟩ := hsc
      exact ⟨fun p m' hp => hwait p m' ((hold p m' hp).resolve_left nofun),
        fun hno => coherent_updateSecretsCache (hcoh fun hcl => hno (hclear nofun hcl))
          (hwait path m (List.getElem?_mem hc))⟩
    | store path m =>
      have hlen : i < s.calls.length := (List.getElem?_eq_some_iff.1 hc).1
      simp only [stepCall, kvClient, Option.some.injEq, Prod.mk.injEq] at hsc
      obtain ⟨rfl, rfl, rfl⟩ := hsc
      exact ⟨fun p m' hp => absurd ⟨p, m', (hold p m' hp).resolve_left nofun⟩ (hguard _ hc rfl),
        fun hno => (hno (List.mem_set s.calls i hlen Call.clear)).elim⟩
    | clear =>
      simp only [stepCall, Option.some.injEq, Prod.mk.injEq] at hsc
      obtain ⟨rfl, rfl, rfl⟩ := hsc
      exact ⟨fun p m hp => hwait p m ((hold p m hp).resolve_left nofun), fun _ => coherent_empty _⟩
    | done => simp [stepCall] at hsc

/-- Calls that have not taken a step yet. -/
def Call.isStart : Call → Bool
  | .lookup _ _ => true
  | .store _ _ => true
  | _ => false

theorem raceInv_init (store : SecretStore) (calls : List Call) (hcalls : ∀ c ∈ calls, c.isStart) :
    RaceInv (RaceState.init store calls) :=
  ⟨fun p m hp => absurd (hcalls _ hp) (by simp [Call.isStart]),
    fun _ => coherent_empty store⟩

theorem raceInv_of_reachableWithoutOverlap (store : SecretStore) (calls : List Call)
    (hcalls : ∀ c ∈ calls, c.isStart) {s : RaceState}
    (hs : ReachableWithoutOverlap (RaceState.init store calls) s) : RaceInv s := by
  induction hs with
  | init => exact raceInv_init store calls hcalls
  | step i _ hstep hguard ih => exact raceInv_step ih hstep hguard

/-- With the calls started on an empty cache, every state reached without a store landing
between a fetch and its cache write, and with no `StoreSecrets` between its client call and its
clearing, has every cached value equal to the value the store holds. -/
theorem coherent_of_reachableWithoutOverlap (store : SecretStore) (calls : List Call)
    (hcalls : ∀ c ∈ calls, c.isStart) {s : RaceState}
    (hs : ReachableWithoutOverlap (RaceState.init store calls) s) (hno : ¬ storeInProgress s) :
    Coherent s.cache s.store :=
  (raceInv_of_reachableWithoutOverlap store calls hcalls hs).2 hno

/-- The store of the runs below: `"k"` is `"1"` under `"p"`. -/
def oldStore : SecretStore := fun p k => if p = "p" ∧ k = "k" then some "1" else none

/-- The secrets the runs below store under `"p"`: `"k"` is `"2"`. -/
def newSecrets : SecretMap := fun k => if k = "k" then some "2" else none

/-- `GetSecrets("p", "k")`, `StoreSecrets("p", {"k": "2"})` and a second `GetSecrets("p", "k")`. -/
def refetchCalls : List Call := [.lookup "p" ["k"], .store "p" newSecrets, .lookup "p" ["k"]]

/-- The first lookup fetches and caches `"1"`; the store writes `"2"` and clears the cache; the
second lookup fetches and caches `"2"`. -/
def refetchSchedule : List Nat := [0, 0, 0, 1, 1, 2, 2, 2]

theorem coherent_of_reachableWithoutOverlap_refetch :
    ∃ s, (∀ c ∈ refetchCalls, c.isStart) ∧
      ReachableWithoutOverlap (RaceState.init oldStore refetchCalls) s ∧ ¬ storeInProgress s ∧
      s.cache "p" ≠ none ∧ Coherent s.cache s.store := by
  let store' : SecretStore := fun p => if p = "p" then (oldStore p).merge newSecrets else oldStore p
  have hrun : runWithoutOverlap (RaceState.init oldStore refetchCalls) refetchSchedule = some
      { cache := updateSecretsCache SecretsCache.empty "p"
          (fun k => if k ∈ ["k"] then store' "p" k else none),
        store := store',
        calls := [.done, .done, .done] } := rfl
  have hcalls : ∀ c ∈ refetchCalls, c.isStart := by simp [refetchCalls, Call.isStart]
  have hs := reachableWithoutOverlap_of_run ReachableWithoutOverlap.init hrun
  refine ⟨_, hcalls, hs, ?hno, by simp [updateSecretsCache_apply],
    coherent_of_reachableWithoutOverlap oldStore refetchCalls hcalls hs ?hno⟩
  simp [storeInProgress]

/-! ### The race -/

/-- `GetSecrets("p", "k")` and `StoreSecrets("p", {"k": "2"})` started together. -/
def raceInit : RaceState :=
  RaceState.init oldStore
    [.lookup "p" ["k"], .store "p" fun k => if k = "k" then some "2" else none]

/-- The lookup misses, the fetch reads `"1"`, the store writes `"2"` and clears the cache, and
the fetch's cache write lands last. -/
def raceSchedule : List Nat := [0, 0, 1, 1, 0]

theorem stale_secret_survives_store :
    ∃ s, Reachable raceInit s ∧ ¬ storeInProgress s ∧ ¬ Coherent s.cache s.store := by
  have hrun : run raceInit raceSchedule = some
      { cache := updateSecretsCache SecretsCache.empty "p"
          (fun k => if k ∈ ["k"] then oldStore "p" k else none),
        store := fun p => if p = "p" then (oldStore p).merge fun k => if k = "k" then some "2" else none
          else oldStore p,
        calls := [.done, .done] } := rfl
  refine ⟨_, reachable_of_run Reachable.init hrun, by simp [storeInProgress], fun hcoh => ?_⟩
  have hcache := updateSecretsCache_apply SecretsCache.empty "p"
    (fun k => if k ∈ ["k"] then oldStore "p" k else none) "p"
  rw [if_pos rfl] at hcache
  have hstale := hcoh "p" _ hcache "k" "1" (by simp [SecretMap.merge, SecretsCache.empty, oldStore])
  simp [SecretMap.merge] at hstale

end Security
end AppFunctionsSdk
