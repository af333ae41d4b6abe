import AppFunctionsSdk.Store.Uuid

/-!
# Stored objects and their contract check

`contracts.StoredObject` is the record store-and-forward writes for a failed pipeline run,
and `ValidateContract` is the check every store client runs before an insert
(`IDRequired = false`) and before an update or a removal (`IDRequired = true`).  The check
takes a pointer receiver: it generates a missing `ID` on insert and rewrites an accepted
`ID` to its canonical spelling, so the model returns the object after the call beside the
error.  The UUID that `uuid.New()` draws is an argument.

* `validateContract_ok` — an accepted object is the input with the canonical spelling of its
  `ID` and meets every check.
* `validateContract_stable` — once accepted, an object passes the update/remove check
  unchanged: the `ID` written on insert is the `ID` later updates and removals carry.
-/

namespace AppFunctionsSdk
namespace Contracts

open Uuid

/-- `contracts.StoredObject`.  Go's `int` fields are modelled as `Int`. -/
structure StoredObject where
  id : String
  appServiceKey : String
  payload : List UInt8
  retryCount : Int
  pipelinePosition : Int
  version : String
  correlationID : String
  eventID : String
  eventChecksum : String
deriving DecidableEq

/-- `NewStoredObject`: the four given fields, a zero `RetryCount`, every other field empty. -/
def newStoredObject (appServiceKey : String) (payload : List UInt8) (pipelinePosition : Int)
    (version : String) : StoredObject :=
  { id := "", appServiceKey, payload, retryCount := 0, pipelinePosition, version,
    correlationID := "", eventID := "", eventChecksum := "" }

/-- The `IDRequired == false` branch: an insert without `ID` gets the generated one. -/
def withID (idRequired : Bool) (fresh : UUID) (o : StoredObject) : StoredObject :=
  if idRequired then o else if o.id = "" then { o with id := fresh.toString } else o

/-- The three required-field checks, in the order the source makes them. -/
def requiredFieldsError (o : StoredObject) : Option String :=
  if o.appServiceKey = "" then some "invalid contract, app service key cannot be empty"
  else if o.payload.length = 0 then some "invalid contract, payload cannot be empty"
  else if o.version = "" then some "invalid contract, version cannot be empty"
  else none

/-- `(*StoredObject).ValidateContract(IDRequired)`: the object after the call, and the error
text (`none` for `nil`).  `fresh` is the UUID `uuid.New()` returns. -/
def validateContract (idRequired : Bool) (fresh : UUID) (o : StoredObject) :
    StoredObject × Option String :=
  if idRequired ∧ o.id = "" then (o, some "invalid contract, ID cannot be empty") else
  let o := withID idRequired fresh o
  match parse (bytesOf o.id) with
  | none => (o, some "invalid contract, ID must be UUID")
  | some parsed =>
    let o := { o with id := parsed.toString }
    (o, requiredFieldsError o)

theorem requiredFieldsError_eq_none_iff (o : StoredObject) :
    requiredFieldsError o = none ↔ o.appServiceKey ≠ "" ∧ o.payload ≠ [] ∧ o.version ≠ "" := by
  unfold requiredFieldsError
  split_ifs <;> simp_all

@[simp] theorem withID_appServiceKey (idRequired : Bool) (fresh : UUID) (o : StoredObject) :
    (withID idRequired fresh o).appServiceKey = o.appServiceKey := by
  unfold withID; split_ifs <;> rfl

@[simp] theorem withID_payload (idRequired : Bool) (fresh : UUID) (o : StoredObject) :
    (withID idRequired fresh o).payload = o.payload := by
  unfold withID; split_ifs <;> rfl

@[simp] theorem withID_version (idRequired : Bool) (fresh : UUID) (o : StoredObject) :
    (withID idRequired fresh o).version = o.version := by
  unfold withID; split_ifs <;> rfl

/-- An accepted object is the checked one with the canonical text of its parsed `ID`, and it
meets every required-field check. -/
theorem validateContract_ok {idRequired : Bool} {fresh : UUID} {o : StoredObject}
    (h : (validateContract idRequired fresh o).2 = none) :
    ∃ u : UUID, (validateContract idRequired fresh o).1 = { withID idRequired fresh o with id := u.toString } ∧
      o.appServiceKey ≠ "" ∧ o.payload ≠ [] ∧ o.version ≠ "" := by
  unfold validateContract at h ⊢
  split_ifs at h ⊢ with hreq
  cases hparse : parse (bytesOf (withID idRequired fresh o).id) with
  | none => simp [hparse] at h
  | some u =>
    simp only [hparse] at h ⊢
    have := (requiredFieldsError_eq_none_iff _).1 h
    simp only [withID_appServiceKey, withID_payload, withID_version] at this
    exact ⟨u, rfl, this⟩

/-- The update/remove check accepts an object whose `ID` is canonical and whose required fields
are set, and leaves it as it is. -/
theorem validateContract_canonical (fresh : UUID) (o : StoredObject) (u : UUID)
    (hid : o.id = u.toString) (hk : o.appServiceKey ≠ "") (hp : o.payload ≠ [])
    (hv : o.version ≠ "") : validateContract true fresh o = (o, none) := by
  have hreq : requiredFieldsError o = none := (requiredFieldsError_eq_none_iff o).2 ⟨hk, hp, hv⟩
  obtain ⟨id, appServiceKey, payload, retryCount, pipelinePosition, version, correlationID, eventID,
    eventChecksum⟩ := o
  dsimp only at hid
  subst hid
  simp [validateContract, withID, toString_ne_empty, parse_bytesOf_toString, hreq]

/-- Once `ValidateContract` accepts an object, the object it leaves has a canonical `ID`, and
the update/remove check accepts it again and changes none of its fields. -/
theorem validateContract_stable (o : StoredObject) (idRequired : Bool) (fresh fresh' : UUID)
    (h : (validateContract idRequired fresh o).2 = none) :
    (∃ u : UUID, (validateContract idRequired fresh o).1.id = u.toString) ∧
      validateContract true fresh' (validateContract idRequired fresh o).1 =
        ((validateContract idRequired fresh o).1, none) := by
  obtain ⟨u, ho, hk, hp, hv⟩ := validateContract_ok h
  rw [ho]
  exact ⟨⟨u, rfl⟩, validateContract_canonical fresh' _ u rfl (by simpa using hk) (by simpa using hp)
    (by simpa using hv)⟩

/-- The UUID of sixteen zero bytes, as `uuid.New()` might draw it. -/
def zeroUUID : UUID := ⟨List.replicate 16 0, rfl⟩

/-- A stored object as `NewStoredObject` builds it for a failed pipeline run, before its
insert. -/
def retryObject : StoredObject := newStoredObject "AppService" [1] 0 "v1"

theorem validateContract_stable_retryObject :
    (validateContract false zeroUUID retryObject).2 = none ∧
      (∃ u : UUID, (validateContract false zeroUUID retryObject).1.id = u.toString) ∧
      validateContract true zeroUUID (validateContract false zeroUUID retryObject).1 =
        ((validateContract false zeroUUID retryObject).1, none) := by
  have h : (validateContract false zeroUUID retryObject).2 = none := by decide
  exact ⟨h, validateContract_stable retryObject false zeroUUID zeroUUID h⟩

end Contracts
end AppFunctionsSdk
