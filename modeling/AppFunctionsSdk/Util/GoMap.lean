import Mathlib.Data.List.Nodup

/-!
# Go maps with string keys

A Go `map[string]V` is modelled by its entries, each key once, the distinctness of the keys
carried as a field, so that no value of the model has two entries under one key.  The entries
are kept in the order they were added: `m[k] = v` replaces an entry in place, or appends a new
one.  That order is not the order of a `range`: Go leaves the order of a `range` over a map
unspecified and may take a different one every time a `range` starts, so a `range` of the model
visits the keys in an order it is given, any permutation of the keys (`RangeOrder`).

* `lookup_set` — a write is seen by a read of its key and by no other read.
* `lookup_writeAll` — after a sequence of writes, a key holds the last value written to it.
-/

namespace AppFunctionsSdk
namespace Util

/-- A Go map with `string` keys: its entries in the order they were added, each key once. -/
structure GoMap (β : Type) where
  entries : List (String × β)
  nodup : (entries.map Prod.fst).Nodup

/-- A Go `map[string]string`. -/
abbrev StringMap := GoMap String

namespace GoMap

variable {β : Type}

/-- The keys, in the order they were added. -/
def keys (m : GoMap β) : List String := m.entries.map Prod.fst

/-- The orders in which the `range` statements of one call visit the keys of the maps they range
over: `visit n m` is the order the `n`-th `range` of the call takes over `m`, as `m` is when that
`range` starts.  Each is a permutation of the keys, and nothing else about it is fixed. -/
structure RangeOrder (β : Type) where
  visit : Nat → GoMap β → List String
  perm : ∀ n m, (visit n m).Perm m.keys

/-- Every `range` in the order the keys were added. -/
def RangeOrder.insertion : RangeOrder β := ⟨fun _ m => m.keys, fun _ _ => List.Perm.refl _⟩

@[ext] theorem ext {m m' : GoMap β} (h : m.entries = m'.entries) : m = m' := by
  cases m; cases m'; cases h; rfl

/-- `m[key]`, with `ok`: `none` when the key is absent. -/
def lookup (m : GoMap β) (key : String) : Option β := m.entries.lookup key

/-- An empty map. -/
def empty : GoMap β := ⟨[], List.nodup_nil⟩

/-- Rewriting the values under one key keeps the list of keys. -/
theorem map_update_fst (l : List (String × β)) (key : String) (f : β → β) :
    (l.map fun e => if e.1 = key then (e.1, f e.2) else e).map Prod.fst = l.map Prod.fst := by
  rw [List.map_map]
  exact List.map_congr_left fun e _ => by by_cases h : e.1 = key <;> simp [h]

/-- The value under `key`, rewritten in place by `f`. -/
def modify (m : GoMap β) (key : String) (f : β → β) : GoMap β :=
  ⟨m.entries.map fun e => if e.1 = key then (e.1, f e.2) else e,
    by rw [map_update_fst]; exact m.nodup⟩

/-- `m[key] = value`: in place when the key is present, appended otherwise. -/
def set (m : GoMap β) (key : String) (value : β) : GoMap β :=
  if h : key ∈ m.keys then m.modify key fun _ => value
  else ⟨m.entries ++ [(key, value)], by
    rw [List.map_append, List.nodup_append]
    exact ⟨m.nodup, by simp, by simpa [keys] using h⟩⟩

/-- The writes `m[k] = v` of `ws`, in order. -/
def writeAll (m : GoMap β) (ws : List (String × β)) : GoMap β :=
  ws.foldl (fun m w => m.set w.1 w.2) m

/-! ### Reads -/

theorem lookup_cons_ite (k x : String) (v : β) (l : List (String × β)) :
    ((k, v) :: l).lookup x = if x = k then some v else l.lookup x := by
  by_cases h : x = k
  · subst h; simp
  · simp [List.lookup_cons, beq_false_of_ne h, h]

theorem lookup_map_update (l : List (String × β)) (key x : String) (f : β → β) :
    (l.map fun e => if e.1 = key then (e.1, f e.2) else e).lookup x =
      if x = key then (l.lookup x).map f else l.lookup x := by
  induction l with
  | nil => by_cases hx : x = key <;> simp [hx]
  | cons e l ih =>
    obtain ⟨k, v⟩ := e
    by_cases hk : k = key
    · subst hk
      by_cases hx : x = k <;> simp [lookup_cons_ite, hx, ih]
    · by_cases hx : x = k <;> simp [lookup_cons_ite, hx, hk, ih]

theorem mem_keys_iff (m : GoMap β) (key : String) : key ∈ m.keys ↔ (m.lookup key).isSome := by
  simp only [keys, lookup, List.lookup_isSome_iff, List.mem_map, beq_iff_eq]
  exact ⟨fun ⟨p, hp, h⟩ => ⟨p, hp, h.symm⟩, fun ⟨p, hp, h⟩ => ⟨p, hp, h.symm⟩⟩

theorem lookup_modify (m : GoMap β) (key : String) (f : β → β) (x : String) :
    (m.modify key f).lookup x = if x = key then (m.lookup x).map f else m.lookup x :=
  lookup_map_update m.entries key x f

theorem lookup_set (m : GoMap β) (key : String) (value : β) (x : String) :
    (m.set key value).lookup x = if x = key then some value else m.lookup x := by
  unfold set
  split_ifs with hkey hx hx
  · obtain ⟨v, hv⟩ := Option.isSome_iff_exists.1 ((mem_keys_iff m key).1 hkey)
    rw [lookup_modify, if_pos hx, hx, hv, Option.map_some']
  · rw [lookup_modify, if_neg hx]
  · subst hx
    have hnone : m.lookup x = none :=
      Option.not_isSome_iff_eq_none.1 fun h => hkey ((mem_keys_iff m x).2 h)
    rw [lookup, List.lookup_append, show m.entries.lookup x = none from hnone]
    simp
  · simp [lookup, List.lookup_append, lookup_cons_ite, hx]

theorem keys_set (m : GoMap β) (key : String) (value : β) :
    (m.set key value).keys = if key ∈ m.keys then m.keys else m.keys ++ [key] := by
  unfold set
  split_ifs
  · exact map_update_fst m.entries key fun _ => value
  · simp [keys]

theorem keys_subset_set (m : GoMap β) (key : String) (value : β) :
    m.keys ⊆ (m.set key value).keys := by
  rw [keys_set]
  split_ifs
  · exact List.Subset.refl _
  · exact List.subset_append_left _ _

/-- Each entry is what a read of its key returns. -/
theorem lookup_of_mem {m : GoMap β} {e : String × β} (he : e ∈ m.entries) :
    m.lookup e.1 = some e.2 := by
  obtain ⟨s, t, hst⟩ := List.append_of_mem he
  have hnd := m.nodup
  rw [hst, List.map_append, List.nodup_append] at hnd
  rw [lookup, List.lookup_eq_some_iff]
  refine ⟨s, t, hst, fun p hp => ?_⟩
  have hne : e.1 ≠ p.1 := fun h => hnd.2.2 (List.mem_map_of_mem _ hp)
    (by rw [← h]; exact List.mem_map_of_mem _ (List.mem_cons_self e t))
  simpa using hne

/-- Writing back the value a key already holds changes nothing. -/
theorem set_of_lookup {m : GoMap β} {key : String} {value : β} (h : m.lookup key = some value) :
    m.set key value = m := by
  have hkey : key ∈ m.keys := (mem_keys_iff m key).2 (by simp [h])
  ext1
  simp only [set, hkey, dite_true, modify]
  conv_rhs => rw [← List.map_id m.entries]
  refine List.map_congr_left fun e he => ?_
  by_cases hek : e.1 = key
  · have hv : e.2 = value := Option.some.inj ((lookup_of_mem he).symm.trans (hek ▸ h))
    show (if e.1 = key then (e.1, value) else e) = e
    rw [if_pos hek, ← hv]
  · simp [hek]

/-! ### Sequences of writes -/

theorem lookup_writeAll (m : GoMap β) (ws : List (String × β)) (x : String) :
    (m.writeAll ws).lookup x = (ws.reverse.lookup x).or (m.lookup x) := by
  induction ws generalizing m with
  | nil => rfl
  | cons w ws ih =>
    rw [writeAll, List.foldl_cons, ← writeAll, ih, lookup_set, List.reverse_cons,
      List.lookup_append]
    obtain ⟨k, v⟩ := w
    rw [lookup_cons_ite, List.lookup_nil]
    by_cases hx : x = k
    · simp only [hx, if_true]; cases ws.reverse.lookup k <;> rfl
    · simp only [hx, if_false]; cases ws.reverse.lookup x <;> rfl

theorem keys_subset_writeAll (m : GoMap β) (ws : List (String × β)) :
    m.keys ⊆ (m.writeAll ws).keys := by
  induction ws generalizing m with
  | nil => exact List.Subset.refl _
  | cons w ws ih => exact (keys_subset_set m w.1 w.2).trans (ih _)

/-- The keys after a sequence of writes are the map's and the written ones. -/
theorem keys_writeAll_subset (m : GoMap β) (ws : List (String × β)) :
    (m.writeAll ws).keys ⊆ m.keys ++ ws.map Prod.fst := by
  induction ws generalizing m with
  | nil => exact List.subset_append_left _ _
  | cons w ws ih =>
    intro k hk
    rcases List.mem_append.1 (ih (m.set w.1 w.2) hk) with h | h
    · rw [keys_set] at h
      split_ifs at h
      · exact List.mem_append_left _ h
      · rcases List.mem_append.1 h with h | h
        · exact List.mem_append_left _ h
        · simp_all
    · simp [h]

end GoMap

end Util
end AppFunctionsSdk
