import AppFunctionsSdk.Util.Strings

/-!
# Comma-separated setting lists

`LoadConfigurablePipeline` reads `Writable.Pipeline.ExecutionOrder`, and `GetAppSettingStrings`
reads an application setting, through the one expression
`util.DeleteEmptyAndTrim(strings.FieldsFunc(value, util.SplitComma))`, here `parseCommaList`.

* `parseCommaList_eq_spec` — the expression cuts at every comma, trims every piece and drops
  the empty ones, in order (`commaListSpec`).
* `parseCommaList_joinPadded` — a list of non-empty, comma-free, trimmed names, joined with
  commas and any white space or further commas around them, reads back as the same list.
* `parseCommaList_correct` — the two together.
-/

namespace AppFunctionsSdk
namespace Util

/-- `util.SplitComma`, the separator test handed to `strings.FieldsFunc`. -/
def splitComma (c : Char) : Bool := c == ','

/-- `util.DeleteEmptyAndTrim`: each string trimmed, the empty ones dropped. -/
def deleteEmptyAndTrim (s : List String) : List String :=
  s.foldl (fun r str => if trimSpace str ≠ "" then r ++ [trimSpace str] else r) []

/-- `DeleteEmptyAndTrim(strings.FieldsFunc(value, SplitComma))`, as both readers write it. -/
def parseCommaList (value : String) : List String :=
  deleteEmptyAndTrim (fieldsFunc value splitComma)

/-- The documented reading of a list setting: cut at every comma, trim every piece, drop the
empty pieces. -/
def commaListSpec (value : String) : List String :=
  ((value.data.splitOn ',').map fun piece => trimSpace ⟨piece⟩).filter (· ≠ "")

/-! ### The loop of `DeleteEmptyAndTrim` -/

theorem foldl_deleteEmptyAndTrim (s r : List String) :
    s.foldl (fun r str => if trimSpace str ≠ "" then r ++ [trimSpace str] else r) r =
      r ++ (s.map trimSpace).filter (· ≠ "") := by
  induction s generalizing r with
  | nil => simp
  | cons str s ih =>
    rw [List.foldl_cons, ih, List.map_cons, List.filter_cons]
    by_cases h : trimSpace str = "" <;> simp [h]

theorem deleteEmptyAndTrim_eq (s : List String) :
    deleteEmptyAndTrim s = (s.map trimSpace).filter (· ≠ "") := by
  rw [deleteEmptyAndTrim, foldl_deleteEmptyAndTrim, List.nil_append]

/-- Dropping empty pieces before trimming changes nothing once empty results are dropped. -/
theorem filter_trim_filter_isEmpty (pieces : List (List Char)) :
    ((pieces.filter (!·.isEmpty)).map fun piece => trimSpace ⟨piece⟩).filter (· ≠ "") =
      (pieces.map fun piece => trimSpace ⟨piece⟩).filter (· ≠ "") := by
  induction pieces with
  | nil => rfl
  | cons piece pieces ih =>
    cases piece with
    | nil => simpa only [List.filter_cons, List.isEmpty_nil, Bool.not_true, List.map_cons,
        trimSpace_nil, ne_eq, not_true_eq_false, decide_False] using ih
    | cons c cs =>
      simp only [List.filter_cons, List.isEmpty_cons, Bool.not_false, if_true, List.map_cons, ih]

theorem parseCommaList_eq_spec (value : String) : parseCommaList value = commaListSpec value := by
  rw [parseCommaList, commaListSpec, deleteEmptyAndTrim_eq, fieldsFunc_eq_splitOnP, List.map_map,
    ← filter_trim_filter_isEmpty]
  rfl

example : parseCommaList " a, ,b ,,c " = ["a", "b", "c"] := by decide

/-- Every name read from a list setting is already trimmed. -/
theorem trimSpace_of_mem_parseCommaList {value x : String} (hx : x ∈ parseCommaList value) :
    trimSpace x = x := by
  rw [parseCommaList_eq_spec, commaListSpec] at hx
  obtain ⟨piece, -, rfl⟩ := List.mem_map.1 (List.mem_filter.1 hx).1
  exact trimSpace_trimSpace _

/-! ### Splitting around a separator -/

section SplitOnP

variable {α : Type} (p : α → Bool)

/-- Cutting at a separator splits the pieces of both sides apart. -/
theorem splitOnP_append_sep (a b : List α) {c : α} (hc : p c) :
    (a ++ c :: b).splitOnP p = a.splitOnP p ++ b.splitOnP p := by
  induction a with
  | nil => simp [hc]
  | cons x a ih =>
    by_cases hx : p x
    · simp [hx, ih]
    · obtain ⟨w, ws, hw⟩ := List.exists_cons_of_ne_nil (List.splitOnP_ne_nil p a)
      simp [hx, ih, hw]

/-- A prefix without separators is glued to the first piece. -/
theorem splitOnP_append_of_forall_not (x g : List α) (hx : ∀ c ∈ x, ¬ p c) :
    (x ++ g).splitOnP p = (g.splitOnP p).modifyHead (x ++ ·) := by
  induction x with
  | nil =>
    obtain ⟨w, ws, hw⟩ := List.exists_cons_of_ne_nil (List.splitOnP_ne_nil p g)
    simp [hw]
  | cons c x ih =>
    have hc : ¬ p c := hx c (List.mem_cons_self c x)
    rw [List.cons_append, List.splitOnP_cons, if_neg hc,
      ih fun d hd => hx d (List.mem_cons_of_mem c hd)]
    obtain ⟨w, ws, hw⟩ := List.exists_cons_of_ne_nil (List.splitOnP_ne_nil p g)
    simp [hw]

/-- Every rune of a piece is a rune of the list and no separator. -/
theorem mem_of_mem_splitOnP {l w : List α} (hw : w ∈ l.splitOnP p) {c : α} (hc : c ∈ w) :
    c ∈ l ∧ ¬ p c := by
  induction l generalizing w with
  | nil =>
    rw [List.splitOnP_nil, List.mem_singleton] at hw
    subst hw
    exact absurd hc (List.not_mem_nil c)
  | cons x l ih =>
    rw [List.splitOnP_cons] at hw
    split_ifs at hw with hx
    · rcases List.mem_cons.1 hw with rfl | hw
      · exact absurd hc (List.not_mem_nil c)
      · exact (ih hw hc).imp_left (List.mem_cons_of_mem x)
    · obtain ⟨v, vs, hv⟩ := List.exists_cons_of_ne_nil (List.splitOnP_ne_nil p l)
      rw [hv, List.modifyHead_cons] at hw
      rcases List.mem_cons.1 hw with rfl | hw
      · rcases List.mem_cons.1 hc with h | hc
        · subst h
          exact ⟨List.mem_cons_self c l, hx⟩
        · exact (ih (by rw [hv]; exact List.mem_cons_self v vs) hc).imp_left
            (List.mem_cons_of_mem x)
      · exact (ih (by rw [hv]; exact List.mem_cons_of_mem v hw) hc).imp_left
          (List.mem_cons_of_mem x)

end SplitOnP

/-! ### Padded joins read back -/

/-- Text made only of commas and white space. -/
def IsPadding (g : List Char) : Prop := ∀ c ∈ g, c = ',' ∨ isSpace c

/-- An element of a joined list: non-empty, without commas, without surrounding space. -/
def IsListItem (x : String) : Prop := x ≠ "" ∧ ',' ∉ x.data ∧ trimSpace x = x

/-- `pre`, then every item followed by the padding after it. -/
def joinPadded (pre : String) (items : List (String × String)) : String :=
  ⟨pre.data ++ (items.map fun item => item.1.data ++ item.2.data).flatten⟩

@[simp] theorem commaListSpec_nil : commaListSpec ⟨[]⟩ = [] := rfl

theorem commaListSpec_append_comma (a b : List Char) :
    commaListSpec ⟨a ++ ',' :: b⟩ = commaListSpec ⟨a⟩ ++ commaListSpec ⟨b⟩ := by
  simp only [commaListSpec, List.splitOn, splitOnP_append_sep (· == ',') a b (c := ',') (by simp),
    List.map_append, List.filter_append]

/-- A leading comma or space is invisible to the reading. -/
theorem commaListSpec_cons_padding (c : Char) (l : List Char) (hc : c = ',' ∨ isSpace c) :
    commaListSpec ⟨c :: l⟩ = commaListSpec ⟨l⟩ := by
  rcases hc with rfl | hc
  · simpa [commaListSpec] using commaListSpec_append_comma [] l
  · have hsep : (c == ',') = false := by
      rcases eq_or_ne c ',' with rfl | h
      · exact absurd hc (by decide)
      · simpa using h
    obtain ⟨w, ws, hw⟩ := List.exists_cons_of_ne_nil (List.splitOnP_ne_nil (· == ',') l)
    simp [commaListSpec, List.splitOn, hsep, hw, trimSpace, List.dropWhile_cons_of_pos hc]

theorem commaListSpec_padding_append {pre : List Char} (hpre : IsPadding pre) (l : List Char) :
    commaListSpec ⟨pre ++ l⟩ = commaListSpec ⟨l⟩ := by
  induction pre with
  | nil => rfl
  | cons c pre ih =>
    rw [List.cons_append, commaListSpec_cons_padding c _ (hpre c (List.mem_cons_self c pre)),
      ih fun d hd => hpre d (List.mem_cons_of_mem c hd)]

/-- One item with padding after it reads as that item. -/
theorem commaListSpec_item_padding {x : String} (hx : IsListItem x) {g : List Char}
    (hg : IsPadding g) : commaListSpec ⟨x.data ++ g⟩ = [x] := by
  obtain ⟨hne, hcomma, htrim⟩ := hx
  have hnosep : ∀ c ∈ x.data, ¬ (c == ',') = true := by
    intro c hc h
    exact hcomma (by simpa [beq_iff_eq.1 h] using hc)
  obtain ⟨w, ws, hw⟩ := List.exists_cons_of_ne_nil (List.splitOnP_ne_nil (· == ',') g)
  have hspace : ∀ v ∈ g.splitOnP (· == ','), ∀ c ∈ v, isSpace c := by
    intro v hv c hc
    obtain ⟨hcg, hcsep⟩ := mem_of_mem_splitOnP _ hv hc
    exact (hg c hcg).resolve_left fun h => hcsep (by simp [h])
  have hfirst : trimSpace ⟨x.data ++ w⟩ = x := by
    simpa using trimSpace_pad [] w x (by simp) (hspace w (by simp [hw])) hne htrim
  have hrest : ∀ v ∈ ws, trimSpace ⟨v⟩ = "" := fun v hv =>
    trimSpace_of_forall_isSpace v (hspace v (by simp [hw, hv]))
  have hnil : (ws.map fun piece => trimSpace ⟨piece⟩).filter (· ≠ "") = [] := by
    rw [List.filter_eq_nil_iff]
    intro y hy
    obtain ⟨v, hv, rfl⟩ := List.mem_map.1 hy
    simp [hrest v hv]
  simp only [commaListSpec, List.splitOn, splitOnP_append_of_forall_not _ x.data g hnosep, hw,
    List.modifyHead_cons, List.map_cons, hfirst, List.filter_cons, hnil]
  simp [hne]

theorem parseCommaList_joinPadded (pre : String) (items : List (String × String))
    (hpre : IsPadding pre.data)
    (hitems : ∀ item ∈ items, IsListItem item.1 ∧ IsPadding item.2.data)
    (hsep : ∀ item ∈ items.dropLast, ',' ∈ item.2.data) :
    parseCommaList (joinPadded pre items) = items.map Prod.fst := by
  rw [parseCommaList_eq_spec]
  induction items generalizing pre with
  | nil => simpa [joinPadded] using commaListSpec_padding_append hpre []
  | cons item items ih =>
    obtain ⟨hx, hg⟩ := hitems item (List.mem_cons_self item items)
    simp only [joinPadded, List.map_cons, List.flatten_cons]
    rw [commaListSpec_padding_append hpre]
    cases items with
    | nil => simpa using commaListSpec_item_padding hx hg
    | cons next items =>
      obtain ⟨s, t, hst⟩ := List.append_of_mem (hsep item (by simp))
      have hs : IsPadding s := fun c hc => hg c (by simp [hst, hc])
      have ht : IsPadding t := fun c hc => hg c (by simp [hst, hc])
      rw [hst, List.append_assoc, List.append_assoc, List.cons_append, ← List.append_assoc,
        commaListSpec_append_comma, commaListSpec_item_padding hx hs]
      have := ih ⟨t⟩ ht (fun i hi => hitems i (List.mem_cons_of_mem _ hi))
        (fun i hi => hsep i (by simpa using List.mem_cons_of_mem _ hi))
      simpa [joinPadded] using this

/-- The reading of a list setting is the documented one, and it reads a padded join of
names back as the names. -/
theorem parseCommaList_correct (value : String) :
    parseCommaList value = commaListSpec value ∧
      ∀ (pre : String) (items : List (String × String)), IsPadding pre.data →
        (∀ item ∈ items, IsListItem item.1 ∧ IsPadding item.2.data) →
        (∀ item ∈ items.dropLast, ',' ∈ item.2.data) →
        parseCommaList (joinPadded pre items) = items.map Prod.fst :=
  ⟨parseCommaList_eq_spec value, parseCommaList_joinPadded⟩

end Util
end AppFunctionsSdk
