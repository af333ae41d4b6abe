import Mathlib.Data.List.Basic
import Mathlib.Data.List.DropRight
import Mathlib.Data.List.Infix

/-!
# Go string primitives

The configuration readers of the SDK see their text through five functions of Go's
`strings` package: `FieldsFunc`, `TrimSpace`, `Contains`, `Replace` and `Split`.  A Go string is modelled as a
Lean `String`, that is as its sequence of runes.  `FieldsFunc` and `TrimSpace` both walk a
string rune by rune, and an invalid byte decodes to `utf8.RuneError`, which is neither a
separator nor white space for any caller here, so these functions lose no behaviour.

* `fieldsFuncLoop_eq` / `fieldsFunc_eq_splitOnP` — the rune loop of `FieldsFunc` returns the
  pieces between separators with the empty ones removed.
* `trimSpace_trimSpace` — trimming twice is trimming once.
* `trimSpace_pad` — trimming white space put around a trimmed non-empty string gives it back.
* `replaceFirst_of_infix` — replacing the first occurrence of a substring that occurs puts the
  replacement between two fixed pieces of the string.
-/

namespace AppFunctionsSdk
namespace Util

/-- `unicode.IsSpace`: the Latin-1 cases `'\t'`, `'\n'`, `'\v'`, `'\f'`, `'\r'`, `' '`, U+0085
and U+00A0, then the `White_Space` property above Latin-1. -/
def isSpace (c : Char) : Bool :=
  if c.val ≤ 0xFF then
    (9 ≤ c.val && c.val ≤ 13) || c.val = 0x20 || c.val = 0x85 || c.val = 0xA0
  else
    c.val = 0x1680 || (0x2000 ≤ c.val && c.val ≤ 0x200A) || c.val = 0x2028 ||
      c.val = 0x2029 || c.val = 0x202F || c.val = 0x205F || c.val = 0x3000

/-- `strings.TrimSpace`: the leading and the trailing white space removed.  The library's
ASCII fast path returns the same slice as `TrimFunc(s, unicode.IsSpace)`, modelled here. -/
def trimSpace (s : String) : String :=
  ⟨(s.data.dropWhile isSpace).rdropWhile isSpace⟩

/-- The rune loop of `strings.FieldsFunc`.  `field` is the field being read (`start >= 0` in
the source) and `fields` the spans already closed, in order. -/
def fieldsFuncLoop (f : Char → Bool) :
    List Char → Option (List Char) → List (List Char) → List (List Char)
  | [], none, fields => fields
  | [], some w, fields => fields ++ [w]
  | c :: cs, field, fields =>
    if f c then
      match field with
      | some w => fieldsFuncLoop f cs none (fields ++ [w])
      | none => fieldsFuncLoop f cs none fields
    else
      fieldsFuncLoop f cs (some (field.getD [] ++ [c])) fields

/-- `strings.FieldsFunc(s, f)`: the maximal runs of runes on which `f` is false. -/
def fieldsFunc (s : String) (f : Char → Bool) : List String :=
  (fieldsFuncLoop f s.data none []).map String.mk

/-- `strings.Contains(s, substr)`. -/
def stringsContains (s substr : String) : Bool :=
  decide (substr.data <:+: s.data)

/-- The runes of a string with the first occurrence of `old` replaced by `new`. -/
def replaceFirst (old new : List Char) : List Char → List Char
  | [] => if old.isPrefixOf [] then new else []
  | c :: l =>
    if old.isPrefixOf (c :: l) then new ++ (c :: l).drop old.length
    else c :: replaceFirst old new l

/-- `strings.Replace(s, old, new, 1)`.  Go matches bytes; the SDK only replaces ASCII text, and an
ASCII byte sequence occurs in a UTF-8 string exactly where it occurs as runes. -/
def stringsReplace (s old new : String) : String :=
  ⟨replaceFirst old.data new.data s.data⟩

/-- `strings.Split(s, sep)` for a one-rune separator: the pieces between the separators, empty
ones included. -/
def stringsSplit (s : String) (sep : Char) : List String :=
  (s.data.splitOn sep).map String.mk

/-! ### `FieldsFunc` -/

private theorem modifyHead_fun_id (l : List (List Char)) : l.modifyHead (fun w => w) = l := by
  cases l <;> rfl

/-- The loop closes exactly the non-empty pieces of `splitOnP`, the open field being glued
to the first of them. -/
theorem fieldsFuncLoop_eq (f : Char → Bool) :
    ∀ (cs : List Char) (field : Option (List Char)) (fields : List (List Char)),
      field ≠ some [] →
      fieldsFuncLoop f cs field fields =
        fields ++ ((cs.splitOnP f).modifyHead (field.getD [] ++ ·)).filter (!·.isEmpty)
  | [], none, fields, _ => by simp [fieldsFuncLoop]
  | [], some w, fields, hw => by
    cases w with
    | nil => exact absurd rfl hw
    | cons c w => simp [fieldsFuncLoop]
  | c :: cs, field, fields, hw => by
    by_cases hc : f c
    · cases field with
      | none =>
        simpa [fieldsFuncLoop, hc, modifyHead_fun_id] using
          fieldsFuncLoop_eq f cs none fields (by simp)
      | some w =>
        cases w with
        | nil => exact absurd rfl hw
        | cons d w =>
          simpa [fieldsFuncLoop, hc, modifyHead_fun_id] using
            fieldsFuncLoop_eq f cs none (fields ++ [d :: w]) (by simp)
    · simp only [fieldsFuncLoop, hc, Bool.false_eq_true, if_false]
      rw [fieldsFuncLoop_eq f cs _ fields (by simp)]
      simp [hc, List.modifyHead_modifyHead, Function.comp_def]

theorem fieldsFunc_eq_splitOnP (s : String) (f : Char → Bool) :
    fieldsFunc s f = ((s.data.splitOnP f).filter (!·.isEmpty)).map String.mk := by
  simp [fieldsFunc, fieldsFuncLoop_eq f s.data none [] (by simp), modifyHead_fun_id]

/-! ### `TrimSpace` -/

@[simp] theorem trimSpace_nil : trimSpace ⟨[]⟩ = "" := rfl

/-- White space alone trims to the empty string. -/
theorem trimSpace_of_forall_isSpace (v : List Char) (h : ∀ c ∈ v, isSpace c) :
    trimSpace ⟨v⟩ = "" := by
  rw [trimSpace, List.dropWhile_eq_nil_iff.2 h]
  rfl

/-- Dropping a trailing run of `p` from an appended run of `p` is dropping it from the front part. -/
theorem rdropWhile_append_of_all {p : Char → Bool} (x w : List Char) (hw : ∀ c ∈ w, p c) :
    (x ++ w).rdropWhile p = x.rdropWhile p := by
  rw [List.rdropWhile, List.reverse_append, List.dropWhile_append_of_pos (by simpa using hw)]
  rfl

/-- Cutting the tail of a list that does not start with `p` keeps it from starting with `p`. -/
theorem dropWhile_rdropWhile {p : Char → Bool} {l : List Char} (h : l.dropWhile p = l) :
    (l.rdropWhile p).dropWhile p = l.rdropWhile p := by
  obtain ⟨t, ht⟩ := List.rdropWhile_prefix (p := p) (l := l)
  cases hr : l.rdropWhile p with
  | nil => rfl
  | cons c cs =>
    rw [hr] at ht
    have hc : ¬ p c := by
      intro hc
      have hlen := congrArg List.length h
      rw [← ht, List.cons_append, List.dropWhile_cons_of_pos hc] at hlen
      have := (List.dropWhile_suffix p (l := cs ++ t)).length_le
      simp only [List.length_cons, List.length_append] at hlen this
      omega
    simp [List.dropWhile_cons_of_neg hc]

theorem trimSpace_trimSpace (s : String) : trimSpace (trimSpace s) = trimSpace s := by
  simp only [trimSpace, dropWhile_rdropWhile (List.dropWhile_idempotent _ _),
    List.rdropWhile_idempotent]

/-- A string equal to its own trimming neither starts nor ends with white space. -/
theorem trimSpace_eq_self {x : String} (h : trimSpace x = x) :
    x.data.dropWhile isSpace = x.data ∧ x.data.rdropWhile isSpace = x.data := by
  have hx : (x.data.dropWhile isSpace).rdropWhile isSpace = x.data := congrArg String.data h
  constructor
  · conv_lhs => rw [← hx]
    rw [dropWhile_rdropWhile (List.dropWhile_idempotent _ _), hx]
  · conv_lhs => rw [← hx]
    rw [List.rdropWhile_idempotent, hx]

/-- Trimming white space put around a trimmed non-empty string gives the string back. -/
theorem trimSpace_pad (u w : List Char) (x : String) (hu : ∀ c ∈ u, isSpace c)
    (hw : ∀ c ∈ w, isSpace c) (hx : x ≠ "") (htrim : trimSpace x = x) :
    trimSpace ⟨u ++ x.data ++ w⟩ = x := by
  obtain ⟨hl, hr⟩ := trimSpace_eq_self htrim
  have hne : x.data ≠ [] := fun h => hx (String.ext h)
  have hdrop : (u ++ x.data ++ w).dropWhile isSpace = x.data ++ w := by
    rw [List.append_assoc, List.dropWhile_append_of_pos (by simpa using hu), List.dropWhile_append,
      hl, if_neg (by simpa using hne)]
  simp only [trimSpace, hdrop, rdropWhile_append_of_all _ _ hw, hr]

/-! ### `Replace` -/

/-- Where `old` occurs, the replacement puts `new` between the text before the first occurrence
and the text after it, the same two pieces whatever `new` is. -/
theorem replaceFirst_of_infix {old l : List Char} (h : old <:+: l) :
    ∃ pre post, ∀ new, replaceFirst old new l = pre ++ new ++ post := by
  induction l with
  | nil =>
    obtain rfl := List.eq_nil_of_infix_nil h
    exact ⟨[], [], fun new => by simp [replaceFirst]⟩
  | cons c l ih =>
    by_cases hp : old.isPrefixOf (c :: l)
    · exact ⟨[], (c :: l).drop old.length, fun new => by rw [replaceFirst, if_pos hp, List.nil_append]⟩
    · have hl : old <:+: l :=
        (List.infix_cons_iff.1 h).resolve_left fun hpre => hp (List.isPrefixOf_iff_prefix.2 hpre)
      obtain ⟨pre, post, hr⟩ := ih hl
      exact ⟨c :: pre, post, fun new => by rw [replaceFirst, if_neg hp, hr]; rfl⟩

end Util
end AppFunctionsSdk
