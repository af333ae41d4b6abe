import Mathlib.Data.List.Basic
import Mathlib.Data.UInt

/-!
# The UUID text format of `github.com/google/uuid`

`StoredObject.ValidateContract` normalises an object's `ID` with `uuid.Parse` followed by
`(UUID).String`.  Both are modelled on the bytes of the Go string, as the library reads
them.  `Parse` accepts four spellings: hyphenated, `urn:uuid:`-prefixed, braced (the first
and last byte are skipped unread) and bare hexadecimal, each with digits of either case;
`String` prints the hyphenated lower-case spelling.

* `parse_bytesOf_toString` — every UUID's canonical text parses back to it.
* `toString_ne_empty` — the canonical text is never empty.
-/

namespace AppFunctionsSdk
namespace Uuid

/-- A `uuid.UUID`, which Go declares as `[16]byte`. -/
structure UUID where
  bytes : List UInt8
  length_bytes : bytes.length = 16
deriving DecidableEq

/-- The bytes of a Go string: its UTF-8 encoding. -/
def bytesOf (s : String) : List UInt8 := s.toUTF8.data.toList

/-- `xvalues[c]`: the value of a hexadecimal digit, `255` for every other byte. -/
def xvalues (c : UInt8) : UInt8 :=
  if 48 ≤ c ∧ c ≤ 57 then c - 48
  else if 97 ≤ c ∧ c ≤ 102 then c - 87
  else if 65 ≤ c ∧ c ≤ 70 then c - 55
  else 255

/-- `xtob(x1, x2)`: two hexadecimal digits as one byte; `none` where Go returns `ok = false`. -/
def xtob (x1 x2 : UInt8) : Option UInt8 :=
  let b1 := xvalues x1
  let b2 := xvalues x2
  if b1 ≠ 255 ∧ b2 ≠ 255 then some ((b1 <<< 4) ||| b2) else none

/-- The digit pairs of `s` at the given offsets, decoded in order, failing at the first pair
that is not hexadecimal. -/
def decodePairs (s : List UInt8) : List Nat → Option (List UInt8)
  | [] => some []
  | x :: xs => do
    let v ← xtob (s.getD x 0) (s.getD (x + 1) 0)
    let vs ← decodePairs s xs
    pure (v :: vs)

/-- The offsets `0, 2, 4, 6, 9, ..., 34` of the digit pairs of `xxxxxxxx-xxxx-xxxx-xxxx-xxxxxxxxxxxx`. -/
def hyphenatedOffsets : List Nat := [0, 2, 4, 6, 9, 11, 14, 16, 19, 21, 24, 26, 28, 30, 32, 34]

/-- The offsets `0, 2, ..., 30` of the digit pairs of the bare 32-digit form. -/
def bareOffsets : List Nat := (List.range 16).map (2 * ·)

theorem decodePairs_length {s : List UInt8} :
    ∀ {offsets : List Nat} {v : List UInt8}, decodePairs s offsets = some v →
      v.length = offsets.length
  | [], v, h => by simp [decodePairs] at h; simp [h]
  | x :: xs, v, h => by
    simp only [decodePairs, Option.bind_eq_bind, Option.bind_eq_some, Option.pure_def,
      Option.some.injEq] at h
    obtain ⟨b, -, bs, hbs, rfl⟩ := h
    simp [decodePairs_length hbs]

/-- The sixteen bytes at the given offsets, as a `UUID`. -/
def decodeUUID (s : List UInt8) (offsets : List Nat) (h : offsets.length = 16) : Option UUID :=
  match hd : decodePairs s offsets with
  | none => none
  | some v => some ⟨v, (decodePairs_length hd).trans h⟩

theorem decodeUUID_of_decodePairs {s : List UInt8} {offsets : List Nat} {h : offsets.length = 16}
    {v : List UInt8} (hd : decodePairs s offsets = some v) :
    decodeUUID s offsets h = some ⟨v, (decodePairs_length hd).trans h⟩ := by
  unfold decodeUUID
  split
  · rename_i hnone
    rw [hd] at hnone
    contradiction
  · rename_i v' hv'
    rw [hd] at hv'
    cases hv'
    rfl

/-- The hyphenated form, read from the first 36 bytes of `s`. -/
def parseHyphenated (s : List UInt8) : Option UUID :=
  if s.getD 8 0 ≠ 45 ∨ s.getD 13 0 ≠ 45 ∨ s.getD 18 0 ≠ 45 ∨ s.getD 23 0 ≠ 45 then none
  else decodeUUID s hyphenatedOffsets rfl

/-- ASCII lower-casing of one byte.  `strings.ToLower(s[:9]) != "urn:uuid:"` compares nine
lowered bytes with nine ASCII bytes; a rune outside ASCII never lowers to an ASCII rune of the
same length, so the comparison is decided by the ASCII lowering modelled here. -/
def asciiToLower (c : UInt8) : UInt8 := if 65 ≤ c ∧ c ≤ 90 then c + 32 else c

/-- The bytes of `"urn:uuid:"`. -/
def urnPrefix : List UInt8 := [117, 114, 110, 58, 117, 117, 105, 100, 58]

/-- `uuid.Parse(s)` on the bytes of `s`; the error text is not modelled, only its presence. -/
def parse (s : List UInt8) : Option UUID :=
  match s.length with
  | 36 => parseHyphenated s
  | 45 => if (s.take 9).map asciiToLower ≠ urnPrefix then none else parseHyphenated (s.drop 9)
  | 38 => parseHyphenated (s.drop 1)
  | 32 => decodeUUID s bareOffsets rfl
  | _ => none

theorem parse_of_length_36 {s : List UInt8} (h : s.length = 36) : parse s = parseHyphenated s := by
  simp [parse, h]

theorem parseHyphenated_of_hyphens {s : List UInt8} (h8 : s.getD 8 0 = 45) (h13 : s.getD 13 0 = 45)
    (h18 : s.getD 18 0 = 45) (h23 : s.getD 23 0 = 45) :
    parseHyphenated s = decodeUUID s hyphenatedOffsets rfl := by
  rw [parseHyphenated, if_neg]
  simp only [h8, h13, h18, h23, ne_eq, not_true_eq_false, or_self, not_false_eq_true]

/-- `hextable[v]` for a nibble `v`: the lower-case hexadecimal digit. -/
def hexDigit (v : UInt8) : UInt8 := if v < 10 then v + 48 else v + 87

/-- `hex.Encode`: two lower-case digits for every byte. -/
def hexEncode : List UInt8 → List UInt8
  | [] => []
  | b :: bs => hexDigit (b >>> 4) :: hexDigit (b &&& 0x0f) :: hexEncode bs

/-- `encodeHex`: the groups `uuid[:4]`, `uuid[4:6]`, `uuid[6:8]`, `uuid[8:10]`, `uuid[10:]`
encoded and joined by `'-'`. -/
def encodeHex (u : List UInt8) : List UInt8 :=
  hexEncode (u.take 4) ++ 45 :: hexEncode ((u.drop 4).take 2) ++ 45 ::
    hexEncode ((u.drop 6).take 2) ++ 45 :: hexEncode ((u.drop 8).take 2) ++ 45 ::
      hexEncode (u.drop 10)

/-- `(UUID).String()`: `string(buf[:])` of the 36 bytes `encodeHex` writes. -/
def UUID.toString (u : UUID) : String := ⟨(encodeHex u.bytes).map UInt8.toChar⟩

/-! ### Byte facts, checked over all 256 bytes -/

private theorem forall_uint8 {P : UInt8 → Prop} (h : ∀ n : Fin 256, P ⟨⟨n⟩⟩) (b : UInt8) : P b := by
  obtain ⟨⟨n⟩⟩ := b
  exact h n

set_option maxRecDepth 100000 in
/-- A byte splits into the two nibbles `hex.Encode` writes as digits. -/
theorem byte_nibbles (b : UInt8) :
    b >>> 4 < 16 ∧ b &&& 0x0f < 16 ∧ (b >>> 4) <<< 4 ||| b &&& 0x0f = b :=
  forall_uint8 (P := fun b => b >>> 4 < 16 ∧ b &&& 0x0f < 16 ∧ (b >>> 4) <<< 4 ||| b &&& 0x0f = b)
    (by decide) b

set_option maxRecDepth 100000 in
/-- A digit `hex.Encode` writes for a nibble is ASCII, and `xvalues` reads the nibble back. -/
theorem hexDigit_nibble (v : UInt8) (h : v < 16) :
    (hexDigit v).toNat < 128 ∧ xvalues (hexDigit v) = v :=
  forall_uint8 (P := fun v => v < 16 → (hexDigit v).toNat < 128 ∧ xvalues (hexDigit v) = v)
    (by decide) v h

/-- `xtob` reads back the two digits `hex.Encode` writes for a byte. -/
theorem xtob_hexDigit (b : UInt8) : xtob (hexDigit (b >>> 4)) (hexDigit (b &&& 0x0f)) = some b := by
  obtain ⟨hhi, hlo, hb⟩ := byte_nibbles b
  have hne : ∀ v : UInt8, v < 16 → v ≠ 255 := fun v hv h => absurd (h ▸ hv) (by decide)
  unfold xtob
  dsimp only
  rw [(hexDigit_nibble _ hhi).2, (hexDigit_nibble _ hlo).2, if_pos ⟨hne _ hhi, hne _ hlo⟩, hb]

set_option maxRecDepth 100000 in
/-- An ASCII byte, read as a rune, encodes back to itself. -/
theorem utf8EncodeChar_toChar (b : UInt8) (h : b.toNat < 128) :
    String.utf8EncodeChar b.toChar = [b] :=
  forall_uint8 (P := fun b => b.toNat < 128 → String.utf8EncodeChar b.toChar = [b]) (by decide) b h

theorem hexDigit_lt (b : UInt8) :
    (hexDigit (b >>> 4)).toNat < 128 ∧ (hexDigit (b &&& 0x0f)).toNat < 128 :=
  ⟨(hexDigit_nibble _ (byte_nibbles b).1).1, (hexDigit_nibble _ (byte_nibbles b).2.1).1⟩

/-! ### Printing and parsing -/

theorem hexEncode_ascii : ∀ (u : List UInt8), ∀ b ∈ hexEncode u, b.toNat < 128
  | [], _, hb => by simp [hexEncode] at hb
  | c :: u, b, hb => by
    simp only [hexEncode, List.mem_cons] at hb
    rcases hb with rfl | rfl | hb
    · exact (hexDigit_lt c).1
    · exact (hexDigit_lt c).2
    · exact hexEncode_ascii u b hb

theorem encodeHex_ascii (u : List UInt8) : ∀ b ∈ encodeHex u, b.toNat < 128 := by
  intro b hb
  simp only [encodeHex, List.mem_append, List.mem_cons] at hb
  rcases hb with ((((hb | rfl | hb) | rfl | hb) | rfl | hb) | rfl | hb) <;>
    first | decide | exact hexEncode_ascii _ b hb

/-- Bytes below 128, read as runes and encoded again, are the same bytes. -/
theorem bytesOf_ascii : ∀ (l : List UInt8), (∀ b ∈ l, b.toNat < 128) →
    bytesOf ⟨l.map UInt8.toChar⟩ = l
  | [], _ => rfl
  | b :: l, h => by
    have ih := bytesOf_ascii l fun c hc => h c (List.mem_cons_of_mem b hc)
    simp only [bytesOf, String.toUTF8, List.map_cons, List.flatMap_cons] at ih ⊢
    rw [utf8EncodeChar_toChar b (h b (List.mem_cons_self b l)), ih]
    rfl

theorem bytesOf_toString (u : UUID) : bytesOf u.toString = encodeHex u.bytes :=
  bytesOf_ascii _ (encodeHex_ascii u.bytes)

/-- Sixteen bytes as an explicit list. -/
theorem UUID.exists_eq (u : UUID) :
    ∃ b0 b1 b2 b3 b4 b5 b6 b7 b8 b9 b10 b11 b12 b13 b14 b15 : UInt8,
      u.bytes = [b0, b1, b2, b3, b4, b5, b6, b7, b8, b9, b10, b11, b12, b13, b14, b15] := by
  obtain ⟨bytes, h⟩ := u
  match bytes, h with
  | [b0, b1, b2, b3, b4, b5, b6, b7, b8, b9, b10, b11, b12, b13, b14, b15], _ =>
    exact ⟨b0, b1, b2, b3, b4, b5, b6, b7, b8, b9, b10, b11, b12, b13, b14, b15, rfl⟩

theorem parse_encodeHex (u : UUID) : parse (encodeHex u.bytes) = some u := by
  obtain ⟨b0, b1, b2, b3, b4, b5, b6, b7, b8, b9, b10, b11, b12, b13, b14, b15, hu⟩ := u.exists_eq
  obtain ⟨bytes, hlen⟩ := u
  subst hu
  have hpairs : decodePairs (encodeHex [b0, b1, b2, b3, b4, b5, b6, b7, b8, b9, b10, b11, b12, b13,
      b14, b15]) hyphenatedOffsets =
      some [b0, b1, b2, b3, b4, b5, b6, b7, b8, b9, b10, b11, b12, b13, b14, b15] := by
    simp only [decodePairs, hyphenatedOffsets, encodeHex, hexEncode, List.take, List.drop,
      List.cons_append, List.nil_append, List.getD_cons_succ, List.getD_cons_zero, xtob_hexDigit,
      Option.bind_eq_bind, Option.some_bind, Option.pure_def]
  rw [parse_of_length_36, parseHyphenated_of_hyphens, decodeUUID_of_decodePairs hpairs]
  all_goals rfl

theorem parse_bytesOf_toString (u : UUID) : parse (bytesOf u.toString) = some u := by
  rw [bytesOf_toString, parse_encodeHex]

theorem length_toString (u : UUID) : u.toString.length = 36 := by
  obtain ⟨b0, b1, b2, b3, b4, b5, b6, b7, b8, b9, b10, b11, b12, b13, b14, b15, hu⟩ := u.exists_eq
  simp [UUID.toString, String.length, hu, encodeHex, hexEncode]

theorem toString_ne_empty (u : UUID) : u.toString ≠ "" := by
  intro h
  have := length_toString u
  rw [h] at this
  contradiction

end Uuid
end AppFunctionsSdk
