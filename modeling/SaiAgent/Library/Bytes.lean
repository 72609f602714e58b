import Mathlib.Algebra.Group.Nat.Defs
import Mathlib.Data.List.Basic

/-!
# Bytes in memory

Little-endian words in byte lists, and byte lists that agree on a prefix.

`readLe16`, `readLe32` read a word at an offset of a byte list (bytes beyond the end read as zero);
`le16`, `le32`, `le64` lay a word out. The read of an encoded word is the word
(`readLe32_le32_append`). A read looks at its own bytes only, so two memories that `AgreeBelow
n` give the same word at every offset whose bytes lie below `n`.
-/

namespace Effects.Bytes

/-- The byte at an offset; zero beyond the end. -/
def byteAt (b : List UInt8) (i : ℕ) : UInt8 := b.getD i 0

/-- The little-endian 16-bit word at an offset. -/
def readLe16 (b : List UInt8) (i : ℕ) : UInt16 :=
  UInt16.ofNat ((byteAt b i).toNat + 256 * (byteAt b (i + 1)).toNat)

/-- The little-endian 32-bit word at an offset. -/
def readLe32 (b : List UInt8) (i : ℕ) : UInt32 :=
  UInt32.ofNat ((byteAt b i).toNat + 256 * (byteAt b (i + 1)).toNat +
    65536 * (byteAt b (i + 2)).toNat + 16777216 * (byteAt b (i + 3)).toNat)

/-- The bytes of a number, least significant first, in the given width. -/
def leBytes : ℕ → ℕ → List UInt8
  | 0, _ => []
  | width + 1, v => UInt8.ofNat v :: leBytes width (v / 256)

/-- A 16-bit word in little-endian order. -/
def le16 (v : UInt16) : List UInt8 := leBytes 2 v.toNat

/-- A 32-bit word in little-endian order. -/
def le32 (v : UInt32) : List UInt8 := leBytes 4 v.toNat

/-- A 64-bit word in little-endian order. -/
def le64 (v : UInt64) : List UInt8 := leBytes 8 v.toNat

@[simp] theorem length_leBytes (width v : ℕ) : (leBytes width v).length = width := by
  induction width generalizing v with
  | zero => rfl
  | succ width ih => simp [leBytes, ih]

@[simp] theorem length_le16 (v : UInt16) : (le16 v).length = 2 := length_leBytes 2 _

@[simp] theorem length_le32 (v : UInt32) : (le32 v).length = 4 := length_leBytes 4 _

@[simp] theorem length_le64 (v : UInt64) : (le64 v).length = 8 := length_leBytes 8 _

/-- Reading back a word laid out at the start of a memory. -/
theorem readLe32_le32_append (v : UInt32) (t : List UInt8) : readLe32 (le32 v ++ t) 0 = v := by
  have hv := v.toNat_lt
  apply UInt32.toNat_inj.1
  simp only [readLe32, le32, leBytes, byteAt, List.cons_append, List.nil_append,
    List.getD_cons_zero, List.getD_cons_succ, UInt32.toNat_ofNat', UInt8.toNat_ofNat']
  omega

/-- A word at the start of the rest is the word at the offset. -/
theorem readLe32_append_right {s : List UInt8} {i : ℕ} (h : s.length = i) (t : List UInt8) :
    readLe32 (s ++ t) i = readLe32 t 0 := by
  subst h
  simp only [readLe32, byteAt, List.getD_eq_getElem?_getD, List.getElem?_append_right,
    Nat.le_add_right, Nat.le_refl, Nat.add_sub_cancel_left, Nat.sub_self, Nat.zero_add]

/-! ### Agreement on a prefix -/

/-- Two memories hold the same bytes below `n`. -/
def AgreeBelow (n : ℕ) (b b' : List UInt8) : Prop := ∀ i < n, byteAt b i = byteAt b' i

theorem AgreeBelow.of_take_eq {n : ℕ} {b b' : List UInt8} (h : b.take n = b'.take n) :
    AgreeBelow n b b' := by
  intro i hi
  have := congrArg (·[i]?) h
  simp only [List.getElem?_take, hi, if_true] at this
  simp only [byteAt, List.getD_eq_getElem?_getD, this]

theorem AgreeBelow.mono {m n : ℕ} {b b' : List UInt8} (h : AgreeBelow n b b') (hmn : m ≤ n) :
    AgreeBelow m b b' :=
  fun i hi ↦ h i (by omega)

variable {n : ℕ} {b b' : List UInt8}

theorem AgreeBelow.byteAt (h : AgreeBelow n b b') {i : ℕ} (hi : i + 1 ≤ n) :
    byteAt b i = byteAt b' i :=
  h i hi

theorem AgreeBelow.readLe16 (h : AgreeBelow n b b') {i : ℕ} (hi : i + 2 ≤ n) :
    readLe16 b i = readLe16 b' i := by
  rw [Bytes.readLe16, Bytes.readLe16, h i (by omega), h (i + 1) (by omega)]

theorem AgreeBelow.readLe32 (h : AgreeBelow n b b') {i : ℕ} (hi : i + 4 ≤ n) :
    readLe32 b i = readLe32 b' i := by
  rw [Bytes.readLe32, Bytes.readLe32, h i (by omega), h (i + 1) (by omega),
    h (i + 2) (by omega), h (i + 3) (by omega)]

end Effects.Bytes
