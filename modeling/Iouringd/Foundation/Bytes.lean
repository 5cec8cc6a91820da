import Mathlib.Algebra.Group.Nat.Defs
import Mathlib.Data.List.Basic

/-! # Byte strings, byte memories and little-endian fields

A `Memory` is a fixed buffer seen from the outside: every address has a byte,
reading a range always yields exactly that many bytes, and writing a byte string
changes only the range it covers. Wire records are concatenations of
little-endian fields; `u16At`, `u32At`, `u64At` and `i32At` read one field of a
byte string at an offset.
-/

namespace Foundation

/-- A byte buffer; addresses outside the buffer are never read by its users. -/
abbrev Memory := Nat → UInt8

namespace Memory

/-- A buffer after `memset(buf, 0, ...)`. -/
def zero : Memory := fun _ => 0

/-- The `len` bytes starting at `off`. -/
def read (memory : Memory) (off len : Nat) : List UInt8 :=
  (List.range len).map fun index => memory (off + index)

/-- `memcpy(buf + off, bytes, bytes.length)`. -/
def write (memory : Memory) (off : Nat) (bytes : List UInt8) : Memory :=
  fun address => if off ≤ address then (bytes[address - off]?).getD (memory address)
    else memory address

/-- A read has the length that was asked for. -/
@[simp] theorem length_read (memory : Memory) (off len : Nat) :
    (memory.read off len).length = len := by
  simp only [read, List.length_map, List.length_range]

/-- Nothing is read. -/
@[simp] theorem read_zero (memory : Memory) (off : Nat) : memory.read off 0 = [] := rfl

/-- Nothing is written. -/
@[simp] theorem write_nil (memory : Memory) (off : Nat) : memory.write off [] = memory := by
  funext address
  simp only [write, List.getElem?_nil, Option.getD_none, ite_self]

/-- Two reads behind each other. -/
theorem read_add (memory : Memory) (off first second : Nat) :
    memory.read off (first + second) =
      memory.read off first ++ memory.read (off + first) second := by
  simp only [read, List.range_add, List.map_append, List.map_map]
  congr 1
  apply List.map_congr_left
  intro index _
  simp only [Function.comp_apply, Nat.add_assoc]

/-- The byte a read found at a position. -/
theorem getElem_read (memory : Memory) (off len index : Nat)
    (below : index < (memory.read off len).length) :
    (memory.read off len)[index] = memory (off + index) := by
  simp only [read, List.getElem_map, List.getElem_range]

/-- The front of a read is a shorter read. -/
theorem take_read (memory : Memory) (off len count : Nat) (within : count ≤ len) :
    (memory.read off len).take count = memory.read off count := by
  obtain ⟨rest, rfl⟩ := Nat.exists_eq_add_of_le within
  rw [read_add, List.take_left' (memory.length_read off count)]

/-- The rest of a read is a read further on. -/
theorem drop_read (memory : Memory) (off len count : Nat) :
    (memory.read off (count + len)).drop count = memory.read (off + count) len := by
  rw [read_add, List.drop_left' (memory.length_read off count)]

/-- Reading back what was just written. -/
@[simp] theorem read_write_self (memory : Memory) (off : Nat) (bytes : List UInt8) :
    (memory.write off bytes).read off bytes.length = bytes := by
  apply List.ext_getElem
  · exact length_read _ _ _
  · intro index _ within
    rw [getElem_read]
    simp only [write, Nat.le_add_right, ↓reduceIte, Nat.add_sub_cancel_left,
      List.getElem?_eq_getElem within, Option.getD_some]

/-- An address outside the written range is untouched. -/
theorem write_outside (memory : Memory) (off address : Nat) (bytes : List UInt8)
    (outside : address < off ∨ off + bytes.length ≤ address) :
    memory.write off bytes address = memory address := by
  unfold write
  split
  · rename_i above
    have beyond : bytes.length ≤ address - off := by omega
    rw [List.getElem?_eq_none beyond, Option.getD_none]
  · rfl

/-- An address inside the written range holds the same byte whatever was there. -/
theorem write_inside (memory other : Memory) (off address : Nat) (bytes : List UInt8)
    (inside : off ≤ address ∧ address < off + bytes.length) :
    memory.write off bytes address = other.write off bytes address := by
  have within : address - off < bytes.length := by omega
  simp only [write, inside.1, ↓reduceIte, List.getElem?_eq_getElem within, Option.getD_some]

/-- A range reads the same from memories with the same bytes there. -/
theorem read_congr {memory other : Memory} {off len : Nat}
    (same : ∀ index < len, memory (off + index) = other (off + index)) :
    memory.read off len = other.read off len := by
  apply List.map_congr_left
  intro index member
  exact same index (List.mem_range.mp member)

/-- A range that ends before the written one is untouched. -/
theorem read_write_before (memory : Memory) (off start len : Nat) (bytes : List UInt8)
    (before : start + len ≤ off) :
    (memory.write off bytes).read start len = memory.read start len := by
  apply List.map_congr_left
  intro index member
  have within := List.mem_range.mp member
  exact write_outside memory off (start + index) bytes (Or.inl (by omega))

/-- A range that starts behind the written one is untouched. -/
theorem read_write_after (memory : Memory) (off start len : Nat) (bytes : List UInt8)
    (after : off + bytes.length ≤ start) :
    (memory.write off bytes).read start len = memory.read start len := by
  apply List.map_congr_left
  intro index _
  exact write_outside memory off (start + index) bytes (Or.inr (by omega))

/-- What was stored at an address survives a write there that agrees with it. -/
theorem read_write_agree (memory : Memory) (off : Nat) (bytes stored : List UInt8)
    (held : memory.read off stored.length = stored)
    (agree : bytes.take stored.length = stored.take bytes.length) :
    (memory.write off bytes).read off stored.length = stored := by
  apply List.ext_getElem
  · exact length_read _ _ _
  · intro index _ within
    rw [getElem_read]
    simp only [write, Nat.le_add_right, ↓reduceIte, Nat.add_sub_cancel_left]
    by_cases covered : index < bytes.length
    · have same := congrArg (·[index]?) agree
      simp only [List.getElem?_take, within, covered, ↓reduceIte] at same
      rw [same, List.getElem?_eq_getElem within, Option.getD_some]
    · rw [List.getElem?_eq_none (Nat.not_lt.mp covered), Option.getD_none]
      have same := List.getElem_of_eq held (by rwa [length_read])
      rwa [getElem_read] at same

/-- Appending a chunk to the first `len` bytes of a buffer. -/
theorem read_write_append (memory : Memory) (len : Nat) (bytes : List UInt8) :
    (memory.write len bytes).read 0 (len + bytes.length) = memory.read 0 len ++ bytes := by
  rw [read_add, read_write_before memory len 0 len bytes (by omega), Nat.zero_add,
    read_write_self]

end Memory

/-! ## Little-endian fields -/

/-- The `width` little-endian bytes of a number. -/
def leBytes : Nat → Nat → List UInt8
  | 0, _ => []
  | width + 1, value => UInt8.ofNat value :: leBytes width (value / 256)

/-- The number a little-endian byte string denotes. -/
def leNat : List UInt8 → Nat
  | [] => 0
  | byte :: rest => byte.toNat + 256 * leNat rest

/-- A field takes its width. -/
@[simp] theorem length_leBytes (width value : Nat) : (leBytes width value).length = width := by
  induction width generalizing value with
  | zero => rfl
  | succ width ih => simp only [leBytes, List.length_cons, ih]

/-- Only as much of the value as fits survives. -/
theorem leNat_leBytes (width value : Nat) : leNat (leBytes width value) = value % 256 ^ width := by
  induction width generalizing value with
  | zero => simp only [leBytes, leNat, Nat.pow_zero, Nat.mod_one]
  | succ width ih =>
      rw [leBytes, leNat, ih, UInt8.toNat_ofNat', Nat.pow_succ' (m := 256), Nat.mod_mul]

/-- The number in the `width` bytes at `off`. -/
def fieldAt (width : Nat) (bytes : List UInt8) (off : Nat) : Nat :=
  leNat ((bytes.drop off).take width)

/-- A field that lies behind a prefix. -/
theorem fieldAt_append_right (width : Nat) (front bytes : List UInt8) (off : Nat)
    (behind : front.length ≤ off) :
    fieldAt width (front ++ bytes) off = fieldAt width bytes (off - front.length) := by
  rw [fieldAt, List.drop_append, List.drop_eq_nil_of_le behind, List.nil_append, fieldAt]

/-- A field that lies inside a prefix. -/
theorem fieldAt_append_left (width : Nat) (front bytes : List UInt8) (off : Nat)
    (within : off + width ≤ front.length) :
    fieldAt width (front ++ bytes) off = fieldAt width front off := by
  rw [fieldAt, List.drop_append_of_le_length (by omega),
    List.take_append_of_le_length (by rw [List.length_drop]; omega), fieldAt]

/-- The bytes behind weigh more. -/
theorem leNat_append (front back : List UInt8) :
    leNat (front ++ back) = leNat front + 256 ^ front.length * leNat back := by
  induction front with
  | nil => rw [List.nil_append, leNat, List.length_nil, Nat.pow_zero, Nat.one_mul, Nat.zero_add]
  | cons byte rest ih =>
      rw [List.cons_append, leNat, ih, leNat, List.length_cons, Nat.pow_succ', Nat.mul_add,
        Nat.mul_assoc, Nat.add_assoc]

/-- So many bytes hold no more. -/
theorem leNat_lt (bytes : List UInt8) : leNat bytes < 256 ^ bytes.length := by
  induction bytes with
  | nil => exact Nat.one_pos
  | cons byte rest ih =>
      have low : byte.toNat < 256 := byte.toNat_lt
      rw [leNat, List.length_cons, Nat.pow_succ']
      omega

/-- A field holds no more than its width. -/
theorem fieldAt_lt (width : Nat) (bytes : List UInt8) (off : Nat) :
    fieldAt width bytes off < 256 ^ width :=
  Nat.lt_of_lt_of_le (leNat_lt _) (Nat.pow_le_pow_right (by decide) (List.length_take_le _ _))

/-- A field of two parts. -/
theorem fieldAt_add (first second : Nat) (bytes : List UInt8) (off : Nat)
    (within : off + first ≤ bytes.length) : fieldAt (first + second) bytes off =
      fieldAt first bytes off + 256 ^ first * fieldAt second bytes (off + first) := by
  unfold fieldAt
  rw [List.take_add, leNat_append, List.length_take, List.length_drop, List.drop_drop,
    Nat.min_eq_left (by omega)]

/-- A field inside a prefix that was cut off. -/
theorem fieldAt_take (width : Nat) (bytes : List UInt8) (off count : Nat)
    (within : off + width ≤ count) :
    fieldAt width (bytes.take count) off = fieldAt width bytes off := by
  unfold fieldAt
  rw [List.drop_take, List.take_take, Nat.min_eq_left (by omega)]

/-- A field that was written is read back. -/
theorem fieldAt_leBytes (width value : Nat) :
    fieldAt width (leBytes width value) 0 = value % 256 ^ width := by
  rw [fieldAt, List.drop_zero, List.take_of_length_le (Nat.le_of_eq (length_leBytes width value)),
    leNat_leBytes]

/-- The little-endian bytes of a `uint16_t`, `uint32_t`, `uint64_t` and `int32_t`. -/
def u16 (value : UInt16) : List UInt8 := leBytes 2 value.toNat
@[inherit_doc u16] def u32 (value : UInt32) : List UInt8 := leBytes 4 value.toNat
@[inherit_doc u16] def u64 (value : UInt64) : List UInt8 := leBytes 8 value.toNat
@[inherit_doc u16] def i32 (value : Int32) : List UInt8 := u32 value.toUInt32

/-- The field of the given width at an offset. -/
def u16At (bytes : List UInt8) (off : Nat) : UInt16 := UInt16.ofNat (fieldAt 2 bytes off)
@[inherit_doc u16At] def u32At (bytes : List UInt8) (off : Nat) : UInt32 :=
  UInt32.ofNat (fieldAt 4 bytes off)
@[inherit_doc u16At] def u64At (bytes : List UInt8) (off : Nat) : UInt64 :=
  UInt64.ofNat (fieldAt 8 bytes off)
@[inherit_doc u16At] def i32At (bytes : List UInt8) (off : Nat) : Int32 :=
  (u32At bytes off).toInt32

/-- The widths of the four fields. -/
@[simp] theorem length_u16 (value : UInt16) : (u16 value).length = 2 := length_leBytes _ _
@[simp, inherit_doc length_u16]
theorem length_u32 (value : UInt32) : (u32 value).length = 4 := length_leBytes _ _
@[simp, inherit_doc length_u16]
theorem length_u64 (value : UInt64) : (u64 value).length = 8 := length_leBytes _ _
@[simp, inherit_doc length_u16]
theorem length_i32 (value : Int32) : (i32 value).length = 4 := length_leBytes _ _

/-- A value that was stored is loaded again. -/
@[simp] theorem u16At_u16 (value : UInt16) : u16At (u16 value) 0 = value := by
  have small : value.toNat < 256 ^ 2 := value.toNat_lt
  rw [u16At, u16, fieldAt_leBytes, Nat.mod_eq_of_lt small, UInt16.ofNat_toNat]

@[simp, inherit_doc u16At_u16]
theorem u32At_u32 (value : UInt32) : u32At (u32 value) 0 = value := by
  have small : value.toNat < 256 ^ 4 := value.toNat_lt
  rw [u32At, u32, fieldAt_leBytes, Nat.mod_eq_of_lt small, UInt32.ofNat_toNat]

@[simp, inherit_doc u16At_u16]
theorem u64At_u64 (value : UInt64) : u64At (u64 value) 0 = value := by
  have small : value.toNat < 256 ^ 8 := value.toNat_lt
  rw [u64At, u64, fieldAt_leBytes, Nat.mod_eq_of_lt small, UInt64.ofNat_toNat]

@[simp, inherit_doc u16At_u16]
theorem i32At_i32 (value : Int32) : i32At (i32 value) 0 = value := by
  rw [i32At, i32, u32At_u32, Int32.toInt32_toUInt32]

/-- A load behind a prefix. -/
theorem u16At_append_right (front bytes : List UInt8) (off : Nat) (behind : front.length ≤ off) :
    u16At (front ++ bytes) off = u16At bytes (off - front.length) := by
  rw [u16At, fieldAt_append_right _ _ _ _ behind, u16At]

@[inherit_doc u16At_append_right]
theorem u32At_append_right (front bytes : List UInt8) (off : Nat) (behind : front.length ≤ off) :
    u32At (front ++ bytes) off = u32At bytes (off - front.length) := by
  rw [u32At, fieldAt_append_right _ _ _ _ behind, u32At]

@[inherit_doc u16At_append_right]
theorem u64At_append_right (front bytes : List UInt8) (off : Nat) (behind : front.length ≤ off) :
    u64At (front ++ bytes) off = u64At bytes (off - front.length) := by
  rw [u64At, fieldAt_append_right _ _ _ _ behind, u64At]

@[inherit_doc u16At_append_right]
theorem i32At_append_right (front bytes : List UInt8) (off : Nat) (behind : front.length ≤ off) :
    i32At (front ++ bytes) off = i32At bytes (off - front.length) := by
  rw [i32At, u32At_append_right _ _ _ behind, i32At]

/-- A load inside a prefix. -/
theorem u16At_append_left (front bytes : List UInt8) (off : Nat)
    (within : off + 2 ≤ front.length) : u16At (front ++ bytes) off = u16At front off := by
  rw [u16At, fieldAt_append_left _ _ _ _ within, u16At]

@[inherit_doc u16At_append_left]
theorem u32At_append_left (front bytes : List UInt8) (off : Nat)
    (within : off + 4 ≤ front.length) : u32At (front ++ bytes) off = u32At front off := by
  rw [u32At, fieldAt_append_left _ _ _ _ within, u32At]

@[inherit_doc u16At_append_left]
theorem u64At_append_left (front bytes : List UInt8) (off : Nat)
    (within : off + 8 ≤ front.length) : u64At (front ++ bytes) off = u64At front off := by
  rw [u64At, fieldAt_append_left _ _ _ _ within, u64At]

@[inherit_doc u16At_append_left]
theorem i32At_append_left (front bytes : List UInt8) (off : Nat)
    (within : off + 4 ≤ front.length) : i32At (front ++ bytes) off = i32At front off := by
  rw [i32At, u32At_append_left _ _ _ within, i32At]

end Foundation
