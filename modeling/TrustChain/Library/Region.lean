import Mathlib.Data.List.GetD
import TrustChain.Library.CString

namespace TrustChain
namespace Library

/-!
# Memory as C programs see it

A region is the memory from the start of an object onwards, by offset, and has
no end: a write that leaves the field it was meant for, or even the object,
changes the bytes that lie behind.  Integers are stored with their low byte
first, and a string is stored with the terminator behind it, unless a bounded
copy has no room for one.
-/

/-! ## Integers as bytes -/

/-- The bytes of `uint32_t` in memory. -/
def littleEndian (n : UInt32) : List UInt8 :=
  [UInt8.ofNat (n.toNat % 256), UInt8.ofNat (n.toNat / 256 % 256),
    UInt8.ofNat (n.toNat / 65536 % 256), UInt8.ofNat (n.toNat / 16777216 % 256)]

/-- The integer that these bytes denote. -/
def ofLittleEndian (bytes : List UInt8) : UInt32 :=
  UInt32.ofNat (bytes.foldr (fun byte rest => byte.toNat + 256 * rest) 0)

theorem length_littleEndian (n : UInt32) : (littleEndian n).length = 4 := rfl

theorem toNat_ofNat_mod (n : Nat) : (UInt8.ofNat (n % 256)).toNat = n % 256 := by
  rw [UInt8.toNat_ofNat']
  exact Nat.mod_eq_of_lt (Nat.mod_lt n (by decide))

theorem ofLittleEndian_littleEndian (n : UInt32) : ofLittleEndian (littleEndian n) = n := by
  have bound := n.toNat_lt
  have value : (littleEndian n).foldr (fun byte rest => byte.toNat + 256 * rest) 0 = n.toNat := by
    simp only [littleEndian, List.foldr_cons, List.foldr_nil, toNat_ofNat_mod]
    omega
  rw [ofLittleEndian, value, UInt32.ofNat_toNat]

theorem littleEndian_injective {first second : UInt32}
    (same : littleEndian first = littleEndian second) : first = second := by
  rw [← ofLittleEndian_littleEndian first, same, ofLittleEndian_littleEndian]

/-- `uint32_t` from a 64-bit integer: its low 32 bits. -/
def narrow (value : Int64) : UInt32 := value.toUInt64.toUInt32

theorem toNat_narrow_eq_toInt_iff (value : Int64) :
    ((narrow value).toNat : Int) = value.toInt ↔ 0 ≤ value.toInt ∧ value.toInt < 2 ^ 32 := by
  have bits : value.toInt = value.toBitVec.toInt := rfl
  have low : (narrow value).toNat = value.toBitVec.toNat % 2 ^ 32 := by
    rw [narrow, UInt64.toNat_toUInt32, ← Int64.toNat_toBitVec]
  have bound := value.toBitVec.isLt
  rw [bits, low, BitVec.toInt_eq_toNat_cond]
  by_cases small : 2 * value.toBitVec.toNat < 2 ^ 64
  · rw [if_pos small]
    omega
  · rw [if_neg small]
    omega

/-! ## Bounded copies -/

/-- The bytes that `strncpy` stores: the characters that fit, and zeros behind them. -/
def strncpyBytes (text : CString) (count : Nat) : List UInt8 :=
  text.bytes.take count ++ List.replicate (count - text.length) 0

theorem length_strncpyBytes (text : CString) (count : Nat) :
    (strncpyBytes text count).length = count := by
  rw [strncpyBytes, List.length_append, List.length_take, List.length_replicate, CString.length]
  omega

/-- The field has the whole text in it, with its terminator. -/
def HoldsText (field : List UInt8) (text : CString) : Prop :=
  text.bytes ++ [0] <+: field

/-- A bounded copy leaves the terminator to the byte behind it if the text
fills the bound, and loses the end of a longer text. -/
theorem holdsText_strncpyBytes_iff (text : CString) (count : Nat) (last : UInt8) :
    HoldsText (strncpyBytes text count ++ [last]) text ↔
      text.length < count ∨ (text.length = count ∧ last = 0) := by
  have lengths : (text.bytes ++ [0]).length = text.length + 1 := List.length_append
  rcases Nat.lt_trichotomy text.length count with shorter | equal | longer
  · refine iff_of_true ?_ (Or.inl shorter)
    rcases Nat.exists_eq_add_of_lt shorter with ⟨more, rfl⟩
    have all : text.bytes.take (text.length + more + 1) = text.bytes :=
      List.take_of_length_le (Nat.le_of_lt shorter)
    have zeros : text.length + more + 1 - text.length = more + 1 := by omega
    rw [HoldsText, strncpyBytes, all, zeros, List.replicate_succ, List.append_assoc,
      List.prefix_append_right_inj]
    exact List.prefix_append [0] _
  · have all : text.bytes.take count = text.bytes := List.take_of_length_le (Nat.le_of_eq equal)
    rw [HoldsText, strncpyBytes, all, equal, Nat.sub_self, List.replicate_zero, List.append_nil,
      List.prefix_append_right_inj, List.cons_prefix_cons]
    constructor
    · intro terminated
      exact Or.inr ⟨rfl, terminated.1.symm⟩
    · rintro (impossible | ⟨_, rfl⟩)
      · exact absurd impossible (Nat.lt_irrefl count)
      · exact ⟨rfl, List.nil_prefix⟩
  · refine iff_of_false (fun held => ?_) (by omega)
    have bound := held.length_le
    rw [lengths, List.length_append, length_strncpyBytes, List.length_singleton] at bound
    omega

/-- With a terminator behind the bound, what fits is there. -/
theorem holdsText_strncpyBytes_take (text : CString) (count : Nat) :
    HoldsText (strncpyBytes text count ++ [0]) (text.take count) := by
  have same : strncpyBytes text count = strncpyBytes (text.take count) count := by
    have lengths : count - min count text.length = count - text.length := by omega
    rw [strncpyBytes, strncpyBytes, CString.bytes_take, CString.length_take, List.take_take,
      Nat.min_self, lengths]
  rw [same, holdsText_strncpyBytes_iff, CString.length_take]
  rcases Nat.lt_or_eq_of_le (Nat.min_le_left count text.length) with shorter | equal
  · exact Or.inl shorter
  · exact Or.inr ⟨equal, rfl⟩

/-- Whatever lies behind the field, the text is what a C program finds there. -/
theorem HoldsText.ofMemory {field : List UInt8} {text : CString} (holds : HoldsText field text)
    (behind : List UInt8) : CString.ofMemory (field ++ behind) = text := by
  rcases holds with ⟨rest, rfl⟩
  rw [List.append_assoc, List.append_assoc, List.singleton_append, CString.ofMemory_terminated]

/-! ## Regions -/

abbrev Region := Nat → UInt8

namespace Region

/-- Bytes stored one after the other from an offset on. -/
def write (region : Region) (offset : Nat) (bytes : List UInt8) : Region := fun index =>
  if offset ≤ index ∧ index < offset + bytes.length then bytes.getD (index - offset) 0
  else region index

/-- The bytes from an offset on. -/
def read (region : Region) (offset : Nat) : Nat → List UInt8
  | 0 => []
  | count + 1 => region offset :: read region (offset + 1) count

theorem write_outside (region : Region) {offset index : Nat} {bytes : List UInt8}
    (outside : index < offset ∨ offset + bytes.length ≤ index) :
    region.write offset bytes index = region index :=
  if_neg (by omega)

theorem write_inside (region : Region) (offset index : Nat) {bytes : List UInt8}
    (inside : index < bytes.length) :
    region.write offset bytes (offset + index) = bytes.getD index 0 := by
  rw [write, if_pos (by omega), Nat.add_sub_cancel_left]

theorem write_nil (region : Region) (offset : Nat) : region.write offset [] = region := by
  funext index
  exact region.write_outside (by rw [List.length_nil]; omega)

/-- A long write is two writes, the second where the first one ends. -/
theorem write_append (region : Region) (offset : Nat) (first second : List UInt8) :
    region.write offset (first ++ second) =
      (region.write offset first).write (offset + first.length) second := by
  funext index
  by_cases inSecond : offset + first.length ≤ index ∧ index < offset + first.length + second.length
  · rcases inSecond with ⟨low, high⟩
    rw [write, if_pos (by rw [List.length_append]; omega), write, if_pos ⟨low, high⟩,
      List.getD_append_right _ _ _ _ (by omega), Nat.sub_add_eq]
  · have outside : index < offset + first.length ∨
        offset + first.length + second.length ≤ index := by omega
    rw [write_outside _ outside]
    by_cases inFirst : offset ≤ index ∧ index < offset + first.length
    · rw [write, if_pos (by rw [List.length_append]; omega), write, if_pos inFirst,
        List.getD_append _ _ _ _ (by omega)]
    · rw [write_outside _ (by rw [List.length_append]; omega), write_outside _ (by omega)]

/-- What is written over leaves no trace. -/
theorem write_write_of_length_le (region : Region) (offset : Nat) {first second : List UInt8}
    (covered : first.length ≤ second.length) :
    (region.write offset first).write offset second = region.write offset second := by
  funext index
  by_cases inside : offset ≤ index ∧ index < offset + second.length
  · rw [write, if_pos inside, write, if_pos inside]
  · rw [write_outside _ (by omega), write_outside _ (by omega), write_outside _ (by omega)]

/-- Reading depends only on the bytes that are read. -/
theorem read_congr {first second : Region} {offset count : Nat}
    (same : ∀ index, offset ≤ index → index < offset + count → first index = second index) :
    first.read offset count = second.read offset count := by
  induction count generalizing offset with
  | zero => rfl
  | succ count ih =>
      have head := same offset (Nat.le_refl offset) (by omega)
      have tail : first.read (offset + 1) count = second.read (offset + 1) count :=
        ih fun index low high => same index (by omega) (by omega)
      rw [read, read, head, tail]

/-- A write behind the bytes that are read. -/
theorem read_write_behind (region : Region) {offset count other : Nat} (bytes : List UInt8)
    (behind : offset + count ≤ other) :
    (region.write other bytes).read offset count = region.read offset count := by
  apply read_congr
  intro index low high
  exact write_outside region (Or.inl (by omega))

/-- What was written is read back, and what follows it with it. -/
theorem read_write (region : Region) (offset : Nat) (bytes : List UInt8) (count : Nat) :
    (region.write offset bytes).read offset count =
      bytes.take count ++ region.read (offset + bytes.length) (count - bytes.length) := by
  induction bytes generalizing region offset count with
  | nil => simp [write_nil]
  | cons head tail ih =>
      cases count with
      | zero => simp [read]
      | succ count =>
          have split := region.write_append offset [head] tail
          rw [List.singleton_append, List.length_singleton] at split
          have here : (region.write offset [head]) offset = head :=
            write_inside region offset 0 Nat.zero_lt_one
          have behind : (region.write offset [head]).read (offset + 1 + tail.length)
              (count - tail.length) = region.read (offset + 1 + tail.length) (count - tail.length) := by
            apply read_congr
            intro index low high
            exact write_outside region (Or.inr (by rw [List.length_singleton]; omega))
          rw [split, read, ih, write_outside _ (Or.inl (Nat.lt_succ_self offset)), here, behind,
            List.take_succ_cons, List.cons_append, List.length_cons, Nat.add_sub_add_right,
            Nat.add_assoc, Nat.add_comm 1]

theorem read_add (region : Region) (offset first second : Nat) :
    region.read offset (first + second) =
      region.read offset first ++ region.read (offset + first) second := by
  induction first generalizing offset with
  | zero => simp [read]
  | succ first ih =>
      rw [Nat.add_right_comm, read, ih, read, List.cons_append, Nat.add_right_comm, Nat.add_assoc]

theorem read_snoc {region : Region} {offset size : Nat} {bytes : List UInt8} {last : UInt8}
    (before : region.read offset size = bytes) (behind : region.read (offset + size) 1 = [last]) :
    region.read offset (size + 1) = bytes ++ [last] := by
  rw [read_add, before, behind]

theorem length_read (region : Region) (offset count : Nat) :
    (region.read offset count).length = count := by
  induction count generalizing offset with
  | zero => rfl
  | succ count ih => exact congrArg (· + 1) (ih (offset + 1))

/-- A write that begins behind the bytes that are read, or ends in front of them. -/
theorem read_write_apart (region : Region) {offset count other : Nat} {bytes : List UInt8}
    (apart : offset + count ≤ other ∨ other + bytes.length ≤ offset) :
    (region.write other bytes).read offset count = region.read offset count := by
  apply read_congr
  intro index low high
  apply write_outside
  omega

/-- Exactly what was written. -/
theorem read_write_self (region : Region) (offset : Nat) (bytes : List UInt8) :
    (region.write offset bytes).read offset bytes.length = bytes := by
  rw [read_write, List.take_length, Nat.sub_self]
  exact List.append_nil bytes

theorem take_read (region : Region) (offset : Nat) {count first : Nat} (inside : first ≤ count) :
    (region.read offset count).take first = region.read offset first := by
  rw [← Nat.add_sub_cancel' inside, read_add]
  exact List.take_left' (region.length_read offset first)

theorem mem_read (region : Region) {offset index count : Nat} (inside : index < count) :
    region (offset + index) ∈ region.read offset count := by
  have split : count = index + (1 + (count - (index + 1))) := by omega
  rw [split, read_add, read_add]
  exact List.mem_append_right _ (List.mem_append_left _ (List.mem_singleton.mpr rfl))

theorem drop_read (region : Region) (offset : Nat) {count first : Nat} (inside : first ≤ count) :
    (region.read offset count).drop first = region.read (offset + first) (count - first) := by
  have split := region.read_add offset first (count - first)
  rw [Nat.add_sub_cancel' inside] at split
  rw [split]
  exact List.drop_left' (region.length_read offset first)

/-! ## Writes within a buffer -/

/-- From this offset on, which is the end of a buffer, nothing has changed. -/
def SameFrom (limit : Nat) (before after : Region) : Prop :=
  ∀ index, limit ≤ index → after index = before index

/-- Bytes at the start of a buffer stay inside, whatever lies behind it, exactly
when there is room for them. -/
theorem sameFrom_write_iff (limit : Nat) (bytes : List UInt8) :
    (∀ region, SameFrom limit region (region.write 0 bytes)) ↔ bytes.length ≤ limit := by
  constructor
  · intro same
    by_contra long
    have other : (fun _ => bytes.getD limit 0 + 1 : Region) limit ≠ bytes.getD limit 0 := by
      change bytes.getD limit 0 + 1 ≠ bytes.getD limit 0
      simp
    have written := write_inside (fun _ => bytes.getD limit 0 + 1) 0 limit (Nat.lt_of_not_le long)
    rw [Nat.zero_add, same _ limit (Nat.le_refl limit)] at written
    exact other written
  · intro room region index behind
    apply write_outside
    exact Or.inr (by omega)

theorem SameFrom.refl (limit : Nat) (region : Region) : SameFrom limit region region :=
  fun _ _ => rfl

/-! ## Fields -/

def writeUInt32 (region : Region) (offset : Nat) (n : UInt32) : Region :=
  region.write offset (littleEndian n)

def readUInt32 (region : Region) (offset : Nat) : UInt32 :=
  ofLittleEndian (region.read offset 4)

/-- `strcpy`: the characters and the terminator. -/
def strcpy (region : Region) (offset : Nat) (text : CString) : Region :=
  region.write offset (text.bytes ++ [0])

/-- `strncpy`. -/
def strncpy (region : Region) (offset : Nat) (text : CString) (count : Nat) : Region :=
  region.write offset (strncpyBytes text count)

/-- What a conversion `%.ns` finds: a string of at most `limit` bytes. -/
def readString (region : Region) (offset limit : Nat) : CString :=
  .ofMemory (region.read offset limit)

theorem readUInt32_writeUInt32 (region : Region) (offset : Nat) (n : UInt32) :
    (region.writeUInt32 offset n).readUInt32 offset = n := by
  rw [readUInt32, writeUInt32, read_write, length_littleEndian,
    List.take_of_length_le (Nat.le_of_eq (length_littleEndian n))]
  change ofLittleEndian (littleEndian n ++ []) = n
  rw [List.append_nil, ofLittleEndian_littleEndian]

theorem readString_strcpy (region : Region) (offset limit : Nat) (text : CString) :
    (region.strcpy offset text).readString offset limit = text.take limit := by
  rw [readString, strcpy, read_write, List.length_append, List.length_singleton]
  by_cases cut : limit ≤ text.bytes.length
  · have nothing : limit - (text.bytes.length + 1) = 0 := by omega
    rw [nothing, List.take_append_of_le_length cut, read, List.append_nil]
    exact CString.ofMemory_bytes (text.take limit)
  · have whole : (text.bytes ++ [0]).length ≤ limit := by
      rw [List.length_append, List.length_singleton]
      omega
    rw [List.take_of_length_le whole, List.append_assoc, List.singleton_append,
      CString.ofMemory_terminated, CString.take_eq_self (by unfold CString.length; omega)]

/-- A string ends where the memory is zero, if not before. -/
theorem length_readString_lt {region : Region} {offset index limit : Nat} (inside : index < limit)
    (zero : region (offset + index) = 0) : (region.readString offset limit).length < limit := by
  by_contra notShorter
  have whole := (List.takeWhile_prefix (l := region.read offset limit) (· ≠ 0)).eq_of_length_le
    (by
      rw [length_read]
      exact Nat.le_of_not_lt notShorter)
  have member : region (offset + index) ∈ region.read offset limit := region.mem_read inside
  rw [zero, ← whole] at member
  exact absurd (List.mem_takeWhile_imp member) (by decide)

/-- A string that is stored where another one ends takes the place of its
terminator, and the two become one. -/
theorem strcpy_strcpy (region : Region) (offset : Nat) (first second : CString) :
    (region.strcpy offset first).strcpy (offset + first.length) second =
      region.strcpy offset (first ++ second) := by
  have together : (first ++ second).bytes ++ [0] = first.bytes ++ (second.bytes ++ [0]) :=
    List.append_assoc first.bytes second.bytes [0]
  have length : offset + first.length = offset + first.bytes.length := rfl
  rw [strcpy, strcpy, strcpy, together, region.write_append, region.write_append, length,
    write_write_of_length_le _ _ (by simp)]

/-- The string that ends where another one starts has its terminator there. -/
theorem strcpy_terminator (region : Region) (offset : Nat) (text : CString) :
    region.strcpy offset text (offset + text.length) = 0 := by
  have inside : text.length < (text.bytes ++ [0]).length := by
    rw [List.length_append, List.length_singleton]
    exact Nat.lt_succ_self _
  have atEnd : text.bytes.length ≤ text.length := Nat.le_refl _
  rw [strcpy, write_inside _ _ _ inside, List.getD_append_right _ _ _ _ atEnd]
  change [0].getD (text.length - text.length) 0 = 0
  rw [Nat.sub_self]
  rfl

/-- Nothing is read where a string ends. -/
theorem readString_of_zero {region : Region} {offset : Nat} (zero : region offset = 0)
    (limit : Nat) : region.readString offset limit = .empty := by
  apply CString.ext
  cases limit with
  | zero => rfl
  | succ limit =>
      rw [readString, read, zero]
      rfl

/-! Reading apart from what was written, and exactly what was written. -/

section Apart

variable (region : Region) {offset count other : Nat}

theorem read_writeUInt32_apart (n : UInt32) (apart : offset + count ≤ other ∨ other + 4 ≤ offset) :
    (region.writeUInt32 other n).read offset count = region.read offset count :=
  region.read_write_apart apart

theorem read_strncpy_apart (text : CString) {limit : Nat}
    (apart : offset + count ≤ other ∨ other + limit ≤ offset) :
    (region.strncpy other text limit).read offset count = region.read offset count :=
  region.read_write_apart (by rwa [length_strncpyBytes])

theorem read_writeUInt32_self (n : UInt32) :
    (region.writeUInt32 offset n).read offset 4 = littleEndian n :=
  region.read_write_self offset (littleEndian n)

theorem read_strncpy_self (text : CString) (limit : Nat) :
    (region.strncpy offset text limit).read offset limit = strncpyBytes text limit := by
  have self := region.read_write_self offset (strncpyBytes text limit)
  rw [length_strncpyBytes] at self
  exact self

end Apart

/-! A field keeps its value when something is written behind it. -/

section Behind

variable (region : Region) {offset other : Nat}

theorem readUInt32_writeUInt32_behind (n : UInt32) (behind : offset + 4 ≤ other) :
    (region.writeUInt32 other n).readUInt32 offset = region.readUInt32 offset :=
  congrArg ofLittleEndian (region.read_write_behind _ behind)

theorem readUInt32_strcpy_behind (text : CString) (behind : offset + 4 ≤ other) :
    (region.strcpy other text).readUInt32 offset = region.readUInt32 offset :=
  congrArg ofLittleEndian (region.read_write_behind _ behind)

theorem readString_writeUInt32_behind {limit : Nat} (n : UInt32) (behind : offset + limit ≤ other) :
    (region.writeUInt32 other n).readString offset limit = region.readString offset limit :=
  congrArg CString.ofMemory (region.read_write_behind _ behind)

theorem readString_strcpy_behind {limit : Nat} (text : CString) (behind : offset + limit ≤ other) :
    (region.strcpy other text).readString offset limit = region.readString offset limit :=
  congrArg CString.ofMemory (region.read_write_behind _ behind)

end Behind

/-- The first byte of a stored string is zero only if there is no character. -/
theorem strcpy_first_eq_zero_iff (region : Region) (offset : Nat) (text : CString) :
    region.strcpy offset text offset = 0 ↔ text = .empty := by
  have first : region.strcpy offset text offset = (text.bytes ++ [0]).getD 0 0 :=
    write_inside region offset 0 (by simp)
  rw [first]
  constructor
  · intro zero
    apply CString.ext
    cases bytes : text.bytes with
    | nil => rfl
    | cons head tail =>
        rw [bytes] at zero
        exact absurd (bytes ▸ (show head = 0 from zero) ▸ List.mem_cons_self) text.noNul
  · intro isEmpty
    rw [isEmpty]
    rfl

end Region
end Library
end TrustChain
