import TrustChain.Ta.BlockMemory

namespace TrustChain
namespace Ta

open Library Tee

/-!
# The hexadecimal conversions in memory

`hex_string_to_bytes` stores the bytes one after the other while it reads the
text, so a text with an illegal character leaves behind what was decoded in
front of it, and a long text is decoded whether or not the buffer has room.
Only `*bytes_len` waits until the end.

The two conversions are inverse to each other up to the case of the letters,
and they accept exactly the texts of digits in pairs.
-/

/-! ## Decoding -/

/-- The loop of `hex_string_to_bytes`, with one store for each pair. -/
def hexPairsAt (memory : Region) (bytes : Nat) : List UInt8 → TeeResult Unit × Region
  | high :: low :: rest =>
      match hexCharToInt high, hexCharToInt low with
      | some highValue, some lowValue =>
          hexPairsAt (memory.write bytes [UInt8.ofNat ((highValue <<< 4) ||| lowValue)])
            (bytes + 1) rest
      | _, _ => (.error .badParameters, memory)
  | _ => (.ok (), memory)

/-- What a call of `hex_string_to_bytes` leaves: its result, the memory, and
`*bytes_len`. -/
structure HexConversion where
  result : TeeResult Unit
  memory : Region
  bytesLen : Nat

/-- `hex_string_to_bytes`, with its output in memory. -/
def hexStringToBytesAt (memory : Region) (bytes bytesLen : Nat) (hexString : List UInt8) :
    HexConversion :=
  if hexString.length % 2 ≠ 0 then ⟨.error .badParameters, memory, bytesLen⟩
  else
    match hexPairsAt memory bytes hexString with
    | (.error code, memory) => ⟨.error code, memory, bytesLen⟩
    | (.ok (), memory) => ⟨.ok (), memory, hexString.length / 2⟩

/-- The bytes that the loop has stored when it ends or meets an illegal
character. -/
def storedPairs : List UInt8 → List UInt8
  | high :: low :: rest =>
      match hexCharToInt high, hexCharToInt low with
      | some highValue, some lowValue =>
          UInt8.ofNat ((highValue <<< 4) ||| lowValue) :: storedPairs rest
      | _, _ => []
  | _ => []

/-! ## Digits -/

/-- `0`–`9`, `a`–`f` and `A`–`F`. -/
def IsHexDigit (c : UInt8) : Prop :=
  (48 ≤ c ∧ c ≤ 57) ∨ (97 ≤ c ∧ c ≤ 102) ∨ (65 ≤ c ∧ c ≤ 70)

/-- The small letter for a capital one. -/
def lowerCase (c : UInt8) : UInt8 :=
  if 65 ≤ c ∧ c ≤ 90 then c + 32 else c

theorem exists_hexCharToInt_iff (c : UInt8) :
    (∃ value, hexCharToInt c = some value) ↔ IsHexDigit c := by
  unfold hexCharToInt IsHexDigit
  by_cases decimalDigit : 48 ≤ c ∧ c ≤ 57
  · rw [if_pos decimalDigit]
    exact iff_of_true ⟨_, rfl⟩ (Or.inl decimalDigit)
  rw [if_neg decimalDigit]
  by_cases smallLetter : 97 ≤ c ∧ c ≤ 102
  · rw [if_pos smallLetter]
    exact iff_of_true ⟨_, rfl⟩ (Or.inr (Or.inl smallLetter))
  rw [if_neg smallLetter]
  by_cases capitalLetter : 65 ≤ c ∧ c ≤ 70
  · rw [if_pos capitalLetter]
    exact iff_of_true ⟨_, rfl⟩ (Or.inr (Or.inr capitalLetter))
  · rw [if_neg capitalLetter]
    refine iff_of_false (fun impossible => ?_) (by simp [decimalDigit, smallLetter, capitalLetter])
    cases impossible.choose_spec

/-- A character that is a digit is the one that `%02x` writes for its value, up
to the case of the letter. -/
theorem hexDigit_of_hexCharToInt {c : UInt8} {value : Nat} (digit : hexCharToInt c = some value) :
    value < 16 ∧ hexDigit value = lowerCase c := by
  unfold hexCharToInt at digit
  unfold hexDigit lowerCase
  simp only [UInt8.le_iff_toNat_le, UInt8.reduceToNat] at digit ⊢
  by_cases decimalDigit : 48 ≤ c.toNat ∧ c.toNat ≤ 57
  · rw [if_pos decimalDigit] at digit
    cases digit
    have whole : 48 + (c.toNat - 48) = c.toNat := by omega
    rw [if_pos (by omega), if_neg (by omega), whole, UInt8.ofNat_toNat]
    exact ⟨by omega, rfl⟩
  rw [if_neg decimalDigit] at digit
  by_cases smallLetter : 97 ≤ c.toNat ∧ c.toNat ≤ 102
  · rw [if_pos smallLetter] at digit
    cases digit
    have whole : 87 + (c.toNat - 97 + 10) = c.toNat := by omega
    rw [if_neg (by omega), if_neg (by omega), whole, UInt8.ofNat_toNat]
    exact ⟨by omega, rfl⟩
  rw [if_neg smallLetter] at digit
  by_cases capitalLetter : 65 ≤ c.toNat ∧ c.toNat ≤ 70
  · rw [if_pos capitalLetter] at digit
    cases digit
    have whole : 87 + (c.toNat - 65 + 10) = c.toNat + 32 := by omega
    rw [if_neg (by omega), if_pos (by omega), whole, UInt8.ofNat_add, UInt8.ofNat_toNat]
    exact ⟨by omega, rfl⟩
  · rw [if_neg capitalLetter] at digit
    cases digit

/-! ## Pairs -/

/-- A pair of digits is decoded and the loop goes on behind it. -/
theorem hexPairs_legal {high low : UInt8} {highValue lowValue : Nat}
    (highIs : hexCharToInt high = some highValue) (lowIs : hexCharToInt low = some lowValue)
    (rest : List UInt8) :
    hexPairs (high :: low :: rest) =
      (hexPairs rest).map (UInt8.ofNat ((highValue <<< 4) ||| lowValue) :: ·) := by
  simp only [hexPairs, highIs, lowIs]
  cases hexPairs rest <;> rfl

/-- Any other pair ends the loop where it stands. -/
theorem pair_cases (high low : UInt8) (rest : List UInt8) :
    (∃ highValue lowValue, hexCharToInt high = some highValue ∧
        hexCharToInt low = some lowValue) ∨
      (¬ (IsHexDigit high ∧ IsHexDigit low) ∧
        hexPairs (high :: low :: rest) = .error .badParameters ∧
        storedPairs (high :: low :: rest) = [] ∧
        ∀ memory bytes,
          hexPairsAt memory bytes (high :: low :: rest) = (.error .badParameters, memory)) := by
  rw [← exists_hexCharToInt_iff high, ← exists_hexCharToInt_iff low]
  unfold hexPairs storedPairs hexPairsAt
  cases highIs : hexCharToInt high with
  | none => exact Or.inr ⟨by simp, rfl, rfl, fun _ _ => rfl⟩
  | some highValue =>
      cases lowIs : hexCharToInt low with
      | none => exact Or.inr ⟨by simp, rfl, rfl, fun _ _ => rfl⟩
      | some lowValue => exact Or.inl ⟨highValue, lowValue, rfl, rfl⟩

/-- A byte that is put together from two nibbles is written with their digits. -/
theorem hexByte_joined {high low : Nat} (highBound : high < 16) (lowBound : low < 16) :
    hexByte (UInt8.ofNat ((high <<< 4) ||| low)) = [hexDigit high, hexDigit low] := by
  have value : (UInt8.ofNat ((high <<< 4) ||| low)).toNat = 16 * high + low := by
    rw [← Nat.shiftLeft_add_eq_or_of_lt (by omega), Nat.shiftLeft_eq, UInt8.toNat_ofNat']
    omega
  have highNibble : (16 * high + low) / 16 = high := by omega
  have lowNibble : (16 * high + low) % 16 = low := by omega
  rw [hexByte, value, highNibble, lowNibble]

/-- The loop in memory is the loop on lists, with what it stores before it stops. -/
theorem hexPairsAt_eq (memory : Region) (bytes : Nat) (hexString : List UInt8) :
    hexPairsAt memory bytes hexString =
      ((hexPairs hexString).map fun _ => (), memory.write bytes (storedPairs hexString)) := by
  induction hexString using List.twoStepInduction generalizing memory bytes with
  | nil => exact congrArg (Prod.mk _) (memory.write_nil bytes).symm
  | singleton c => exact congrArg (Prod.mk _) (memory.write_nil bytes).symm
  | cons_cons high low rest ih _ =>
      rcases pair_cases high low rest with
        ⟨highValue, lowValue, highIs, lowIs⟩ | ⟨_, failed, nothing, stopped⟩
      · have stored : storedPairs (high :: low :: rest) =
            [UInt8.ofNat ((highValue <<< 4) ||| lowValue)] ++ storedPairs rest := by
          simp only [storedPairs, highIs, lowIs, List.singleton_append]
        rw [stored, memory.write_append, hexPairs_legal highIs lowIs]
        simp only [hexPairsAt, highIs, lowIs]
        rw [ih]
        cases hexPairs rest <;> rfl
      · rw [stopped, failed, nothing, memory.write_nil]
        rfl

/-- What a successful decoding says about the text, pair by pair. -/
structure Decoded (hexString bytes : List UInt8) : Prop where
  stored : storedPairs hexString = bytes
  length : bytes.length = hexString.length / 2
  digits : hexString.length % 2 = 0 → ∀ c ∈ hexString, IsHexDigit c
  written : hexString.length % 2 = 0 → bytes.flatMap hexByte = hexString.map lowerCase

theorem decoded_of_hexPairs {hexString bytes : List UInt8}
    (decoded : hexPairs hexString = .ok bytes) : Decoded hexString bytes := by
  induction hexString using List.twoStepInduction generalizing bytes with
  | nil =>
      cases decoded
      exact ⟨rfl, rfl, fun _ => List.forall_mem_nil _, fun _ => rfl⟩
  | singleton c =>
      cases decoded
      exact ⟨rfl, by simp, fun odd => absurd odd Nat.one_ne_zero, fun odd => absurd odd Nat.one_ne_zero⟩
  | cons_cons high low rest ih _ =>
      rcases pair_cases high low rest with
        ⟨highValue, lowValue, highIs, lowIs⟩ | ⟨_, failed, _, _⟩
      · rw [hexPairs_legal highIs lowIs] at decoded
        cases tail : hexPairs rest with
        | error code =>
            rw [tail] at decoded
            cases decoded
        | ok bytes =>
            rw [tail] at decoded
            cases decoded
            have inner := ih tail
            have highLegal := (exists_hexCharToInt_iff high).mp ⟨_, highIs⟩
            have lowLegal := (exists_hexCharToInt_iff low).mp ⟨_, lowIs⟩
            have highDigit := hexDigit_of_hexCharToInt highIs
            have lowDigit := hexDigit_of_hexCharToInt lowIs
            refine ⟨?_, ?_, fun even => ?_, fun even => ?_⟩
            · simp only [storedPairs, highIs, lowIs, inner.stored]
            · simp only [List.length_cons, inner.length]
              omega
            · rw [List.length_cons, List.length_cons] at even
              rw [List.forall_mem_cons, List.forall_mem_cons]
              exact ⟨highLegal, lowLegal, inner.digits (by omega)⟩
            · rw [List.length_cons, List.length_cons] at even
              rw [List.flatMap_cons, hexByte_joined highDigit.1 lowDigit.1, highDigit.2, lowDigit.2,
                inner.written (by omega)]
              rfl
      · rw [failed] at decoded
        cases decoded

/-- A text of digits is decoded. -/
theorem exists_hexPairs_of_digits {hexString : List UInt8}
    (digits : ∀ c ∈ hexString, IsHexDigit c) : ∃ bytes, hexPairs hexString = .ok bytes := by
  induction hexString using List.twoStepInduction with
  | nil => exact ⟨[], rfl⟩
  | singleton c => exact ⟨[], rfl⟩
  | cons_cons high low rest ih _ =>
      rw [List.forall_mem_cons, List.forall_mem_cons] at digits
      rcases ih digits.2.2 with ⟨bytes, tail⟩
      rcases pair_cases high low rest with ⟨highValue, lowValue, highIs, lowIs⟩ | ⟨illegal, _⟩
      · exact ⟨_, by rw [hexPairs_legal highIs lowIs, tail]; rfl⟩
      · exact absurd ⟨digits.1, digits.2.1⟩ illegal

/-! ## `hex_string_to_bytes` -/

/-- On success the bytes are stored and counted, and on failure the count is
left as it was. -/
theorem hexStringToBytesAt_eq (memory : Region) (bytes bytesLen : Nat) (hexString : List UInt8) :
    hexStringToBytesAt memory bytes bytesLen hexString =
      match hexStringToBytes hexString with
      | .ok decoded => ⟨.ok (), memory.write bytes decoded, decoded.length⟩
      | .error code =>
          ⟨.error code,
            if hexString.length % 2 = 0 then memory.write bytes (storedPairs hexString) else memory,
            bytesLen⟩ := by
  unfold hexStringToBytesAt hexStringToBytes
  by_cases even : hexString.length % 2 = 0
  · rw [if_neg (not_not_intro even), if_neg (not_not_intro even), if_pos even, hexPairsAt_eq]
    cases decoded : hexPairs hexString with
    | error code => rfl
    | ok bytes =>
        have known := decoded_of_hexPairs decoded
        simp only [Except.map, known.stored, known.length]
  · rw [if_pos even, if_pos even, if_neg even]

/-- The bytes that decoding a text stores, whether or not it succeeds. -/
def storedBytes (hexString : List UInt8) : List UInt8 :=
  if hexString.length % 2 = 0 then storedPairs hexString else []

theorem hexStringToBytesAt_memory (memory : Region) (bytes bytesLen : Nat)
    (hexString : List UInt8) :
    (hexStringToBytesAt memory bytes bytesLen hexString).memory =
      memory.write bytes (storedBytes hexString) := by
  unfold hexStringToBytesAt storedBytes
  by_cases even : hexString.length % 2 = 0
  · rw [if_neg (not_not_intro even), if_pos even, hexPairsAt_eq]
    cases hexPairs hexString <;> rfl
  · rw [if_pos even, if_neg even, memory.write_nil]

theorem hexStringToBytes_ok_iff (hexString : List UInt8) :
    (∃ bytes, hexStringToBytes hexString = .ok bytes) ↔
      hexString.length % 2 = 0 ∧ ∀ c ∈ hexString, IsHexDigit c := by
  unfold hexStringToBytes
  by_cases even : hexString.length % 2 = 0
  · rw [if_neg (not_not_intro even)]
    constructor
    · intro decoded
      rcases decoded with ⟨bytes, decoded⟩
      exact ⟨even, (decoded_of_hexPairs decoded).digits even⟩
    · intro legal
      exact exists_hexPairs_of_digits legal.2
  · rw [if_pos even]
    exact iff_of_false (by simp) fun legal => even legal.1

/-- What the encoder leaves, as the decoder is given it: two characters for each byte. -/
theorem read_bytesToHexStringAt (memory : Region) (hexString : Nat) (bytes : List UInt8) :
    (bytesToHexStringAt memory hexString bytes).read hexString (2 * bytes.length) =
      (bytesToHexString bytes).bytes := by
  cases bytes with
  | nil => rfl
  | cons byte rest =>
      have length : 2 * (byte :: rest).length = (bytesToHexString (byte :: rest)).bytes.length :=
        (length_bytesToHexString (byte :: rest)).symm
      rw [bytesToHexStringAt_eq_strcpy memory hexString (List.cons_ne_nil byte rest), Region.strcpy,
        length, memory.read_write, List.take_left, List.length_append, List.length_singleton,
        Nat.sub_eq_zero_of_le (Nat.le_succ _)]
      exact List.append_nil _

section Codec

variable (source memory : Region) (hexString offset bytesLen : Nat)

/-- The text of some bytes decodes to these bytes. -/
theorem hexStringToBytesAt_bytesToHexStringAt (bytes : List UInt8) :
    hexStringToBytesAt memory offset bytesLen
        ((bytesToHexStringAt source hexString bytes).read hexString (2 * bytes.length)) =
      ⟨.ok (), memory.write offset bytes, bytes.length⟩ := by
  rw [read_bytesToHexStringAt, hexStringToBytesAt_eq, hexStringToBytes_bytesToHexString]

theorem hexStringToBytesAt_ok_iff (text : List UInt8) :
    (hexStringToBytesAt memory offset bytesLen text).result = .ok () ↔
      text.length % 2 = 0 ∧ ∀ c ∈ text, IsHexDigit c := by
  rw [← hexStringToBytes_ok_iff, hexStringToBytesAt_eq]
  cases hexStringToBytes text with
  | error code => exact iff_of_false (by simp) (by simp)
  | ok bytes => exact iff_of_true rfl ⟨bytes, rfl⟩

/-- What was decoded is encoded to the same text with small letters. -/
theorem bytesToHexStringAt_of_hexStringToBytes {text bytes : List UInt8}
    (decoded : hexStringToBytes text = .ok bytes) :
    (bytesToHexStringAt source hexString bytes).read hexString text.length =
      text.map lowerCase := by
  unfold hexStringToBytes at decoded
  by_cases even : text.length % 2 = 0
  · rw [if_neg (not_not_intro even)] at decoded
    have known := decoded_of_hexPairs decoded
    have length := known.length
    have whole : text.length = 2 * bytes.length := by omega
    rw [whole, read_bytesToHexStringAt]
    exact known.written even
  · rw [if_pos even] at decoded
    cases decoded

/-- The hexadecimal codec: bytes are read back from their text, a text is
accepted if and only if it is made of digits in pairs, an accepted text is
written again with small letters, and a refused one leaves `*bytes_len` alone. -/
theorem hex_codec_exact :
    (∀ bytes, hexStringToBytesAt memory offset bytesLen
        ((bytesToHexStringAt source hexString bytes).read hexString (2 * bytes.length)) =
          ⟨.ok (), memory.write offset bytes, bytes.length⟩) ∧
      (∀ bytes limit, bytes ≠ [] → 2 * bytes.length < limit →
        (bytesToHexStringAt source hexString bytes).readString hexString limit =
          bytesToHexString bytes) ∧
      (∀ text, (hexStringToBytesAt memory offset bytesLen text).result = .ok () ↔
        text.length % 2 = 0 ∧ ∀ c ∈ text, IsHexDigit c) ∧
      (∀ text, (hexStringToBytesAt memory offset bytesLen text).result = .ok () →
        ∃ bytes, hexStringToBytesAt memory offset bytesLen text =
            ⟨.ok (), memory.write offset bytes, bytes.length⟩ ∧
          (bytesToHexStringAt source hexString bytes).read hexString text.length =
            text.map lowerCase) ∧
      ∀ text, (hexStringToBytesAt memory offset bytesLen text).result ≠ .ok () →
        (hexStringToBytesAt memory offset bytesLen text).bytesLen = bytesLen := by
  refine ⟨hexStringToBytesAt_bytesToHexStringAt source memory hexString offset bytesLen, ?_,
    hexStringToBytesAt_ok_iff memory offset bytesLen, ?_, ?_⟩
  · intro bytes limit nonempty room
    rw [bytesToHexStringAt_eq_strcpy source hexString nonempty, Region.readString_strcpy]
    apply CString.take_eq_self
    rw [length_bytesToHexString]
    exact Nat.le_of_lt room
  · intro text accepted
    rw [hexStringToBytesAt_eq] at accepted ⊢
    cases decoded : hexStringToBytes text with
    | error code =>
        rw [decoded] at accepted
        cases accepted
    | ok bytes =>
        exact ⟨bytes, rfl, bytesToHexStringAt_of_hexStringToBytes source hexString decoded⟩
  · intro text refused
    rw [hexStringToBytesAt_eq] at refused ⊢
    cases decoded : hexStringToBytes text with
    | error code => rfl
    | ok bytes =>
        rw [decoded] at refused
        exact absurd rfl refused

/-- The codec at the text `0aFf`. -/
example : hexStringToBytes [48, 97, 70, 102] = .ok [10, 255] := by decide

end Codec

end Ta
end TrustChain
