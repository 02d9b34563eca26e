import TrustChain.Tee.Api

namespace TrustChain
namespace Ta

open Library Tee

/-!
# `utils/utils.c`

Conversions between bytes and hexadecimal text, hashing, and the verification
of a signature under a key given as text.  Function by function this follows
the source; a chain of calls that returns the first error is written in the
`Except` monad, with one bind for each call.
-/

/-! ## Hexadecimal text -/

/-- One digit of the conversion `%02x`. -/
def hexDigit (nibble : Nat) : UInt8 :=
  if nibble < 10 then UInt8.ofNat (48 + nibble) else UInt8.ofNat (87 + nibble)

/-- The conversion `%02x` of one byte. -/
def hexByte (byte : UInt8) : List UInt8 :=
  [hexDigit (byte.toNat / 16), hexDigit (byte.toNat % 16)]

theorem hexDigit_range : ∀ nibble : Fin 16,
    (48 ≤ hexDigit nibble ∧ hexDigit nibble ≤ 57) ∨ (97 ≤ hexDigit nibble ∧ hexDigit nibble ≤ 102) := by
  decide

/-- The characters that `%02x` writes are `0`–`9` and `a`–`f`. -/
theorem hexByte_range {byte digit : UInt8} (member : digit ∈ hexByte byte) :
    (48 ≤ digit ∧ digit ≤ 57) ∨ (97 ≤ digit ∧ digit ≤ 102) := by
  have high : byte.toNat / 16 < 16 := by have := byte.toNat_lt; omega
  have low : byte.toNat % 16 < 16 := Nat.mod_lt _ (by decide)
  rcases List.mem_cons.mp member with same | rest
  · rw [same]; exact hexDigit_range ⟨_, high⟩
  · rw [List.mem_singleton.mp rest]; exact hexDigit_range ⟨_, low⟩

/-- `bytes_to_hex_string`.  Each conversion also writes a terminator, which the
next one overwrites, so the text ends where the last pair ends. -/
def bytesToHexString (bytes : List UInt8) : CString where
  bytes := bytes.flatMap hexByte
  noNul := fun member => by
    rcases List.mem_flatMap.mp member with ⟨byte, _, inside⟩
    exact absurd (hexByte_range inside) (by decide)

/-- `hex_char_to_int`; `none` is the source's `-1`. -/
def hexCharToInt (c : UInt8) : Option Nat :=
  if 48 ≤ c ∧ c ≤ 57 then some (c.toNat - 48)
  else if 97 ≤ c ∧ c ≤ 102 then some (c.toNat - 97 + 10)
  else if 65 ≤ c ∧ c ≤ 70 then some (c.toNat - 65 + 10)
  else none

/-- The loop of `hex_string_to_bytes` over the pairs of characters. -/
def hexPairs : List UInt8 → TeeResult (List UInt8)
  | high :: low :: rest =>
      match hexCharToInt high, hexCharToInt low with
      | some highValue, some lowValue => do
          let bytes ← hexPairs rest
          return UInt8.ofNat ((highValue <<< 4) ||| lowValue) :: bytes
      | _, _ => .error .badParameters
  | _ => .ok []

/-- `hex_string_to_bytes` on a text of the given bytes. -/
def hexStringToBytes (hexString : List UInt8) : TeeResult (List UInt8) :=
  if hexString.length % 2 ≠ 0 then .error .badParameters else hexPairs hexString

theorem length_hexByte (byte : UInt8) : (hexByte byte).length = 2 := rfl

theorem length_bytesToHexString (bytes : List UInt8) :
    (bytesToHexString bytes).length = 2 * bytes.length := by
  change (bytes.flatMap hexByte).length = 2 * bytes.length
  induction bytes with
  | nil => rfl
  | cons head tail ih =>
      rw [List.flatMap_cons, List.length_append, ih, length_hexByte, List.length_cons]
      omega

theorem hexCharToInt_hexDigit : ∀ nibble : Fin 16,
    hexCharToInt (hexDigit nibble) = some nibble.val := by
  decide

/-- The two nibbles of a byte, put together again. -/
theorem nibbles_joined (byte : UInt8) :
    UInt8.ofNat (((byte.toNat / 16) <<< 4) ||| (byte.toNat % 16)) = byte := by
  have low : byte.toNat % 16 < 2 ^ 4 := Nat.mod_lt _ (by decide)
  rw [← Nat.shiftLeft_add_eq_or_of_lt low, Nat.shiftLeft_eq,
    Nat.mul_comm, Nat.div_add_mod byte.toNat 16, UInt8.ofNat_toNat]

theorem hexPairs_hexByte_append (byte : UInt8) (rest : List UInt8) :
    hexPairs (hexByte byte ++ rest) = (hexPairs rest).map (byte :: ·) := by
  have high : byte.toNat / 16 < 16 := by have := byte.toNat_lt; omega
  have low : byte.toNat % 16 < 16 := Nat.mod_lt _ (by decide)
  have highDigit := hexCharToInt_hexDigit ⟨_, high⟩
  have lowDigit := hexCharToInt_hexDigit ⟨_, low⟩
  simp only [hexByte, List.cons_append, List.nil_append, hexPairs, highDigit, lowDigit,
    nibbles_joined]
  cases hexPairs rest <;> rfl

/-- Decoding the text of some bytes gives the bytes back. -/
theorem hexStringToBytes_bytesToHexString (bytes : List UInt8) :
    hexStringToBytes (bytesToHexString bytes).bytes = .ok bytes := by
  have even : (bytesToHexString bytes).bytes.length % 2 = 0 := by
    have length := length_bytesToHexString bytes
    unfold CString.length at length
    omega
  rw [hexStringToBytes, if_neg (by omega)]
  change hexPairs (bytes.flatMap hexByte) = .ok bytes
  induction bytes with
  | nil => rfl
  | cons head tail ih =>
      have tailEven : (bytesToHexString tail).bytes.length % 2 = 0 := by
        have length := length_bytesToHexString tail
        unfold CString.length at length
        omega
      rw [List.flatMap_cons, hexPairs_hexByte_append, ih tailEven]
      rfl

theorem bytesToHexString_injective {first second : List UInt8}
    (same : bytesToHexString first = bytesToHexString second) : first = second := by
  have decoded := hexStringToBytes_bytesToHexString first
  rw [same, hexStringToBytes_bytesToHexString second] at decoded
  exact (Except.ok.inj decoded).symm

/-! ## Hashing -/

/-- `compute_sha256_hash`. -/
def computeSha256Hash (primitives : Primitives) (outcomes : HashOutcomes) (data : List UInt8) :
    TeeResult (Bytes 32) := do
  outcomes.allocateOperation
  outcomes.digestDoFinal
  return primitives.sha256 data

/-- A computation that succeeds has succeeded in its first part. -/
theorem exists_of_bind_eq_ok {First Result : Type} {first : TeeResult First}
    {rest : First → TeeResult Result} {result : Result} (succeeds : first >>= rest = .ok result) :
    ∃ value, first = .ok value ∧ rest value = .ok result := by
  cases first with
  | error code => cases succeeds
  | ok value => exact ⟨value, rfl, succeeds⟩

/-- `hash_data`, without the terminator that it writes behind the 64 characters. -/
def hashData (primitives : Primitives) (outcomes : HashOutcomes) (data : List UInt8) :
    TeeResult CString := do
  let hashBuffer ← computeSha256Hash primitives outcomes data
  return bytesToHexString hashBuffer.toList

/-- The text that `hash_data` produces when it succeeds. -/
def hashText (primitives : Primitives) (data : List UInt8) : CString :=
  bytesToHexString (primitives.sha256 data).toList

theorem length_hashText (primitives : Primitives) (data : List UInt8) :
    (hashText primitives data).length = 64 := by
  rw [hashText, length_bytesToHexString, List.Vector.toList_length]

theorem computeSha256Hash_eq_ok_iff {primitives : Primitives} {outcomes : HashOutcomes}
    {data : List UInt8} {digest : Bytes 32} :
    computeSha256Hash primitives outcomes data = .ok digest ↔
      outcomes.Succeeds ∧ digest = primitives.sha256 data := by
  unfold computeSha256Hash HashOutcomes.Succeeds
  cases outcomes.allocateOperation with
  | error code => simp [bind, Except.bind]
  | ok allocated =>
      cases outcomes.digestDoFinal with
      | error code => simp [bind, Except.bind]
      | ok digested =>
          simp only [bind, Except.bind, pure, Except.pure, Except.ok.injEq, true_and]
          exact eq_comm

theorem hashData_eq_ok_iff {primitives : Primitives} {outcomes : HashOutcomes}
    {data : List UInt8} {hash : CString} :
    hashData primitives outcomes data = .ok hash ↔
      outcomes.Succeeds ∧ hash = hashText primitives data := by
  unfold hashData
  cases digested : computeSha256Hash primitives outcomes data with
  | error code =>
      have fails : ¬ outcomes.Succeeds := by
        intro succeeds
        rw [computeSha256Hash_eq_ok_iff.mpr ⟨succeeds, rfl⟩] at digested
        cases digested
      simp [bind, Except.bind, fails]
  | ok digest =>
      rcases computeSha256Hash_eq_ok_iff.mp digested with ⟨succeeds, rfl⟩
      rw [and_iff_right succeeds]
      simp only [bind, Except.bind, pure, Except.pure, Except.ok.injEq, hashText]
      exact eq_comm

theorem hashData_eq_error {primitives : Primitives} {outcomes : HashOutcomes}
    {data : List UInt8} {code : TeeError} (failed : hashData primitives outcomes data = .error code) :
    ¬ outcomes.Succeeds := by
  intro succeeds
  have result : hashData primitives outcomes data = .ok (hashText primitives data) :=
    hashData_eq_ok_iff.mpr ⟨succeeds, rfl⟩
  rw [failed] at result
  cases result

/-! ## Signatures of clients -/

/-- `mbedtls_pk_get_bitlen` of a modulus. -/
def bitLength (modulus : Nat) : Nat :=
  if modulus = 0 then 0 else modulus.log2 + 1

/-- `public_key_pem_to_obj`.  The parser is handed `strlen(key_str)` bytes, so
without the terminator. -/
def publicKeyPemToObj (primitives : Primitives) (outcomes : PemOutcomes) (keyStr : CString) :
    TeeResult RsaPublicKey :=
  match primitives.pkParsePublicKey keyStr.bytes with
  | none => .error .badFormat
  | some .notRsa => .error .badParameters
  | some (.rsa key) =>
      if bitLength key.modulus < 2048 ∨ 4096 < bitLength key.modulus then .error .badParameters
      else do
        outcomes.allocateTransientObject
        if outcomes.rsaExport = false then throw .badFormat
        if outcomes.mallocModulus = false ∨ outcomes.mallocExponent = false then throw .outOfMemory
        if outcomes.writeModulus = false ∨ outcomes.writeExponent = false then throw .generic
        outcomes.populateTransientObject
        return key

/-- `verify_signature_common`. -/
def verifySignatureCommon (primitives : Primitives) (outcomes : VerifyOutcomes)
    (data : List UInt8) (keyObj : RsaPublicKey) (signature : CString) : TeeResult Unit := do
  let dataHash ← computeSha256Hash primitives outcomes.hash data
  let sigBytes ← hexStringToBytes signature.bytes
  outcomes.allocateOperation
  outcomes.setOperationKey
  outcomes.verifyDigest
  if primitives.rsaVerify keyObj dataHash.toList sigBytes then return ()
  else throw .signatureInvalid

/-- `verify_signature`. -/
def verifySignature (primitives : Primitives) (outcomes : VerifyOutcomes) (data : CString)
    (sigkey signature : CString) : TeeResult Unit := do
  let keyObj ← publicKeyPemToObj primitives outcomes.pem sigkey
  verifySignatureCommon primitives outcomes data.bytes keyObj signature

/-! ## Export of a public key -/

/-- The bytes of a literal of the source. -/
def ascii (text : String) : List UInt8 :=
  text.toList.map (fun c => UInt8.ofNat c.toNat)

def pemHeader : List UInt8 := ascii "-----BEGIN PUBLIC KEY-----\n"

def pemFooter : List UInt8 := ascii "-----END PUBLIC KEY-----\n"

/-- The loop that writes 64 characters a line; the first argument bounds the
number of lines still to be written. -/
def pemLines : Nat → List UInt8 → List UInt8
  | 0, _ => []
  | lines + 1, b64 =>
      if b64.isEmpty then [] else b64.take 64 ++ 10 :: pemLines lines (b64.drop 64)

/-- `estimated_len` of `public_key_obj_to_pem`. -/
def estimatedLen (derLen : Nat) : Nat :=
  (derLen + 2) / 3 * 4 + pemHeader.length + pemFooter.length + 32

/-- `public_key_obj_to_pem`: the text written, and `*pem_len` afterwards. -/
def publicKeyObjToPem (primitives : Primitives) (outcomes : ExportOutcomes)
    (keyObj : RsaPublicKey) (pemLen : Nat) : TeeResult (List UInt8) × Nat :=
  let der := primitives.pkWritePubkeyDer keyObj
  let b64 := primitives.base64Encode der
  match outcomes.getModulus, outcomes.getExponent with
  | .error code, _ => (.error code, pemLen)
  | .ok (), .error code => (.error code, pemLen)
  | .ok (), .ok () =>
      if outcomes.rsaImport = false ∨ outcomes.rsaComplete = false ∨ outcomes.pkSetup = false then
        (.error .generic, pemLen)
      else if der.length = 0 ∨ 1024 < der.length then (.error .generic, pemLen)
      else if pemLen < estimatedLen der.length then (.error .shortBuffer, estimatedLen der.length)
      else if outcomes.base64Encode = false ∨ 1600 < b64.length + 1 then (.error .generic, pemLen)
      else
        let text := pemHeader ++ pemLines b64.length b64 ++ pemFooter
        (.ok (text ++ [0]), text.length)

end Ta
end TrustChain
