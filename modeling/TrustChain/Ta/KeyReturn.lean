import TrustChain.Ta.Answers
import TrustChain.Ta.HexMemory

namespace TrustChain
namespace Ta

open Library Tee

/-!
# The key that `commit` returns

The encrypted key comes as hexadecimal text, is decoded into `encrypted_bytes`,
decrypted into `decrypted_bytes`, written as text into `decrypted_key` and
copied back.  The sizes of `encrypted_bytes` and `decrypted_key`, 256 bytes each,
are passed along in `encrypted_bytes_len` and `decrypted_len`, but nobody looks
at them.  So a long text or a long plaintext leaves its buffer, and what follows
from that is measured here: the functions are given as the writes they make.
-/

/-! ## The functions on memory -/

/-- Where the conversions write: the local buffer of `tee_decrypt_data`, the one
of `commit`, and the shared memory that the text comes from. -/
structure KeyBuffers where
  encryptedBytes : Region
  decryptedKey : Region
  encryptedKey : Region

/-- `sizeof(encrypted_bytes)`. -/
def sizeofEncryptedBytes : Nat := 256

/-- `sizeof(decrypted_key)`. -/
def sizeofDecryptedKey : Nat := 256

/-- The operation of `tee_decrypt_data`, once a key pair is at hand. -/
def asymmetricDecrypt (primitives : Primitives) (outcomes : DecryptOutcomes) (keyPair : RsaKeyPair)
    (encryptedBytes : List UInt8) : TeeResult (List UInt8) := do
  outcomes.allocateOperation
  outcomes.setOperationKey
  outcomes.asymmetricDecrypt
  primitives.rsaDecrypt keyPair encryptedBytes

/-- `tee_decrypt_data`, with its outputs in memory; the number is `*decrypted_len`. -/
def teeDecryptDataAt (primitives : Primitives) (outcomes : DecryptOutcomes)
    (encryptedData : CString) (buffers : KeyBuffers) (store : KeyStore) :
    TeeResult Nat × KeyBuffers × KeyStore :=
  let conversion := hexStringToBytesAt buffers.encryptedBytes 0 sizeofEncryptedBytes
    encryptedData.bytes
  let buffers := { buffers with encryptedBytes := conversion.memory }
  match conversion.result with
  | .error code => (.error code, buffers, store)
  | .ok () =>
      match loadOrGenerateKeyPair outcomes.load store with
      | (.error code, store) => (.error code, buffers, store)
      | (.ok keyPair, store) =>
          match asymmetricDecrypt primitives outcomes keyPair
              (buffers.encryptedBytes.read 0 conversion.bytesLen) with
          | .error code => (.error code, buffers, store)
          | .ok decryptedBytes =>
              (.ok (2 * decryptedBytes.length),
                { buffers with
                  decryptedKey := bytesToHexStringAt buffers.decryptedKey 0 decryptedBytes },
                store)

/-- The copy back into the shared memory, with a terminator. -/
def copyBack (decryptedLen : Nat) (buffers : KeyBuffers) : KeyBuffers :=
  { buffers with
    encryptedKey :=
      (buffers.encryptedKey.write 0 (buffers.decryptedKey.read 0 decryptedLen)).write decryptedLen
        [0] }

/-- `commit`, with the conversions of the key in memory. -/
def commitAt (primitives : Primitives) (outcomes : CallOutcomes) (paramTypes : UInt32)
    (msg : CommitMessage) (encryptedKey : CString) (buffers : KeyBuffers) (state : TaState) :
    (TeeResult Output × TaState) × KeyBuffers :=
  match commitChecks primitives outcomes paramTypes msg state with
  | .error code => ((.error code, state), buffers)
  | .ok repo =>
      let block := nextContributionBlock repo msg outcomes.time
      match hashAndSign primitives outcomes.sign
          (calculateContributionBlockHash primitives outcomes.hash block) state.keyStore with
      | (.error code, store) => ((.error code, state.setKeyStore store), buffers)
      | (.ok (blockHash, teeSig), store) =>
          match teeDecryptDataAt primitives outcomes.decrypt encryptedKey buffers store with
          | (.error code, buffers, store) => ((.error code, state.setKeyStore store), buffers)
          | (.ok decryptedLen, buffers, store) =>
              let buffers := copyBack decryptedLen buffers
              ((.ok (.contribution (block.withTeeSig teeSig)
                  (buffers.encryptedKey.readString 0 (decryptedLen + 1))),
                (state.setKeyStore store).setSlot msg.repId.toNat
                  (some { repo with
                    latestHash := blockHash, blockHeight := repo.blockHeight + 1 })), buffers)

/-! ## What is written where -/

/-- What `TEE_AsymmetricDecrypt` answers with. -/
def decryptedBytes (primitives : Primitives) (outcomes : DecryptOutcomes)
    (encryptedData : CString) (store : KeyStore) : TeeResult (List UInt8) × KeyStore :=
  match hexStringToBytes encryptedData.bytes with
  | .error code => (.error code, store)
  | .ok encryptedBytes =>
      match loadOrGenerateKeyPair outcomes.load store with
      | (.error code, store) => (.error code, store)
      | (.ok keyPair, store) =>
          (asymmetricDecrypt primitives outcomes keyPair encryptedBytes, store)

theorem decryptBytes_eq (primitives : Primitives) (outcomes : DecryptOutcomes)
    (keyPair : RsaKeyPair) (encryptedBytes : List UInt8) :
    decryptBytes primitives outcomes keyPair encryptedBytes =
      (asymmetricDecrypt primitives outcomes keyPair encryptedBytes).map bytesToHexString := by
  unfold decryptBytes asymmetricDecrypt
  cases outcomes.allocateOperation with
  | error code => rfl
  | ok allocated =>
      cases outcomes.setOperationKey with
      | error code => rfl
      | ok keyed =>
          cases outcomes.asymmetricDecrypt with
          | error code => rfl
          | ok decrypted =>
              cases primitives.rsaDecrypt keyPair encryptedBytes with
              | error code => simp only [bind, Except.bind, Except.map]
              | ok plaintext => simp only [bind, Except.bind, Except.map, pure, Except.pure]

theorem teeDecryptData_eq (primitives : Primitives) (outcomes : DecryptOutcomes)
    (encryptedData : CString) (store : KeyStore) :
    teeDecryptData primitives outcomes encryptedData store =
      ((decryptedBytes primitives outcomes encryptedData store).1.map bytesToHexString,
        (decryptedBytes primitives outcomes encryptedData store).2) := by
  unfold teeDecryptData decryptedBytes
  cases hexStringToBytes encryptedData.bytes with
  | error code => rfl
  | ok encryptedBytes =>
      cases loadOrGenerateKeyPair outcomes.load store with
      | mk loaded after =>
          cases loaded with
          | error code => rfl
          | ok keyPair => exact congrArg (·, after) (decryptBytes_eq primitives outcomes keyPair _)

theorem decryptedBytes_fst (primitives : Primitives) (outcomes : DecryptOutcomes)
    (encryptedData : CString) (store other : KeyStore) :
    (decryptedBytes primitives outcomes encryptedData store).1 =
      (decryptedBytes primitives outcomes encryptedData other).1 := by
  unfold decryptedBytes
  cases hexStringToBytes encryptedData.bytes with
  | error code => rfl
  | ok encryptedBytes =>
      rcases exists_common_answer (loadOrGenerateKeyPair_fst outcomes.load store other) with
        ⟨loaded, after, afterOther, one, two⟩
      rw [one, two]
      cases loaded <;> rfl

/-- The text is decoded as far as it goes, and a plaintext is written as text. -/
theorem teeDecryptDataAt_eq (primitives : Primitives) (outcomes : DecryptOutcomes)
    (encryptedData : CString) (buffers : KeyBuffers) (store : KeyStore) :
    teeDecryptDataAt primitives outcomes encryptedData buffers store =
      match decryptedBytes primitives outcomes encryptedData store with
      | (.error code, store) =>
          (.error code,
            { buffers with
              encryptedBytes := buffers.encryptedBytes.write 0 (storedBytes encryptedData.bytes) },
            store)
      | (.ok plaintext, store) =>
          (.ok (2 * plaintext.length),
            { buffers with
              encryptedBytes := buffers.encryptedBytes.write 0 (storedBytes encryptedData.bytes)
              decryptedKey := bytesToHexStringAt buffers.decryptedKey 0 plaintext },
            store) := by
  unfold teeDecryptDataAt decryptedBytes
  rw [← hexStringToBytesAt_memory _ _ sizeofEncryptedBytes, hexStringToBytesAt_eq]
  cases hexStringToBytes encryptedData.bytes with
  | error code => rfl
  | ok encryptedBytes =>
      simp only [Region.read_write_self]
      cases loadOrGenerateKeyPair outcomes.load store with
      | mk loaded after =>
          cases loaded with
          | error code => rfl
          | ok keyPair =>
              cases decrypted : asymmetricDecrypt primitives outcomes keyPair encryptedBytes with
              | error code => simp only [decrypted]
              | ok plaintext => simp only [decrypted]

/-- The shared memory gets the whole text and its terminator. -/
theorem copyBack_plaintext (encryptedBytes decryptedKey encryptedKey : Region)
    (plaintext : List UInt8) :
    copyBack (2 * plaintext.length)
        ⟨encryptedBytes, bytesToHexStringAt decryptedKey 0 plaintext, encryptedKey⟩ =
      ⟨encryptedBytes, bytesToHexStringAt decryptedKey 0 plaintext,
        encryptedKey.strcpy 0 (bytesToHexString plaintext)⟩ := by
  have length : 2 * plaintext.length = 0 + (bytesToHexString plaintext).bytes.length := by
    rw [Nat.zero_add]
    exact (length_bytesToHexString plaintext).symm
  simp only [copyBack, read_bytesToHexStringAt]
  rw [Region.strcpy, encryptedKey.write_append, length]

/-- On the level of memory `commit` gives the same answer and the same state. -/
theorem commitAt_fst (primitives : Primitives) (outcomes : CallOutcomes) (paramTypes : UInt32)
    (msg : CommitMessage) (encryptedKey : CString) (buffers : KeyBuffers) (state : TaState) :
    (commitAt primitives outcomes paramTypes msg encryptedKey buffers state).1 =
      commit primitives outcomes paramTypes msg encryptedKey state := by
  unfold commitAt commit
  cases commitChecks primitives outcomes paramTypes msg state with
  | error code => rfl
  | ok repo =>
      simp only [teeDecryptDataAt_eq, teeDecryptData_eq]
      cases hashAndSign primitives outcomes.sign (calculateContributionBlockHash primitives
          outcomes.hash (nextContributionBlock repo msg outcomes.time)) state.keyStore with
      | mk sealed store =>
          cases sealed with
          | error code => rfl
          | ok sealed =>
              simp only []
              cases decryptedBytes primitives outcomes.decrypt encryptedKey store with
              | mk answer after =>
                  cases answer with
                  | error code => rfl
                  | ok plaintext =>
                      have whole : (bytesToHexString plaintext).length ≤ 2 * plaintext.length + 1 := by
                        rw [length_bytesToHexString]
                        exact Nat.le_succ _
                      simp only [Except.map, copyBack_plaintext, Region.readString_strcpy,
                        CString.take_eq_self whole]

/-! ## When everything fits -/

/-- How many pairs at the start of a text are decoded. -/
theorem le_length_storedPairs_iff (count : Nat) (hexString : List UInt8) :
    count ≤ (storedPairs hexString).length ↔
      2 * count ≤ hexString.length ∧ ∀ c ∈ hexString.take (2 * count), IsHexDigit c := by
  induction count generalizing hexString with
  | zero => exact iff_of_true (Nat.zero_le _) ⟨Nat.zero_le _, List.forall_mem_nil _⟩
  | succ count ih =>
      cases hexString with
      | nil => exact iff_of_false (Nat.not_succ_le_zero count) (by simp)
      | cons high rest =>
          cases rest with
          | nil => exact iff_of_false (Nat.not_succ_le_zero count) (by simp; omega)
          | cons low rest =>
              have twice : 2 * (count + 1) = 2 * count + 1 + 1 := by omega
              rw [twice, List.take_succ_cons, List.take_succ_cons, List.forall_mem_cons,
                List.forall_mem_cons, List.length_cons, List.length_cons, Nat.add_le_add_iff_right,
                Nat.add_le_add_iff_right]
              rcases pair_cases high low rest with
                ⟨highValue, lowValue, highIs, lowIs⟩ | ⟨illegal, _, nothing, _⟩
              · have legal : IsHexDigit high ∧ IsHexDigit low :=
                  ⟨(exists_hexCharToInt_iff high).mp ⟨_, highIs⟩,
                    (exists_hexCharToInt_iff low).mp ⟨_, lowIs⟩⟩
                simp only [storedPairs, highIs, lowIs, List.length_cons, Nat.add_le_add_iff_right, ih,
                  legal, true_and]
              · rw [nothing]
                refine iff_of_false (Nat.not_succ_le_zero count) ?_
                intro digits
                exact illegal ⟨digits.2.1, digits.2.2.1⟩

/-- The text starts with more pairs of digits than `encrypted_bytes` has bytes,
and its length is not refused. -/
def OverrunsEncryptedBytes (hexString : List UInt8) : Prop :=
  hexString.length % 2 = 0 ∧ 514 ≤ hexString.length ∧ ∀ c ∈ hexString.take 514, IsHexDigit c

theorem length_storedBytes_le_iff (hexString : List UInt8) :
    (storedBytes hexString).length ≤ sizeofEncryptedBytes ↔ ¬ OverrunsEncryptedBytes hexString := by
  unfold storedBytes OverrunsEncryptedBytes
  by_cases even : hexString.length % 2 = 0
  · have longer : sizeofEncryptedBytes < (storedPairs hexString).length ↔
        514 ≤ hexString.length ∧ ∀ c ∈ hexString.take 514, IsHexDigit c :=
      le_length_storedPairs_iff 257 hexString
    rw [if_pos even, ← Nat.not_lt, longer]
    simp only [even, true_and]
  · rw [if_neg even]
    exact iff_of_true (Nat.zero_le _) fun overruns => even overruns.1

/-- The text of a plaintext and its terminator stay inside `decrypted_key` up to
127 bytes. -/
theorem sameFrom_bytesToHexStringAt_iff (plaintext : List UInt8) :
    (∀ memory, Region.SameFrom sizeofDecryptedKey memory (bytesToHexStringAt memory 0 plaintext)) ↔
      plaintext.length ≤ 127 := by
  cases plaintext with
  | nil => exact iff_of_true (fun memory => .refl _ memory) (Nat.zero_le 127)
  | cons byte rest =>
      have text : ((bytesToHexString (byte :: rest)).bytes ++ [0]).length ≤ sizeofDecryptedKey ↔
          (byte :: rest).length ≤ 127 := by
        have length : (bytesToHexString (byte :: rest)).bytes.length = 2 * (byte :: rest).length :=
          length_bytesToHexString (byte :: rest)
        rw [List.length_append, List.length_singleton, length, sizeofDecryptedKey]
        omega
      rw [← text, ← Region.sameFrom_write_iff]
      simp only [bytesToHexStringAt_eq_strcpy _ 0 (List.cons_ne_nil byte rest), Region.strcpy]

/-! ## What a commit does with its key -/

namespace Call

/-- The plaintext of the key that comes with a commit. -/
def plaintext (primitives : Primitives) (call : Call) : TeeResult (List UInt8) :=
  (decryptedBytes primitives call.outcomes.decrypt call.params.encryptedKey none).1

/-- The request is accepted and its block is sealed, so the key comes next. -/
def ReachesDecryption (primitives : Primitives) (state : TaState) (call : Call) : Prop :=
  (∃ repo, call.CommitAccepted primitives state repo) ∧ call.Seals

/-- The buffers after a command. -/
def keyBuffers (primitives : Primitives) (state : TaState) (call : Call) (buffers : KeyBuffers) :
    KeyBuffers :=
  (commitAt primitives call.outcomes call.paramTypes call.params.cmMsg call.params.encryptedKey
    buffers state).2

end Call

/-- The buffers after the decryption of this text with this result. -/
def KeyBuffers.decrypted (buffers : KeyBuffers) (encryptedKey : CString) :
    TeeResult (List UInt8) → KeyBuffers
  | .error _ =>
      ⟨buffers.encryptedBytes.write 0 (storedBytes encryptedKey.bytes), buffers.decryptedKey,
        buffers.encryptedKey⟩
  | .ok plaintext =>
      ⟨buffers.encryptedBytes.write 0 (storedBytes encryptedKey.bytes),
        bytesToHexStringAt buffers.decryptedKey 0 plaintext,
        buffers.encryptedKey.strcpy 0 (bytesToHexString plaintext)⟩

/-- A commit gets as far as its key and decrypts it, or it touches no buffer. -/
theorem keyBuffers_cases (primitives : Primitives) (state : TaState) (call : Call)
    (isCommand : call.cmdId = cmdCommit) (buffers : KeyBuffers) :
    (call.ReachesDecryption primitives state ∧
        call.keyBuffers primitives state buffers =
          buffers.decrypted call.params.encryptedKey (call.plaintext primitives)) ∨
      (¬ call.ReachesDecryption primitives state ∧
        call.keyBuffers primitives state buffers = buffers) := by
  unfold Call.keyBuffers commitAt
  cases checked : commitChecks primitives call.outcomes call.paramTypes call.params.cmMsg state with
  | error code =>
      refine Or.inr ⟨?_, rfl⟩
      intro reached
      rcases reached.1 with ⟨repo, accepted⟩
      rw [commitChecks_eq_ok_iff.mpr accepted.2] at checked
      cases checked
  | ok repo =>
      have accepted : call.CommitAccepted primitives state repo :=
        ⟨isCommand, commitChecks_eq_ok_iff.mp checked⟩
      simp only [calculateContributionBlockHash]
      rcases hashAndSign_cases primitives call.outcomes
          (contributionDataBuffer (nextContributionBlock repo call.params.cmMsg call.outcomes.time))
          state.keyStore with
        ⟨teeSig, store, signed, sealed⟩ | ⟨unsealed, code, store, sealed⟩
      · refine Or.inl ⟨⟨⟨repo, accepted⟩, signed.hashed, signed.signs⟩, ?_⟩
        have same := decryptedBytes_fst primitives call.outcomes.decrypt call.params.encryptedKey
          none store
        rw [sealed, Call.plaintext, same]
        simp only [teeDecryptDataAt_eq]
        cases decryptedBytes primitives call.outcomes.decrypt call.params.encryptedKey store with
        | mk answer after =>
            cases answer with
            | error code => rfl
            | ok plaintext => exact copyBack_plaintext _ _ _ plaintext
      · rw [sealed]
        exact Or.inr ⟨fun reached => unsealed reached.2, rfl⟩

/-- A commit that succeeds has left the text of the whole plaintext in the shared
memory, and on the way no conversion has left its buffer. -/
structure ReturnsWholeKey (primitives : Primitives) (state : TaState) (call : Call)
    (buffers : KeyBuffers) : Prop where
  returned : ∀ output, (taInvokeCommandEntryPoint primitives state call).1 = .ok output →
    ∃ plaintext, call.plaintext primitives = .ok plaintext ∧
      (call.keyBuffers primitives state buffers).encryptedKey.read 0 (2 * plaintext.length + 1) =
        (bytesToHexString plaintext).bytes ++ [0]
  encryptedBytes : Region.SameFrom sizeofEncryptedBytes buffers.encryptedBytes
    (call.keyBuffers primitives state buffers).encryptedBytes
  decryptedKey : Region.SameFrom sizeofDecryptedKey buffers.decryptedKey
    (call.keyBuffers primitives state buffers).decryptedKey

/-- The text and the plaintext fit the buffers between which they are converted. -/
def Call.KeyFits (primitives : Primitives) (call : Call) : Prop :=
  ¬ OverrunsEncryptedBytes call.params.encryptedKey.bytes ∧
    ∀ plaintext, call.plaintext primitives = .ok plaintext → plaintext.length ≤ 127

/-- The shared memory is right in any case. -/
theorem keyBuffers_returned (primitives : Primitives) (state : TaState) {call : Call}
    (isCommand : call.cmdId = cmdCommit) (buffers : KeyBuffers) (output : Output)
    (succeeds : (taInvokeCommandEntryPoint primitives state call).1 = .ok output) :
    ∃ plaintext, call.plaintext primitives = .ok plaintext ∧
      (call.keyBuffers primitives state buffers).encryptedKey.read 0 (2 * plaintext.length + 1) =
        (bytesToHexString plaintext).bytes ++ [0] := by
  rcases (commit_ok_iff primitives state call isCommand).mp ⟨output, succeeds⟩ with
    ⟨repo, accepted, _, seals, text, decrypts⟩
  rw [teeDecryptData_eq] at decrypts
  cases known : call.plaintext primitives with
  | error code =>
      rw [Call.plaintext] at known
      rw [known] at decrypts
      cases decrypts
  | ok plaintext =>
      refine ⟨plaintext, rfl, ?_⟩
      rcases keyBuffers_cases primitives state call isCommand buffers with
        ⟨_, after⟩ | ⟨notReached, _⟩
      · have length : 2 * plaintext.length + 1 = ((bytesToHexString plaintext).bytes ++ [0]).length := by
          rw [List.length_append, List.length_singleton]
          exact congrArg (· + 1) (length_bytesToHexString plaintext).symm
        rw [after, known, length]
        exact Region.read_write_self _ 0 _
      · exact absurd ⟨⟨repo, accepted⟩, seals⟩ notReached

/-- What stays inside, for every contents of the buffers, fits. -/
theorem keyFits_of_returns {primitives : Primitives} {state : TaState} {call : Call}
    (isCommand : call.cmdId = cmdCommit)
    (returns : ∀ buffers, ReturnsWholeKey primitives state call buffers)
    (reached : call.ReachesDecryption primitives state) : call.KeyFits primitives := by
  have after : ∀ buffers, call.keyBuffers primitives state buffers =
      buffers.decrypted call.params.encryptedKey (call.plaintext primitives) := by
    intro buffers
    rcases keyBuffers_cases primitives state call isCommand buffers with
      ⟨_, after⟩ | ⟨notReached, _⟩
    · exact after
    · exact absurd reached notReached
  refine ⟨?_, ?_⟩
  · rw [← length_storedBytes_le_iff, ← Region.sameFrom_write_iff]
    intro region
    have kept := (returns ⟨region, region, region⟩).encryptedBytes
    rw [after] at kept
    cases known : call.plaintext primitives with
    | error code =>
        rw [known] at kept
        exact kept
    | ok plaintext =>
        rw [known] at kept
        exact kept
  · intro plaintext known
    rw [← sameFrom_bytesToHexStringAt_iff]
    intro region
    have kept := (returns ⟨region, region, region⟩).decryptedKey
    rw [after, known] at kept
    exact kept

/-- `commit` keeps its conversions inside their buffers exactly when the hex text
holds no more than 256 bytes and the plaintext no more than 127. -/
theorem commit_returns_whole_key_iff (primitives : Primitives) (state : TaState) (call : Call)
    (isCommand : call.cmdId = cmdCommit) :
    (∀ buffers, ReturnsWholeKey primitives state call buffers) ↔
      (call.ReachesDecryption primitives state → call.KeyFits primitives) := by
  constructor
  · intro returns
    exact keyFits_of_returns isCommand returns
  · intro fits buffers
    have returned := keyBuffers_returned primitives state isCommand buffers
    rcases keyBuffers_cases primitives state call isCommand buffers with
      ⟨reached, after⟩ | ⟨_, after⟩
    · have inside := (Region.sameFrom_write_iff _ _).mpr
        ((length_storedBytes_le_iff _).mpr (fits reached).1)
      have short := (fits reached).2
      refine ⟨returned, ?_, ?_⟩
      · rw [after]
        cases call.plaintext primitives <;> exact inside buffers.encryptedBytes
      · rw [after]
        cases known : call.plaintext primitives with
        | error code => exact .refl _ buffers.decryptedKey
        | ok plaintext =>
            exact (sameFrom_bytesToHexStringAt_iff plaintext).mpr (short plaintext known)
              buffers.decryptedKey
    · refine ⟨returned, ?_, ?_⟩
      · rw [after]
        exact .refl _ buffers.encryptedBytes
      · rw [after]
        exact .refl _ buffers.decryptedKey

namespace Sample

/-- A push of the founder that comes with this key. -/
def keyedPush (encryptedKey : CString) : Call :=
  .requestCommit (outcomes 1) ⟨0, opPush, .literal "c0ffee", founder, .empty⟩ encryptedKey

/-- A ciphertext has 256 bytes; the plaintext of this one is its first half. -/
def halving : Primitives :=
  { primitives with rsaDecrypt := fun _ encrypted => .ok (encrypted.take 128) }

def ciphertext : List UInt8 := List.replicate 256 7

end Sample

theorem short_key_is_returned :
    (Sample.keyedPush (bytesToHexString [10])).KeyFits Sample.primitives ∧
      ∀ buffers, ReturnsWholeKey Sample.primitives (Sample.application.run [Sample.creation])
        (Sample.keyedPush (bytesToHexString [10])) buffers := by
  have fits : (Sample.keyedPush (bytesToHexString [10])).KeyFits Sample.primitives := by
    refine ⟨?_, ?_⟩
    · intro overruns
      exact absurd overruns.2.1 (by decide)
    · intro plaintext known
      have isKey : (Sample.keyedPush (bytesToHexString [10])).plaintext Sample.primitives =
          .ok [10] := by
        decide +kernel
      rw [isKey] at known
      cases known
      decide
  refine ⟨fits, ?_⟩
  exact (commit_returns_whole_key_iff Sample.primitives (Sample.application.run [Sample.creation])
    (Sample.keyedPush (bytesToHexString [10])) rfl).mpr (fun _ => fits)

/-- A commit with a plaintext of 128 bytes succeeds, and its text does not fit. -/
theorem long_key_leaves_its_buffer :
    (∃ output, (taInvokeCommandEntryPoint Sample.halving
        (Sample.application.run [Sample.creation])
        (Sample.keyedPush (bytesToHexString Sample.ciphertext))).1 = .ok output) ∧
      (Sample.keyedPush (bytesToHexString Sample.ciphertext)).plaintext Sample.halving =
        .ok (List.replicate 128 7) ∧
      ¬ ∀ buffers, ReturnsWholeKey Sample.halving (Sample.application.run [Sample.creation])
        (Sample.keyedPush (bytesToHexString Sample.ciphertext)) buffers := by
  have known : (Sample.keyedPush (bytesToHexString Sample.ciphertext)).plaintext Sample.halving =
      .ok (List.replicate 128 7) := by
    decide +kernel
  have succeeds : (taInvokeCommandEntryPoint Sample.halving
      (Sample.application.run [Sample.creation])
      (Sample.keyedPush (bytesToHexString Sample.ciphertext))).1.isOk := by
    decide +kernel
  rcases exists_output_of_isOk succeeds with ⟨output, answered⟩
  refine ⟨⟨output, answered⟩, known, ?_⟩
  intro returns
  rcases (commit_ok_iff _ _ _ rfl).mp ⟨output, answered⟩ with ⟨repo, accepted, _, seals, _⟩
  have bound := (keyFits_of_returns rfl returns ⟨⟨repo, accepted⟩, seals⟩).2 _ known
  rw [List.length_replicate] at bound
  exact absurd bound (by decide)

end Ta
end TrustChain
