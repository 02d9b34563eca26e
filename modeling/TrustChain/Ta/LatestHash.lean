import TrustChain.Ta.Invariant

namespace TrustChain
namespace Ta

open Library Tee

/-!
# What the signature over the latest hash covers

`tee_sign_data` measures a binary structure with `strlen`.  The nonce comes
first, so a zero byte in it ends what is signed: everything behind that byte,
the hash included, is left out.  Only a nonce without a zero byte is covered
together with the hash.
-/

/-! ## Nonces as bytes -/

/-- No byte of the nonce is zero. -/
def ZeroFree (nonce : UInt32) : Prop := (0 : UInt8) ∉ littleEndian nonce

instance (nonce : UInt32) : Decidable (ZeroFree nonce) :=
  inferInstanceAs (Decidable (_ ∉ _))

/-- The bytes of the nonce in front of its first zero byte. -/
def coveredNonce (nonce : UInt32) : List UInt8 := signedBytes (littleEndian nonce)

theorem length_takeWhile_of_mem {bytes : List UInt8} (zero : (0 : UInt8) ∈ bytes) :
    (bytes.takeWhile (· ≠ 0)).length ≠ bytes.length := by
  intro whole
  have same := (List.takeWhile_prefix (l := bytes) (· ≠ 0)).eq_of_length whole
  rw [← same] at zero
  exact absurd (List.mem_takeWhile_imp zero) (by decide)

theorem signedBytes_of_zeroFree {nonce : UInt32} (free : ZeroFree nonce) (latestHash : CString) :
    signedBytes (latestHashMsg nonce latestHash) = littleEndian nonce ++ latestHash.bytes := by
  have nonzero : ∀ byte ∈ littleEndian nonce, decide (byte ≠ 0) = true := by
    intro byte member
    exact decide_eq_true fun zero => free (zero ▸ member)
  change (littleEndian nonce ++ latestHash.bytes ++ [0]).takeWhile (· ≠ 0) = _
  rw [List.append_assoc, List.takeWhile_append_of_pos nonzero]
  exact congrArg (littleEndian nonce ++ ·)
    (congrArg CString.bytes (CString.ofMemory_terminated latestHash []))

theorem signedBytes_of_not_zeroFree {nonce : UInt32} (zero : ¬ ZeroFree nonce)
    (latestHash : CString) :
    signedBytes (latestHashMsg nonce latestHash) = coveredNonce nonce := by
  change (littleEndian nonce ++ latestHash.bytes ++ [0]).takeWhile (· ≠ 0) = _
  rw [List.append_assoc, List.takeWhile_append,
    if_neg (length_takeWhile_of_mem (not_not.mp zero))]
  rfl

theorem length_coveredNonce_lt {nonce : UInt32} (zero : ¬ ZeroFree nonce) :
    (coveredNonce nonce).length < 4 := by
  have bound := (List.takeWhile_prefix (l := littleEndian nonce) (· ≠ 0)).length_le
  exact Nat.lt_of_le_of_ne bound (length_takeWhile_of_mem (not_not.mp zero))

/-! ## Pairs of calls -/

/-- The two messages cannot be confused: one nonce is free of zero bytes, or
the nonces differ in front of their first zero byte, or there is nothing to
confuse. -/
def Distinguishable (firstNonce secondNonce : UInt32) (firstHash secondHash : CString) : Prop :=
  ZeroFree firstNonce ∨ ZeroFree secondNonce ∨
    coveredNonce firstNonce ≠ coveredNonce secondNonce ∨
    (firstNonce = secondNonce ∧ firstHash = secondHash)

theorem signedBytes_bind_iff (firstNonce secondNonce : UInt32) (firstHash secondHash : CString) :
    (signedBytes (latestHashMsg firstNonce firstHash) =
        signedBytes (latestHashMsg secondNonce secondHash) →
      firstNonce = secondNonce ∧ firstHash = secondHash) ↔
    Distinguishable firstNonce secondNonce firstHash secondHash := by
  by_cases firstFree : ZeroFree firstNonce
  · refine iff_of_true ?_ (Or.inl firstFree)
    rw [signedBytes_of_zeroFree firstFree]
    by_cases secondFree : ZeroFree secondNonce
    · rw [signedBytes_of_zeroFree secondFree]
      intro same
      rcases List.append_inj same rfl with ⟨nonces, hashes⟩
      exact ⟨littleEndian_injective nonces, CString.ext hashes⟩
    · rw [signedBytes_of_not_zeroFree secondFree]
      intro same
      have lengths := congrArg List.length same
      have short := length_coveredNonce_lt secondFree
      rw [List.length_append, show (littleEndian firstNonce).length = 4 from rfl] at lengths
      omega
  · rw [signedBytes_of_not_zeroFree firstFree]
    by_cases secondFree : ZeroFree secondNonce
    · refine iff_of_true ?_ (Or.inr (Or.inl secondFree))
      rw [signedBytes_of_zeroFree secondFree]
      intro same
      have lengths := congrArg List.length same
      have short := length_coveredNonce_lt firstFree
      rw [List.length_append, show (littleEndian secondNonce).length = 4 from rfl] at lengths
      omega
    · rw [signedBytes_of_not_zeroFree secondFree]
      constructor
      · intro binds
        by_cases same : coveredNonce firstNonce = coveredNonce secondNonce
        · exact Or.inr (Or.inr (Or.inr (binds same)))
        · exact Or.inr (Or.inr (Or.inl same))
      · rintro (free | free | different | equal) same
        · exact absurd free firstFree
        · exact absurd free secondFree
        · exact absurd same different
        · exact equal

/-- What a `get_latest_hash` call hands to the hash inside `tee_sign_data`. -/
def handedToHash (state : TaState) (call : Call) : List UInt8 :=
  match state.slot call.params.repId.toNat with
  | none => []
  | some repo => signedBytes (latestHashMsg call.params.nonce repo.latestHash)

/-- The bytes are those of the nonce and the hash that the call returns. -/
theorem Effect.handedToHash {primitives : Primitives} {state after : TaState} {call : Call}
    {answer : TeeResult Output} (effect : Effect primitives state call answer after)
    {nonce : UInt32} {latestHash signature : CString}
    (succeeds : answer = .ok (.latestHash nonce latestHash signature)) :
    handedToHash state call = signedBytes (latestHashMsg nonce latestHash) := by
  cases effect with
  | hashRead repo signature store isCommand found signed =>
      cases succeeds
      simp only [Ta.handedToHash, found]
  | refused => cases succeeds
  | keyRead => cases succeeds
  | created => cases succeeds
  | interrupted => cases succeeds
  | accessAppended => cases succeeds
  | contributionAppended => cases succeeds

/-- For two successful calls in two runs, equal signed bytes mean an equal
nonce and an equal hash exactly when the two messages are distinguishable. -/
theorem latest_hash_binds_iff (primitives : Primitives) (firstStore secondStore : KeyStore)
    (firstCalls secondCalls : List Call) (firstCall secondCall : Call)
    (firstNonce secondNonce : UInt32) (firstHash secondHash firstSig secondSig : CString)
    (firstSucceeds : (trustedApplication primitives firstStore).answer
      ((trustedApplication primitives firstStore).run firstCalls) firstCall =
        .ok (.latestHash firstNonce firstHash firstSig))
    (secondSucceeds : (trustedApplication primitives secondStore).answer
      ((trustedApplication primitives secondStore).run secondCalls) secondCall =
        .ok (.latestHash secondNonce secondHash secondSig)) :
    (handedToHash ((trustedApplication primitives firstStore).run firstCalls) firstCall =
        handedToHash ((trustedApplication primitives secondStore).run secondCalls) secondCall →
      firstNonce = secondNonce ∧ firstHash = secondHash) ↔
    Distinguishable firstNonce secondNonce firstHash secondHash := by
  rw [(run_effect primitives firstStore firstCalls firstCall).handedToHash firstSucceeds,
    (run_effect primitives secondStore secondCalls secondCall).handedToHash secondSucceeds]
  exact signedBytes_bind_iff firstNonce secondNonce firstHash secondHash

/-- The latest hash of the only repository, for this nonce. -/
def Sample.latestHash (nonce : UInt32) : Call := .requestLatestHash (outcomes 1) 0 nonce

theorem Sample.latestHash_answers :
    application.answer (application.run [creation]) (latestHash 0) =
      .ok (.latestHash 0 hash signature) ∧
    application.answer (application.run [creation]) (latestHash 256) =
      .ok (.latestHash 256 hash signature) ∧
    application.answer (application.run [creation]) (latestHash 16843009) =
      .ok (.latestHash 16843009 hash signature) := by
  decide +kernel

/-- The nonces 0 and 256 both start with a zero byte, and nothing is signed:
two successful calls with different nonces hand the same bytes to the hash. -/
theorem latest_hash_not_bound :
    Sample.application.answer (Sample.application.run [Sample.creation]) (Sample.latestHash 0) =
      .ok (.latestHash 0 Sample.hash Sample.signature) ∧
    Sample.application.answer (Sample.application.run [Sample.creation]) (Sample.latestHash 256) =
      .ok (.latestHash 256 Sample.hash Sample.signature) ∧
    handedToHash (Sample.application.run [Sample.creation]) (Sample.latestHash 0) =
      handedToHash (Sample.application.run [Sample.creation]) (Sample.latestHash 256) ∧
    (0 : UInt32) ≠ 256 := by
  decide +kernel

/-- A nonce without a zero byte is told apart from the nonce 0. -/
theorem latest_hash_bound :
    ZeroFree 16843009 ∧
    (handedToHash (Sample.application.run [Sample.creation]) (Sample.latestHash 16843009) =
        handedToHash (Sample.application.run [Sample.creation]) (Sample.latestHash 0) →
      (16843009 : UInt32) = 0 ∧ Sample.hash = Sample.hash) := by
  have free : ZeroFree 16843009 := by decide
  refine ⟨free, ?_⟩
  exact (latest_hash_binds_iff Sample.primitives (some Sample.keyPair) (some Sample.keyPair)
    [Sample.creation] [Sample.creation] (Sample.latestHash 16843009) (Sample.latestHash 0) _ _ _ _
    Sample.signature Sample.signature Sample.latestHash_answers.2.2
    Sample.latestHash_answers.1).mpr (Or.inl free)

end Ta
end TrustChain
