import Mathlib.Data.Vector.Basic
import TrustChain.Library.CString

namespace TrustChain
namespace Tee

open Library

/-!
# What the trusted application gets from outside

The TEE Internal API and mbedTLS are not part of the repository.  Their
cryptographic functions are parameters (`Primitives`); whether a call succeeds,
and what the clock, the allocator and the secure storage answer, is chosen anew
for each command (`…Outcomes`).  A result about every `Primitives` and every
sequence of outcomes is therefore a result about every environment.
-/

/-- The values of `TEE_Result` other than `TEE_SUCCESS`. -/
inductive TeeError
  | generic
  | accessDenied
  | badFormat
  | badParameters
  | itemNotFound
  | outOfMemory
  | security
  | shortBuffer
  | signatureInvalid
  | other (code : UInt32)
  deriving DecidableEq, Repr

/-- A call that returns `TEE_Result` and, on success, fills in a value. -/
abbrev TeeResult (Value : Type) := Except TeeError Value

/-- `TEE_Time`. -/
structure TeeTime where
  seconds : UInt32
  millis : UInt32
  deriving DecidableEq, Repr

structure RsaPublicKey where
  modulus : Nat
  publicExponent : Nat
  deriving DecidableEq, Repr

structure RsaKeyPair where
  modulus : Nat
  publicExponent : Nat
  privateExponent : Nat
  deriving DecidableEq, Repr

def RsaKeyPair.publicKey (pair : RsaKeyPair) : RsaPublicKey :=
  ⟨pair.modulus, pair.publicExponent⟩

/-- What `mbedtls_pk_parse_public_key` recognises in the bytes it is given. -/
inductive PkContext
  | rsa (key : RsaPublicKey)
  | notRsa
  deriving DecidableEq, Repr

/-- Exactly `n` bytes. -/
abbrev Bytes (n : Nat) := List.Vector UInt8 n

/-- The deterministic functions behind the API.  A digest has 32 bytes, and a
signature under the 2048-bit key of the TEE has 256. -/
structure Primitives where
  sha256 : List UInt8 → Bytes 32
  rsaSign : RsaKeyPair → List UInt8 → Bytes 256
  rsaVerify : RsaPublicKey → List UInt8 → List UInt8 → Bool
  rsaDecrypt : RsaKeyPair → List UInt8 → TeeResult (List UInt8)
  pkParsePublicKey : List UInt8 → Option PkContext
  pkWritePubkeyDer : RsaPublicKey → List UInt8
  base64Encode : List UInt8 → List UInt8

/-! ## Outcomes of the calls made during one command -/

/-- The calls inside `compute_sha256_hash`. -/
structure HashOutcomes where
  allocateOperation : TeeResult Unit
  digestDoFinal : TeeResult Unit
  deriving DecidableEq

/-- The calls inside `public_key_pem_to_obj`; a Boolean is a call that reports
success without an error code. -/
structure PemOutcomes where
  allocateTransientObject : TeeResult Unit
  rsaExport : Bool
  mallocModulus : Bool
  mallocExponent : Bool
  writeModulus : Bool
  writeExponent : Bool
  populateTransientObject : TeeResult Unit
  deriving DecidableEq

/-- The calls inside `verify_signature`. -/
structure VerifyOutcomes where
  pem : PemOutcomes
  hash : HashOutcomes
  allocateOperation : TeeResult Unit
  setOperationKey : TeeResult Unit
  verifyDigest : TeeResult Unit
  deriving DecidableEq

/-- The calls inside `load_or_generate_key_pair`.  Opening answers with the
stored object, generating with a new key pair. -/
structure LoadOutcomes where
  openPersistentObject : TeeResult RsaKeyPair
  allocateTransientObject : TeeResult Unit
  generateKey : TeeResult RsaKeyPair
  createPersistentObject : TeeResult Unit
  deriving DecidableEq

/-- The calls inside `tee_sign_hash`. -/
structure SignOutcomes where
  load : LoadOutcomes
  allocateOperation : TeeResult Unit
  setOperationKey : TeeResult Unit
  signDigest : TeeResult Unit
  deriving DecidableEq

/-- The calls inside `tee_decrypt_data`. -/
structure DecryptOutcomes where
  load : LoadOutcomes
  allocateOperation : TeeResult Unit
  setOperationKey : TeeResult Unit
  asymmetricDecrypt : TeeResult Unit
  deriving DecidableEq

/-- The calls inside `public_key_obj_to_pem`. -/
structure ExportOutcomes where
  getModulus : TeeResult Unit
  getExponent : TeeResult Unit
  rsaImport : Bool
  rsaComplete : Bool
  pkSetup : Bool
  base64Encode : Bool
  deriving DecidableEq

/-! ## When a group of calls goes through -/

/-- Hashing succeeds. -/
def HashOutcomes.Succeeds (outcomes : HashOutcomes) : Prop :=
  outcomes.allocateOperation = .ok () ∧ outcomes.digestDoFinal = .ok ()

/-- The calls of `verify_signature_common` in front of the primitive succeed. -/
def VerifyOutcomes.Reaches (outcomes : VerifyOutcomes) : Prop :=
  outcomes.hash.Succeeds ∧ outcomes.allocateOperation = .ok () ∧ outcomes.setOperationKey = .ok ()

/-- A key pair is found or a new one is stored. -/
def LoadOutcomes.Succeeds (outcomes : LoadOutcomes) : Prop :=
  (∃ pair, outcomes.openPersistentObject = .ok pair) ∨
    (outcomes.allocateTransientObject = .ok () ∧
      (∃ pair, outcomes.generateKey = .ok pair) ∧ outcomes.createPersistentObject = .ok ())

/-- The stored key pair is replaced by this one.  It takes a failure to open it. -/
def LoadOutcomes.Stores (outcomes : LoadOutcomes) (pair : RsaKeyPair) : Prop :=
  (∃ code, outcomes.openPersistentObject = .error code) ∧
    outcomes.allocateTransientObject = .ok () ∧ outcomes.generateKey = .ok pair ∧
    outcomes.createPersistentObject = .ok ()

/-- Signing a digest succeeds. -/
def SignOutcomes.Succeeds (outcomes : SignOutcomes) : Prop :=
  outcomes.load.Succeeds ∧ outcomes.allocateOperation = .ok () ∧
    outcomes.setOperationKey = .ok () ∧ outcomes.signDigest = .ok ()

/-- The calls of `public_key_obj_to_pem` succeed. -/
structure ExportOutcomes.Succeeds (outcomes : ExportOutcomes) : Prop where
  modulus : outcomes.getModulus = .ok ()
  exponent : outcomes.getExponent = .ok ()
  imported : outcomes.rsaImport = true
  completed : outcomes.rsaComplete = true
  setUp : outcomes.pkSetup = true
  encoded : outcomes.base64Encode = true

/-! ## An environment in which nothing fails

The stored key pair is opened each time, and a signature of a client counts as
genuine.  Runs on concrete requests are made in this environment, with single
answers replaced where a failure is wanted.
-/

def HashOutcomes.smooth : HashOutcomes := ⟨.ok (), .ok ()⟩

def PemOutcomes.smooth : PemOutcomes := ⟨.ok (), true, true, true, true, true, .ok ()⟩

def VerifyOutcomes.smooth : VerifyOutcomes := ⟨.smooth, .smooth, .ok (), .ok (), .ok ()⟩

def LoadOutcomes.smooth (pair : RsaKeyPair) : LoadOutcomes := ⟨.ok pair, .ok (), .ok pair, .ok ()⟩

def SignOutcomes.smooth (pair : RsaKeyPair) : SignOutcomes := ⟨.smooth pair, .ok (), .ok (), .ok ()⟩

def DecryptOutcomes.smooth (pair : RsaKeyPair) : DecryptOutcomes :=
  ⟨.smooth pair, .ok (), .ok (), .ok ()⟩

def ExportOutcomes.smooth : ExportOutcomes := ⟨.ok (), .ok (), true, true, true, true⟩

/-- Every text is read as the same RSA key, and what is signed under it is
taken to be genuine; the digest is left open. -/
def Primitives.accepting (sha256 : List UInt8 → Bytes 32) : Primitives where
  sha256 := sha256
  rsaSign := fun _ digest => List.Vector.ofFn fun index => digest.getD (index.val % 32) 0
  rsaVerify := fun _ _ _ => true
  rsaDecrypt := fun _ encrypted => .ok encrypted
  pkParsePublicKey := fun _ => some (.rsa ⟨2 ^ 2048 - 1, 3⟩)
  pkWritePubkeyDer := fun _ => []
  base64Encode := fun der => der

end Tee
end TrustChain
