import TrustChain.Library.Machine
import TrustChain.Ta.KeyManager

namespace TrustChain
namespace Ta

open Library Tee

/-!
# The key pair of the TEE over time

`load_or_generate_key_pair` takes every failure to open the stored key pair for
its absence, and creating with `TEE_DATA_FLAG_OVERWRITE` then replaces what is
stored.  The key manager keeps its identity in exactly those runs in which this
never happens while a key pair is stored.

The storage is a faithful one here: what opening returns is what is stored, and
a generated key pair is another one.
-/

/-- The three entry points that load the key pair. -/
inductive KeyRequest
  | signHash (outcomes : SignOutcomes) (hashString : CString)
  | verifySignature (outcomes : OwnVerifyOutcomes) (data : List UInt8) (signature : CString)
  | decryptData (outcomes : DecryptOutcomes) (encryptedData : CString)

inductive KeyReply
  | signed (result : TeeResult CString)
  | verified (result : TeeResult Unit)
  | decrypted (result : TeeResult CString)

/-- The key manager as a machine whose state is the stored key pair. -/
def keyManager (primitives : Primitives) (store : KeyStore) :
    Machine KeyStore KeyRequest KeyReply where
  start := store
  step := fun store request =>
    match request with
    | .signHash outcomes hashString =>
        let answer := teeSignHash primitives outcomes hashString store
        (.signed answer.1, answer.2)
    | .verifySignature outcomes data signature =>
        let answer := teeVerifySignature primitives outcomes data signature store
        (.verified answer.1, answer.2)
    | .decryptData outcomes encryptedData =>
        let answer := teeDecryptData primitives outcomes encryptedData store
        (.decrypted answer.1, answer.2)

namespace KeyRequest

/-- The answers of the storage during the request. -/
def load : KeyRequest → LoadOutcomes
  | signHash outcomes _ => outcomes.load
  | verifySignature outcomes _ _ => outcomes.load
  | decryptData outcomes _ => outcomes.load

/-- The request gets as far as loading the key pair: its text, if it comes with
one, is hexadecimal. -/
def Loads : KeyRequest → Prop
  | signHash _ hashString => ∃ bytes, hexStringToBytes hashString.bytes = .ok bytes
  | verifySignature _ _ _ => True
  | decryptData _ encryptedData => ∃ bytes, hexStringToBytes encryptedData.bytes = .ok bytes

/-- The storage returns what is stored, and a generated key pair is fresh. -/
structure Faithful (store : KeyStore) (request : KeyRequest) : Prop where
  opens : ∀ keyPair, request.load.openPersistentObject = .ok keyPair → store = some keyPair
  fresh : ∀ keyPair, request.load.generateKey = .ok keyPair → store ≠ some keyPair

/-- A key pair is stored, opening it fails, and everything after that succeeds. -/
def Replaces (store : KeyStore) (request : KeyRequest) : Prop :=
  (∃ keyPair, store = some keyPair) ∧ request.Loads ∧ ∃ keyPair, request.load.Stores keyPair

end KeyRequest

/-! ## One request -/

section Step

variable (primitives : Primitives) (start store : KeyStore) (request : KeyRequest)

/-- A request that loads the key pair leaves what loading leaves; any other
request leaves the storage alone. -/
theorem keyManager_next :
    (¬ request.Loads ∧ (keyManager primitives start).next store request = store) ∨
      (request.Loads ∧ (keyManager primitives start).next store request =
        (loadOrGenerateKeyPair request.load store).2) := by
  unfold Machine.next
  cases request with
  | signHash outcomes hashString =>
      simp only [keyManager, teeSignHash, KeyRequest.Loads, KeyRequest.load]
      cases hexStringToBytes hashString.bytes with
      | error code =>
          refine Or.inl ⟨?_, rfl⟩
          rintro ⟨bytes, impossible⟩
          cases impossible
      | ok hashBytes =>
          apply Or.inr
          refine ⟨⟨hashBytes, rfl⟩, ?_⟩
          cases loadOrGenerateKeyPair outcomes.load store with
          | mk loaded after => cases loaded <;> rfl
  | verifySignature outcomes data signature =>
      simp only [keyManager, teeVerifySignature, KeyRequest.Loads, KeyRequest.load]
      apply Or.inr
      refine ⟨trivial, ?_⟩
      cases loadOrGenerateKeyPair outcomes.load store with
      | mk loaded after => cases loaded <;> rfl
  | decryptData outcomes encryptedData =>
      simp only [keyManager, teeDecryptData, KeyRequest.Loads, KeyRequest.load]
      cases hexStringToBytes encryptedData.bytes with
      | error code =>
          refine Or.inl ⟨?_, rfl⟩
          rintro ⟨bytes, impossible⟩
          cases impossible
      | ok encryptedBytes =>
          apply Or.inr
          refine ⟨⟨encryptedBytes, rfl⟩, ?_⟩
          cases loadOrGenerateKeyPair outcomes.load store with
          | mk loaded after => cases loaded <;> rfl

/-- A request leaves the storage alone or stores a generated key pair. -/
theorem keyManager_next_cases :
    (keyManager primitives start).next store request = store ∧
        ¬ (request.Loads ∧ ∃ keyPair, request.load.Stores keyPair) ∨
      ∃ keyPair, request.Loads ∧ request.load.Stores keyPair ∧
        (keyManager primitives start).next store request = some keyPair := by
  rcases keyManager_next primitives start store request with ⟨notLoads, same⟩ | ⟨loads, result⟩
  · exact Or.inl ⟨same, fun stores => notLoads stores.1⟩
  · rcases loadOrGenerateKeyPair_cases request.load store with
      ⟨opened, isOpen, loaded⟩ | ⟨generated, stores, loaded⟩ | ⟨code, _, none, loaded⟩
    · apply Or.inl
      rw [result, loaded]
      refine ⟨rfl, ?_⟩
      rintro ⟨_, _, ⟨code, failed⟩, _⟩
      rw [isOpen] at failed
      cases failed
    · apply Or.inr
      rw [result, loaded]
      exact ⟨generated, loads, stores, rfl⟩
    · apply Or.inl
      rw [result, loaded]
      exact ⟨rfl, fun stores => none _ stores.2.choose_spec⟩

end Step

/-- A stored key pair stays stored. -/
def Kept (earlier later : KeyStore) : Prop :=
  ∀ keyPair, earlier = some keyPair → later = some keyPair

/-- One request keeps what is stored exactly when it does not replace it. -/
theorem kept_next_iff {store : KeyStore} {request : KeyRequest}
    (faithful : request.Faithful store) (primitives : Primitives) (start : KeyStore) :
    Kept store ((keyManager primitives start).next store request) ↔ ¬ request.Replaces store := by
  rcases keyManager_next_cases primitives start store request with
    ⟨same, notStores⟩ | ⟨generated, loads, stores, result⟩
  · rw [same]
    exact iff_of_true (fun _ stored => stored) fun replaces => notStores replaces.2
  · rw [result]
    constructor
    · rintro kept ⟨⟨keyPair, stored⟩, _⟩
      exact faithful.fresh generated stores.2.2.1 (stored.trans (kept keyPair stored).symm)
    · intro notReplaces keyPair stored
      exact absurd ⟨⟨keyPair, stored⟩, loads, generated, stores⟩ notReplaces

/-- The signature of this key pair over the digest that the text stands for. -/
def SignatureOf (primitives : Primitives) (keyPair : RsaKeyPair) (hashString signature : CString) :
    Prop :=
  ∃ hashBytes, hexStringToBytes hashString.bytes = .ok hashBytes ∧
    signature = bytesToHexString (primitives.rsaSign keyPair hashBytes).toList

/-- A request that does not replace the stored key pair signs with it. -/
theorem signatureOf_stored {primitives : Primitives} {outcomes : SignOutcomes}
    {hashString signature : CString} {keyPair : RsaKeyPair} {after : KeyStore}
    (faithful : (KeyRequest.signHash outcomes hashString).Faithful (some keyPair))
    (kept : ¬ (KeyRequest.signHash outcomes hashString).Replaces (some keyPair))
    (signed : teeSignHash primitives outcomes hashString (some keyPair) = (.ok signature, after)) :
    SignatureOf primitives keyPair hashString signature := by
  rcases teeSignHash_eq_ok_iff.mp signed with ⟨hashBytes, used, decoded, isLoaded, digest⟩
  have isUsed : keyPair = used := by
    rcases loadOrGenerateKeyPair_cases outcomes.load (some keyPair) with
      ⟨opened, isOpen, loaded⟩ | ⟨generated, stores, _⟩ | ⟨code, _, _, loaded⟩
    · rw [loaded] at isLoaded
      cases isLoaded
      exact Option.some.inj (faithful.opens used isOpen)
    · exact absurd ⟨⟨keyPair, rfl⟩, ⟨hashBytes, decoded⟩, generated, stores⟩ kept
    · rw [loaded] at isLoaded
      cases isLoaded
  rw [isUsed]
  exact ⟨hashBytes, decoded, (signDigest_eq_ok_iff.mp digest).2⟩

/-! ## Every run -/

/-- From the moment a key pair is stored, it stays stored, and every signature
is made with it. -/
structure IdentityKept (primitives : Primitives) (store : KeyStore)
    (requests : List KeyRequest) : Prop where
  stored : (keyManager primitives store).Lasts Kept requests
  signatures : ∀ earlier later outcomes hashString keyPair signature, earlier <+: later →
    later ++ [.signHash outcomes hashString] <+: requests →
    (keyManager primitives store).run earlier = some keyPair →
    (keyManager primitives store).answer ((keyManager primitives store).run later)
      (.signHash outcomes hashString) = .signed (.ok signature) →
    SignatureOf primitives keyPair hashString signature

/-- With a faithful storage, the TEE keeps its key pair for a whole run exactly
when no request of the run replaces it. -/
theorem identity_kept_iff_never_replaced (primitives : Primitives) (store : KeyStore)
    (requests : List KeyRequest)
    (faithful : (keyManager primitives store).EveryStep
      (fun stored request => request.Faithful stored) requests) :
    IdentityKept primitives store requests ↔
      (keyManager primitives store).EveryStep
        (fun stored request => ¬ request.Replaces stored) requests := by
  have exact : (keyManager primitives store).Lasts Kept requests ↔
      (keyManager primitives store).EveryStep
        (fun stored request => ¬ request.Replaces stored) requests := by
    rw [Machine.lasts_iff_everyStep _ (fun _ _ stored => stored)
      (fun _ _ _ first second keyPair stored => second keyPair (first keyPair stored))]
    exact Machine.everyStep_congr _ faithful fun _ _ isFaithful =>
      kept_next_iff isFaithful primitives store
  constructor
  · intro kept
    exact exact.mp kept.stored
  · intro every
    refine ⟨exact.mpr every, ?_⟩
    intro earlier later outcomes hashString keyPair signature before inside stored answered
    have still : (keyManager primitives store).run later = some keyPair :=
      exact.mpr every earlier later before ((List.prefix_append later _).trans inside) keyPair stored
    have faithfulThen := faithful later _ inside
    have keptThen := every later _ inside
    rw [still] at faithfulThen keptThen answered
    have signed : (teeSignHash primitives outcomes hashString (some keyPair)).1 = .ok signature :=
      KeyReply.signed.inj answered
    exact signatureOf_stored faithfulThen keptThen (Prod.ext signed rfl)

/-! A first request finds no key pair and stores one.  A second one may open it,
or may meet a storage that is busy for a moment. -/

namespace Sample

def firstPair : RsaKeyPair := ⟨2 ^ 2048 - 1, 3, 5⟩

def secondPair : RsaKeyPair := ⟨2 ^ 2048 - 1, 3, 7⟩

/-- A signature that shows the private exponent. -/
def revealing : Primitives :=
  { Primitives.accepting (fun _ => List.Vector.replicate 32 1) with
    rsaSign := fun keyPair _ => List.Vector.replicate 256 (UInt8.ofNat keyPair.privateExponent) }

/-- A request to sign in which only opening may fail. -/
def signing (opens : TeeResult RsaKeyPair) (generated : RsaKeyPair) : KeyRequest :=
  .signHash ⟨⟨opens, .ok (), .ok generated, .ok ()⟩, .ok (), .ok (), .ok ()⟩ .empty

def firstUse : KeyRequest := signing (.error .itemNotFound) firstPair

def laterUse : KeyRequest := signing (.ok firstPair) secondPair

def busyUse : KeyRequest := signing (.error .generic) secondPair

theorem firstPair_ne_secondPair : firstPair ≠ secondPair := by decide +kernel

theorem run_firstUse : (keyManager revealing none).run [firstUse] = some firstPair := rfl

/-- The second request is served by a faithful storage if what it opens, if
anything, is the first key pair. -/
theorem faithful_twice {second : KeyRequest} (faithful : second.Faithful (some firstPair)) :
    (keyManager revealing none).EveryStep (fun stored request => request.Faithful stored)
      ([firstUse] ++ [second]) := by
  rw [Machine.everyStep_snoc, run_firstUse, ← List.nil_append [firstUse], Machine.everyStep_snoc]
  refine ⟨⟨Machine.everyStep_nil _, ⟨?_, ?_⟩⟩, faithful⟩
  · intro keyPair opened
    cases opened
  · intro keyPair generated stored
    cases stored

/-- What is generated in the second request is another key pair. -/
theorem second_fresh {opens : TeeResult RsaKeyPair} {keyPair : RsaKeyPair}
    (generated : (signing opens secondPair).load.generateKey = .ok keyPair) :
    some firstPair ≠ some keyPair := by
  rw [← Except.ok.inj generated]
  exact fun same => firstPair_ne_secondPair (Option.some.inj same)

end Sample

/-- The storage is busy once, and the key pair is another one afterwards. -/
theorem identity_not_kept :
    (keyManager Sample.revealing none).EveryStep (fun stored request => request.Faithful stored)
      ([Sample.firstUse] ++ [Sample.busyUse]) ∧
    (keyManager Sample.revealing none).run ([Sample.firstUse] ++ [Sample.busyUse]) =
      some Sample.secondPair ∧
    ¬ IdentityKept Sample.revealing none ([Sample.firstUse] ++ [Sample.busyUse]) := by
  refine ⟨Sample.faithful_twice ⟨?_, fun _ => Sample.second_fresh⟩, rfl, ?_⟩
  · intro keyPair opened
    cases opened
  · intro kept
    have still := kept.stored [Sample.firstUse] _ (List.prefix_append _ [Sample.busyUse])
      List.prefix_rfl Sample.firstPair Sample.run_firstUse
    exact Sample.firstPair_ne_secondPair (Option.some.inj still).symm

theorem identity_kept_when_opened :
    IdentityKept Sample.revealing none ([Sample.firstUse] ++ [Sample.laterUse]) := by
  have faithful : Sample.laterUse.Faithful (some Sample.firstPair) :=
    ⟨fun _ opened => congrArg some (Except.ok.inj opened), fun _ => Sample.second_fresh⟩
  apply (identity_kept_iff_never_replaced Sample.revealing none _
    (Sample.faithful_twice faithful)).mpr
  rw [Machine.everyStep_snoc, ← List.nil_append [Sample.firstUse], Machine.everyStep_snoc]
  refine ⟨⟨Machine.everyStep_nil _, ?_⟩, ?_⟩
  · rintro ⟨⟨keyPair, stored⟩, _⟩
    cases stored
  · rintro ⟨_, _, keyPair, ⟨code, failed⟩, _⟩
    cases failed

end Ta
end TrustChain
