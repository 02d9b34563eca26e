import Mathlib.Data.Fin.VecNotation
import TrustChain.Ta.BlockMemory

namespace TrustChain
namespace Ta

open Library Tee

/-!
# The parameters of a command in memory

A handler casts the memory references that it is given to structures and reads
their fields without looking at the sizes.  What it finds is the shared memory
and, where a string is not terminated inside, whatever lies behind.  The layout
of the messages is that of `trust_chain_ta.c`.
-/

/-- An entry of `params`: a memory reference is the memory from its address on,
and its stated size. -/
inductive TeeParam
  | none
  | value (a b : UInt32)
  | memref (memory : List UInt8) (size : Nat)
  deriving DecidableEq

namespace TeeParam

/-- `value.a`. -/
def valueA : TeeParam → UInt32
  | value a _ => a
  | _ => 0

/-- The bytes from `memref.buffer` on. -/
def memory : TeeParam → List UInt8
  | memref memory _ => memory
  | _ => []

/-- `memref.size`. -/
def size : TeeParam → Nat
  | memref _ size => size
  | _ => 0

/-- Bytes stored from the address of the reference on, as `memcpy` and `strcpy`
do it. -/
def store (bytes : List UInt8) : TeeParam → TeeParam
  | memref memory size => memref (bytes ++ memory.drop bytes.length) size
  | param => param

end TeeParam

/-! ## Messages of a client -/

def offsetAcRepId : Nat := 0
def offsetAcOp : Nat := offsetAcRepId + 4
def offsetAcRole : Nat := offsetAcOp + 4
def offsetAcPubkey : Nat := offsetAcRole + 4
def offsetAcSigkey : Nat := offsetAcPubkey + maxKeyLength
def offsetAcSignature : Nat := offsetAcSigkey + maxKeyLength
def sizeofAccessControlMessage : Nat := offsetAcSignature + maxSignatureLength

def offsetCmRepId : Nat := 0
def offsetCmOp : Nat := offsetCmRepId + 4
def offsetCmCommitHash : Nat := offsetCmOp + 4
def offsetCmSigkey : Nat := offsetCmCommitHash + maxHashLength
def offsetCmSignature : Nat := offsetCmSigkey + maxKeyLength
def sizeofCommitMessage : Nat := offsetCmSignature + maxSignatureLength

def uint32At (memory : List UInt8) (offset : Nat) : UInt32 :=
  ofLittleEndian ((memory.drop offset).take 4)

def stringAt (memory : List UInt8) (offset : Nat) : CString :=
  .ofMemory (memory.drop offset)

/-- `(struct access_control_message *)`. -/
def accessControlMessageAt (memory : List UInt8) : AccessControlMessage where
  repId := uint32At memory offsetAcRepId
  op := uint32At memory offsetAcOp
  role := uint32At memory offsetAcRole
  pubkey := stringAt memory offsetAcPubkey
  sigkey := stringAt memory offsetAcSigkey
  signature := stringAt memory offsetAcSignature

/-- `(struct commit_message *)`. -/
def commitMessageAt (memory : List UInt8) : CommitMessage where
  repId := uint32At memory offsetCmRepId
  op := uint32At memory offsetCmOp
  commitHash := stringAt memory offsetCmCommitHash
  sigkey := stringAt memory offsetCmSigkey
  signature := stringAt memory offsetCmSignature

/-- A command has four parameters, numbered from 0. -/
instance neZero_paramCount : NeZero 4 := ⟨by decide⟩

/-- The four parameters under the casts of the handlers.  A reference that a
client hands over has an address. -/
def Params.ofTee (params : Fin 4 → TeeParam) : Params where
  adminKey := stringAt (params 0).memory 0
  acMsg := accessControlMessageAt (params 0).memory
  cmMsg := commitMessageAt (params 0).memory
  repId := (params 0).valueA
  nonce := (params 1).valueA
  encryptedKey := stringAt (params 1).memory 0
  pemBufferNull := false
  pemBufSize := (params 0).size

/-! ## What the handlers leave in the parameters -/

/-- The structure that is copied out of a handler; `stack` is what its memory
held before. -/
def Block.returnedBytes (stack : Region) (block : Block) : List UInt8 :=
  ((block.initAt stack).strcpy offsetTeeSig block.base.teeSig).read 0 block.sizeof

/-- The parameters after a successful command. -/
def Output.leave (stack : Region) (params : Fin 4 → TeeParam) : Output → Fin 4 → TeeParam
  | genesis repId block =>
      ![params 0, .value repId 0, (params 2).store ((Block.access block).returnedBytes stack),
        params 3]
  | accessBlock block =>
      ![params 0, (params 1).store ((Block.access block).returnedBytes stack), params 2, params 3]
  | latestHash nonce hash signature =>
      ![params 0, params 1, (params 2).store (latestHashMsg nonce hash),
        (params 3).store (signature.bytes ++ [0])]
  | contribution block encryptedKey =>
      ![params 0, (params 1).store (encryptedKey.bytes ++ [0]),
        (params 2).store ((Block.contribution block).returnedBytes stack), params 3]
  | publicKey pem pemLen => ![(params 0).store pem, .value pemLen 0, params 2, params 3]

/-! ## What the handlers ask of the parameters -/

/-- The parameter types that the handler of a command compares with. -/
def expectedParamTypes (cmdId : UInt32) : UInt32 :=
  if cmdId = cmdInitRepo then teeParamTypes memrefInput valueOutput memrefOutput paramNone
  else if cmdId = cmdAccessControl then
    teeParamTypes memrefInput memrefOutput paramNone paramNone
  else if cmdId = cmdGetLatestHash then
    teeParamTypes valueInput valueInput memrefOutput memrefOutput
  else if cmdId = cmdCommit then teeParamTypes memrefInput memrefInout memrefOutput paramNone
  else teeParamTypes memrefOutput valueOutput paramNone paramNone

/-- The command that has this kind of output. -/
def Output.command : Output → UInt32
  | genesis _ _ => cmdInitRepo
  | accessBlock _ => cmdAccessControl
  | latestHash _ _ _ => cmdGetLatestHash
  | contribution _ _ => cmdCommit
  | publicKey _ _ => cmdGetTeePubkey

theorem Output.exists_genesis {output : Output} (isInit : output.command = cmdInitRepo) :
    ∃ repId block, output = genesis repId block := by
  cases output with
  | genesis repId block => exact ⟨repId, block, rfl⟩
  | accessBlock block => exact absurd isInit (by decide : cmdAccessControl ≠ cmdInitRepo)
  | latestHash nonce hash signature =>
      exact absurd isInit (by decide : cmdGetLatestHash ≠ cmdInitRepo)
  | contribution block encryptedKey => exact absurd isInit (by decide : cmdCommit ≠ cmdInitRepo)
  | publicKey pem pemLen => exact absurd isInit (by decide : cmdGetTeePubkey ≠ cmdInitRepo)

theorem Output.exists_accessBlock {output : Output} (isAccess : output.command = cmdAccessControl) :
    ∃ block, output = accessBlock block := by
  cases output with
  | genesis repId block => exact absurd isAccess (by decide : cmdInitRepo ≠ cmdAccessControl)
  | accessBlock block => exact ⟨block, rfl⟩
  | latestHash nonce hash signature =>
      exact absurd isAccess (by decide : cmdGetLatestHash ≠ cmdAccessControl)
  | contribution block encryptedKey =>
      exact absurd isAccess (by decide : cmdCommit ≠ cmdAccessControl)
  | publicKey pem pemLen => exact absurd isAccess (by decide : cmdGetTeePubkey ≠ cmdAccessControl)

theorem Effect.output_command {primitives : Primitives} {state after : TaState} {call : Call}
    {output : Output} (effect : Effect primitives state call (.ok output) after) :
    output.command = call.cmdId := by
  cases effect with
  | hashRead repo signature store isCommand found signed => exact isCommand.symm
  | keyRead pem pemLen isCommand => exact isCommand.symm
  | created teeSig store isCommand inside signed => exact isCommand.symm
  | accessAppended repo edited teeSig store accepted updated signed => exact accepted.1.symm
  | contributionAppended repo teeSig encryptedKey signedStore store accepted signed =>
      exact accepted.1.symm

theorem run_output_command (primitives : Primitives) (store : KeyStore) {calls : List Call}
    {call : Call} {output : Output} (answered : (trustedApplication primitives store).answer
      ((trustedApplication primitives store).run calls) call = .ok output) :
    output.command = call.cmdId := by
  have effect := step_effect primitives ((trustedApplication primitives store).run calls) call
    (run_tableInvariant primitives store calls).free
  have reply : (taInvokeCommandEntryPoint primitives
      ((trustedApplication primitives store).run calls) call).1 = .ok output := answered
  rw [reply] at effect
  exact effect.output_command

/-- How many bytes from the start of each memory reference the handler reads or
writes when it succeeds with this output. -/
def memrefNeed (params : Params) : Output → Fin 4 → Nat
  | .genesis _ _ => ![params.adminKey.length + 1, 0, sizeofAccessBlock, 0]
  | .accessBlock _ => ![sizeofAccessControlMessage, sizeofAccessBlock, 0, 0]
  | .latestHash _ hash signature => ![0, 0, 4 + hash.length + 1, signature.length + 1]
  | .contribution _ decryptedKey =>
      ![sizeofCommitMessage, max (params.encryptedKey.length + 1) (decryptedKey.length + 1),
        sizeofContributionBlock, 0]
  | .publicKey pem _ => ![pem.length, 0, 0, 0]

/-- A command with other parameter types is refused before anything is read. -/
theorem refused_of_paramTypes (primitives : Primitives) (state : TaState) (call : Call)
    (other : call.paramTypes ≠ expectedParamTypes call.cmdId) :
    taInvokeCommandEntryPoint primitives state call = (.error .badParameters, state) := by
  unfold expectedParamTypes at other
  unfold taInvokeCommandEntryPoint
  by_cases isInit : call.cmdId = cmdInitRepo
  · rw [if_pos isInit] at other ⊢
    exact if_pos other
  rw [if_neg isInit] at other ⊢
  by_cases isAccess : call.cmdId = cmdAccessControl
  · rw [if_pos isAccess] at other ⊢
    rw [accessControl, accessControlChecks, if_pos other]
  rw [if_neg isAccess] at other ⊢
  by_cases isLatestHash : call.cmdId = cmdGetLatestHash
  · rw [if_pos isLatestHash] at other ⊢
    exact if_pos other
  rw [if_neg isLatestHash] at other ⊢
  by_cases isCommit : call.cmdId = cmdCommit
  · rw [if_pos isCommit] at other ⊢
    rw [commit, commitChecks, if_pos other]
  rw [if_neg isCommit] at other ⊢
  by_cases isPubkey : call.cmdId = cmdGetTeePubkey
  · rw [if_pos isPubkey, getTeePublicKey, if_pos other]
  · rw [if_neg isPubkey]

end Ta
end TrustChain
