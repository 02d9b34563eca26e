import TrustChain.Ta.Authority

namespace TrustChain
namespace Ta

open Library Tee

/-!
# What a client signs

Two handlers put the fields of a request into a text and verify the client's
signature over it.  Only the last field is free text, and the operation stands
second in both formats.  The operation checks of the handlers let through
disjoint sets, so a text is at home in one format only, and within a format it
gives all its fields back.
-/

/-- A request to one of the two handlers that verify a signature. -/
inductive SignedRequest
  | access (msg : AccessControlMessage)
  | commit (msg : CommitMessage)

namespace SignedRequest

/-- The operation check of the handler. -/
def OpChecked : SignedRequest → Prop
  | access msg => msg.op = opAdd ∨ msg.op = opDelete
  | commit msg => msg.op = opPush ∨ msg.op = opPr

/-- The free text at the end is terminated within its array. -/
def TextFits : SignedRequest → Prop
  | access msg => msg.pubkey.length < maxKeyLength
  | commit msg => msg.commitHash.length < maxHashLength

/-- The text handed to `verify_signature`. -/
def dataToVerify : SignedRequest → CString
  | access msg => accessControlText msg
  | commit msg => commitText msg

/-- Requests of one kind that ask for the same thing, whoever signs them. -/
inductive SameContent : SignedRequest → SignedRequest → Prop
  | access {first second : AccessControlMessage} (repId : first.repId = second.repId)
      (op : first.op = second.op) (role : first.role = second.role)
      (pubkey : first.pubkey = second.pubkey) : SameContent (access first) (access second)
  | commit {first second : CommitMessage} (repId : first.repId = second.repId)
      (op : first.op = second.op) (commitHash : first.commitHash = second.commitHash) :
      SameContent (commit first) (commit second)

/-! ## The common head -/

/-- The repository and the operation, which both formats print first. -/
def repId : SignedRequest → UInt32
  | access msg => msg.repId
  | commit msg => msg.repId

def op : SignedRequest → UInt32
  | access msg => msg.op
  | commit msg => msg.op

/-- The fields behind the operation. -/
def ownFields : SignedRequest → List CString
  | access msg => [decimal msg.role.toNat, msg.pubkey]
  | commit msg => [msg.commitHash]

theorem ownFields_eq_cons (request : SignedRequest) :
    ∃ field rest, request.ownFields = field :: rest := by
  cases request with
  | access msg => exact ⟨_, _, rfl⟩
  | commit msg => exact ⟨_, _, rfl⟩

/-- A text that fits is not cut, so it is the join of all its fields. -/
theorem dataToVerify_eq {request : SignedRequest} (fits : request.TextFits) :
    request.dataToVerify = joinColon (decimal request.repId.toNat :: decimal request.op.toNat ::
      request.ownFields) := by
  cases request with
  | access msg => exact accessControlText_eq fits
  | commit msg => exact commitText_eq fits

theorem head_of_dataToVerify {first second : SignedRequest} (firstFits : first.TextFits)
    (secondFits : second.TextFits) (same : first.dataToVerify = second.dataToVerify) :
    first.repId = second.repId ∧ first.op = second.op ∧
      joinColon first.ownFields = joinColon second.ownFields := by
  rw [dataToVerify_eq firstFits, dataToVerify_eq secondFits] at same
  rcases first.ownFields_eq_cons with ⟨field, rest, firstOwn⟩
  rcases second.ownFields_eq_cons with ⟨other, others, secondOwn⟩
  rw [firstOwn, secondOwn] at same ⊢
  rcases joinColon_inj_of_free (decimal_colonFree _) (decimal_colonFree _) same with
    ⟨repIds, afterRepId⟩
  rcases joinColon_inj_of_free (decimal_colonFree _) (decimal_colonFree _) afterRepId with
    ⟨ops, own⟩
  exact ⟨decimal_uint32_injective repIds, decimal_uint32_injective ops, own⟩

/-- No operation passes the checks of both handlers. -/
theorem op_ne_of_kinds {access commit : UInt32} (isAccess : access = opAdd ∨ access = opDelete)
    (isCommit : commit = opPush ∨ commit = opPr) : access ≠ commit := by
  rcases isAccess with rfl | rfl <;> rcases isCommit with rfl | rfl <;> decide

/-- Two requests that pass the checks of their handlers have the same text to
be verified exactly when they ask for the same thing. -/
theorem dataToVerify_eq_iff_sameContent (first second : SignedRequest)
    (firstOp : first.OpChecked) (secondOp : second.OpChecked) (firstFits : first.TextFits)
    (secondFits : second.TextFits) :
    first.dataToVerify = second.dataToVerify ↔ SameContent first second := by
  constructor
  · intro same
    rcases head_of_dataToVerify firstFits secondFits same with ⟨repIds, ops, own⟩
    cases first with
    | access one =>
        cases second with
        | commit other => exact absurd ops (op_ne_of_kinds firstOp secondOp)
        | access other =>
            rcases joinColon_inj_of_free (decimal_colonFree _) (decimal_colonFree _) own with
              ⟨roles, pubkeys⟩
            exact .access repIds ops (decimal_uint32_injective roles) pubkeys
    | commit one =>
        cases second with
        | access other => exact absurd ops.symm (op_ne_of_kinds secondOp firstOp)
        | commit other => exact .commit repIds ops own
  · intro content
    cases content with
    | access repIds ops roles pubkeys =>
        simp only [dataToVerify, accessControlText, repIds, ops, roles, pubkeys]
    | commit repIds ops commitHashes =>
        simp only [dataToVerify, commitText, repIds, ops, commitHashes]

/-- The addition of a writer, as the founder and as the newcomer would sign it. -/
theorem sameContent_of_two_signers :
    SameContent (access (Sample.access opAdd roleWriter Sample.newcomer))
      (access { Sample.access opAdd roleWriter Sample.newcomer with sigkey := Sample.newcomer }) := by
  have fits : Sample.newcomer.length < maxKeyLength := by decide
  have content := dataToVerify_eq_iff_sameContent
    (access (Sample.access opAdd roleWriter Sample.newcomer))
    (access { Sample.access opAdd roleWriter Sample.newcomer with sigkey := Sample.newcomer })
    (Or.inl rfl) (Or.inl rfl) fits fits
  exact content.mp rfl

end SignedRequest

end Ta
end TrustChain
