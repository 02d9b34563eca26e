import TrustChain.Ta.History

namespace TrustChain
namespace Ta

open Library Tee

/-!
# What a serialized block determines

The precisions of the two formats keep every text below 1024 bytes, so nothing
is cut at the end.  The number of the block, its parent and its operation can
always be read back: they stand in front of the first free text.  From there on
a `:` inside a field cannot be told from a separator, and what lies beyond a
precision is not written at all.
-/

namespace Block

/-- The fields behind the common ones. -/
def ownFields : Block → List CString
  | access block => [decimal block.role.toNat, block.pubkey.take 256]
  | contribution block => [block.commitHash.take 64]

theorem dataBuffer_eq (block : Block) :
    block.dataBuffer = joinColon (baseFields block.base ++ block.ownFields) := by
  have height := decimal_uint32_length_le block.base.blockHeight
  have op := decimal_uint32_length_le block.base.op
  have seconds := decimal_uint32_length_le block.base.trustTimestamp.seconds
  have millis := decimal_uint32_length_le block.base.trustTimestamp.millis
  have bound := length_joinColon_le (baseFields block.base ++ block.ownFields)
  cases block with
  | access block =>
      apply CString.snprintf_eq_self
      have role := decimal_uint32_length_le block.role
      apply Nat.lt_of_le_of_lt bound
      simp only [base, baseFields, ownFields, List.cons_append, List.nil_append, List.map_cons,
        List.map_nil, List.sum_cons, List.sum_nil, List.length_cons, List.length_nil,
        CString.length_take] at height op seconds millis ⊢
      omega
  | contribution block =>
      apply CString.snprintf_eq_self
      apply Nat.lt_of_le_of_lt bound
      simp only [base, baseFields, ownFields, List.cons_append, List.nil_append, List.map_cons,
        List.map_nil, List.sum_cons, List.sum_nil, List.length_cons, List.length_nil,
        CString.length_take] at height op seconds millis ⊢
      omega

/-- The fields that the texts of two blocks have in front of the first free text. -/
theorem heading_of_dataBuffer {first second : Block}
    (firstParent : first.base.parentHash.length = 64)
    (secondParent : second.base.parentHash.length = 64)
    (same : first.dataBuffer = second.dataBuffer) :
    first.base.blockHeight = second.base.blockHeight ∧
      first.base.parentHash = second.base.parentHash ∧ first.base.op = second.base.op ∧
      joinColon ((baseFields first.base).drop 3 ++ first.ownFields) =
        joinColon ((baseFields second.base).drop 3 ++ second.ownFields) := by
  rw [dataBuffer_eq, dataBuffer_eq] at same
  rcases joinColon_inj_of_free (decimal_colonFree _) (decimal_colonFree _) same with
    ⟨heights, afterHeight⟩
  have lengths : (first.base.parentHash.take 64).length = (second.base.parentHash.take 64).length := by
    rw [CString.length_take, CString.length_take, firstParent, secondParent]
  rcases joinColon_inj_of_length lengths afterHeight with ⟨parents, afterParent⟩
  rw [CString.take_eq_self (Nat.le_of_eq firstParent),
    CString.take_eq_self (Nat.le_of_eq secondParent)] at parents
  rcases joinColon_inj_of_free (decimal_colonFree _) (decimal_colonFree _) afterParent with
    ⟨ops, afterOp⟩
  exact ⟨decimal_uint32_injective heights, parents, decimal_uint32_injective ops, afterOp⟩

/-! ## Blocks as they are written -/

def isAccess : Block → Bool
  | access _ => true
  | contribution _ => false

/-- The operations that the handler of the block's kind lets through. -/
def OpOfKind : Block → Prop
  | access block => block.base.op = opAdd ∨ block.base.op = opDelete
  | contribution block => block.base.op = opPush ∨ block.base.op = opPr

/-- The string that only this kind of block has is terminated within its array. -/
def OwnFits : Block → Prop
  | access block => block.pubkey.length < maxKeyLength
  | contribution block => block.commitHash.length < maxHashLength

/-- A block as the application can hand it out: a full parent hash, an
operation of its kind, and strings that fit their arrays. -/
structure Emittable (block : Block) : Prop where
  parent : block.base.parentHash.length = maxHashLength
  op : block.OpOfKind
  sigkey : block.base.sigkey.length < maxKeyLength
  signature : block.base.signature.length < maxSignatureLength
  own : block.OwnFits

instance (block : Block) : Decidable block.OpOfKind :=
  match block with
  | access _ => inferInstanceAs (Decidable (_ ∨ _))
  | contribution _ => inferInstanceAs (Decidable (_ ∨ _))

instance (block : Block) : Decidable block.OwnFits :=
  match block with
  | access _ => inferInstanceAs (Decidable (_ < _))
  | contribution _ => inferInstanceAs (Decidable (_ < _))

instance (block : Block) : Decidable block.Emittable :=
  decidable_of_iff
    (block.base.parentHash.length = maxHashLength ∧ block.OpOfKind ∧
      block.base.sigkey.length < maxKeyLength ∧ block.base.signature.length < maxSignatureLength ∧
      block.OwnFits)
    ⟨fun ⟨parent, op, sigkey, signature, own⟩ => ⟨parent, op, sigkey, signature, own⟩,
      fun ⟨parent, op, sigkey, signature, own⟩ => ⟨parent, op, sigkey, signature, own⟩⟩

/-- The common fields as far as the precisions let them through. -/
def printedBase (base : BaseBlock) : BaseBlock :=
  { base with
    sigkey := base.sigkey.take 256, signature := base.signature.take 256, teeSig := .empty }

/-- The block as far as the precisions let it through. -/
def printed : Block → Block
  | access block =>
      access { base := printedBase block.base, role := block.role, pubkey := block.pubkey.take 256 }
  | contribution block =>
      contribution { base := printedBase block.base, commitHash := block.commitHash.take 64 }

/-- No precision cuts the block short. -/
def Short : Block → Prop
  | access block =>
      block.base.sigkey.length ≤ 256 ∧ block.base.signature.length ≤ 256 ∧ block.pubkey.length ≤ 256
  | contribution block =>
      block.base.sigkey.length ≤ 256 ∧ block.base.signature.length ≤ 256 ∧
        block.commitHash.length ≤ 64

theorem printed_eq_unsigned {block : Block} (short : block.Short) :
    block.printed = block.unsigned := by
  cases block with
  | access block =>
      rcases short with ⟨sigkey, signature, pubkey⟩
      simp only [printed, printedBase, unsigned, CString.take_eq_self sigkey,
        CString.take_eq_self signature, CString.take_eq_self pubkey]
  | contribution block =>
      rcases short with ⟨sigkey, signature, commitHash⟩
      simp only [printed, printedBase, unsigned, CString.take_eq_self sigkey,
        CString.take_eq_self signature, CString.take_eq_self commitHash]

/-- Neither the key nor the signature writes a `:` in front of the later fields. -/
structure SeparatorFree (block : Block) : Prop where
  sigkey : (block.base.sigkey.take 256).ColonFree
  signature : (block.base.signature.take 256).ColonFree

/-- The operation tells the kind: `OP_ADD` and `OP_DELETE` come first. -/
theorem isAccess_eq_of_op {block : Block} (allowed : block.OpOfKind) :
    block.isAccess = decide (block.base.op ≤ opDelete) := by
  cases block with
  | access block =>
      rcases allowed with isAdd | isDelete
      · rw [base, isAdd]; rfl
      · rw [base, isDelete]; rfl
  | contribution block =>
      rcases allowed with isPush | isPr
      · rw [base, isPush]; rfl
      · rw [base, isPr]; rfl

theorem kind_of_op {first second : Block} (firstOp : first.OpOfKind) (secondOp : second.OpOfKind)
    (same : first.base.op = second.base.op) : first.isAccess = second.isAccess := by
  rw [isAccess_eq_of_op firstOp, same, isAccess_eq_of_op secondOp]

theorem ownFields_eq_cons (block : Block) :
    ∃ field rest, block.ownFields = field :: rest := by
  cases block with
  | access block => exact ⟨_, _, rfl⟩
  | contribution block => exact ⟨_, _, rfl⟩

/-- The rest of the text, read back field by field. -/
theorem tail_of_dataBuffer {first second : Block} (firstFree : first.SeparatorFree)
    (secondFree : second.SeparatorFree)
    (same : joinColon ((baseFields first.base).drop 3 ++ first.ownFields) =
      joinColon ((baseFields second.base).drop 3 ++ second.ownFields)) :
    first.base.sigkey.take 256 = second.base.sigkey.take 256 ∧
      first.base.signature.take 256 = second.base.signature.take 256 ∧
      first.base.trustTimestamp = second.base.trustTimestamp ∧
      joinColon first.ownFields = joinColon second.ownFields := by
  rcases first.ownFields_eq_cons with ⟨field, rest, firstOwn⟩
  rcases second.ownFields_eq_cons with ⟨other, others, secondOwn⟩
  rw [firstOwn, secondOwn] at same ⊢
  rcases joinColon_inj_of_free firstFree.sigkey secondFree.sigkey same with ⟨sigkeys, afterKey⟩
  rcases joinColon_inj_of_free firstFree.signature secondFree.signature afterKey with
    ⟨signatures, afterSignature⟩
  rcases joinColon_inj_of_free (decimal_colonFree _) (decimal_colonFree _) afterSignature with
    ⟨seconds, afterSeconds⟩
  rcases joinColon_inj_of_free (decimal_colonFree _) (decimal_colonFree _) afterSeconds with
    ⟨millis, own⟩
  refine ⟨sigkeys, signatures, ?_, own⟩
  calc
    first.base.trustTimestamp =
        ⟨first.base.trustTimestamp.seconds, first.base.trustTimestamp.millis⟩ := rfl
    _ = ⟨second.base.trustTimestamp.seconds, second.base.trustTimestamp.millis⟩ := by
        rw [decimal_uint32_injective seconds, decimal_uint32_injective millis]
    _ = second.base.trustTimestamp := rfl

/-- What can be read back from the text of a block: always its kind, height,
parent and operation, and the rest as printed if no key or signature writes a
separator. -/
theorem dataBuffer_commits (first second : Block) (firstEmittable : first.Emittable)
    (secondEmittable : second.Emittable) (same : first.dataBuffer = second.dataBuffer) :
    first.isAccess = second.isAccess ∧
      first.base.blockHeight = second.base.blockHeight ∧
      first.base.parentHash = second.base.parentHash ∧
      first.base.op = second.base.op ∧
      (first.SeparatorFree → second.SeparatorFree → first.printed = second.printed) := by
  rcases heading_of_dataBuffer firstEmittable.parent secondEmittable.parent same with
    ⟨heights, parents, ops, tails⟩
  have kinds := kind_of_op firstEmittable.op secondEmittable.op ops
  refine ⟨kinds, heights, parents, ops, ?_⟩
  intro firstFree secondFree
  rcases tail_of_dataBuffer firstFree secondFree tails with ⟨sigkeys, signatures, times, own⟩
  have bases : printedBase first.base = printedBase second.base := by
    unfold printedBase
    rw [BaseBlock.mk.injEq]
    exact ⟨heights, parents, ops, sigkeys, signatures, times, rfl⟩
  cases first with
  | access one =>
      cases second with
      | contribution other => cases kinds
      | access other =>
          rcases joinColon_inj_of_free (decimal_colonFree _) (decimal_colonFree _) own with
            ⟨roles, pubkeys⟩
          have bases : printedBase one.base = printedBase other.base := bases
          have pubkeys : one.pubkey.take 256 = other.pubkey.take 256 := pubkeys
          rw [printed, printed, bases, decimal_uint32_injective roles, pubkeys]
  | contribution one =>
      cases second with
      | access other => cases kinds
      | contribution other =>
          have bases : printedBase one.base = printedBase other.base := bases
          have commitHashes : one.commitHash.take 64 = other.commitHash.take 64 := own
          rw [printed, printed, bases, commitHashes]

/-- Two genesis blocks for founders whose keys differ behind the 256th
character, and two blocks whose separators can be read in two ways. -/
theorem dataBuffer_collisions :
    (let first := Block.access (genesisBlock zeroHash (Sample.longKey 98) ⟨0, 0⟩)
      let second := Block.access (genesisBlock zeroHash (Sample.longKey 99) ⟨0, 0⟩)
      first.Emittable ∧ second.Emittable ∧ first.dataBuffer = second.dataBuffer ∧
        first.base.sigkey ≠ second.base.sigkey) ∧
    (let first := Block.access (initAccessBlock 1 zeroHash opAdd 17 ⟨[49, 58, 50, 58, 51, 58, 98],
        by decide⟩ ⟨[97], by decide⟩ .empty ⟨5, 6⟩)
      let second := Block.access (initAccessBlock 1 zeroHash opAdd 3 ⟨[98], by decide⟩
        ⟨[97, 58, 58, 53, 58, 54], by decide⟩ ⟨[49, 55], by decide⟩ ⟨1, 2⟩)
      first.Emittable ∧ second.Emittable ∧ first.dataBuffer = second.dataBuffer ∧
        first.base.sigkey ≠ second.base.sigkey) := by
  decide +kernel

/-- For the founders with the long keys it is the printed blocks that agree. -/
theorem dataBuffer_commits_longKeys :
    (Block.access (genesisBlock zeroHash (Sample.longKey 98) ⟨0, 0⟩)).printed =
      (Block.access (genesisBlock zeroHash (Sample.longKey 99) ⟨0, 0⟩)).printed :=
  (dataBuffer_commits _ _
    (by decide +kernel) (by decide +kernel) (by decide +kernel)).2.2.2.2
    ⟨by decide +kernel, by decide +kernel⟩ ⟨by decide +kernel, by decide +kernel⟩

end Block

/-! ## Blocks that are handed out -/

/-- A block that a command with fitting strings hands out is emittable. -/
theorem BuiltBy.emittable {primitives : Primitives} {state : TaState} {call : Call} {block : Block}
    (built : BuiltBy primitives state call block) (table : TableInvariant state)
    (fits : call.StringsFit) : block.Emittable := by
  cases built with
  | genesis teeSig isCommand =>
      have unsigned : CString.empty.length < maxSignatureLength := by decide
      exact ⟨length_zeroHash, Or.inl rfl, fits.init isCommand, unsigned, fits.init isCommand⟩
  | access repo edited teeSig accepted updated =>
      rcases table.keyUpdate accepted updated with ⟨_, _, invariant, update⟩
      rcases fits.access accepted.1 with ⟨pubkey, sigkey, signature⟩
      refine ⟨?_, accepted.2.op, sigkey, signature, pubkey⟩
      change edited.latestHash.length = maxHashLength
      rw [update.head.2]
      exact invariant.hashLength
  | contribution repo teeSig accepted =>
      rcases table.repositories _ _ accepted.slot with ⟨admins, writers, invariant⟩
      rcases fits.commit accepted.1 with ⟨commitHash, sigkey, signature⟩
      exact ⟨invariant.hashLength, accepted.2.op, sigkey, signature, commitHash⟩

theorem emittable_of_mem_log {primitives : Primitives} {store : KeyStore} {calls : List Call}
    {event : TaEvent} {repId : Nat} {block : Block}
    (member : event ∈ (trustedApplication primitives store).log calls)
    (fits : event.input.StringsFit) (inReply : blockOf repId event = some block) :
    block.Emittable := by
  rcases (trustedApplication primitives store).mem_log member with ⟨earlier, call, _, rfl⟩
  rcases (run_slotStep primitives store earlier call repId).built inReply with ⟨_, _, _, _, _, built⟩
  exact built.emittable (run_tableInvariant primitives store earlier) fits

end Ta
end TrustChain
