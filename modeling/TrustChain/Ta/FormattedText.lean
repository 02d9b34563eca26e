import TrustChain.Library.Format
import TrustChain.Library.CheckedMemory
import TrustChain.Ta.CheckedInput
import TrustChain.Ta.RequestText

namespace TrustChain
namespace Ta

open Library Tee

/-!
# Room for the formatted texts

Four formats are printed into buffers of 1024 bytes: those of the two kinds of
blocks, and those of the two requests that carry a signature.  The precisions
bound the strings of a block, whether or not they are terminated in their
arrays; the string of a request is bounded by its array only if it is terminated
there.  Within these bounds every buffer has room to spare.
-/

/-- `sizeof(data_buffer)` and `sizeof(data_to_verify)`. -/
def sizeofDataBuffer : Nat := 1024

/-! ## Widths -/

/-- The widths of `"%u:%.64s:%u:%.256s:%.256s:%u:%u"`. -/
def baseWidths : List Nat := [10, 64, 10, 256, 256, 10, 10]

/-- The widths of `"%u:%u:%u:%s"`, with a string that ends in `pubkey`. -/
def accessControlWidths : List Nat := [10, 10, 10, maxKeyLength - 1]

/-- The widths of `"%u:%u:%s"`, with a string that ends in `commit_hash`. -/
def commitWidths : List Nat := [10, 10, maxHashLength - 1]

theorem length_take_le (n : Nat) (text : CString) : (text.take n).length ≤ n := by
  rw [CString.length_take]
  exact Nat.min_le_left n text.length

theorem length_readString_le (memory : Region) (offset limit : Nat) :
    (memory.readString offset limit).length ≤ limit := by
  have kept := (List.takeWhile_prefix (p := (· ≠ 0)) (l := memory.read offset limit)).length_le
  rw [Region.length_read] at kept
  exact kept

theorem within_baseFields (base : BaseBlock) : Within (baseFields base) baseWidths := by
  unfold baseFields baseWidths
  simp only [Within, List.forall₂_cons, List.forall₂_nil_left_iff, decimal_uint32_length_le,
    length_take_le, and_self]

theorem within_baseFieldsAt (memory : Region) : Within (baseFieldsAt memory) baseWidths := by
  unfold baseFieldsAt baseWidths
  simp only [Within, List.forall₂_cons, List.forall₂_nil_left_iff, decimal_uint32_length_le,
    length_readString_le, and_self]

/-! ## The texts of blocks -/

section Formats

variable {base : List CString} (within : Within base baseWidths)

include within

theorem ne_nil_of_baseWidths : base ≠ [] := by
  rintro rfl
  cases within

/-- The format of an access block, with `":%u:%.256s"` at the end. -/
theorem accessFormat_stored (role : UInt32) {pubkey : CString} (cut : pubkey.length ≤ 256) :
    StoredWhole sizeofDataBuffer (joinColon (base ++ [decimal role.toNat] ++ [pubkey])) pubkey := by
  have front : base ++ [decimal role.toNat] ≠ [] :=
    List.append_ne_nil_of_right_ne_nil base (List.cons_ne_nil _ _)
  have own : Within [decimal role.toNat] [10] := .cons (decimal_uint32_length_le role) .nil
  have last : Within [pubkey] [256] := .cons cut .nil
  have fields := List.rel_append (List.rel_append within own) last
  exact StoredWhole.of_within front fields
    (by decide : bufferSize (baseWidths ++ [10] ++ [256]) ≤ sizeofDataBuffer)

/-- The format of a contribution block, with `":%.64s"` at the end. -/
theorem contributionFormat_stored {commitHash : CString} (cut : commitHash.length ≤ 64) :
    StoredWhole sizeofDataBuffer (joinColon (base ++ [commitHash])) commitHash := by
  have last : Within [commitHash] [64] := .cons cut .nil
  exact StoredWhole.of_within (ne_nil_of_baseWidths within) (List.rel_append within last)
    (by decide : bufferSize (baseWidths ++ [64]) ≤ sizeofDataBuffer)

end Formats

namespace Block

/-- The fields of the format in front of the last one. -/
def frontFields : Block → List CString
  | access block => baseFields block.base ++ [decimal block.role.toNat]
  | contribution block => baseFields block.base

/-- What the last conversion prints: `%.256s` of `pubkey`, `%.64s` of
`commit_hash`. -/
def lastField : Block → CString
  | access block => block.pubkey.take 256
  | contribution block => block.commitHash.take 64

/-- The formatted text, as long as it is. -/
def formattedText (block : Block) : CString :=
  joinColon (block.frontFields ++ [block.lastField])

theorem formattedText_stored (block : Block) :
    StoredWhole sizeofDataBuffer block.formattedText block.lastField := by
  cases block with
  | access block => exact accessFormat_stored (within_baseFields block.base) _ (length_take_le 256 _)
  | contribution block =>
      exact contributionFormat_stored (within_baseFields block.base) (length_take_le 64 _)

/-- The buffer that is hashed holds the formatted text. -/
theorem dataBuffer_eq_formattedText (block : Block) : block.dataBuffer = block.formattedText := by
  have fits := (formattedText_stored block).fits
  cases block with
  | access block =>
      have whole : accessDataBuffer block =
          (Block.access block).formattedText.snprintf sizeofDataBuffer := by
        rw [accessDataBuffer, formattedText, frontFields, lastField, List.append_assoc]
        rfl
      exact whole.trans (CString.snprintf_eq_self fits)
  | contribution block => exact CString.snprintf_eq_self fits

/-! The same for a block in memory, whose arrays hold any bytes. -/

def frontFieldsAt (memory : Region) : Block → List CString
  | access _ => baseFieldsAt memory ++ [decimal (memory.readUInt32 offsetRole).toNat]
  | contribution _ => baseFieldsAt memory

def lastFieldAt (memory : Region) : Block → CString
  | access _ => memory.readString offsetPubkey 256
  | contribution _ => memory.readString offsetCommitHash 64

def formattedTextAt (memory : Region) (block : Block) : CString :=
  joinColon (block.frontFieldsAt memory ++ [block.lastFieldAt memory])

theorem formattedTextAt_stored (memory : Region) (block : Block) :
    StoredWhole sizeofDataBuffer (block.formattedTextAt memory) (block.lastFieldAt memory) := by
  cases block with
  | access block =>
      exact accessFormat_stored (within_baseFieldsAt memory) _ (length_readString_le memory _ _)
  | contribution block =>
      exact contributionFormat_stored (within_baseFieldsAt memory)
        (length_readString_le memory _ _)

theorem dataBufferAt_eq_formattedTextAt (memory : Region) (block : Block) :
    block.dataBufferAt memory = block.formattedTextAt memory := by
  have fits := (formattedTextAt_stored memory block).fits
  cases block with
  | access block =>
      have whole : accessDataBufferAt memory =
          ((Block.access block).formattedTextAt memory).snprintf sizeofDataBuffer := by
        rw [accessDataBufferAt, formattedTextAt, frontFieldsAt, lastFieldAt, List.append_assoc]
        rfl
      exact whole.trans (CString.snprintf_eq_self fits)
  | contribution block => exact CString.snprintf_eq_self fits

end Block

/-! ## The texts of requests -/

/-- A string that ends in its field is shorter than the field. -/
theorem length_stringAt_lt {memory : List UInt8} {offset size : Nat}
    (terminated : 0 ∈ fieldOf memory offset size) : (stringAt memory offset).length < size := by
  have held := ((holdsText_fieldOf_iff memory offset size).mpr terminated).length_le
  rw [List.length_append, List.length_singleton, fieldOf, List.length_take] at held
  exact Nat.lt_of_lt_of_le held (Nat.min_le_left size _)

theorem accessControlRequest_stored {msg : AccessControlMessage}
    (fits : msg.pubkey.length < maxKeyLength) :
    StoredWhole sizeofDataBuffer (accessControlRequest msg) msg.pubkey := by
  have within : Within [decimal msg.repId.toNat, decimal msg.op.toNat, decimal msg.role.toNat,
      msg.pubkey] accessControlWidths :=
    .cons (decimal_uint32_length_le _) (.cons (decimal_uint32_length_le _)
      (.cons (decimal_uint32_length_le _) (.cons (Nat.le_sub_one_of_lt fits) .nil)))
  have nonempty : [decimal msg.repId.toNat, decimal msg.op.toNat, decimal msg.role.toNat] ≠ [] :=
    List.cons_ne_nil _ _
  exact StoredWhole.of_within nonempty within (by decide)

theorem commitRequest_stored {msg : CommitMessage} (fits : msg.commitHash.length < maxHashLength) :
    StoredWhole sizeofDataBuffer (commitRequest msg) msg.commitHash := by
  have within : Within [decimal msg.repId.toNat, decimal msg.op.toNat, msg.commitHash]
      commitWidths :=
    .cons (decimal_uint32_length_le _) (.cons (decimal_uint32_length_le _)
      (.cons (Nat.le_sub_one_of_lt fits) .nil))
  have nonempty : [decimal msg.repId.toNat, decimal msg.op.toNat] ≠ [] := List.cons_ne_nil _ _
  exact StoredWhole.of_within nonempty within (by decide)

/-- What is printed of a block is stored whole, and all of it is hashed; what is
printed of a request whose string ends in its array is stored whole, and all of
it is verified before the request is let through. -/
theorem formatted_texts_whole :
    (∀ (primitives : Primitives) (outcomes : HashOutcomes) (block : Block),
      StoredWhole sizeofDataBuffer block.formattedText block.lastField ∧
        block.calculateHash primitives outcomes =
          hashData primitives outcomes block.formattedText.bytes) ∧
    (∀ (primitives : Primitives) (outcomes : HashOutcomes) (memory : Region) (block : Block),
      StoredWhole sizeofDataBuffer (block.formattedTextAt memory) (block.lastFieldAt memory) ∧
        block.calculateHashAt primitives outcomes memory =
          hashData primitives outcomes (block.formattedTextAt memory).bytes) ∧
    (∀ memory : List UInt8, 0 ∈ fieldOf memory offsetAcPubkey maxKeyLength →
      StoredWhole sizeofDataBuffer (accessControlRequest (accessControlMessageAt memory))
          (accessControlMessageAt memory).pubkey ∧
        accessControlText (accessControlMessageAt memory) =
          accessControlRequest (accessControlMessageAt memory) ∧
        ∀ primitives outcomes paramTypes state repo,
          accessControlChecks primitives outcomes paramTypes (accessControlMessageAt memory) state =
              .ok repo →
            verifySignature primitives outcomes.verify
              (accessControlRequest (accessControlMessageAt memory))
              (accessControlMessageAt memory).sigkey (accessControlMessageAt memory).signature =
              .ok ()) ∧
    (∀ memory : List UInt8, 0 ∈ fieldOf memory offsetCmCommitHash maxHashLength →
      StoredWhole sizeofDataBuffer (commitRequest (commitMessageAt memory))
          (commitMessageAt memory).commitHash ∧
        commitText (commitMessageAt memory) = commitRequest (commitMessageAt memory) ∧
        ∀ primitives outcomes paramTypes state repo,
          commitChecks primitives outcomes paramTypes (commitMessageAt memory) state = .ok repo →
            verifySignature primitives outcomes.verify (commitRequest (commitMessageAt memory))
              (commitMessageAt memory).sigkey (commitMessageAt memory).signature = .ok ()) := by
  refine ⟨?_, ?_, ?_, ?_⟩
  · intro primitives outcomes block
    refine ⟨block.formattedText_stored, ?_⟩
    rw [Block.calculateHash_eq, Block.dataBuffer_eq_formattedText]
  · intro primitives outcomes memory block
    refine ⟨block.formattedTextAt_stored memory, ?_⟩
    rw [Block.calculateHashAt, Block.dataBufferAt_eq_formattedTextAt]
  · intro memory terminated
    have fits : (accessControlMessageAt memory).pubkey.length < maxKeyLength :=
      length_stringAt_lt terminated
    have whole := accessControlText_eq fits
    refine ⟨accessControlRequest_stored fits, whole, ?_⟩
    intro primitives outcomes paramTypes state repo passed
    rw [← whole]
    exact (accessControlChecks_eq_ok_iff.mp passed).verified
  · intro memory terminated
    have fits : (commitMessageAt memory).commitHash.length < maxHashLength :=
      length_stringAt_lt terminated
    have whole := commitText_eq fits
    refine ⟨commitRequest_stored fits, whole, ?_⟩
    intro primitives outcomes paramTypes state repo passed
    rw [← whole]
    exact (commitChecks_eq_ok_iff.mp passed).verified

/-- The request to make `k` an admin of repository 0, and a push of `c` to it. -/
def Sample.accessMemory : List UInt8 := [0, 0, 0, 0, 0, 0, 0, 0, 1, 0, 0, 0, 107, 0]

def Sample.commitMemory : List UInt8 := [0, 0, 0, 0, 2, 0, 0, 0, 99, 0]

theorem sample_texts_whole :
    accessControlText (accessControlMessageAt Sample.accessMemory) = .literal "0:0:1:k" ∧
      commitText (commitMessageAt Sample.commitMemory) = .literal "0:2:c" :=
  ⟨(formatted_texts_whole.2.2.1 Sample.accessMemory (by decide)).2.1.trans (by decide),
    (formatted_texts_whole.2.2.2 Sample.commitMemory (by decide)).2.1.trans (by decide)⟩

end Ta
end TrustChain
