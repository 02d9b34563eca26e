import TrustChain.Host.Transparency
import TrustChain.Library.JsonText
import TrustChain.Ta.ReturnedBlock

namespace TrustChain
namespace Host

open Library Tee

/-!
# The answer to `init-repo`

`handle_init_repo` prints the genesis block between quotes and braces, and
`send_json_response` puts an HTTP head in front.  Both print into 2048 bytes,
which is enough for every block that can come back.  What the answer lacks is an
escape: the key of the founder is printed as it is, twice.
-/

/-! ## `send_json_response` -/

/-- The lines in front of the body. -/
def httpHead (statusCode contentLength : Nat) : CString :=
  .literal "HTTP/1.1 " ++ decimal statusCode ++ .literal " OK\r\n" ++
    .literal "Content-Type: application/json\r\n" ++
    .literal "Access-Control-Allow-Origin: *\r\n" ++
    .literal "Access-Control-Allow-Methods: GET, POST, OPTIONS\r\n" ++
    .literal "Access-Control-Allow-Headers: Content-Type\r\n" ++
    .literal "Content-Length: " ++ decimal contentLength ++ .literal "\r\n" ++ .literal "\r\n"

/-- `send_json_response`: what is written to the socket. -/
def sendJsonResponse (reply : Reply) : CString :=
  (httpHead reply.status reply.json.length ++ reply.json).snprintf 2048

theorem length_httpHead_le {contentLength : Nat} (bound : contentLength < 10000) :
    (httpHead 200 contentLength).length ≤ 203 := by
  have digits : (decimal contentLength).length ≤ 4 := by
    change ((decimalDigits contentLength).map digitByte).length ≤ 4
    rw [List.length_map]
    exact decimalDigits_length_le (by decide) bound
  have status : (decimal 200).length = 3 := by decide
  have first : (CString.literal "HTTP/1.1 ").length = 9 := by decide
  have ok : (CString.literal " OK\r\n").length = 5 := by decide
  have contentType : (CString.literal "Content-Type: application/json\r\n").length = 32 := by decide
  have origin : (CString.literal "Access-Control-Allow-Origin: *\r\n").length = 32 := by decide
  have methods :
      (CString.literal "Access-Control-Allow-Methods: GET, POST, OPTIONS\r\n").length = 50 := by
    decide
  have headers : (CString.literal "Access-Control-Allow-Headers: Content-Type\r\n").length = 44 := by
    decide
  have length : (CString.literal "Content-Length: ").length = 16 := by decide
  have newline : (CString.literal "\r\n").length = 2 := by decide
  unfold httpHead
  simp only [CString.length_append, status, first, ok, contentType, origin, methods, headers,
    length, newline]
  omega

/-! ## The body -/

/-- The fields of `genesis_block` as the conversions of the format find them. -/
structure ShownBlock where
  blockHeight : UInt32
  parentHash : CString
  op : UInt32
  sigkey : CString
  signature : CString
  trustTimestamp : Nat
  teeSig : CString
  role : UInt32
  pubkey : CString

namespace ShownBlock

def ofMemory (genesisBlock : List UInt8) : ShownBlock where
  blockHeight := Ta.uint32At genesisBlock 0
  parentHash := Ta.stringAt genesisBlock 4
  op := Ta.uint32At genesisBlock 68
  sigkey := Ta.stringAt genesisBlock 72
  signature := Ta.stringAt genesisBlock 584
  trustTimestamp := (Ta.uint32At genesisBlock 1096).toNat +
    2 ^ 32 * (Ta.uint32At genesisBlock 1100).toNat
  teeSig := Ta.stringAt genesisBlock 1104
  role := Ta.uint32At genesisBlock 1616
  pubkey := Ta.stringAt genesisBlock 1620

/-- The body before it is cut to its buffer. -/
def text (shown : ShownBlock) (repoId : UInt32) : CString :=
  .literal "\x7b\"status\":\"success\",\"repository_id\":" ++ decimal repoId.toNat ++
    .literal ",\"genesis_block\":\x7b\"block_height\":" ++ decimal shown.blockHeight.toNat ++
    .literal ",\"parent_hash\":\"" ++ shown.parentHash ++
    .literal "\",\"op\":" ++ decimal shown.op.toNat ++
    .literal ",\"sigkey\":\"" ++ shown.sigkey ++
    .literal "\",\"signature\":\"" ++ shown.signature ++
    .literal "\",\"trust_timestamp\":" ++ decimal shown.trustTimestamp ++
    .literal ",\"tee_sig\":\"" ++ shown.teeSig ++
    .literal "\",\"role\":" ++ decimal shown.role.toNat ++
    .literal ",\"pubkey\":\"" ++ shown.pubkey ++
    .literal "\"\x7d\x7d"

/-! The value that the body should be a text of. -/

def name (text : String) : List UInt8 := (CString.literal text).bytes

def number (value : Nat) : JsonText.Value := .integer value

def members (shown : ShownBlock) : List (List UInt8 × JsonText.Value) :=
  [(name "block_height", number shown.blockHeight.toNat),
    (name "parent_hash", .string shown.parentHash.bytes),
    (name "op", number shown.op.toNat),
    (name "sigkey", .string shown.sigkey.bytes),
    (name "signature", .string shown.signature.bytes),
    (name "trust_timestamp", number shown.trustTimestamp),
    (name "tee_sig", .string shown.teeSig.bytes),
    (name "role", number shown.role.toNat),
    (name "pubkey", .string shown.pubkey.bytes)]

def answer (shown : ShownBlock) (repoId : UInt32) : List (List UInt8 × JsonText.Value) :=
  [(name "status", .string (name "success")), (name "repository_id", number repoId.toNat),
    (name "genesis_block", .object shown.members)]

theorem render_number (value : Nat) : JsonText.render (number value) = (decimal value).bytes := by
  have positive : ¬ (value : Int) < 0 := by omega
  rw [number, JsonText.render, JsonText.renderInteger, if_neg positive, Int.natAbs_natCast]

/-- The body is the value, written without escapes. -/
theorem render_answer (shown : ShownBlock) (repoId : UInt32) :
    JsonText.render (.object (shown.answer repoId)) = (shown.text repoId).bytes := by
  have status : (CString.literal "\x7b\"status\":\"success\",\"repository_id\":").bytes =
      123 :: 34 :: (name "status" ++ 34 :: 58 :: 34 :: (name "success" ++
        34 :: 44 :: 34 :: (name "repository_id" ++ [34, 58]))) := rfl
  have genesisBlock : (CString.literal ",\"genesis_block\":\x7b\"block_height\":").bytes =
      44 :: 34 :: (name "genesis_block" ++
        34 :: 58 :: 123 :: 34 :: (name "block_height" ++ [34, 58])) := rfl
  have parentHash : (CString.literal ",\"parent_hash\":\"").bytes =
      44 :: 34 :: (name "parent_hash" ++ [34, 58, 34]) := rfl
  have op : (CString.literal "\",\"op\":").bytes = 34 :: 44 :: 34 :: (name "op" ++ [34, 58]) := rfl
  have sigkey : (CString.literal ",\"sigkey\":\"").bytes =
      44 :: 34 :: (name "sigkey" ++ [34, 58, 34]) := rfl
  have signature : (CString.literal "\",\"signature\":\"").bytes =
      34 :: 44 :: 34 :: (name "signature" ++ [34, 58, 34]) := rfl
  have trustTimestamp : (CString.literal "\",\"trust_timestamp\":").bytes =
      34 :: 44 :: 34 :: (name "trust_timestamp" ++ [34, 58]) := rfl
  have teeSig : (CString.literal ",\"tee_sig\":\"").bytes =
      44 :: 34 :: (name "tee_sig" ++ [34, 58, 34]) := rfl
  have role : (CString.literal "\",\"role\":").bytes =
      34 :: 44 :: 34 :: (name "role" ++ [34, 58]) := rfl
  have pubkey : (CString.literal ",\"pubkey\":\"").bytes =
      44 :: 34 :: (name "pubkey" ++ [34, 58, 34]) := rfl
  have closed : (CString.literal "\"\x7d\x7d").bytes = [34, 125, 125] := rfl
  simp only [answer, members, text, JsonText.render, JsonText.renderMembers, JsonText.quoted,
    render_number, CString.bytes_append, status, genesisBlock, parentHash, op, sigkey, signature,
    trustTimestamp, teeSig, role, pubkey, closed, List.isEmpty_cons, List.isEmpty_nil,
    Bool.false_eq_true, if_false, if_true, List.append_assoc, List.cons_append, List.nil_append]

/-- How much is printed around the fields. -/
theorem length_text (shown : ShownBlock) (repoId : UInt32) :
    (shown.text repoId).length = 173 + (decimal repoId.toNat).length +
      (decimal shown.blockHeight.toNat).length + shown.parentHash.length +
      (decimal shown.op.toNat).length + shown.sigkey.length + shown.signature.length +
      (decimal shown.trustTimestamp).length + shown.teeSig.length +
      (decimal shown.role.toNat).length + shown.pubkey.length := by
  have status :
      (CString.literal "\x7b\"status\":\"success\",\"repository_id\":").length = 36 := by decide
  have genesisBlock :
      (CString.literal ",\"genesis_block\":\x7b\"block_height\":").length = 33 := by decide
  have parentHash : (CString.literal ",\"parent_hash\":\"").length = 16 := by decide
  have op : (CString.literal "\",\"op\":").length = 7 := by decide
  have sigkey : (CString.literal ",\"sigkey\":\"").length = 11 := by decide
  have signature : (CString.literal "\",\"signature\":\"").length = 15 := by decide
  have trustTimestamp : (CString.literal "\",\"trust_timestamp\":").length = 20 := by decide
  have teeSig : (CString.literal ",\"tee_sig\":\"").length = 12 := by decide
  have role : (CString.literal "\",\"role\":").length = 9 := by decide
  have pubkey : (CString.literal ",\"pubkey\":\"").length = 11 := by decide
  have closed : (CString.literal "\"\x7d\x7d").length = 3 := by decide
  unfold text
  simp only [CString.length_append, status, genesisBlock, parentHash, op, sigkey, signature,
    trustTimestamp, teeSig, role, pubkey, closed]
  omega

/-! ## Which texts show the block -/

/-- The members of the answer are there: the repository, and in `genesis_block`
each field of the block. -/
structure ShownBy (shown : ShownBlock) (repoId : UInt32) (value : JsonText.Value) : Prop where
  status : value.get (name "status") = some (.string (name "success"))
  repositoryId : value.get (name "repository_id") = some (number repoId.toNat)
  genesisBlock : ∃ genesis, value.get (name "genesis_block") = some genesis ∧
    ∀ key field, (key, field) ∈ shown.members → genesis.get key = some field

theorem shownBy_answer (shown : ShownBlock) (repoId : UInt32) :
    shown.ShownBy repoId (.object (shown.answer repoId)) where
  status := rfl
  repositoryId := rfl
  genesisBlock := by
    refine ⟨.object shown.members, rfl, ?_⟩
    intro key field member
    simp only [members, List.mem_cons, Prod.mk.injEq, List.not_mem_nil, or_false] at member
    rcases member with ⟨rfl, rfl⟩ | ⟨rfl, rfl⟩ | ⟨rfl, rfl⟩ | ⟨rfl, rfl⟩ | ⟨rfl, rfl⟩ |
      ⟨rfl, rfl⟩ | ⟨rfl, rfl⟩ | ⟨rfl, rfl⟩ | ⟨rfl, rfl⟩
    all_goals rfl

theorem exists_object_of_get {key : List UInt8} {value found : JsonText.Value}
    (got : value.get key = some found) : ∃ members, value = .object members := by
  cases value with
  | object members => exact ⟨members, rfl⟩
  | null => cases got
  | bool value => cases got
  | integer value => cases got
  | real text => cases got
  | string text => cases got
  | array elements => cases got

theorem ShownBy.covers {shown : ShownBlock} {repoId : UInt32} {value : JsonText.Value}
    (shows : shown.ShownBy repoId value) :
    JsonText.Covers value (.object (shown.answer repoId)) := by
  rcases shows.genesisBlock with ⟨genesis, found, fields⟩
  rcases exists_object_of_get found with ⟨outer, rfl⟩
  have first : genesis.get (name "op") = some (number shown.op.toNat) :=
    fields _ _ (by simp [members])
  rcases exists_object_of_get first with ⟨inner, rfl⟩
  have genesisCovers : JsonText.Covers (.object inner) (.object shown.members) := by
    have names : (shown.members.map Prod.fst).Nodup := by
      change [name "block_height", name "parent_hash", name "op", name "sigkey", name "signature",
        name "trust_timestamp", name "tee_sig", name "role", name "pubkey"].Nodup
      decide
    refine .object (fun key => ((JsonText.Value.object inner).get key).getD .null) names ?_ ?_
    · intro key field member
      rw [fields key field member]
      rfl
    · intro key field member
      rw [fields key field member]
      exact .same field
  have names : ((shown.answer repoId).map Prod.fst).Nodup := by
    change [name "status", name "repository_id", name "genesis_block"].Nodup
    decide
  refine .object (fun key => ((JsonText.Value.object outer).get key).getD .null) names ?_ ?_
  · intro key field member
    simp only [answer, List.mem_cons, Prod.mk.injEq, List.not_mem_nil, or_false] at member
    rcases member with ⟨rfl, rfl⟩ | ⟨rfl, rfl⟩ | ⟨rfl, rfl⟩
    · rw [shows.status]
      rfl
    · rw [shows.repositoryId]
      rfl
    · rw [found]
      rfl
  · intro key field member
    simp only [answer, List.mem_cons, Prod.mk.injEq, List.not_mem_nil, or_false] at member
    rcases member with ⟨rfl, rfl⟩ | ⟨rfl, rfl⟩ | ⟨rfl, rfl⟩
    · rw [shows.status]
      exact .same _
    · rw [shows.repositoryId]
      exact .same _
    · rw [found]
      exact genesisCovers

/-- The characters of the body that need an escape are those of the strings of
the block. -/
theorem escapes_answer (shown : ShownBlock) (repoId : UInt32) :
    JsonText.escapes (.object (shown.answer repoId)) = 0 ↔
      JsonText.PlainText shown.parentHash.bytes ∧ JsonText.PlainText shown.sigkey.bytes ∧
        JsonText.PlainText shown.signature.bytes ∧ JsonText.PlainText shown.teeSig.bytes ∧
        JsonText.PlainText shown.pubkey.bytes := by
  have names : ∀ key ∈ [name "status", name "success", name "repository_id", name "genesis_block",
      name "block_height", name "parent_hash", name "op", name "sigkey", name "signature",
      name "trust_timestamp", name "tee_sig", name "role", name "pubkey"],
      key.countP (fun c => JsonText.Special c) = 0 := by
    decide
  simp only [List.forall_mem_cons] at names
  simp only [answer, members, number, JsonText.escapes, JsonText.memberEscapes, names,
    ← JsonText.plainText_iff]
  omega

/-- The body can be read as the answer exactly when no string of the block needs
an escape. -/
theorem exists_shownBy_iff (shown : ShownBlock) (repoId : UInt32) :
    (∃ value, JsonText.parse (shown.text repoId).bytes = some value ∧
        shown.ShownBy repoId value) ↔
      JsonText.escapes (.object (shown.answer repoId)) = 0 := by
  have integral : JsonText.Integral (.object (shown.answer repoId)) := by
    simp [answer, members, number, JsonText.Integral, JsonText.IntegralMembers]
  rw [← render_answer]
  constructor
  · rintro ⟨value, parsed, shows⟩
    exact (JsonText.exists_covers_iff integral).mp ⟨value, parsed, shows.covers⟩
  · intro plain
    exact ⟨_, JsonText.parse_render integral plain, shown.shownBy_answer repoId⟩

end ShownBlock

/-- The handler prints what it finds in memory, into its buffer. -/
theorem initRepoResponse_eq (repoId : UInt32) (genesisBlock : List UInt8) :
    initRepoResponse repoId genesisBlock =
      ((ShownBlock.ofMemory genesisBlock).text repoId).snprintf 2048 := rfl

/-! ## The block that comes back -/

namespace ShownBlock

/-- A block of the trusted application, with the role that its structure holds. -/
def ofBlock (block : Ta.AccessBlock) (role : UInt32) : ShownBlock where
  blockHeight := block.base.blockHeight
  parentHash := block.base.parentHash
  op := block.base.op
  sigkey := block.base.sigkey
  signature := block.base.signature
  trustTimestamp := block.base.trustTimestamp.seconds.toNat +
    2 ^ 32 * block.base.trustTimestamp.millis.toNat
  teeSig := block.base.teeSig
  role := role
  pubkey := block.pubkey

/-- The strings of a block have the lengths of a genesis block. -/
structure GenesisLengths (block : Ta.AccessBlock) : Prop where
  parentHash : block.base.parentHash.length = Ta.maxHashLength
  op : block.base.op.toNat % 256 = 0
  sigkey : block.base.sigkey.length < Ta.maxKeyLength
  signature : block.base.signature.length < Ta.maxSignatureLength
  teeSig : block.base.teeSig.length = Ta.maxSignatureLength
  pubkey : block.pubkey.length < Ta.maxKeyLength

/-- The role in the structure that is handed back. -/
def returnedRole (block : Ta.AccessBlock) (stack : Region) : UInt32 :=
  Ta.uint32At ((Ta.Block.access block).returnedBytes stack) Ta.offsetRole

theorem returnedRole_eq (block : Ta.AccessBlock) (stack : Region) :
    returnedRole block stack = (block.sealedAt stack).readUInt32 Ta.offsetRole := by
  have alone := Ta.uint32At_read_append (block.sealedAt stack) []
    (by decide : Ta.offsetRole + 4 ≤ Ta.sizeofAccessBlock)
  rw [List.append_nil, ← block.returnedBytes_eq stack] at alone
  exact alone

/-- The conversions find the fields of the block. -/
theorem ofMemory_returned {block : Ta.AccessBlock} (lengths : GenesisLengths block)
    (stack : Region) (rest : List UInt8) :
    ofMemory ((Ta.Block.access block).returnedBytes stack ++ rest) =
      ofBlock block (returnedRole block stack) := by
  have integers := block.readUInt32_sealedAt stack
  have strings := block.readString_sealedAt stack lengths.sigkey lengths.signature lengths.teeSig
  have parentHash := block.readString_parentHash_sealedAt stack lengths.parentHash lengths.op
  have pubkey := block.readString_pubkey_sealedAt stack lengths.pubkey lengths.teeSig
  have role := returnedRole_eq block stack
  have height : Ta.uint32At ((Ta.Block.access block).returnedBytes stack ++ rest) 0 =
      block.base.blockHeight :=
    (Ta.uint32At_read_append _ rest
      (by decide : Ta.offsetBlockHeight + 4 ≤ Ta.sizeofAccessBlock)).trans integers.1
  have hash : Ta.stringAt ((Ta.Block.access block).returnedBytes stack ++ rest) 4 =
      block.base.parentHash :=
    Ta.stringAt_read_append _ rest
      (by decide : Ta.offsetParentHash + (Ta.maxHashLength + 1) ≤ Ta.sizeofAccessBlock) parentHash
      (Nat.lt_succ_of_le (Nat.le_of_eq lengths.parentHash))
  have op : Ta.uint32At ((Ta.Block.access block).returnedBytes stack ++ rest) 68 =
      block.base.op :=
    (Ta.uint32At_read_append _ rest
      (by decide : Ta.offsetOp + 4 ≤ Ta.sizeofAccessBlock)).trans integers.2.1
  have sigkey : Ta.stringAt ((Ta.Block.access block).returnedBytes stack ++ rest) 72 =
      block.base.sigkey :=
    Ta.stringAt_read_append _ rest
      (by decide : Ta.offsetSigkey + Ta.maxKeyLength ≤ Ta.sizeofAccessBlock) strings.1
      lengths.sigkey
  have signature : Ta.stringAt ((Ta.Block.access block).returnedBytes stack ++ rest) 584 =
      block.base.signature :=
    Ta.stringAt_read_append _ rest
      (by decide : Ta.offsetSignature + Ta.maxSignatureLength ≤ Ta.sizeofAccessBlock) strings.2.1
      lengths.signature
  have seconds : Ta.uint32At ((Ta.Block.access block).returnedBytes stack ++ rest) 1096 =
      block.base.trustTimestamp.seconds :=
    (Ta.uint32At_read_append _ rest
      (by decide : Ta.offsetSeconds + 4 ≤ Ta.sizeofAccessBlock)).trans integers.2.2.1
  have millis : Ta.uint32At ((Ta.Block.access block).returnedBytes stack ++ rest) 1100 =
      block.base.trustTimestamp.millis :=
    (Ta.uint32At_read_append _ rest
      (by decide : Ta.offsetMillis + 4 ≤ Ta.sizeofAccessBlock)).trans integers.2.2.2
  have teeSig : Ta.stringAt ((Ta.Block.access block).returnedBytes stack ++ rest) 1104 =
      block.base.teeSig :=
    Ta.stringAt_read_append _ rest
      (by decide : Ta.offsetTeeSig + (Ta.maxSignatureLength + 1) ≤ Ta.sizeofAccessBlock)
      strings.2.2 (Nat.lt_succ_of_le (Nat.le_of_eq lengths.teeSig))
  have inBlock : Ta.uint32At ((Ta.Block.access block).returnedBytes stack ++ rest) 1616 =
      returnedRole block stack :=
    (Ta.uint32At_read_append _ rest
      (by decide : Ta.offsetRole + 4 ≤ Ta.sizeofAccessBlock)).trans role.symm
  have key : Ta.stringAt ((Ta.Block.access block).returnedBytes stack ++ rest) 1620 =
      block.pubkey :=
    Ta.stringAt_read_append _ rest
      (by decide : Ta.offsetPubkey + Ta.maxKeyLength ≤ Ta.sizeofAccessBlock) pubkey lengths.pubkey
  simp only [ofMemory, ofBlock, height, hash, op, sigkey, signature, seconds, millis, teeSig,
    inBlock, key]

end ShownBlock

/-- A genesis block of the trusted application: everything but the time and the
signature is fixed by the key. -/
theorem exists_teeSig_of_created {primitives : Primitives} {store : Ta.KeyStore}
    {calls : List Ta.Call} {outcomes : Ta.CallOutcomes} {adminKey : CString} {repId : UInt32}
    {block : Ta.AccessBlock}
    (created : (Ta.trustedApplication primitives store).answer
      ((Ta.trustedApplication primitives store).run calls) (.requestInit outcomes adminKey) =
        .ok (.genesis repId block)) :
    repId.toNat < Ta.maxRepoId ∧ ∃ signature : List UInt8, signature.length = 256 ∧
      block = (Ta.genesisBlock Ta.zeroHash adminKey outcomes.time).withTeeSig
        (Ta.bytesToHexString signature) := by
  have effect := Ta.step_effect primitives ((Ta.trustedApplication primitives store).run calls)
    (.requestInit outcomes adminKey) (Ta.run_tableInvariant primitives store calls).free
  have answer : (Ta.taInvokeCommandEntryPoint primitives
      ((Ta.trustedApplication primitives store).run calls)
      (.requestInit outcomes adminKey)).1 = .ok (.genesis repId block) := created
  rw [answer] at effect
  generalize (Ta.taInvokeCommandEntryPoint primitives
    ((Ta.trustedApplication primitives store).run calls) (.requestInit outcomes adminKey)).2 =
      after at effect
  cases effect with
  | created teeSig after isCommand inside signed =>
      rcases Ta.teeSignHash_eq_ok_iff.mp signed.signed with ⟨hashBytes, keyPair, _, _, digest⟩
      refine ⟨inside, (primitives.rsaSign keyPair hashBytes).toList,
        List.Vector.toList_length _, ?_⟩
      rw [← (Ta.signDigest_eq_ok_iff.mp digest).2]
      rfl

theorem plainText_hex (bytes : List UInt8) :
    JsonText.PlainText (Ta.bytesToHexString bytes).bytes := by
  intro c member
  rcases List.mem_flatMap.mp member with ⟨byte, _, inside⟩
  have range := Ta.hexByte_range inside
  rintro (quote | backslash | control)
  · rw [quote] at range
    exact absurd range (by decide)
  · rw [backslash] at range
    exact absurd range (by decide)
  · rcases range with digit | letter
    · exact absurd (UInt8.lt_of_le_of_lt digit.1 control) (by decide)
    · exact absurd (UInt8.lt_of_le_of_lt letter.1 control) (by decide)

/-- The block that the answer should show for a key. -/
def shownFor (adminKey : CString) (block : Ta.AccessBlock) (stack : Region) : ShownBlock :=
  { ShownBlock.ofBlock block (ShownBlock.returnedRole block stack) with
    sigkey := adminKey, pubkey := adminKey }

section Created

variable {adminKey : CString} {time : TeeTime} {signature : List UInt8}

/-- The block of a created repository. -/
def createdBlock (adminKey : CString) (time : TeeTime) (signature : List UInt8) : Ta.AccessBlock :=
  (Ta.genesisBlock Ta.zeroHash adminKey time).withTeeSig (Ta.bytesToHexString signature)

theorem genesisLengths_createdBlock (fits : adminKey.length < Ta.maxKeyLength)
    (size : signature.length = 256) :
    ShownBlock.GenesisLengths (createdBlock adminKey time signature) where
  parentHash := Ta.length_zeroHash
  op := rfl
  sigkey := fits
  signature := (by decide : (0 : Nat) < Ta.maxSignatureLength)
  teeSig := by
    change (Ta.bytesToHexString signature).length = Ta.maxSignatureLength
    rw [Ta.length_bytesToHexString, size]
    rfl
  pubkey := fits

/-- The key is the only string of the block that can need an escape. -/
theorem escapes_createdBlock (stack : Region) (repoId : UInt32) :
    JsonText.escapes (.object
        ((shownFor adminKey (createdBlock adminKey time signature) stack).answer repoId)) = 0 ↔
      JsonText.PlainText adminKey.bytes := by
  rw [ShownBlock.escapes_answer]
  constructor
  · intro plain
    exact plain.2.1
  · intro plain
    have zeros : JsonText.PlainText Ta.zeroHash.bytes := by
      intro c member
      rw [List.eq_of_mem_replicate member]
      decide
    have nothing : JsonText.PlainText CString.empty.bytes := by
      intro c impossible
      cases impossible
    exact ⟨zeros, plain, nothing, plainText_hex signature, plain⟩

/-- Neither the body nor the head and the body together fill 2048 bytes. -/
theorem length_createdBlock (fits : adminKey.length < Ta.maxKeyLength)
    (size : signature.length = 256) (stack : Region) {repoId : UInt32}
    (inside : repoId.toNat < Ta.maxRepoId) :
    ((shownFor adminKey (createdBlock adminKey time signature) stack).text repoId).length ≤
      1824 := by
  have lengths : ShownBlock.GenesisLengths (createdBlock adminKey time signature) :=
    genesisLengths_createdBlock fits size
  have digits : ∀ value width, 0 < width → value < 10 ^ width →
      (decimal value).length ≤ width := by
    intro value width positive bound
    change ((decimalDigits value).map digitByte).length ≤ width
    rw [List.length_map]
    exact decimalDigits_length_le positive bound
  have seconds := time.seconds.toNat_lt
  have millis := time.millis.toNat_lt
  have repository := digits repoId.toNat 3 (by decide) inside
  have timestamp := digits (time.seconds.toNat + 2 ^ 32 * time.millis.toNat) 20 (by decide)
    (by omega)
  have parentHash : Ta.zeroHash.length = 64 := Ta.length_zeroHash
  have teeSig : (Ta.bytesToHexString signature).length = 512 := lengths.teeSig
  have keyBound : adminKey.length < 512 := fits
  have height := decimal_uint32_length_le 1
  have op := decimal_uint32_length_le Ta.opAdd
  have role := decimal_uint32_length_le
    (ShownBlock.returnedRole (createdBlock adminKey time signature) stack)
  rw [ShownBlock.length_text]
  change 173 + (decimal repoId.toNat).length + (decimal (1 : UInt32).toNat).length +
    Ta.zeroHash.length + (decimal Ta.opAdd.toNat).length + adminKey.length + 0 +
    (decimal (time.seconds.toNat + 2 ^ 32 * time.millis.toNat)).length +
    (Ta.bytesToHexString signature).length +
    (decimal (ShownBlock.returnedRole (createdBlock adminKey time signature) stack).toNat).length +
    adminKey.length ≤ 1824
  omega

end Created

/-! ## The answer on the wire -/

/-- What is written to the socket is a head and this body: the whole text of the
block, as long as the head says, which a parser reads as the block. -/
structure WellFormedAnswer (wire : CString) (shown : ShownBlock) (repoId : UInt32)
    (body : CString) : Prop where
  sent : wire = httpHead 200 body.length ++ body
  complete : body = shown.text repoId
  parsed : ∃ value, JsonText.parse body.bytes = some value ∧ shown.ShownBy repoId value

/-- What the handler writes for a repository that has been created. -/
theorem sendJsonResponse_created {adminKey : CString} {time : TeeTime} {signature : List UInt8}
    (fits : adminKey.length < Ta.maxKeyLength) (size : signature.length = 256) (stack : Region)
    {repoId : UInt32} (inside : repoId.toNat < Ta.maxRepoId) (rest : List UInt8) :
    let body := (shownFor adminKey (createdBlock adminKey time signature) stack).text repoId
    sendJsonResponse ⟨200, initRepoResponse repoId
        ((Ta.Block.access (createdBlock adminKey time signature)).returnedBytes stack ++ rest)⟩ =
      httpHead 200 body.length ++ body := by
  intro body
  have bodyLength : body.length ≤ 1824 := length_createdBlock fits size stack inside
  have headLength : (httpHead 200 body.length).length ≤ 203 := length_httpHead_le (by omega)
  have shown : ShownBlock.ofMemory ((Ta.Block.access
      (createdBlock adminKey time signature)).returnedBytes stack ++ rest) =
        shownFor adminKey (createdBlock adminKey time signature) stack :=
    ShownBlock.ofMemory_returned (genesisLengths_createdBlock fits size) stack rest
  have printed : initRepoResponse repoId
      ((Ta.Block.access (createdBlock adminKey time signature)).returnedBytes stack ++ rest) =
        body := by
    rw [initRepoResponse_eq, shown]
    exact CString.snprintf_eq_self (Nat.lt_of_le_of_lt bodyLength (by decide))
  rw [printed, sendJsonResponse]
  apply CString.snprintf_eq_self
  rw [CString.length_append]
  change (httpHead 200 body.length).length + body.length < 2048
  omega

/-- The answer is well formed exactly when the key needs no escape. -/
theorem wellFormedAnswer_created_iff {adminKey : CString} {time : TeeTime}
    {signature : List UInt8} (fits : adminKey.length < Ta.maxKeyLength)
    (size : signature.length = 256) (stack : Region) {repoId : UInt32}
    (inside : repoId.toNat < Ta.maxRepoId) (rest : List UInt8) :
    (∃ body, WellFormedAnswer (sendJsonResponse ⟨200, initRepoResponse repoId
        ((Ta.Block.access (createdBlock adminKey time signature)).returnedBytes stack ++ rest)⟩)
        (shownFor adminKey (createdBlock adminKey time signature) stack) repoId body) ↔
      JsonText.PlainText adminKey.bytes := by
  rw [← escapes_createdBlock stack repoId, ← ShownBlock.exists_shownBy_iff]
  constructor
  · rintro ⟨body, wellFormed⟩
    rw [← wellFormed.complete]
    exact wellFormed.parsed
  · intro parsed
    exact ⟨_, sendJsonResponse_created fits size stack inside rest, rfl, parsed⟩

/-- For every request with a key that fits, and the block that the trusted
application returns for it, the answer of the service is complete and shows the
block exactly when the key has no quote, backslash or control character in it. -/
theorem init_repo_answer_well_formed_iff (jsonLoads : CString → Option Json) (locals : Locals)
    (primitives : Primitives) (store : Ta.KeyStore) (memory : SecureMemory) (calls : List Ta.Call)
    (body : CString) (root : Json) (loaded : jsonLoads body = some root)
    (isString : jsonIsString (jsonObjectGet root "admin_key") = true)
    (fits : (jsonStringValue (jsonObjectGet root "admin_key")).length < maxKeyLength)
    (outcomes : Ta.CallOutcomes) (repId : UInt32) (block : Ta.AccessBlock)
    (created : (Ta.trustedApplication primitives store).answer
      ((Ta.trustedApplication primitives store).run calls)
      (.requestInit outcomes (jsonStringValue (jsonObjectGet root "admin_key"))) =
        .ok (.genesis repId block)) :
    (∃ sent, WellFormedAnswer
        (sendJsonResponse (respond primitives outcomes memory
          ((Ta.trustedApplication primitives store).run calls)
          (handle jsonLoads locals (.initRepo body))).1)
        (shownFor (jsonStringValue (jsonObjectGet root "admin_key")) block memory.stack) repId
        sent) ↔
      JsonText.PlainText (jsonStringValue (jsonObjectGet root "admin_key")).bytes := by
  rcases respond_initRepo locals memory loaded isString created with ⟨rest, answered⟩
  rcases exists_teeSig_of_created created with ⟨inside, signature, size, rfl⟩
  rw [answered]
  exact wellFormedAnswer_created_iff fits size memory.stack inside rest

/-! A founder whose key is one letter, and one whose key has a line end in it. -/

theorem founding_answer_well_formed :
    ∃ block, (Ta.Sample.application.answer Ta.Sample.application.start Ta.Sample.creation) =
        .ok (.genesis 0 block) ∧
      ((∃ sent, WellFormedAnswer
          (sendJsonResponse (respond Ta.Sample.primitives (Ta.Sample.outcomes 0)
            Sample.secureMemory Ta.Sample.application.start
            (handle Sample.foundingLoads Sample.locals (.initRepo Sample.foundingBody))).1)
          (shownFor Ta.Sample.founder block Sample.secureMemory.stack) 0 sent) ↔
        JsonText.PlainText Ta.Sample.founder.bytes) := by
  have created : Ta.Sample.application.answer Ta.Sample.application.start Ta.Sample.creation =
      .ok (.genesis 0 (Ta.Sample.creation.genesis.withTeeSig Ta.Sample.signature)) := by
    decide +kernel
  refine ⟨_, created, ?_⟩
  exact init_repo_answer_well_formed_iff Sample.foundingLoads Sample.locals Ta.Sample.primitives
    (some Ta.Sample.keyPair) Sample.secureMemory [] Sample.foundingBody
    ⟨[(.literal "admin_key", .string Ta.Sample.founder)]⟩ (if_pos rfl) (by decide) (by decide)
    (Ta.Sample.outcomes 0) 0 _ created

/-- The body `{"admin_key": "a\nb"}`, and what a parser makes of it. -/
def Sample.twoLines : CString := .literal "a\nb"

def Sample.twoLinesBody : CString := .literal "\x7b\"admin_key\": \"a\\nb\"\x7d"

def Sample.twoLinesLoads (body : CString) : Option Json :=
  if body = twoLinesBody then some ⟨[(.literal "admin_key", .string twoLines)]⟩ else none

theorem two_lines_answer_malformed :
    ∃ block, (Ta.Sample.application.answer Ta.Sample.application.start
        (.requestInit (Ta.Sample.outcomes 0) Sample.twoLines)) = .ok (.genesis 0 block) ∧
      Sample.twoLines.length = 3 ∧
      ¬ ∃ sent, WellFormedAnswer
        (sendJsonResponse (respond Ta.Sample.primitives (Ta.Sample.outcomes 0)
          Sample.secureMemory Ta.Sample.application.start
          (handle Sample.twoLinesLoads Sample.locals (.initRepo Sample.twoLinesBody))).1)
        (shownFor Sample.twoLines block Sample.secureMemory.stack) 0 sent := by
  have created : Ta.Sample.application.answer Ta.Sample.application.start
      (.requestInit (Ta.Sample.outcomes 0) Sample.twoLines) = .ok (.genesis 0
        (createdBlock Sample.twoLines (Ta.Sample.outcomes 0).time
          ((Ta.Sample.primitives.rsaSign Ta.Sample.keyPair (List.replicate 32 1)).toList))) := by
    decide +kernel
  refine ⟨_, created, by decide, ?_⟩
  rintro ⟨sent, wellFormed⟩
  have parsed := wellFormed.parsed
  rw [wellFormed.complete, ShownBlock.exists_shownBy_iff] at parsed
  have plain : JsonText.PlainText Sample.twoLines.bytes :=
    (escapes_createdBlock Sample.secureMemory.stack 0).mp parsed
  exact plain 10 (by decide) (by decide)

end Host
end TrustChain
