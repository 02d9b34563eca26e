import TrustChain.Ta.Answers
import TrustChain.Ta.MetadataLayout

namespace TrustChain
namespace Ta

open Library Tee

/-!
# The founder's key along a run

The record of a repository has the hash and the founder's key side by side, and
their texts do not touch.  Here are the stores that the handlers make into the
structure, in their order, along a run.  What the next block takes of them, the
height and 64 characters of the hash, is what the record says.  The founder's
key is lost with the first hash, and nobody reads it; and a `commit` that
decrypts a key puts this key behind the hash.
-/

section Stores

variable (primitives : Primitives) (gap : Nat) (stack : Region)

/-- The key that is on the stack while the hash is stored: only `commit` has one. -/
def keyIn : TeeResult Output → CString
  | .ok (.contribution _ decryptedKey) => decryptedKey
  | _ => .empty

/-- What one command stores into the structure of this repository.  A command
that hands out no block for it stores nothing that stays. -/
def storeMetadata (repId : Nat) (memory : Region) (event : TaEvent) : Region :=
  match blockOf repId event with
  | none => memory
  | some block =>
      let found := foundBlockHash gap stack (block.hash primitives) (keyIn event.output)
      if event.input.cmdId = cmdInitRepo then
        storeGenesisHash (initMetadata memory event.input.params.adminKey) found
      else storeBlockHash memory found

/-- The memory of the structure after a run; `heap` is what it held before. -/
def metadataOf (repId : Nat) (heap : Region) (log : List TaEvent) : Region :=
  log.foldl (storeMetadata primitives gap stack repId) heap

theorem metadataOf_snoc (repId : Nat) (heap : Region) (log : List TaEvent) (event : TaEvent) :
    metadataOf primitives gap stack repId heap (log ++ [event]) =
      storeMetadata primitives gap stack repId (metadataOf primitives gap stack repId heap log)
        event := by
  unfold metadataOf
  rw [List.foldl_append]
  rfl

variable {repId : Nat}

/-- What stands in the field after a block, by each of the three handlers. -/
theorem metadataReads_of_block {event : TaEvent} {block : Block}
    (built : blockOf repId event = some block) (memory : Region) :
    MetadataReads (storeMetadata primitives gap stack repId memory event)
      (foundBlockHash gap stack (block.hash primitives) (keyIn event.output)) := by
  unfold storeMetadata
  rw [built]
  by_cases isInit : event.input.cmdId = cmdInitRepo
  · simp only [if_pos isInit]
    exact metadataReads_strcpy _ _
  · simp only [if_neg isInit]
    exact metadataReads_storeBlockHash memory _

/-! ## The record of the repository -/

variable {primitives}

/-- What is read of the structure is what the record of the repository says. -/
structure MetadataAgrees (memory : Region) (repo : RepoMetadata) : Prop where
  blockHeight : heightIn memory = repo.blockHeight
  latestHash : hashIn memory = repo.latestHash

theorem metadataAgrees_of_created (memory : Region) (adminKey key : CString) {genesisHash : CString}
    (length : genesisHash.length = maxHashLength) :
    MetadataAgrees (storeGenesisHash (initMetadata memory adminKey)
      (foundBlockHash gap stack genesisHash key)) (newRepository adminKey genesisHash) where
  blockHeight := by
    rw [heightIn_storeGenesisHash, initMetadata, heightIn_fillMetadata]
    rfl
  latestHash := by
    rw [storeGenesisHash, (metadataReads_strcpy _ _).hashIn_eq]
    exact take_foundBlockHash gap stack key length

theorem MetadataAgrees.append {memory : Region} {repo : RepoMetadata}
    (agrees : MetadataAgrees memory repo) (key : CString) {blockHash : CString}
    (length : blockHash.length = maxHashLength) :
    MetadataAgrees (storeBlockHash memory (foundBlockHash gap stack blockHash key))
      (repo.append blockHash) where
  blockHeight := by
    rw [heightIn_storeBlockHash, agrees.blockHeight]
    rfl
  latestHash := by
    rw [(metadataReads_storeBlockHash memory _).hashIn_eq]
    exact take_foundBlockHash gap stack key length

/-- One command keeps the agreement of each structure with its record. -/
theorem SlotStep.metadataAgrees {state after : TaState} {call : Call}
    {answer : TeeResult Output} {slot : Option RepoMetadata}
    (step : SlotStep primitives state call repId answer slot) (table : TableInvariant state)
    {memory : Region}
    (agrees : ∀ repo, state.slot repId = some repo → MetadataAgrees memory repo)
    {repo : RepoMetadata} (stored : slot = some repo) :
    MetadataAgrees (storeMetadata primitives gap stack repId memory ⟨state, call, answer, after⟩)
      repo := by
  have length : ∀ block : Block, (block.hash primitives).length = maxHashLength :=
    fun block => length_hashText primitives _
  unfold storeMetadata blockOf
  cases step with
  | untouched answer noBlock noUpdate =>
      rw [noBlock]
      exact agrees repo stored
  | created teeSig store isCommand here free signed =>
      cases stored
      rw [blockFor_genesis here]
      simp only [if_pos isCommand]
      exact metadataAgrees_of_created gap stack memory call.params.adminKey _ (length _)
  | interrupted before edited reply code here accepted updated fails =>
      cases stored
      rcases table.keyUpdate accepted updated with ⟨_, _, _, update⟩
      subst here
      have earlier := agrees before accepted.slot
      exact ⟨earlier.blockHeight.trans update.head.1.symm,
        earlier.latestHash.trans update.head.2.symm⟩
  | accessAppended before edited teeSig store here accepted updated signed =>
      cases stored
      rcases table.keyUpdate accepted updated with ⟨_, _, _, update⟩
      subst here
      have earlier := agrees before accepted.slot
      have kept : MetadataAgrees memory edited :=
        ⟨earlier.blockHeight.trans update.head.1.symm,
          earlier.latestHash.trans update.head.2.symm⟩
      have notInit : call.cmdId ≠ cmdInitRepo := fun isInit =>
        absurd (isInit.symm.trans accepted.1) (by decide)
      rw [blockFor_accessBlock]
      simp only [if_neg notInit]
      exact kept.append gap stack _ (length _)
  | contributionAppended before teeSig encryptedKey store here accepted signed =>
      cases stored
      subst here
      have notInit : call.cmdId ≠ cmdInitRepo := fun isInit =>
        absurd (isInit.symm.trans accepted.1) (by decide)
      rw [blockFor_contribution]
      simp only [if_neg notInit]
      exact (agrees before accepted.slot).append gap stack _ (length _)

end Stores

/-! ## Keys that are stored with a hash -/

/-- A `commit` on this repository that nothing stops, with an encrypted key that
is not the encryption of nothing. -/
def Call.BringsKey (primitives : Primitives) (state : TaState) (call : Call) (repId : Nat) :
    Prop :=
  call.AppendsContribution primitives state repId ∧
    ∃ key, (teeDecryptData primitives call.outcomes.decrypt call.params.encryptedKey none).1 =
      .ok key ∧ key ≠ .empty

section Runs

variable (primitives : Primitives) (gap : Nat) (stack : Region) (store : KeyStore) (heap : Region)

/-- Along every run the structures agree with their records. -/
theorem run_metadataAgrees (calls : List Call) (repId : Nat) {repo : RepoMetadata}
    (stored : ((trustedApplication primitives store).run calls).slot repId = some repo) :
    MetadataAgrees (metadataOf primitives gap stack repId heap
      ((trustedApplication primitives store).log calls)) repo := by
  induction calls using List.reverseRecOn generalizing repo with
  | nil =>
      change (initialState store).slot repId = some repo at stored
      rw [slot_initialState] at stored
      cases stored
  | append_singleton calls call ih =>
      rw [(trustedApplication primitives store).run_snoc] at stored
      rw [(trustedApplication primitives store).log_snoc, metadataOf_snoc]
      exact (run_slotStep primitives store calls call repId).metadataAgrees gap stack
        (run_tableInvariant primitives store calls) (fun before found => ih found) stored

/-- A commit that brings a key hands out a block and the key. -/
theorem keyIn_of_bringsKey {state : TaState} {call : Call} {repId : Nat}
    (brings : call.BringsKey primitives state repId) :
    ∃ block, blockFor repId call ((trustedApplication primitives store).answer state call) =
        some block ∧
      keyIn ((trustedApplication primitives store).answer state call) ≠ .empty := by
  rcases brings with ⟨⟨repo, accepted, rfl, seals, decrypts⟩, key, decrypted, nonempty⟩
  rcases (commit_ok_iff primitives state call accepted.1).mpr
    ⟨repo, accepted, rfl, seals, decrypts⟩ with ⟨output, answered⟩
  rcases commit_output primitives state call accepted.1 answered with ⟨block, text, rfl, again⟩
  have same : (.ok key : TeeResult CString) = .ok text := decrypted.symm.trans again
  cases same
  have answer : (trustedApplication primitives store).answer state call =
      .ok (.contribution block key) := answered
  rw [answer, blockFor_contribution]
  exact ⟨_, rfl, nonempty⟩

/-- Whoever is handed out a block and a key has brought the key. -/
theorem bringsKey_of_keyIn (calls : List Call) (call : Call) {repId : Nat} {block : Block}
    (built : blockFor repId call ((trustedApplication primitives store).answer
      ((trustedApplication primitives store).run calls) call) = some block)
    (key : keyIn ((trustedApplication primitives store).answer
      ((trustedApplication primitives store).run calls) call) ≠ .empty) :
    call.BringsKey primitives ((trustedApplication primitives store).run calls) repId := by
  have step := run_slotStep primitives store calls call repId
  have decrypts := commit_output primitives ((trustedApplication primitives store).run calls) call
  change ∀ _ {output}, (trustedApplication primitives store).answer
    ((trustedApplication primitives store).run calls) call = .ok output → _ at decrypts
  generalize (trustedApplication primitives store).answer _ call = answer at *
  generalize TaState.slot _ repId = slot at step
  cases step with
  | untouched answer noBlock noUpdate =>
      rw [noBlock] at built
      cases built
  | created teeSig store isCommand here free signed => exact absurd rfl key
  | interrupted repo edited reply code here accepted updated fails => cases built
  | accessAppended repo edited teeSig store here accepted updated signed => exact absurd rfl key
  | contributionAppended repo teeSig encryptedKey store here accepted signed =>
      rcases decrypts accepted.1 rfl with ⟨_, text, same, decrypted⟩
      cases same
      exact ⟨⟨repo, accepted, here.symm, ⟨signed.hashed, signed.signs⟩, encryptedKey, decrypted⟩,
        encryptedKey, decrypted, key⟩

/-- From the first block on, a hash stands in the structure, and behind it the
key that the last block came with. -/
theorem run_metadataReads (earlier : List Call) (creation : Call) {repId : Nat}
    {block : AccessBlock} {created : UInt32}
    (answered : (trustedApplication primitives store).answer
      ((trustedApplication primitives store).run earlier) creation = .ok (.genesis created block))
    (here : repId = created.toNat) (later : List Call) :
    ∃ data key, MetadataReads (metadataOf primitives gap stack repId heap
        ((trustedApplication primitives store).log (earlier ++ creation :: later)))
          (foundBlockHash gap stack (hashText primitives data) key) ∧
      ((∀ soFar call, soFar ++ [call] <+: later → ¬ call.BringsKey primitives
        ((trustedApplication primitives store).run (earlier ++ creation :: soFar)) repId) →
          key = .empty) := by
  induction later using List.reverseRecOn with
  | nil =>
      have first : blockOf repId ((trustedApplication primitives store).event
          ((trustedApplication primitives store).run earlier) creation) =
            some (.access block) := by
        change blockFor repId creation ((trustedApplication primitives store).answer _ creation) = _
        rw [answered]
        exact blockFor_genesis here creation block
      rw [(trustedApplication primitives store).log_snoc, metadataOf_snoc]
      refine ⟨_, _, metadataReads_of_block primitives gap stack first _, fun _ => ?_⟩
      change keyIn ((trustedApplication primitives store).answer _ creation) = .empty
      rw [answered]
      rfl
  | append_singleton later call ih =>
      rw [← List.cons_append, ← List.append_assoc, (trustedApplication primitives store).log_snoc,
        metadataOf_snoc]
      cases now : blockOf repId ((trustedApplication primitives store).event
          ((trustedApplication primitives store).run (earlier ++ creation :: later)) call) with
      | none =>
          rcases ih with ⟨data, key, reads, nothing⟩
          refine ⟨data, key, ?_, fun none => nothing fun soFar next inside =>
            none soFar next (inside.trans (List.prefix_append later [call]))⟩
          unfold storeMetadata
          rw [now]
          exact reads
      | some newest =>
          refine ⟨_, _, metadataReads_of_block primitives gap stack now _, fun none => ?_⟩
          by_contra nonempty
          exact none later call List.prefix_rfl
            (bringsKey_of_keyIn primitives store (earlier ++ creation :: later) call now nonempty)

end Runs

/-! ## The founder's key -/

theorem isHexDigit_of_hashText {primitives : Primitives} {data : List UInt8} {c : UInt8}
    (member : c ∈ (hashText primitives data).bytes) : IsHexDigit c := by
  rcases List.mem_flatMap.mp member with ⟨byte, _, inside⟩
  rcases hexByte_range inside with digit | letter
  · exact Or.inl digit
  · exact Or.inr (Or.inl letter)

/-- The two texts of the structure, read as C strings: the founder's key, and a
hash of 64 hexadecimal characters. -/
structure MetadataKept (memory : Region) (adminKey : CString) : Prop where
  founderKey : memory.readString offsetRmFounderKey maxKeyLength = adminKey
  latestHash : ∃ hash, (∀ limit, maxHashLength < limit →
      memory.readString offsetRmLatestHash limit = hash) ∧
    hash.length = maxHashLength ∧ ∀ c ∈ hash.bytes, IsHexDigit c

/-- The terminator of a hash is the end of the founder's key. -/
theorem MetadataReads.founderKey_eq {memory : Region} {text : CString}
    (reads : MetadataReads memory text) (alone : text.length = maxHashLength) :
    memory.readString offsetRmFounderKey maxKeyLength = .empty := by
  have zero := reads.terminator
  rw [alone] at zero
  exact Region.readString_of_zero zero maxKeyLength

/-- The hash reads back unless a key follows it, and then the founder's key does
only if it is empty. -/
theorem MetadataReads.kept_iff {primitives : Primitives} {gap : Nat} {stack memory : Region}
    {data : List UInt8} {key : CString}
    (reads : MetadataReads memory (foundBlockHash gap stack (hashText primitives data) key))
    (adminKey : CString) :
    MetadataKept memory adminKey ↔ adminKey = .empty ∧ (gap = 0 → key = .empty) := by
  have length := length_hashText primitives data
  rw [← length_foundBlockHash_iff gap stack key length]
  have founder := reads.founderKey_eq
  constructor
  · intro kept
    rcases kept.latestHash with ⟨hash, found, exactly, _⟩
    have one := found (maxHashLength + 1) (Nat.lt_succ_self _)
    rw [reads.latestHash] at one
    have alone : (foundBlockHash gap stack (hashText primitives data) key).length =
        maxHashLength := by
      have shorter := CString.length_take (maxHashLength + 1)
        (foundBlockHash gap stack (hashText primitives data) key)
      rw [one, exactly] at shorter
      omega
    refine ⟨?_, alone⟩
    rw [← kept.founderKey, founder alone]
  · rintro ⟨isEmpty, alone⟩
    have whole : foundBlockHash gap stack (hashText primitives data) key =
        hashText primitives data := by
      have cut := take_foundBlockHash gap stack key length
      rwa [CString.take_eq_self (Nat.le_of_eq alone)] at cut
    refine ⟨(founder alone).trans isEmpty.symm, hashText primitives data, ?_, length,
      fun c member => isHexDigit_of_hashText member⟩
    intro limit longer
    rw [reads.latestHash, whole]
    apply CString.take_eq_self
    rw [length]
    exact Nat.le_of_lt longer

/-- A key right behind the hash is read with it. -/
theorem not_kept_of_key (primitives : Primitives) (stack : Region) (store : KeyStore)
    (heap : Region) (calls : List Call) (call : Call) {repId : Nat} {block : Block}
    (built : blockFor repId call ((trustedApplication primitives store).answer
      ((trustedApplication primitives store).run calls) call) = some block)
    (key : keyIn ((trustedApplication primitives store).answer
      ((trustedApplication primitives store).run calls) call) ≠ .empty) (adminKey : CString) :
    ¬ MetadataKept (metadataOf primitives 0 stack repId heap
      ((trustedApplication primitives store).log (calls ++ [call]))) adminKey := by
  have now : blockOf repId ((trustedApplication primitives store).event
      ((trustedApplication primitives store).run calls) call) = some block := built
  rw [(trustedApplication primitives store).log_snoc, metadataOf_snoc]
  intro kept
  have reads := metadataReads_of_block primitives 0 stack now
    (metadataOf primitives 0 stack repId heap ((trustedApplication primitives store).log calls))
  exact key (((reads.kept_iff adminKey).mp kept).2 rfl)

/-- After a successful `init_repo`, the founder's key is the one that was passed
and the hash is one, in the state after it and in every later one, exactly when
that key is empty and no later `commit` brings a key that lies right behind the
hash. -/
theorem founder_key_kept_iff (primitives : Primitives) (gap : Nat) (stack : Region)
    (store : KeyStore) (heap : Region) (earlier later : List Call) (creation : Call)
    (repId : UInt32) (block : AccessBlock)
    (created : (trustedApplication primitives store).answer
      ((trustedApplication primitives store).run earlier) creation = .ok (.genesis repId block)) :
    (∀ soFar, soFar <+: later → MetadataKept (metadataOf primitives gap stack repId.toNat heap
        ((trustedApplication primitives store).log (earlier ++ creation :: soFar)))
        creation.params.adminKey) ↔
      creation.params.adminKey = .empty ∧ (gap = 0 → ∀ soFar call, soFar ++ [call] <+: later →
        ¬ call.BringsKey primitives ((trustedApplication primitives store).run
          (earlier ++ creation :: soFar)) repId.toNat) := by
  have reads := run_metadataReads primitives gap stack store heap earlier creation created rfl
  constructor
  · intro kept
    constructor
    · rcases reads [] with ⟨data, key, atStart, _⟩
      exact ((atStart.kept_iff _).mp (kept [] List.nil_prefix)).1
    · intro adjacent soFar call inside brings
      rcases keyIn_of_bringsKey primitives store brings with ⟨newest, built, nonempty⟩
      have after := kept (soFar ++ [call]) inside
      rw [← List.cons_append, ← List.append_assoc, adjacent] at after
      exact not_kept_of_key primitives stack store heap _ call built nonempty _ after
  · rintro ⟨isEmpty, noKey⟩ soFar inside
    rcases reads soFar with ⟨data, key, here, nothing⟩
    refine (here.kept_iff _).mpr ⟨isEmpty, fun adjacent => nothing fun before call first => ?_⟩
    exact noKey adjacent before call (first.trans inside)

namespace Sample

/-- A repository without a founder. -/
def unfounded : Call := .requestInit (outcomes 0) .empty

/-- A contribution to it, with this encrypted key. -/
def unsignedCommit (encryptedKey : CString) : Call :=
  .requestCommit (outcomes 1) ⟨0, opPush, .empty, .empty, .empty⟩ encryptedKey

theorem unfounded_created : application.answer (application.run []) unfounded =
    .ok (.genesis 0 (unfounded.genesis.withTeeSig signature)) := by
  decide +kernel

end Sample

/-- Nothing is lost of an empty key, also by a contribution with an empty key. -/
theorem empty_key_kept :
    Sample.unfounded.params.adminKey = .empty ∧
      ∀ soFar, soFar <+: [Sample.unsignedCommit .empty] →
        MetadataKept (metadataOf Sample.primitives 0 (fun _ => 1) 0 (fun _ => 1)
          (Sample.application.log ([] ++ Sample.unfounded :: soFar))) .empty := by
  have noKey : (teeDecryptData Sample.primitives (Sample.outcomes 1).decrypt .empty none).1 =
      .ok .empty := by
    decide +kernel
  refine ⟨rfl, ?_⟩
  apply (founder_key_kept_iff Sample.primitives 0 (fun _ => 1) (some Sample.keyPair) (fun _ => 1)
    [] [Sample.unsignedCommit .empty] Sample.unfounded 0 _ Sample.unfounded_created).mpr
  refine ⟨rfl, fun _ soFar call inside brings => ?_⟩
  have only : call ∈ [Sample.unsignedCommit .empty] :=
    inside.subset (List.mem_append_right soFar (List.mem_singleton.mpr rfl))
  rw [List.mem_singleton] at only
  rcases brings with ⟨_, key, decrypted, nonempty⟩
  rw [only] at decrypted
  exact nonempty (Except.ok.inj (decrypted.symm.trans noKey))

/-- The founder's key of one character is gone when `init_repo` returns; and a
key of two bytes that a contribution brings is found behind the hash, and as the
key of a founder that was never named. -/
theorem founder_key_lost :
    (∃ block, Sample.application.answer Sample.application.start Sample.creation =
        .ok (.genesis 0 block)) ∧
      Sample.creation.params.adminKey.length = 1 ∧
      ¬ MetadataKept (metadataOf Sample.primitives 0 (fun _ => 0) 0 (fun _ => 0)
        (Sample.application.log [Sample.creation])) Sample.creation.params.adminKey ∧
      Sample.unfounded.params.adminKey = .empty ∧
      ¬ MetadataKept (metadataOf Sample.primitives 0 (fun _ => 0) 0 (fun _ => 0)
        (Sample.application.log [Sample.unfounded, Sample.unsignedCommit (.literal "0aff")]))
        Sample.unfounded.params.adminKey := by
  have created : Sample.application.answer Sample.application.start Sample.creation =
      .ok (.genesis 0 (Sample.creation.genesis.withTeeSig Sample.signature)) := by
    decide +kernel
  have committed : Sample.application.answer (Sample.application.run [Sample.unfounded])
      (Sample.unsignedCommit (.literal "0aff")) =
        .ok (.contribution (((Sample.unsignedCommit (.literal "0aff")).contribution
          (newRepository .empty Sample.hash)).withTeeSig Sample.signature) (.literal "0aff")) := by
    decide +kernel
  refine ⟨⟨_, created⟩, rfl, ?_, rfl, ?_⟩
  · rcases run_metadataReads Sample.primitives 0 (fun _ => 0) (some Sample.keyPair) (fun _ => 0) []
      Sample.creation created rfl [] with ⟨data, key, reads, _⟩
    intro kept
    have isEmpty := ((reads.kept_iff _).mp kept).1
    exact absurd isEmpty (by decide)
  · apply not_kept_of_key Sample.primitives (fun _ => 0) (some Sample.keyPair) (fun _ => 0)
      [Sample.unfounded] (Sample.unsignedCommit (.literal "0aff"))
    · exact (congrArg (blockFor 0 _) committed).trans (blockFor_contribution _ _ _)
    · exact fun same => absurd ((congrArg keyIn committed).symm.trans same) (by decide)

end Ta
end TrustChain
