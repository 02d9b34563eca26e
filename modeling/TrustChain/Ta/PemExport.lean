import TrustChain.Library.Base64
import TrustChain.Ta.HexMemory

namespace TrustChain
namespace Ta

open Library Tee

/-!
# Export of the public key of the TEE

`public_key_obj_to_pem` writes a header, the base64 text of the DER encoding in
lines of 64 characters, a footer and a terminator.  Its caller says in `*pem_len`
how much room there is, and the function compares that with an estimate.  The
text always fits the estimate.

`get_tee_public_key` knows the size of the buffer, but passes on a length of
zero; so the comparison fails for every buffer, and no key is ever exported.
-/

/-! ## `public_key_obj_to_pem` in memory -/

/-- The loop over the lines; `i` is the number of characters written so far, and
the first number bounds the rounds. -/
def writeLinesAt (b64 : List UInt8) : Nat → Nat → Region → Nat → Region × Nat
  | 0, _, memory, out => (memory, out)
  | rounds + 1, i, memory, out =>
      if i < b64.length then
        let lineLen := if i + 64 < b64.length then 64 else b64.length - i
        let memory := memory.write out ((b64.drop i).take lineLen)
        let out := out + lineLen
        writeLinesAt b64 rounds (i + 64) (memory.write out [10]) (out + 1)
      else (memory, out)

/-- What a call of `public_key_obj_to_pem` leaves: its result, the memory, and
`*pem_len`. -/
structure PemExport where
  result : TeeResult Unit
  memory : Region
  pemLen : Nat

/-- `sizeof(der_buf)`. -/
def sizeofDerBuf : Nat := 1024

/-- `sizeof(b64_buf)`. -/
def sizeofB64Buf : Nat := 1600

/-- `public_key_obj_to_pem`, with its output in memory. -/
def publicKeyObjToPemAt (primitives : Primitives) (outcomes : ExportOutcomes)
    (keyObj : RsaPublicKey) (memory : Region) (pemBuffer pemLen : Nat) : PemExport :=
  let der := primitives.pkWritePubkeyDer keyObj
  match outcomes.getModulus, outcomes.getExponent with
  | .error code, _ => ⟨.error code, memory, pemLen⟩
  | .ok (), .error code => ⟨.error code, memory, pemLen⟩
  | .ok (), .ok () =>
      if outcomes.rsaImport = false ∨ outcomes.rsaComplete = false ∨ outcomes.pkSetup = false then
        ⟨.error .generic, memory, pemLen⟩
      else if der.length = 0 ∨ sizeofDerBuf < der.length then ⟨.error .generic, memory, pemLen⟩
      else if pemLen < estimatedLen der.length then
        ⟨.error .shortBuffer, memory, estimatedLen der.length⟩
      else
        let memory := memory.write pemBuffer pemHeader
        let out := pemBuffer + pemHeader.length
        let b64 := primitives.base64Encode der
        if outcomes.base64Encode = false ∨ sizeofB64Buf < b64.length + 1 then
          ⟨.error .generic, memory, pemLen⟩
        else
          let (memory, out) := writeLinesAt b64 b64.length 0 memory out
          let memory := memory.write out pemFooter
          let out := out + pemFooter.length
          ⟨.ok (), memory.write out [0], out - pemBuffer⟩

/-- The loop writes the lines one behind the other. -/
theorem writeLinesAt_eq (b64 : List UInt8) (rounds i : Nat) (memory : Region) (out : Nat) :
    writeLinesAt b64 rounds i memory out =
      (memory.write out (pemLines rounds (b64.drop i)),
        out + (pemLines rounds (b64.drop i)).length) := by
  induction rounds generalizing i memory out with
  | zero => exact congrArg (·, out) (memory.write_nil out).symm
  | succ rounds ih =>
      unfold writeLinesAt pemLines
      by_cases more : i < b64.length
      · have nonempty : (b64.drop i).isEmpty = false := by
          rw [List.isEmpty_eq_false_iff, Ne, List.drop_eq_nil_iff]
          omega
        have line : (b64.drop i).take (if i + 64 < b64.length then 64 else b64.length - i) =
            (b64.drop i).take 64 := by
          by_cases full : i + 64 < b64.length
          · rw [if_pos full]
          · have rest : (b64.drop i).length = b64.length - i := List.length_drop
            rw [if_neg full, List.take_of_length_le (by omega), List.take_of_length_le (by omega)]
        have length : ((b64.drop i).take 64).length =
            if i + 64 < b64.length then 64 else b64.length - i := by
          rw [List.length_take, List.length_drop]
          by_cases full : i + 64 < b64.length
          · rw [if_pos full]
            omega
          · rw [if_neg full]
            omega
        have split : (b64.drop i).take 64 ++ 10 :: pemLines rounds ((b64.drop i).drop 64) =
            (b64.drop i).take 64 ++ ([10] ++ pemLines rounds (b64.drop (i + 64))) := by
          rw [List.drop_drop]
          rfl
        rw [if_pos more, nonempty]
        simp only [line, ih, Bool.false_eq_true, if_false, split]
        rw [memory.write_append, Region.write_append, length, List.length_append, List.length_append,
          length, List.length_singleton]
        simp only [Nat.add_assoc]
      · have empty : (b64.drop i).isEmpty = true := by
          rw [List.isEmpty_iff, List.drop_eq_nil_iff]
          omega
        rw [if_neg more, if_pos empty, memory.write_nil]
        rfl

/-- A base64 text between header and footer. -/
def pemFrame (b64 : List UInt8) : List UInt8 :=
  pemHeader ++ pemLines b64.length b64 ++ pemFooter

/-- The text that is exported for a key. -/
def pemText (primitives : Primitives) (keyObj : RsaPublicKey) : List UInt8 :=
  pemFrame (primitives.base64Encode (primitives.pkWritePubkeyDer keyObj))

/-- The writes behind the header make up the whole text and its terminator. -/
theorem written_pemFrame (b64 : List UInt8) (memory : Region) (pemBuffer : Nat) :
    let lines := writeLinesAt b64 b64.length 0 (memory.write pemBuffer pemHeader)
      (pemBuffer + pemHeader.length)
    (lines.1.write lines.2 pemFooter).write (lines.2 + pemFooter.length) [0] =
        memory.write pemBuffer (pemFrame b64 ++ [0]) ∧
      lines.2 + pemFooter.length - pemBuffer = (pemFrame b64).length := by
  simp only [writeLinesAt_eq, List.drop_zero]
  constructor
  · have split : pemFrame b64 ++ [0] =
        pemHeader ++ (pemLines b64.length b64 ++ (pemFooter ++ [0])) := by
      simp only [pemFrame, List.append_assoc]
    rw [split, memory.write_append, Region.write_append, Region.write_append]
  · simp only [pemFrame, List.length_append]
    omega

/-- The loop cuts a text that is not empty into lines. -/
theorem exists_wrapped_of_pemLines {rounds : Nat} {text : List UInt8}
    (enough : text.length ≤ rounds) (nonempty : text ≠ []) :
    ∃ full last, Base64.Wrapped 64 text full last ∧
      pemLines rounds text = Base64.unlines (full ++ [last]) := by
  induction rounds generalizing text with
  | zero => exact absurd (List.length_eq_zero_iff.mp (Nat.le_zero.mp enough)) nonempty
  | succ rounds ih =>
      have notEmpty : text.isEmpty = false := by
        rw [List.isEmpty_eq_false_iff]
        exact nonempty
      have positive : 0 < text.length := List.length_pos_iff.mpr nonempty
      unfold pemLines
      simp only [notEmpty, Bool.false_eq_true, if_false]
      by_cases fits : text.length ≤ 64
      · have done : pemLines rounds [] = [] := by cases rounds <;> rfl
        refine ⟨[], text, .short nonempty fits, ?_⟩
        rw [List.take_of_length_le fits, List.drop_of_length_le fits, done, List.nil_append,
          Base64.unlines_cons]
        rfl
      · have restLength : (text.drop 64).length = text.length - 64 := List.length_drop
        have restNonempty : text.drop 64 ≠ [] := by
          rw [Ne, List.drop_eq_nil_iff]
          exact fits
        rcases ih (by omega) restNonempty with ⟨full, last, wrapped, lines⟩
        refine ⟨text.take 64 :: full, last, wrapped.cons (by omega), ?_⟩
        rw [lines, List.cons_append, Base64.unlines_cons]

/-! ## What is written -/

section Exported

variable {primitives : Primitives} {outcomes : ExportOutcomes} {keyObj : RsaPublicKey}

/-- With room for the estimate, and if nothing fails, the text and a terminator
are written, and the length is that of the text. -/
theorem publicKeyObjToPemAt_of_room (succeeds : outcomes.Succeeds)
    (positive : 1 ≤ (primitives.pkWritePubkeyDer keyObj).length)
    (bound : (primitives.pkWritePubkeyDer keyObj).length ≤ sizeofDerBuf)
    (fits : (primitives.base64Encode (primitives.pkWritePubkeyDer keyObj)).length + 1 ≤
      sizeofB64Buf)
    {pemLen : Nat} (room : estimatedLen (primitives.pkWritePubkeyDer keyObj).length ≤ pemLen)
    (memory : Region) (pemBuffer : Nat) :
    publicKeyObjToPemAt primitives outcomes keyObj memory pemBuffer pemLen =
      ⟨.ok (), memory.write pemBuffer (pemText primitives keyObj ++ [0]),
        (pemText primitives keyObj).length⟩ := by
  have prepared : ¬ (outcomes.rsaImport = false ∨ outcomes.rsaComplete = false ∨
      outcomes.pkSetup = false) := by
    simp [succeeds.imported, succeeds.completed, succeeds.setUp]
  have encoded : ¬ (outcomes.base64Encode = false ∨ sizeofB64Buf <
      (primitives.base64Encode (primitives.pkWritePubkeyDer keyObj)).length + 1) := by
    simp only [succeeds.encoded, Bool.true_eq_false, false_or]
    exact Nat.not_lt.mpr fits
  have written := written_pemFrame
    (primitives.base64Encode (primitives.pkWritePubkeyDer keyObj)) memory pemBuffer
  unfold publicKeyObjToPemAt
  simp only [succeeds.modulus, succeeds.exponent]
  rw [if_neg prepared, if_neg (by omega), if_neg (by omega), if_neg encoded]
  exact congrArg₂ (PemExport.mk (.ok ())) written.1 written.2

/-- Without that room nothing is written, and the estimate is returned. -/
theorem publicKeyObjToPemAt_of_short (succeeds : outcomes.Succeeds)
    (positive : 1 ≤ (primitives.pkWritePubkeyDer keyObj).length)
    (bound : (primitives.pkWritePubkeyDer keyObj).length ≤ sizeofDerBuf)
    {pemLen : Nat} (short : pemLen < estimatedLen (primitives.pkWritePubkeyDer keyObj).length)
    (memory : Region) (pemBuffer : Nat) :
    publicKeyObjToPemAt primitives outcomes keyObj memory pemBuffer pemLen =
      ⟨.error .shortBuffer, memory, estimatedLen (primitives.pkWritePubkeyDer keyObj).length⟩ := by
  have prepared : ¬ (outcomes.rsaImport = false ∨ outcomes.rsaComplete = false ∨
      outcomes.pkSetup = false) := by
    simp [succeeds.imported, succeeds.completed, succeeds.setUp]
  unfold publicKeyObjToPemAt
  simp only [succeeds.modulus, succeeds.exponent]
  rw [if_neg prepared, if_neg (by omega), if_pos short]

end Exported

/-- What the function on lists says about a call in memory. -/
structure PemExport.Agrees (exported : PemExport) (memory : Region) (pemBuffer : Nat)
    (answer : TeeResult (List UInt8) × Nat) : Prop where
  result : exported.result = answer.1.map fun _ => ()
  pemLen : exported.pemLen = answer.2
  memory : ∀ text, answer.1 = .ok text → exported.memory = memory.write pemBuffer text

theorem PemExport.agrees_error (code : TeeError) (before after : Region) (pemBuffer pemLen : Nat) :
    (PemExport.mk (.error code) after pemLen).Agrees before pemBuffer (.error code, pemLen) where
  result := rfl
  pemLen := rfl
  memory := by
    intro text impossible
    cases impossible

/-- On lists and in memory the function gives the same result and the same
length, and the text is written where the buffer starts. -/
theorem publicKeyObjToPemAt_agrees (primitives : Primitives) (outcomes : ExportOutcomes)
    (keyObj : RsaPublicKey) (memory : Region) (pemBuffer pemLen : Nat) :
    (publicKeyObjToPemAt primitives outcomes keyObj memory pemBuffer pemLen).Agrees memory pemBuffer
      (publicKeyObjToPem primitives outcomes keyObj pemLen) := by
  unfold publicKeyObjToPemAt publicKeyObjToPem
  cases outcomes.getModulus with
  | error code => exact PemExport.agrees_error code memory memory pemBuffer pemLen
  | ok modulus =>
      cases outcomes.getExponent with
      | error code => exact PemExport.agrees_error code memory memory pemBuffer pemLen
      | ok exponent =>
          dsimp only
          by_cases unprepared : outcomes.rsaImport = false ∨ outcomes.rsaComplete = false ∨
              outcomes.pkSetup = false
          · rw [if_pos unprepared, if_pos unprepared]
            exact PemExport.agrees_error _ memory memory pemBuffer pemLen
          rw [if_neg unprepared, if_neg unprepared]
          by_cases noDer : (primitives.pkWritePubkeyDer keyObj).length = 0 ∨
              1024 < (primitives.pkWritePubkeyDer keyObj).length
          · rw [if_pos noDer, sizeofDerBuf, if_pos noDer]
            exact PemExport.agrees_error _ memory memory pemBuffer pemLen
          rw [if_neg noDer, sizeofDerBuf, if_neg noDer]
          by_cases short : pemLen < estimatedLen (primitives.pkWritePubkeyDer keyObj).length
          · rw [if_pos short, if_pos short]
            exact PemExport.agrees_error _ memory memory pemBuffer _
          rw [if_neg short, if_neg short]
          by_cases noText : outcomes.base64Encode = false ∨
              1600 < (primitives.base64Encode (primitives.pkWritePubkeyDer keyObj)).length + 1
          · rw [if_pos noText, sizeofB64Buf, if_pos noText]
            exact PemExport.agrees_error _ memory _ pemBuffer pemLen
          rw [if_neg noText, sizeofB64Buf, if_neg noText]
          have written := written_pemFrame
            (primitives.base64Encode (primitives.pkWritePubkeyDer keyObj)) memory pemBuffer
          refine ⟨rfl, written.2, ?_⟩
          intro text isText
          cases isText
          exact written.1

/-! ## The format of the text -/

/-- The text written for a key: the base64 text in lines between header and
footer, and a terminator, within the estimate. -/
structure PemFormat (der : List UInt8) (text : List UInt8) (full : List (List UInt8))
    (last : List UInt8) : Prop where
  wrapped : Base64.Wrapped 64 (Base64.encode der) full last
  framed : text = pemHeader ++ Base64.unlines (full ++ [last]) ++ pemFooter
  unwrapped : (Base64.unlines (full ++ [last])).filter (· ≠ 10) = Base64.encode der
  decoded : Base64.decode (Base64.encode der) = some der
  noNul : (0 : UInt8) ∉ text
  estimated : (text ++ [0]).length ≤ estimatedLen der.length

theorem length_pemLines_frame : pemHeader.length = 27 ∧ pemFooter.length = 25 := by
  decide

theorem zero_not_mem_frame : (0 : UInt8) ∉ pemHeader ∧ (0 : UInt8) ∉ pemFooter := by
  decide

/-- Base64 of at most 1024 bytes fits its buffer with a terminator. -/
theorem base64_fits {der : List UInt8} (bound : der.length ≤ sizeofDerBuf) :
    (Base64.encode der).length + 1 ≤ sizeofB64Buf := by
  unfold sizeofDerBuf at bound
  unfold sizeofB64Buf
  rw [Base64.length_encode]
  omega

/-- The frame of a base64 text has this format. -/
theorem exists_pemFormat {der : List UInt8} (positive : 1 ≤ der.length)
    (bound : der.length ≤ sizeofDerBuf) :
    ∃ full last, PemFormat der (pemFrame (Base64.encode der)) full last := by
  have nonempty : Base64.encode der ≠ [] := Base64.encode_ne_nil (List.length_pos_iff.mp positive)
  rcases exists_wrapped_of_pemLines (Nat.le_refl _) nonempty with ⟨full, last, wrapped, lines⟩
  have printable : ∀ c : UInt8, c < 43 → c ∉ Base64.encode der := by
    intro c small member
    exact absurd (Base64.printable_of_mem_encode member) (UInt8.not_le.mpr small)
  refine ⟨full, last, ⟨wrapped, ?_, ?_, Base64.decode_encode der, ?_, ?_⟩⟩
  · rw [pemFrame, lines]
  · rw [Base64.filter_unlines (wrapped.not_mem_line (printable 10 (by decide))), wrapped.flatten]
  · intro zero
    rw [pemFrame, lines, List.mem_append, List.mem_append] at zero
    rcases zero with (inHeader | inLines) | inFooter
    · exact absurd inHeader zero_not_mem_frame.1
    · rcases Base64.eq_newline_or_mem_line inLines with newline | ⟨line, isLine, inLine⟩
      · cases newline
      · exact wrapped.not_mem_line (printable 0 (by decide)) line isLine inLine
    · exact absurd inFooter zero_not_mem_frame.2
  · have lengths := wrapped.length
    have longest := wrapped.lastLength
    have frame := length_pemLines_frame
    unfold sizeofDerBuf at bound
    rw [Base64.length_encode] at lengths
    rw [pemFrame, lines, List.length_append, List.length_append, List.length_append,
      Base64.length_unlines, wrapped.flatten, Base64.length_encode, List.length_append,
      List.length_singleton, List.length_singleton, estimatedLen, frame.1, frame.2]
    omega

/-- With room for the estimate the text written has this format, its length is
returned, and the base64 text has fitted its buffer. -/
theorem pem_export_wraps {primitives : Primitives} {outcomes : ExportOutcomes}
    {keyObj : RsaPublicKey} (base64 : primitives.base64Encode = Base64.encode)
    (succeeds : outcomes.Succeeds) (positive : 1 ≤ (primitives.pkWritePubkeyDer keyObj).length)
    (bound : (primitives.pkWritePubkeyDer keyObj).length ≤ sizeofDerBuf) {pemLen : Nat}
    (room : estimatedLen (primitives.pkWritePubkeyDer keyObj).length ≤ pemLen)
    (memory : Region) (pemBuffer : Nat) :
    ∃ text full last,
      PemFormat (primitives.pkWritePubkeyDer keyObj) text full last ∧
        publicKeyObjToPemAt primitives outcomes keyObj memory pemBuffer pemLen =
          ⟨.ok (), memory.write pemBuffer (text ++ [0]), text.length⟩ ∧
        (primitives.base64Encode (primitives.pkWritePubkeyDer keyObj)).length + 1 ≤
          sizeofB64Buf := by
  have fits : (primitives.base64Encode (primitives.pkWritePubkeyDer keyObj)).length + 1 ≤
      sizeofB64Buf := by
    rw [base64]
    exact base64_fits bound
  rcases exists_pemFormat positive bound with ⟨full, last, format⟩
  have isText : pemText primitives keyObj =
      pemFrame (Base64.encode (primitives.pkWritePubkeyDer keyObj)) := by
    rw [pemText, base64]
  refine ⟨pemText primitives keyObj, full, last, ?_, ?_, fits⟩
  · rw [isText]
    exact format
  · exact publicKeyObjToPemAt_of_room succeeds positive bound fits room memory pemBuffer

namespace Sample

/-- The DER encoding of the key of the TEE in the concrete runs. -/
def keyDer : List UInt8 :=
  [0x30, 0x82, 0x01, 0x20, 0x30, 0x0d, 0x06, 0x09, 0x2a, 0x86, 0x48, 0x86, 0xf7, 0x0d, 0x01, 0x01,
    0x01, 0x05, 0x00, 0x03, 0x82, 0x01, 0x0d, 0x00, 0x30, 0x82, 0x01, 0x08, 0x02, 0x82, 0x01, 0x01,
    0x00] ++ List.replicate 256 0xff ++ [0x02, 0x01, 0x03]

theorem length_keyDer : keyDer.length = 292 := by
  rw [keyDer, List.length_append, List.length_append, List.length_replicate]
  rfl

def exporting : Primitives :=
  { primitives with pkWritePubkeyDer := fun _ => keyDer, base64Encode := Base64.encode }

theorem exportOutcomes_succeed : ExportOutcomes.smooth.Succeeds := ⟨rfl, rfl, rfl, rfl, rfl, rfl⟩

end Sample

/-- The key of the concrete runs, in a buffer of 512 bytes. -/
theorem key_export_wraps :
    ∃ text full last,
      PemFormat Sample.keyDer text full last ∧
        publicKeyObjToPemAt Sample.exporting .smooth Sample.keyPair.publicKey (fun _ => 0xa5) 16
            512 = ⟨.ok (), Region.write (fun _ => 0xa5) 16 (text ++ [0]), text.length⟩ ∧
        (Base64.encode Sample.keyDer).length + 1 ≤ sizeofB64Buf := by
  have length : (Sample.exporting.pkWritePubkeyDer Sample.keyPair.publicKey).length = 292 :=
    Sample.length_keyDer
  have room : estimatedLen (Sample.exporting.pkWritePubkeyDer Sample.keyPair.publicKey).length ≤
      512 := by
    rw [length]
    decide
  exact pem_export_wraps rfl Sample.exportOutcomes_succeed (by omega)
    (by rw [length]; decide) room (fun _ => 0xa5) 16

/-! ## `get_tee_public_key` in memory -/

/-- What a call of `get_tee_public_key` leaves: its result, the memory behind the
address of the buffer, and `params[1].value.a`. -/
structure KeyExport where
  result : TeeResult Unit
  memory : Region
  valueA : UInt32

/-- `get_tee_public_key`, with its buffer in memory. -/
def getTeePublicKeyAt (primitives : Primitives) (outcomes : CallOutcomes) (paramTypes : UInt32)
    (pemBufferNull : Bool) (pemBufSize : Nat) (memory : Region) (valueA : UInt32) : KeyExport :=
  if paramTypes ≠ teeParamTypes memrefOutput valueOutput paramNone paramNone then
    ⟨.error .badParameters, memory, valueA⟩
  else if pemBufferNull = true ∨ pemBufSize = 0 then ⟨.error .badParameters, memory, valueA⟩
  else
    match outcomes.openPublicKey with
    | .error code => ⟨.error code, memory, valueA⟩
    | .ok keyPair =>
        -- `pem_len` is still zero here.
        let pem := publicKeyObjToPemAt primitives outcomes.exportPem keyPair.publicKey memory 0 0
        match pem.result with
        | .error code => ⟨.error code, pem.memory, valueA⟩
        | .ok () => ⟨.ok (), pem.memory, UInt32.ofNat pem.pemLen⟩

/-- What the command returns is what it leaves in memory. -/
theorem getTeePublicKeyAt_agrees (primitives : Primitives) (outcomes : CallOutcomes)
    (paramTypes : UInt32) (pemBufferNull : Bool) (pemBufSize : Nat) (memory : Region)
    (valueA : UInt32) :
    let exported := getTeePublicKeyAt primitives outcomes paramTypes pemBufferNull pemBufSize memory
      valueA
    let answer := getTeePublicKey primitives outcomes paramTypes pemBufferNull pemBufSize
    exported.result = answer.map (fun _ => ()) ∧
      ∀ pem pemLen, answer = .ok (.publicKey pem pemLen) →
        exported.memory = memory.write 0 pem ∧ exported.valueA = pemLen := by
  have refused (code : TeeError) : ∀ pem pemLen,
      (Except.error code : TeeResult Output) = .ok (.publicKey pem pemLen) →
        memory = memory.write 0 pem ∧ valueA = pemLen := by
    intro pem pemLen impossible
    cases impossible
  intro exported answer
  simp only [exported, answer]
  unfold getTeePublicKeyAt getTeePublicKey
  by_cases otherTypes : paramTypes ≠ teeParamTypes memrefOutput valueOutput paramNone paramNone
  · rw [if_pos otherTypes, if_pos otherTypes]
    exact ⟨rfl, refused _⟩
  rw [if_neg otherTypes, if_neg otherTypes]
  by_cases noBuffer : pemBufferNull = true ∨ pemBufSize = 0
  · rw [if_pos noBuffer, if_pos noBuffer]
    exact ⟨rfl, refused _⟩
  rw [if_neg noBuffer, if_neg noBuffer]
  cases outcomes.openPublicKey with
  | error code => exact ⟨rfl, refused code⟩
  | ok keyPair =>
      have agrees := publicKeyObjToPemAt_agrees primitives outcomes.exportPem keyPair.publicKey
        memory 0 0
      dsimp only
      generalize publicKeyObjToPem primitives outcomes.exportPem keyPair.publicKey 0 = written
        at agrees ⊢
      rcases written with ⟨written, pemLen⟩
      cases written with
      | error code =>
          rw [agrees.result]
          refine ⟨rfl, ?_⟩
          intro pem pemLen impossible
          cases impossible
      | ok text =>
          rw [agrees.result]
          refine ⟨rfl, ?_⟩
          intro pem length same
          cases same
          exact ⟨agrees.memory text rfl, congrArg UInt32.ofNat agrees.pemLen⟩

/-! ## The room that is offered -/

section Offered

variable {primitives : Primitives} {outcomes : CallOutcomes} {keyPair : RsaKeyPair}

/-- What the export of this key should leave, by the size of the buffer. -/
def ExportsKey (primitives : Primitives) (keyPair : RsaKeyPair) (pemBufSize : Nat)
    (memory : Region) (exported : KeyExport) : Prop :=
  if pemBufSize < estimatedLen (primitives.pkWritePubkeyDer keyPair.publicKey).length then
    exported.result = .error .shortBuffer ∧ exported.memory = memory
  else
    exported = ⟨.ok (), memory.write 0 (pemText primitives keyPair.publicKey ++ [0]),
      UInt32.ofNat (pemText primitives keyPair.publicKey).length⟩

/-- A length of zero is below every estimate. -/
theorem estimatedLen_pos (derLen : Nat) : 0 < estimatedLen derLen := by
  unfold estimatedLen
  omega

/-- With a buffer of any size at all the key does not fit, and nothing is written. -/
theorem getTeePublicKeyAt_of_buffer (opened : outcomes.openPublicKey = .ok keyPair)
    (succeeds : outcomes.exportPem.Succeeds)
    (positive : 1 ≤ (primitives.pkWritePubkeyDer keyPair.publicKey).length)
    (bound : (primitives.pkWritePubkeyDer keyPair.publicKey).length ≤ sizeofDerBuf)
    {pemBufSize : Nat} (nonempty : 0 < pemBufSize) (memory : Region) (valueA : UInt32) :
    getTeePublicKeyAt primitives outcomes
      (teeParamTypes memrefOutput valueOutput paramNone paramNone) false pemBufSize memory valueA =
        ⟨.error .shortBuffer, memory, valueA⟩ := by
  have buffer : ¬ (false = true ∨ pemBufSize = 0) := by
    simp only [Bool.false_eq_true, false_or]
    omega
  have short := publicKeyObjToPemAt_of_short succeeds positive bound (estimatedLen_pos _) memory 0
  unfold getTeePublicKeyAt
  rw [if_neg (not_not_intro rfl), if_neg buffer, opened]
  simp only [short]

/-- Without a buffer the command is refused as malformed. -/
theorem getTeePublicKeyAt_of_no_buffer {pemBufferNull : Bool} {pemBufSize : Nat}
    (noBuffer : pemBufferNull = true ∨ pemBufSize = 0) (memory : Region) (valueA : UInt32) :
    getTeePublicKeyAt primitives outcomes
      (teeParamTypes memrefOutput valueOutput paramNone paramNone) pemBufferNull pemBufSize memory
        valueA = ⟨.error .badParameters, memory, valueA⟩ := by
  unfold getTeePublicKeyAt
  rw [if_neg (not_not_intro rfl), if_pos noBuffer]

/-- If storage and cryptography succeed, the command does what it should exactly
for a buffer that is too small for the key; a buffer with room for it is refused
like one without. -/
theorem key_exported_iff_short (opened : outcomes.openPublicKey = .ok keyPair)
    (succeeds : outcomes.exportPem.Succeeds)
    (positive : 1 ≤ (primitives.pkWritePubkeyDer keyPair.publicKey).length)
    (bound : (primitives.pkWritePubkeyDer keyPair.publicKey).length ≤ sizeofDerBuf)
    (pemBufferNull : Bool) (pemBufSize : Nat) (memory : Region) (valueA : UInt32) :
    ExportsKey primitives keyPair pemBufSize memory
        (getTeePublicKeyAt primitives outcomes
          (teeParamTypes memrefOutput valueOutput paramNone paramNone) pemBufferNull pemBufSize
          memory valueA) ↔
      pemBufferNull = false ∧ 0 < pemBufSize ∧
        pemBufSize < estimatedLen (primitives.pkWritePubkeyDer keyPair.publicKey).length := by
  have refused : ∀ code, ExportsKey primitives keyPair pemBufSize memory
      ⟨.error code, memory, valueA⟩ ↔ code = .shortBuffer ∧
        pemBufSize < estimatedLen (primitives.pkWritePubkeyDer keyPair.publicKey).length := by
    intro code
    unfold ExportsKey
    by_cases short :
        pemBufSize < estimatedLen (primitives.pkWritePubkeyDer keyPair.publicKey).length
    · simp [short]
    · simp [short]
  by_cases noBuffer : pemBufferNull = true ∨ pemBufSize = 0
  · rw [getTeePublicKeyAt_of_no_buffer noBuffer, refused]
    constructor
    · intro both
      cases both.1
    · intro buffer
      rcases noBuffer with isNull | isEmpty
      · rw [buffer.1] at isNull
        cases isNull
      · omega
  · rw [not_or, Bool.not_eq_true] at noBuffer
    rw [noBuffer.1, getTeePublicKeyAt_of_buffer opened succeeds positive bound
      (Nat.pos_of_ne_zero noBuffer.2), refused]
    constructor
    · intro both
      exact ⟨rfl, Nat.pos_of_ne_zero noBuffer.2, both.2⟩
    · intro buffer
      exact ⟨rfl, buffer.2.2⟩

end Offered

/-- The key of the concrete runs asks for 476 bytes; one byte is refused rightly. -/
theorem one_byte_refused :
    ExportsKey Sample.exporting Sample.keyPair 1 (fun _ => 0xa5)
        (getTeePublicKeyAt Sample.exporting (Sample.outcomes 1)
          (teeParamTypes memrefOutput valueOutput paramNone paramNone) false 1 (fun _ => 0xa5)
          0) ↔
      false = false ∧ 0 < 1 ∧ 1 < estimatedLen Sample.keyDer.length := by
  have length : (Sample.exporting.pkWritePubkeyDer Sample.keyPair.publicKey).length = 292 :=
    Sample.length_keyDer
  exact key_exported_iff_short rfl Sample.exportOutcomes_succeed (by omega)
    (by rw [length]; decide) false 1 (fun _ => 0xa5) 0

/-- A buffer of 4096 bytes, which has room many times over, is refused too. -/
theorem large_buffer_refused :
    estimatedLen (Sample.exporting.pkWritePubkeyDer Sample.keyPair.publicKey).length ≤ 4096 ∧
      ¬ ExportsKey Sample.exporting Sample.keyPair 4096 (fun _ => 0xa5)
        (getTeePublicKeyAt Sample.exporting (Sample.outcomes 1)
          (teeParamTypes memrefOutput valueOutput paramNone paramNone) false 4096 (fun _ => 0xa5)
          0) := by
  have length : (Sample.exporting.pkWritePubkeyDer Sample.keyPair.publicKey).length = 292 :=
    Sample.length_keyDer
  have room : estimatedLen (Sample.exporting.pkWritePubkeyDer Sample.keyPair.publicKey).length ≤
      4096 := by
    rw [length]
    decide
  have refused : getTeePublicKeyAt Sample.exporting (Sample.outcomes 1)
      (teeParamTypes memrefOutput valueOutput paramNone paramNone) false 4096 (fun _ => 0xa5) 0 =
        ⟨.error .shortBuffer, fun _ => 0xa5, 0⟩ :=
    getTeePublicKeyAt_of_buffer rfl Sample.exportOutcomes_succeed (by omega)
      (by rw [length]; decide) (by decide) (fun _ => 0xa5) 0
  refine ⟨room, ?_⟩
  rw [refused, ExportsKey, if_neg (Nat.not_lt.mpr room)]
  intro exported
  cases exported

end Ta
end TrustChain
