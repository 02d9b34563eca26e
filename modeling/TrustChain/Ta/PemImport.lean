import TrustChain.Ta.PemExport

namespace TrustChain
namespace Ta

open Library Tee

/-!
# Reading an exported key

`public_key_pem_to_obj` hands the parser `strlen(key_str)` bytes.  The terminator
is not among them, and without it the parser does not look for PEM at all.  So a
text that `public_key_obj_to_pem` has written is read as DER, where its first
character is already wrong.  The same text with its terminator is the key.
-/

/-! ## The parser of mbedTLS -/

/-- What the documentation says of `mbedtls_pk_parse_public_key`: an input is
tried as PEM only if its last byte is the terminator, otherwise it is DER; and
every DER form of a public key is a `SEQUENCE`. -/
structure ParsesByTerminator (primitives : Primitives)
    (parseDer : List UInt8 → Option PkContext) : Prop where
  unterminated : ∀ input : List UInt8, input.getLast? ≠ some 0 →
    primitives.pkParsePublicKey input = parseDer input
  sequence : ∀ input context, parseDer input = some context → input.head? = some 0x30

/-- What it says of the functions that write: base64 is the standard one, the
parser undoes them on a text with its terminator, and DER is read back. -/
structure ParsesWritten (primitives : Primitives)
    (parseDer : List UInt8 → Option PkContext) : Prop where
  base64 : primitives.base64Encode = Base64.encode
  terminated : ∀ der full last, Base64.Wrapped 64 (Base64.encode der) full last →
    primitives.pkParsePublicKey
      (pemHeader ++ Base64.unlines (full ++ [last]) ++ pemFooter ++ [0]) = parseDer der
  inverse : ∀ key, parseDer (primitives.pkWritePubkeyDer key) = some (.rsa key)

/-! ## The text that has been written -/

section Written

variable {primitives : Primitives} {outcomes : ExportOutcomes} {keyObj : RsaPublicKey}
  {pemLen textLen : Nat} {written : List UInt8}

/-- A successful export leaves the text of the key and its terminator. -/
theorem written_of_exported
    (exported : publicKeyObjToPem primitives outcomes keyObj pemLen = (.ok written, textLen)) :
    written = pemText primitives keyObj ++ [0] ∧
      1 ≤ (primitives.pkWritePubkeyDer keyObj).length := by
  unfold publicKeyObjToPem at exported
  cases modulus : outcomes.getModulus with
  | error code => rw [modulus] at exported; cases exported
  | ok gotModulus =>
      cases exponent : outcomes.getExponent with
      | error code => rw [modulus, exponent] at exported; cases exported
      | ok gotExponent =>
          rw [modulus, exponent] at exported
          dsimp only at exported
          split at exported
          · cases exported
          · split at exported
            · cases exported
            · rename_i hasDer
              split at exported
              · cases exported
              · split at exported
                · cases exported
                · cases exported
                  exact ⟨rfl, by omega⟩

/-- As a string it starts like every PEM text. -/
theorem head_of_exported
    (exported : publicKeyObjToPem primitives outcomes keyObj pemLen = (.ok written, textLen)) :
    (CString.ofMemory written).bytes.head? = some 45 := by
  have header : pemHeader = 45 :: pemHeader.tail := rfl
  rw [(written_of_exported exported).1, pemText, pemFrame, header]
  rfl

/-- A string never ends with a terminator of its own. -/
theorem getLast?_ne_zero (text : CString) : text.bytes.getLast? ≠ some 0 := by
  intro zero
  exact text.noNul (List.mem_of_getLast? zero)

/-- With its terminator the text is read as the key that was written. -/
theorem parse_of_terminated {parseDer : List UInt8 → Option PkContext}
    (parses : ParsesWritten primitives parseDer)
    (exported : publicKeyObjToPem primitives outcomes keyObj pemLen = (.ok written, textLen)) :
    primitives.pkParsePublicKey written = some (.rsa keyObj) := by
  rcases written_of_exported exported with ⟨rfl, positive⟩
  have nonempty : Base64.encode (primitives.pkWritePubkeyDer keyObj) ≠ [] :=
    Base64.encode_ne_nil (List.length_pos_iff.mp positive)
  rcases exists_wrapped_of_pemLines (Nat.le_refl _) nonempty with ⟨full, last, wrapped, lines⟩
  rw [pemText, parses.base64, pemFrame, lines, parses.terminated _ full last wrapped,
    parses.inverse]

/-- If there is room and nothing fails, some text is exported. -/
theorem exists_exported_of_room (base64 : primitives.base64Encode = Base64.encode)
    (succeeds : outcomes.Succeeds) (positive : 1 ≤ (primitives.pkWritePubkeyDer keyObj).length)
    (bound : (primitives.pkWritePubkeyDer keyObj).length ≤ sizeofDerBuf)
    (room : estimatedLen (primitives.pkWritePubkeyDer keyObj).length ≤ pemLen) :
    ∃ written textLen,
      publicKeyObjToPem primitives outcomes keyObj pemLen = (.ok written, textLen) := by
  have fits : (primitives.base64Encode (primitives.pkWritePubkeyDer keyObj)).length + 1 ≤
      sizeofB64Buf := by
    rw [base64]
    exact base64_fits bound
  have agrees := publicKeyObjToPemAt_agrees primitives outcomes keyObj (fun _ => 0) 0 pemLen
  have result := agrees.result
  rw [publicKeyObjToPemAt_of_room succeeds positive bound fits room] at result
  generalize publicKeyObjToPem primitives outcomes keyObj pemLen = answer at result
  rcases answer with ⟨answer, textLen⟩
  cases answer with
  | error code => cases result
  | ok written => exact ⟨written, textLen, rfl⟩

/-- As a string it is neither PEM nor DER to the parser. -/
theorem not_parsed_of_exported {parseDer : List UInt8 → Option PkContext}
    (parses : ParsesByTerminator primitives parseDer)
    (exported : publicKeyObjToPem primitives outcomes keyObj pemLen = (.ok written, textLen)) :
    primitives.pkParsePublicKey (CString.ofMemory written).bytes = none := by
  rw [parses.unterminated _ (getLast?_ne_zero _)]
  cases parsed : parseDer (CString.ofMemory written).bytes with
  | none => rfl
  | some context =>
      have first := parses.sequence _ context parsed
      rw [head_of_exported exported] at first
      cases first

theorem publicKeyPemToObj_of_not_parsed {keyStr : CString}
    (notParsed : primitives.pkParsePublicKey keyStr.bytes = none) (loading : PemOutcomes) :
    publicKeyPemToObj primitives loading keyStr = .error .badFormat := by
  unfold publicKeyPemToObj
  rw [notParsed]

/-! ## What becomes of it -/

/-- No exported key can be loaded again, whatever key it is and whatever the
calls answer; so no signature is ever verified under it. -/
theorem exported_key_never_loads {parseDer : List UInt8 → Option PkContext}
    (parses : ParsesByTerminator primitives parseDer)
    (exported : publicKeyObjToPem primitives outcomes keyObj pemLen = (.ok written, textLen)) :
    (∀ loading : PemOutcomes,
        publicKeyPemToObj primitives loading (.ofMemory written) = .error .badFormat) ∧
      ∀ (verifying : VerifyOutcomes) (data signature : CString),
        verifySignature primitives verifying data (.ofMemory written) signature =
          .error .badFormat := by
  have notLoaded :=
    publicKeyPemToObj_of_not_parsed (not_parsed_of_exported parses exported)
  refine ⟨notLoaded, ?_⟩
  intro verifying data signature
  unfold verifySignature
  rw [notLoaded verifying.pem]
  rfl

end Written

namespace Sample

/-- One key and its DER encoding, and the PEM text of that with a terminator. -/
def parseDer (input : List UInt8) : Option PkContext :=
  if input = keyDer then some (.rsa keyPair.publicKey) else none

def parsePublicKey (input : List UInt8) : Option PkContext :=
  if input.getLast? = some 0 then
    if input = pemFrame (Base64.encode keyDer) ++ [0] then parseDer keyDer else none
  else parseDer input

def exchanging : Primitives := { exporting with pkParsePublicKey := parsePublicKey }

theorem exchanging_parsesByTerminator : ParsesByTerminator exchanging parseDer where
  unterminated := by
    intro input unterminated
    exact if_neg unterminated
  sequence := by
    intro input context parsed
    unfold parseDer at parsed
    by_cases isKey : input = keyDer
    · rw [isKey]
      rfl
    · rw [if_neg isKey] at parsed
      cases parsed

theorem exists_exported : ∃ written textLen,
    publicKeyObjToPem exchanging .smooth keyPair.publicKey 512 = (.ok written, textLen) := by
  have length : (exchanging.pkWritePubkeyDer keyPair.publicKey).length = 292 := length_keyDer
  exact exists_exported_of_room rfl exportOutcomes_succeed (by omega) (by rw [length]; decide)
    (by rw [length]; decide)

end Sample

/-- The key of the concrete runs is exported and cannot be loaded. -/
theorem sample_key_never_loads : ∃ written textLen,
    publicKeyObjToPem Sample.exchanging .smooth Sample.keyPair.publicKey 512 =
        (.ok written, textLen) ∧
      (∀ loading : PemOutcomes,
          publicKeyPemToObj Sample.exchanging loading (.ofMemory written) = .error .badFormat) ∧
        ∀ (verifying : VerifyOutcomes) (data signature : CString),
          verifySignature Sample.exchanging verifying data (.ofMemory written) signature =
            .error .badFormat := by
  rcases Sample.exists_exported with ⟨written, textLen, exported⟩
  exact ⟨written, textLen, exported,
    exported_key_never_loads Sample.exchanging_parsesByTerminator exported⟩

/-- It has 2048 bits, and with its terminator the text is read as this key; the
function that loads keys rejects it, although no call of its own fails. -/
theorem exported_key_rejected : bitLength Sample.keyPair.modulus = 2048 ∧
    ∃ written textLen,
      publicKeyObjToPem Sample.exchanging .smooth Sample.keyPair.publicKey 512 =
          (.ok written, textLen) ∧
        Sample.exchanging.pkParsePublicKey written = some (.rsa Sample.keyPair.publicKey) ∧
        publicKeyPemToObj Sample.exchanging .smooth (.ofMemory written) ≠
          .ok Sample.keyPair.publicKey := by
  refine ⟨by decide +kernel, ?_⟩
  rcases Sample.exists_exported with ⟨written, textLen, exported⟩
  refine ⟨written, textLen, exported, ?_, ?_⟩
  · have isText : written = pemFrame (Base64.encode Sample.keyDer) ++ [0] :=
      (written_of_exported exported).1
    have terminated : written.getLast? = some 0 := by
      rw [isText, List.getLast?_append]
      rfl
    change Sample.parsePublicKey written = _
    unfold Sample.parsePublicKey
    rw [if_pos terminated, if_pos isText]
    exact if_pos rfl
  · rw [publicKeyPemToObj_of_not_parsed
      (not_parsed_of_exported Sample.exchanging_parsesByTerminator exported)]
    intro loaded
    cases loaded

end Ta
end TrustChain
