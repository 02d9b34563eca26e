import Mathlib.Algebra.Order.BigOperators.Group.List
import Mathlib.Data.List.Perm.Subperm
import TrustChain.Library.CString

namespace TrustChain
namespace Library
namespace JsonText

/-!
# JSON texts

Values, the texts that a parser of JSON accepts, and a writer that puts strings
between quotes as they are.  Such a writer is right for a value exactly when
none of its strings needs an escape: every other character of a string costs one
more byte in any text of the value, so a text of the plain length has none.

The text is a list of bytes.  Outside of escapes, a byte of a string other than
a quote, a backslash and the control characters stands for itself.
-/

/-! ## Values -/

/-- A number with a fraction or an exponent is kept as it is written. -/
inductive Value
  | null
  | bool (value : Bool)
  | integer (value : Int)
  | real (text : List UInt8)
  | string (text : List UInt8)
  | array (elements : List Value)
  | object (members : List (List UInt8 × Value))

/-- The member of this name; the last one, if there are several. -/
def Value.get (key : List UInt8) : Value → Option Value
  | .object members => members.reverse.lookup key
  | _ => none

theorem mem_of_get {key : List UInt8} {members : List (List UInt8 × Value)} {value : Value}
    (found : (Value.object members).get key = some value) : (key, value) ∈ members := by
  rcases List.lookup_eq_some_iff.mp found with ⟨before, behind, split, _⟩
  rw [← List.mem_reverse, split]
  exact List.mem_append_right before List.mem_cons_self

/-! ## Reading strings -/

/-- White space between tokens. -/
def isSpace (c : UInt8) : Bool := c == 32 || c == 9 || c == 10 || c == 13

def skipSpace (text : List UInt8) : List UInt8 := text.dropWhile isSpace

/-- This character behind white space. -/
def expect (c : UInt8) (text : List UInt8) : Option (List UInt8) :=
  match skipSpace text with
  | [] => none
  | first :: rest => if first = c then some rest else none

def hexValue (c : UInt8) : Option Nat :=
  if 48 ≤ c ∧ c ≤ 57 then some (c.toNat - 48)
  else if 97 ≤ c ∧ c ≤ 102 then some (c.toNat - 87)
  else if 65 ≤ c ∧ c ≤ 70 then some (c.toNat - 55)
  else none

/-- Four hexadecimal digits. -/
def codeUnit : List UInt8 → Option (Nat × List UInt8)
  | a :: b :: c :: d :: rest => do
      let a ← hexValue a
      let b ← hexValue b
      let c ← hexValue c
      let d ← hexValue d
      return (((a * 16 + b) * 16 + c) * 16 + d, rest)
  | _ => none

/-- The bytes of a code point. -/
def utf8 (code : Nat) : List UInt8 :=
  if code < 0x80 then [UInt8.ofNat code]
  else if code < 0x800 then [UInt8.ofNat (0xc0 + code / 64), UInt8.ofNat (0x80 + code % 64)]
  else if code < 0x10000 then
    [UInt8.ofNat (0xe0 + code / 4096), UInt8.ofNat (0x80 + code / 64 % 64),
      UInt8.ofNat (0x80 + code % 64)]
  else
    [UInt8.ofNat (0xf0 + code / 262144), UInt8.ofNat (0x80 + code / 4096 % 64),
      UInt8.ofNat (0x80 + code / 64 % 64), UInt8.ofNat (0x80 + code % 64)]

/-- The second half of a surrogate pair, with its own escape. -/
def lowSurrogate (high : Nat) : List UInt8 → Option (List UInt8 × List UInt8)
  | backslash :: u :: rest =>
      if backslash = 92 ∧ u = 117 then do
        let (low, rest) ← codeUnit rest
        if 0xdc00 ≤ low ∧ low < 0xe000 then
          return (utf8 (0x10000 + (high - 0xd800) * 0x400 + (low - 0xdc00)), rest)
        else none
      else none
  | _ => none

/-- What follows `\u`. -/
def unicodeEscape (text : List UInt8) : Option (List UInt8 × List UInt8) := do
  let (unit, rest) ← codeUnit text
  if 0xd800 ≤ unit ∧ unit < 0xdc00 then lowSurrogate unit rest
  else if 0xdc00 ≤ unit ∧ unit < 0xe000 then none
  else return (utf8 unit, rest)

/-- What follows a backslash. -/
def escape : List UInt8 → Option (List UInt8 × List UInt8)
  | [] => none
  | c :: rest =>
      if c = 34 ∨ c = 92 ∨ c = 47 then some ([c], rest)
      else if c = 98 then some ([8], rest)
      else if c = 102 then some ([12], rest)
      else if c = 110 then some ([10], rest)
      else if c = 114 then some ([13], rest)
      else if c = 116 then some ([9], rest)
      else if c = 117 then unicodeEscape rest
      else none

/-- A string behind its opening quote; the number bounds its characters. -/
def stringBody : Nat → List UInt8 → Option (List UInt8 × List UInt8)
  | 0, _ => none
  | _ + 1, [] => none
  | limit + 1, c :: rest =>
      if c = 34 then some ([], rest)
      else if c = 92 then do
        let (bytes, rest) ← escape rest
        let (text, rest) ← stringBody limit rest
        return (bytes ++ text, rest)
      else if c < 32 then none
      else do
        let (text, rest) ← stringBody limit rest
        return (c :: text, rest)

def parseString (text : List UInt8) : Option (List UInt8 × List UInt8) :=
  stringBody (text.length + 1) text

/-! ## Reading numbers -/

def isDigit (c : UInt8) : Bool := 48 ≤ c && c ≤ 57

/-- The number that a row of digit characters denotes. -/
def digitsValue (digits : List UInt8) : Nat := decimalValue (digits.map fun c => c.toNat - 48)

/-- One digit or more. -/
def parseDigits (text : List UInt8) : Option (List UInt8 × List UInt8) :=
  if text.takeWhile isDigit = [] then none
  else some (text.takeWhile isDigit, text.dropWhile isDigit)

/-- A fraction, if there is one. -/
def parseFraction : List UInt8 → Option (List UInt8 × List UInt8)
  | [] => some ([], [])
  | c :: rest =>
      if c = 46 then (parseDigits rest).map fun parsed => (c :: parsed.1, parsed.2)
      else some ([], c :: rest)

/-- A sign, if there is one. -/
def parseSign (signs : List UInt8) : List UInt8 → List UInt8 × List UInt8
  | [] => ([], [])
  | c :: rest => if c ∈ signs then ([c], rest) else ([], c :: rest)

/-- An exponent, if there is one. -/
def parseExponent : List UInt8 → Option (List UInt8 × List UInt8)
  | [] => some ([], [])
  | c :: rest =>
      if c = 101 ∨ c = 69 then
        let (sign, rest) := parseSign [43, 45] rest
        (parseDigits rest).map fun parsed => (c :: sign ++ parsed.1, parsed.2)
      else some ([], c :: rest)

def parseNumber (text : List UInt8) : Option (Value × List UInt8) := do
  let (sign, rest) := parseSign [45] text
  let (digits, rest) ← parseDigits rest
  if 1 < digits.length ∧ digits.head? = some 48 then none
  else
    let (fraction, rest) ← parseFraction rest
    let (exponent, rest) ← parseExponent rest
    if fraction = [] ∧ exponent = [] then
      return (.integer (if sign = [] then (digitsValue digits : Int) else -(digitsValue digits : Int)),
        rest)
    else return (.real (sign ++ digits ++ fraction ++ exponent), rest)

/-! ## Reading values -/

/-- A literal name. -/
def parseWord (word : List UInt8) (value : Value) (text : List UInt8) :
    Option (Value × List UInt8) :=
  if word.isPrefixOf text then some (value, text.drop word.length) else none

mutual

/-- A value and the text behind it; the number bounds the nesting. -/
def parseValue : Nat → List UInt8 → Option (Value × List UInt8)
  | 0, _ => none
  | fuel + 1, text =>
      match skipSpace text with
      | [] => none
      | c :: rest =>
          if c = 34 then (parseString rest).map fun parsed => (.string parsed.1, parsed.2)
          else if c = 123 then
            match expect 125 rest with
            | some rest => some (.object [], rest)
            | none => (parseMembers fuel rest).map fun parsed => (.object parsed.1, parsed.2)
          else if c = 91 then
            match expect 93 rest with
            | some rest => some (.array [], rest)
            | none => (parseElements fuel rest).map fun parsed => (.array parsed.1, parsed.2)
          else if c = 110 then parseWord [110, 117, 108, 108] .null (c :: rest)
          else if c = 116 then parseWord [116, 114, 117, 101] (.bool true) (c :: rest)
          else if c = 102 then parseWord [102, 97, 108, 115, 101] (.bool false) (c :: rest)
          else parseNumber (c :: rest)

/-- The members of an object up to the closing brace. -/
def parseMembers : Nat → List UInt8 → Option (List (List UInt8 × Value) × List UInt8)
  | 0, _ => none
  | fuel + 1, text => do
      let rest ← expect 34 text
      let (key, rest) ← parseString rest
      let rest ← expect 58 rest
      let (value, rest) ← parseValue fuel rest
      match expect 125 rest with
      | some rest => return ([(key, value)], rest)
      | none =>
          let rest ← expect 44 rest
          let (members, rest) ← parseMembers fuel rest
          return ((key, value) :: members, rest)

/-- The elements of an array up to the closing bracket. -/
def parseElements : Nat → List UInt8 → Option (List Value × List UInt8)
  | 0, _ => none
  | fuel + 1, text => do
      let (value, rest) ← parseValue fuel text
      match expect 93 rest with
      | some rest => return ([value], rest)
      | none =>
          let rest ← expect 44 rest
          let (elements, rest) ← parseElements fuel rest
          return (value :: elements, rest)

end

/-- A value that makes up the whole text. -/
def parse (text : List UInt8) : Option Value :=
  match parseValue (text.length + 1) text with
  | some (value, rest) => if skipSpace rest = [] then some value else none
  | none => none

/-! ## Writing values -/

/-- A character that cannot stand for itself in a string. -/
def Special (c : UInt8) : Prop := c = 34 ∨ c = 92 ∨ c < 32

instance (c : UInt8) : Decidable (Special c) := inferInstanceAs (Decidable (_ ∨ _))

/-- A string between quotes, without escapes. -/
def quoted (text : List UInt8) : List UInt8 := 34 :: (text ++ [34])

def renderInteger (value : Int) : List UInt8 :=
  if value < 0 then 45 :: (decimal value.natAbs).bytes else (decimal value.natAbs).bytes

mutual

/-- The value as text, its strings as they are. -/
def render : Value → List UInt8
  | .null => [110, 117, 108, 108]
  | .bool value => if value then [116, 114, 117, 101] else [102, 97, 108, 115, 101]
  | .integer value => renderInteger value
  | .real text => text
  | .string text => quoted text
  | .array elements => 91 :: renderElements elements
  | .object members => 123 :: renderMembers members

def renderElements : List Value → List UInt8
  | [] => [93]
  | value :: rest =>
      render value ++ if rest.isEmpty then [93] else 44 :: renderElements rest

def renderMembers : List (List UInt8 × Value) → List UInt8
  | [] => [125]
  | (key, value) :: rest =>
      quoted key ++ 58 :: (render value ++ if rest.isEmpty then [125] else 44 :: renderMembers rest)

end

mutual

/-- How many characters of its strings need an escape. -/
def escapes : Value → Nat
  | .string text => text.countP (fun c => Special c)
  | .array elements => elementEscapes elements
  | .object members => memberEscapes members
  | _ => 0

def elementEscapes : List Value → Nat
  | [] => 0
  | value :: rest => escapes value + elementEscapes rest

def memberEscapes : List (List UInt8 × Value) → Nat
  | [] => 0
  | (key, value) :: rest =>
      key.countP (fun c => Special c) + escapes value + memberEscapes rest

end

mutual

/-- No number in it has a fraction or an exponent. -/
def Integral : Value → Prop
  | .real _ => False
  | .array elements => IntegralElements elements
  | .object members => IntegralMembers members
  | _ => True

def IntegralElements : List Value → Prop
  | [] => True
  | value :: rest => Integral value ∧ IntegralElements rest

def IntegralMembers : List (List UInt8 × Value) → Prop
  | [] => True
  | (_, value) :: rest => Integral value ∧ IntegralMembers rest

end

/-! ## A text is as long as its value needs -/

/-- What a string takes between its quotes. -/
def stringLength (text : List UInt8) : Nat := text.length + text.countP (fun c => Special c)

theorem stringLength_cons (c : UInt8) (text : List UInt8) :
    stringLength (c :: text) = (if Special c then 2 else 1) + stringLength text := by
  unfold stringLength
  rw [List.length_cons, List.countP_cons]
  by_cases special : Special c
  · simp only [special, decide_true, if_true]
    omega
  · simp only [special, decide_false, Bool.false_eq_true, if_false]
    omega

theorem stringLength_append (first second : List UInt8) :
    stringLength (first ++ second) = stringLength first + stringLength second := by
  unfold stringLength
  rw [List.length_append, List.countP_append]
  omega

theorem stringLength_le (text : List UInt8) : stringLength text ≤ 2 * text.length := by
  have count : text.countP (fun c => Special c) ≤ text.length := List.countP_le_length
  unfold stringLength
  omega

theorem length_skipSpace_le (text : List UInt8) : (skipSpace text).length ≤ text.length :=
  List.length_dropWhile_le isSpace text

theorem length_of_expect {c : UInt8} {text rest : List UInt8} (found : expect c text = some rest) :
    rest.length + 1 ≤ text.length := by
  have skipped := length_skipSpace_le text
  unfold expect at found
  cases trimmed : skipSpace text with
  | nil => rw [trimmed] at found; cases found
  | cons first others =>
      rw [trimmed] at found skipped
      by_cases same : first = c
      · simp only [if_pos same, Option.some.injEq] at found
        rw [← found]
        exact skipped
      · simp only [if_neg same] at found
        cases found

theorem hexValue_lt {c : UInt8} {value : Nat} (digit : hexValue c = some value) : value < 16 := by
  have bounds : ∀ a b : UInt8, a ≤ b ↔ a.toNat ≤ b.toNat := fun a b => UInt8.le_iff_toNat_le
  unfold hexValue at digit
  simp only [bounds] at digit
  split at digit
  · cases digit
    have high : c.toNat ≤ 57 := by simpa using (‹_ ∧ _› : _ ∧ _).2
    omega
  · split at digit
    · cases digit
      have high : c.toNat ≤ 102 := by simpa using (‹_ ∧ _› : _ ∧ _).2
      omega
    · split at digit
      · cases digit
        have high : c.toNat ≤ 70 := by simpa using (‹_ ∧ _› : _ ∧ _).2
        omega
      · cases digit

theorem codeUnit_bound {text rest : List UInt8} {unit : Nat}
    (parsed : codeUnit text = some (unit, rest)) :
    unit < 0x10000 ∧ rest.length + 4 = text.length := by
  match text, parsed with
  | a :: b :: c :: d :: others, parsed =>
      simp only [codeUnit, Option.bind_eq_bind, Option.bind_eq_some_iff, pure,
        Option.some.injEq, Prod.mk.injEq] at parsed
      rcases parsed with ⟨first, isFirst, second, isSecond, third, isThird, fourth, isFourth, rfl,
        rfl⟩
      have firstBound := hexValue_lt isFirst
      have secondBound := hexValue_lt isSecond
      have thirdBound := hexValue_lt isThird
      have fourthBound := hexValue_lt isFourth
      exact ⟨by omega, rfl⟩

theorem length_utf8_le (code : Nat) :
    (utf8 code).length ≤ 4 ∧ (code < 0x10000 → (utf8 code).length ≤ 3) := by
  unfold utf8
  split
  · simp
  · split
    · simp
    · split
      · simp
      · simp only [List.length_cons, List.length_nil]
        omega

theorem length_of_lowSurrogate {high : Nat} {text bytes rest : List UInt8}
    (parsed : lowSurrogate high text = some (bytes, rest)) :
    bytes.length ≤ 4 ∧ rest.length + 6 = text.length := by
  match text, parsed with
  | backslash :: u :: others, parsed =>
      unfold lowSurrogate at parsed
      by_cases isEscape : backslash = 92 ∧ u = 117
      · simp only [if_pos isEscape, Option.bind_eq_bind, Option.bind_eq_some_iff] at parsed
        rcases parsed with ⟨⟨low, behind⟩, unit, parsed⟩
        by_cases isLow : 0xdc00 ≤ low ∧ low < 0xe000
        · simp only [if_pos isLow, pure, Option.some.injEq, Prod.mk.injEq] at parsed
          rcases parsed with ⟨rfl, rfl⟩
          have read := (codeUnit_bound unit).2
          refine ⟨(length_utf8_le _).1, ?_⟩
          rw [List.length_cons, List.length_cons]
          omega
        · simp only [if_neg isLow] at parsed
          cases parsed
      · simp only [if_neg isEscape] at parsed
        cases parsed

theorem length_of_unicodeEscape {text bytes rest : List UInt8}
    (parsed : unicodeEscape text = some (bytes, rest)) :
    2 * bytes.length + rest.length ≤ text.length + 2 := by
  simp only [unicodeEscape, Option.bind_eq_bind, Option.bind_eq_some_iff] at parsed
  rcases parsed with ⟨⟨unit, behind⟩, first, parsed⟩
  have read := codeUnit_bound first
  by_cases isHigh : 0xd800 ≤ unit ∧ unit < 0xdc00
  · simp only [if_pos isHigh] at parsed
    have pair := length_of_lowSurrogate parsed
    omega
  · by_cases isLow : 0xdc00 ≤ unit ∧ unit < 0xe000
    · simp only [if_neg isHigh, if_pos isLow] at parsed
      cases parsed
    · simp only [if_neg isHigh, if_neg isLow, pure, Option.some.injEq, Prod.mk.injEq] at parsed
      rcases parsed with ⟨rfl, rfl⟩
      have short := (length_utf8_le unit).2 read.1
      omega

/-- An escape takes at least as many characters as what it stands for, counted
as a string that has to be escaped; the backslash is one of them. -/
theorem length_of_escape {text bytes rest : List UInt8}
    (parsed : escape text = some (bytes, rest)) :
    stringLength bytes + rest.length ≤ text.length + 1 := by
  cases text with
  | nil => cases parsed
  | cons c others =>
      have single : ∀ byte : UInt8, some ([byte], others) = some (bytes, rest) →
          stringLength bytes + rest.length ≤ (c :: others).length + 1 := by
        intro byte same
        cases same
        have bound := stringLength_le [byte]
        rw [List.length_singleton] at bound
        rw [List.length_cons]
        omega
      rw [escape] at parsed
      by_cases itself : c = 34 ∨ c = 92 ∨ c = 47
      · rw [if_pos itself] at parsed
        exact single c parsed
      rw [if_neg itself] at parsed
      by_cases isB : c = 98
      · rw [if_pos isB] at parsed
        exact single 8 parsed
      rw [if_neg isB] at parsed
      by_cases isF : c = 102
      · rw [if_pos isF] at parsed
        exact single 12 parsed
      rw [if_neg isF] at parsed
      by_cases isN : c = 110
      · rw [if_pos isN] at parsed
        exact single 10 parsed
      rw [if_neg isN] at parsed
      by_cases isR : c = 114
      · rw [if_pos isR] at parsed
        exact single 13 parsed
      rw [if_neg isR] at parsed
      by_cases isT : c = 116
      · rw [if_pos isT] at parsed
        exact single 9 parsed
      rw [if_neg isT] at parsed
      by_cases isU : c = 117
      · rw [if_pos isU] at parsed
        have unicode := length_of_unicodeEscape parsed
        have bound := stringLength_le bytes
        rw [List.length_cons]
        omega
      · rw [if_neg isU] at parsed
        cases parsed

theorem length_of_stringBody {limit : Nat} {text bytes rest : List UInt8}
    (parsed : stringBody limit text = some (bytes, rest)) :
    stringLength bytes + 1 + rest.length ≤ text.length := by
  induction limit generalizing text bytes with
  | zero => cases parsed
  | succ limit ih =>
      cases text with
      | nil => cases parsed
      | cons c others =>
          unfold stringBody at parsed
          rw [List.length_cons]
          by_cases isQuote : c = 34
          · rw [if_pos isQuote] at parsed
            cases parsed
            exact Nat.le_of_eq (by rw [stringLength]; simp; omega)
          rw [if_neg isQuote] at parsed
          by_cases isBackslash : c = 92
          · rw [if_pos isBackslash] at parsed
            simp only [Option.bind_eq_bind, Option.bind_eq_some_iff, pure, Option.some.injEq,
              Prod.mk.injEq] at parsed
            rcases parsed with ⟨⟨first, behind⟩, escaped, ⟨tail, more⟩, body, rfl, rfl⟩
            have here := length_of_escape escaped
            have later := ih body
            dsimp only at later ⊢
            rw [stringLength_append]
            omega
          rw [if_neg isBackslash] at parsed
          by_cases isControl : c < 32
          · rw [if_pos isControl] at parsed
            cases parsed
          · rw [if_neg isControl] at parsed
            simp only [Option.bind_eq_bind, Option.bind_eq_some_iff, pure, Option.some.injEq,
              Prod.mk.injEq] at parsed
            rcases parsed with ⟨⟨tail, more⟩, body, rfl, rfl⟩
            have later := ih body
            dsimp only at later ⊢
            have plain : ¬ Special c := by
              unfold Special
              rw [not_or, not_or]
              exact ⟨isQuote, isBackslash, isControl⟩
            rw [stringLength_cons, if_neg plain]
            omega

theorem length_of_parseString {text bytes rest : List UInt8}
    (parsed : parseString text = some (bytes, rest)) :
    stringLength bytes + 1 + rest.length ≤ text.length :=
  length_of_stringBody parsed

/-! ### Numbers -/

theorem length_of_parseDigits {text digits rest : List UInt8}
    (parsed : parseDigits text = some (digits, rest)) :
    digits.length + rest.length = text.length ∧ digits ≠ [] ∧ ∀ c ∈ digits, isDigit c = true := by
  unfold parseDigits at parsed
  by_cases none : text.takeWhile isDigit = []
  · rw [if_pos none] at parsed
    cases parsed
  · rw [if_neg none] at parsed
    cases parsed
    refine ⟨?_, none, fun c member => List.mem_takeWhile_imp member⟩
    rw [← List.length_append, List.takeWhile_append_dropWhile]

/-- A number is not longer in its plain form than in any row of digits. -/
theorem length_decimal_digitsValue_le {digits : List UInt8} (nonempty : digits ≠ [])
    (digit : ∀ c ∈ digits, isDigit c = true) :
    (decimal (digitsValue digits)).length ≤ digits.length := by
  have small : ∀ n ∈ (digits.map fun c => c.toNat - 48).reverse, n < 10 := by
    intro n member
    rcases List.mem_map.mp (List.mem_reverse.mp member) with ⟨c, inside, rfl⟩
    have range := digit c inside
    simp only [isDigit, Bool.and_eq_true, decide_eq_true_eq, UInt8.le_iff_toNat_le] at range
    have high : c.toNat ≤ 57 := by simpa using range.2
    omega
  have bound : digitsValue digits < 10 ^ digits.length := by
    have value := Nat.ofDigits_lt_base_pow_length (by decide) small
    rw [List.length_reverse, List.length_map] at value
    exact value
  change ((decimalDigits (digitsValue digits)).map digitByte).length ≤ digits.length
  rw [List.length_map]
  exact decimalDigits_length_le (List.length_pos_iff.mpr nonempty) bound

theorem length_of_parseSign {signs text sign rest : List UInt8}
    (parsed : parseSign signs text = (sign, rest)) :
    sign.length + rest.length = text.length := by
  cases text with
  | nil =>
      cases parsed
      rfl
  | cons c others =>
      rw [parseSign] at parsed
      by_cases isSign : c ∈ signs
      · rw [if_pos isSign] at parsed
        cases parsed
        simp only [List.length_cons, List.length_nil]
        omega
      · rw [if_neg isSign] at parsed
        cases parsed
        rw [List.length_nil, Nat.zero_add]

theorem length_of_parseFraction {text fraction rest : List UInt8}
    (parsed : parseFraction text = some (fraction, rest)) :
    fraction.length + rest.length = text.length := by
  cases text with
  | nil =>
      cases parsed
      rfl
  | cons c others =>
      rw [parseFraction] at parsed
      by_cases isPoint : c = 46
      · rw [if_pos isPoint] at parsed
        rcases Option.map_eq_some_iff.mp parsed with ⟨⟨digits, behind⟩, found, same⟩
        cases same
        have read := (length_of_parseDigits found).1
        simp only [List.length_cons]
        omega
      · rw [if_neg isPoint] at parsed
        cases parsed
        rw [List.length_nil, Nat.zero_add]

theorem length_of_parseExponent {text exponent rest : List UInt8}
    (parsed : parseExponent text = some (exponent, rest)) :
    exponent.length + rest.length = text.length := by
  cases text with
  | nil =>
      cases parsed
      rfl
  | cons c others =>
      rw [parseExponent] at parsed
      by_cases isE : c = 101 ∨ c = 69
      · rw [if_pos isE] at parsed
        rcases signed : parseSign [43, 45] others with ⟨sign, behind⟩
        rw [signed] at parsed
        rcases Option.map_eq_some_iff.mp parsed with ⟨⟨digits, more⟩, found, same⟩
        cases same
        have read := (length_of_parseDigits found).1
        have first := length_of_parseSign signed
        simp only [List.cons_append, List.length_cons, List.length_append]
        omega
      · rw [if_neg isE] at parsed
        cases parsed
        rw [List.length_nil, Nat.zero_add]

theorem length_renderInteger (value : Int) :
    (renderInteger value).length =
      (if value < 0 then 1 else 0) + (decimal value.natAbs).length := by
  unfold renderInteger CString.length
  by_cases negative : value < 0
  · rw [if_pos negative, if_pos negative, List.length_cons, Nat.add_comm]
  · rw [if_neg negative, if_neg negative, Nat.zero_add]

/-- The least length of a text of this value. -/
def leastLength (value : Value) : Nat := (render value).length + escapes value

theorem length_of_parseNumber {text rest : List UInt8} {value : Value}
    (parsed : parseNumber text = some (value, rest)) :
    leastLength value + rest.length ≤ text.length := by
  unfold parseNumber at parsed
  rcases signed : parseSign [45] text with ⟨sign, unsigned⟩
  rw [signed] at parsed
  simp only [Option.bind_eq_bind, Option.bind_eq_some_iff] at parsed
  rcases parsed with ⟨⟨digits, behind⟩, found, parsed⟩
  have first := length_of_parseSign signed
  have read := length_of_parseDigits found
  by_cases leadingZero : 1 < digits.length ∧ digits.head? = some 48
  · simp only [if_pos leadingZero] at parsed
    cases parsed
  simp only [if_neg leadingZero, Option.bind_eq_some_iff] at parsed
  rcases parsed with ⟨⟨fraction, second⟩, isFraction, ⟨exponent, third⟩, isExponent, parsed⟩
  have fractionLength := length_of_parseFraction isFraction
  have exponentLength := length_of_parseExponent isExponent
  dsimp only at isExponent exponentLength parsed
  by_cases whole : fraction = [] ∧ exponent = []
  · simp only [if_pos whole, pure, Option.some.injEq, Prod.mk.injEq] at parsed
    rcases parsed with ⟨rfl, rfl⟩
    have plain := length_decimal_digitsValue_le read.2.1 read.2.2
    change (renderInteger _).length + 0 + _ ≤ _
    rw [length_renderInteger]
    by_cases positive : sign = []
    · simp only [if_pos positive, Int.natAbs_natCast]
      rw [if_neg (by omega)]
      omega
    · have one : 0 < sign.length := List.length_pos_iff.mpr positive
      simp only [if_neg positive, Int.natAbs_neg, Int.natAbs_natCast]
      split <;> omega
  · simp only [if_neg whole, pure, Option.some.injEq, Prod.mk.injEq] at parsed
    rcases parsed with ⟨rfl, rfl⟩
    change (sign ++ digits ++ fraction ++ exponent).length + 0 + _ ≤ _
    simp only [List.length_append]
    omega

/-! ### Values -/

def membersLength (members : List (List UInt8 × Value)) : Nat :=
  (renderMembers members).length + memberEscapes members

def elementsLength (elements : List Value) : Nat :=
  (renderElements elements).length + elementEscapes elements

theorem leastLength_string (text : List UInt8) :
    leastLength (.string text) = stringLength text + 2 := by
  unfold leastLength stringLength render escapes quoted
  rw [List.length_cons, List.length_append, List.length_singleton]
  omega

theorem leastLength_object (members : List (List UInt8 × Value)) :
    leastLength (.object members) = 1 + membersLength members := by
  unfold leastLength membersLength render escapes
  rw [List.length_cons]
  omega

theorem leastLength_array (elements : List Value) :
    leastLength (.array elements) = 1 + elementsLength elements := by
  unfold leastLength elementsLength render escapes
  rw [List.length_cons]
  omega

theorem membersLength_cons (key : List UInt8) (value : Value)
    (rest : List (List UInt8 × Value)) :
    membersLength ((key, value) :: rest) = stringLength key + 4 + leastLength value +
      if rest.isEmpty then 0 else membersLength rest := by
  unfold membersLength leastLength stringLength
  rw [renderMembers, memberEscapes, quoted]
  simp only [List.length_cons, List.length_append, List.length_nil]
  cases rest with
  | nil =>
      simp only [List.isEmpty_nil, if_true, List.length_cons, List.length_nil, memberEscapes]
      omega
  | cons member others =>
      simp only [List.isEmpty_cons, Bool.false_eq_true, if_false, List.length_cons]
      omega

theorem elementsLength_cons (value : Value) (rest : List Value) :
    elementsLength (value :: rest) = leastLength value + 1 +
      if rest.isEmpty then 0 else elementsLength rest := by
  unfold elementsLength leastLength
  rw [renderElements, elementEscapes]
  simp only [List.length_append]
  cases rest with
  | nil =>
      simp only [List.isEmpty_nil, if_true, List.length_cons, List.length_nil, elementEscapes]
      omega
  | cons element others =>
      simp only [List.isEmpty_cons, Bool.false_eq_true, if_false, List.length_cons]
      omega

theorem length_of_parseWord {word text rest : List UInt8} {written value : Value}
    (parsed : parseWord word written text = some (value, rest))
    (least : leastLength written = word.length) :
    leastLength value + rest.length ≤ text.length := by
  unfold parseWord at parsed
  by_cases isWord : word.isPrefixOf text
  · rw [if_pos isWord] at parsed
    cases parsed
    have fits := (List.isPrefixOf_iff_prefix.mp isWord).length_le
    rw [least, List.length_drop]
    omega
  · rw [if_neg isWord] at parsed
    cases parsed

/-- What was read as a value is at least as long as its plain text. -/
def ValuesBounded (fuel : Nat) : Prop :=
  ∀ text value rest, parseValue fuel text = some (value, rest) →
    leastLength value + rest.length ≤ text.length

def MembersBounded (fuel : Nat) : Prop :=
  ∀ text members rest, parseMembers fuel text = some (members, rest) →
    members ≠ [] ∧ membersLength members + rest.length ≤ text.length

def ElementsBounded (fuel : Nat) : Prop :=
  ∀ text elements rest, parseElements fuel text = some (elements, rest) →
    elements ≠ [] ∧ elementsLength elements + rest.length ≤ text.length

/-- By the character that the value begins with. -/
theorem valuesBounded_succ {fuel : Nat} (objects : MembersBounded fuel)
    (arrays : ElementsBounded fuel) : ValuesBounded (fuel + 1) := by
  intro text value rest parsed
  have skipped := length_skipSpace_le text
  unfold parseValue at parsed
  cases trimmed : skipSpace text with
  | nil => rw [trimmed] at parsed; cases parsed
  | cons c others =>
      rw [trimmed, List.length_cons] at skipped
      rw [trimmed] at parsed
      dsimp only at parsed
      by_cases isString : c = 34
      · rw [if_pos isString] at parsed
        rcases Option.map_eq_some_iff.mp parsed with ⟨⟨string, behind⟩, body, same⟩
        cases same
        have read := length_of_parseString body
        dsimp only
        rw [leastLength_string]
        omega
      rw [if_neg isString] at parsed
      by_cases isObject : c = 123
      · rw [if_pos isObject] at parsed
        cases closed : expect 125 others with
        | some behind =>
            rw [closed] at parsed
            cases parsed
            have read := length_of_expect closed
            have least : leastLength (.object []) = 2 := rfl
            omega
        | none =>
            rw [closed] at parsed
            rcases Option.map_eq_some_iff.mp parsed with ⟨⟨members, behind⟩, inner, same⟩
            cases same
            have read := (objects _ _ _ inner).2
            dsimp only
            rw [leastLength_object]
            omega
      rw [if_neg isObject] at parsed
      by_cases isArray : c = 91
      · rw [if_pos isArray] at parsed
        cases closed : expect 93 others with
        | some behind =>
            rw [closed] at parsed
            cases parsed
            have read := length_of_expect closed
            have least : leastLength (.array []) = 2 := rfl
            omega
        | none =>
            rw [closed] at parsed
            rcases Option.map_eq_some_iff.mp parsed with ⟨⟨elements, behind⟩, inner, same⟩
            cases same
            have read := (arrays _ _ _ inner).2
            dsimp only
            rw [leastLength_array]
            omega
      rw [if_neg isArray] at parsed
      have whole : (c :: others).length ≤ text.length := skipped
      refine Nat.le_trans ?_ whole
      by_cases isNull : c = 110
      · rw [if_pos isNull] at parsed
        exact length_of_parseWord parsed rfl
      rw [if_neg isNull] at parsed
      by_cases isTrue : c = 116
      · rw [if_pos isTrue] at parsed
        exact length_of_parseWord parsed rfl
      rw [if_neg isTrue] at parsed
      by_cases isFalse : c = 102
      · rw [if_pos isFalse] at parsed
        exact length_of_parseWord parsed rfl
      · rw [if_neg isFalse] at parsed
        exact length_of_parseNumber parsed

theorem membersBounded_succ {fuel : Nat} (values : ValuesBounded fuel)
    (objects : MembersBounded fuel) : MembersBounded (fuel + 1) := by
  intro text members rest parsed
  unfold parseMembers at parsed
  simp only [Option.bind_eq_bind, Option.bind_eq_some_iff] at parsed
  rcases parsed with ⟨opened, isQuote, ⟨key, behindKey⟩, isKey, colon, isColon,
    ⟨value, behindValue⟩, isValue, parsed⟩
  have openLength := length_of_expect isQuote
  have keyLength := length_of_parseString isKey
  have colonLength := length_of_expect isColon
  have valueLength := values _ _ _ isValue
  cases closed : expect 125 behindValue with
  | some behind =>
      rw [closed] at parsed
      cases parsed
      have read := length_of_expect closed
      refine ⟨List.cons_ne_nil _ _, ?_⟩
      dsimp only at colonLength ⊢
      rw [membersLength_cons, List.isEmpty_nil, if_pos rfl]
      omega
  | none =>
      rw [closed] at parsed
      simp only [Option.bind_eq_some_iff, pure, Option.some.injEq,
        Prod.mk.injEq] at parsed
      rcases parsed with ⟨next, isComma, ⟨others, behind⟩, inner, rfl, rfl⟩
      have commaLength := length_of_expect isComma
      have tail := objects _ _ _ inner
      refine ⟨List.cons_ne_nil _ _, ?_⟩
      dsimp only at colonLength tail ⊢
      rw [membersLength_cons, List.isEmpty_eq_false_iff.mpr tail.1]
      simp only [Bool.false_eq_true, if_false]
      omega

theorem elementsBounded_succ {fuel : Nat} (values : ValuesBounded fuel)
    (arrays : ElementsBounded fuel) : ElementsBounded (fuel + 1) := by
  intro text elements rest parsed
  unfold parseElements at parsed
  simp only [Option.bind_eq_bind, Option.bind_eq_some_iff] at parsed
  rcases parsed with ⟨⟨value, behindValue⟩, isValue, parsed⟩
  have valueLength := values _ _ _ isValue
  cases closed : expect 93 behindValue with
  | some behind =>
      rw [closed] at parsed
      cases parsed
      have read := length_of_expect closed
      refine ⟨List.cons_ne_nil _ _, ?_⟩
      dsimp only
      rw [elementsLength_cons, List.isEmpty_nil, if_pos rfl]
      omega
  | none =>
      rw [closed] at parsed
      simp only [Option.bind_eq_some_iff, pure, Option.some.injEq,
        Prod.mk.injEq] at parsed
      rcases parsed with ⟨next, isComma, ⟨others, behind⟩, inner, rfl, rfl⟩
      have commaLength := length_of_expect isComma
      have tail := arrays _ _ _ inner
      refine ⟨List.cons_ne_nil _ _, ?_⟩
      dsimp only at tail ⊢
      rw [elementsLength_cons, List.isEmpty_eq_false_iff.mpr tail.1]
      simp only [Bool.false_eq_true, if_false]
      omega

theorem length_of_parsed (fuel : Nat) :
    ValuesBounded fuel ∧ MembersBounded fuel ∧ ElementsBounded fuel := by
  induction fuel with
  | zero =>
      refine ⟨?_, ?_, ?_⟩
      · intro text value rest parsed
        cases parsed
      · intro text members rest parsed
        cases parsed
      · intro text elements rest parsed
        cases parsed
  | succ fuel ih =>
      rcases ih with ⟨values, objects, arrays⟩
      exact ⟨valuesBounded_succ objects arrays, membersBounded_succ values objects,
        elementsBounded_succ values arrays⟩

/-- No text of a value is shorter than the plain one with a backslash in front of
each character that needs one. -/
theorem leastLength_le_of_parse {text : List UInt8} {value : Value}
    (parsed : parse text = some value) : leastLength value ≤ text.length := by
  unfold parse at parsed
  cases read : parseValue (text.length + 1) text with
  | none => rw [read] at parsed; cases parsed
  | some pair =>
      rcases pair with ⟨found, rest⟩
      rw [read] at parsed
      have length := (length_of_parsed _).1 _ _ _ read
      by_cases ended : skipSpace rest = []
      · simp only [if_pos ended, Option.some.injEq] at parsed
        rw [← parsed]
        omega
      · simp only [if_neg ended] at parsed
        cases parsed

/-! ## What is written without escapes is read back -/

theorem expect_self {c : UInt8} (visible : isSpace c = false) (rest : List UInt8) :
    expect c (c :: rest) = some rest := by
  have kept : skipSpace (c :: rest) = c :: rest := List.dropWhile_cons_of_neg (by rw [visible]; decide)
  rw [expect, kept]
  exact if_pos rfl

theorem expect_other {c first : UInt8} (visible : isSpace first = false) (other : first ≠ c)
    (rest : List UInt8) : expect c (first :: rest) = none := by
  have kept : skipSpace (first :: rest) = first :: rest :=
    List.dropWhile_cons_of_neg (by rw [visible]; decide)
  rw [expect, kept]
  exact if_neg other

/-- No character of the text is special. -/
def PlainText (text : List UInt8) : Prop := ∀ c ∈ text, ¬ Special c

theorem plainText_iff (text : List UInt8) :
    text.countP (fun c => Special c) = 0 ↔ PlainText text := by
  rw [List.countP_eq_zero]
  simp [PlainText]

theorem stringBody_of_plain {text : List UInt8} (plain : PlainText text) {limit : Nat}
    (enough : text.length < limit) (rest : List UInt8) :
    stringBody limit (text ++ 34 :: rest) = some (text, rest) := by
  induction text generalizing limit with
  | nil =>
      cases limit with
      | zero => omega
      | succ limit => exact if_pos rfl
  | cons c others ih =>
      cases limit with
      | zero => omega
      | succ limit =>
          have tail := ih (fun other member => plain other (List.mem_cons_of_mem _ member))
            (Nat.lt_of_succ_lt_succ enough)
          have here := plain c List.mem_cons_self
          unfold Special at here
          rw [not_or, not_or] at here
          rw [List.cons_append, stringBody, if_neg here.1, if_neg here.2.1, if_neg here.2.2, tail]
          rfl

theorem parseString_of_plain {text : List UInt8} (plain : PlainText text) (rest : List UInt8) :
    parseString (text ++ 34 :: rest) = some (text, rest) := by
  apply stringBody_of_plain plain
  rw [List.length_append, List.length_cons]
  omega

/-! ### Numbers -/

/-- A text that does not continue a number. -/
def EndsNumber (rest : List UInt8) : Prop :=
  ∀ c, rest.head? = some c → isDigit c = false ∧ c ≠ 46 ∧ c ≠ 101 ∧ c ≠ 69

theorem endsNumber_cons {c : UInt8} (noDigit : isDigit c = false) (noPoint : c ≠ 46)
    (noExponent : c ≠ 101 ∧ c ≠ 69) (rest : List UInt8) : EndsNumber (c :: rest) := by
  intro first same
  cases same
  exact ⟨noDigit, noPoint, noExponent⟩

theorem isDigit_of_mem_decimal {n : Nat} {c : UInt8} (member : c ∈ (decimal n).bytes) :
    isDigit c = true := by
  rcases List.mem_map.mp member with ⟨digit, inside, rfl⟩
  have small := decimalDigits_lt inside
  have value := toNat_digitByte small
  simp only [isDigit, Bool.and_eq_true, decide_eq_true_eq, UInt8.le_iff_toNat_le, value]
  have low : (48 : UInt8).toNat = 48 := rfl
  have high : (57 : UInt8).toNat = 57 := rfl
  omega

theorem digitsValue_decimal (n : Nat) : digitsValue (decimal n).bytes = n := by
  have back : ((decimalDigits n).map digitByte).map (fun c => c.toNat - 48) = decimalDigits n := by
    rw [List.map_map]
    refine (List.map_congr_left ?_).trans (List.map_id _)
    intro digit inside
    change (digitByte digit).toNat - 48 = digit
    rw [toNat_digitByte (decimalDigits_lt inside), Nat.add_sub_cancel]
  change decimalValue (((decimalDigits n).map digitByte).map fun c => c.toNat - 48) = n
  rw [back, decimalValue_decimalDigits]

/-- Only zero is written with a zero in front. -/
theorem no_leadingZero (n : Nat) :
    ¬ (1 < (decimal n).bytes.length ∧ (decimal n).bytes.head? = some 48) := by
  rintro ⟨long, zero⟩
  by_cases isZero : n = 0
  · rw [isZero] at long
    exact absurd long (by decide)
  · have digits : decimalDigits n = (Nat.digits 10 n).reverse := if_neg isZero
    have nonempty : Nat.digits 10 n ≠ [] := Nat.digits_ne_nil_iff_ne_zero.mpr isZero
    have first : (decimal n).bytes.head? = some (digitByte ((Nat.digits 10 n).getLast nonempty)) := by
      change ((decimalDigits n).map digitByte).head? = _
      rw [digits, List.head?_map, List.head?_reverse, List.getLast?_eq_some_getLast nonempty]
      rfl
    have small : (Nat.digits 10 n).getLast nonempty < 10 :=
      Nat.digits_lt_base (by decide) (List.getLast_mem nonempty)
    have value := toNat_digitByte small
    rw [first] at zero
    rw [Option.some.inj zero] at value
    have isZero : (48 : UInt8).toNat = 48 := rfl
    exact Nat.getLast_digit_ne_zero 10 ‹n ≠ 0› (by omega)

theorem parseDigits_decimal (n : Nat) {rest : List UInt8} (ends : EndsNumber rest) :
    parseDigits ((decimal n).bytes ++ rest) = some ((decimal n).bytes, rest) := by
  have all : ∀ c ∈ (decimal n).bytes, isDigit c = true := fun c member =>
    isDigit_of_mem_decimal member
  have stops : rest.takeWhile isDigit = [] ∧ rest.dropWhile isDigit = rest := by
    cases rest with
    | nil => exact ⟨rfl, rfl⟩
    | cons c others =>
        have noDigit := (ends c rfl).1
        have falsified : ¬ isDigit c = true := by
          rw [noDigit]
          exact Bool.false_ne_true
        exact ⟨List.takeWhile_cons_of_neg falsified, List.dropWhile_cons_of_neg falsified⟩
  unfold parseDigits
  rw [List.takeWhile_append_of_pos all, List.dropWhile_append_of_pos all, stops.1, stops.2,
    List.append_nil, if_neg (decimal_ne_nil n)]

theorem parseFraction_of_endsNumber {rest : List UInt8} (ends : EndsNumber rest) :
    parseFraction rest = some ([], rest) := by
  cases rest with
  | nil => rfl
  | cons c others => exact if_neg (ends c rfl).2.1

theorem parseExponent_of_endsNumber {rest : List UInt8} (ends : EndsNumber rest) :
    parseExponent rest = some ([], rest) := by
  cases rest with
  | nil => rfl
  | cons c others =>
      have neither : ¬ (c = 101 ∨ c = 69) := by
        rw [not_or]
        exact (ends c rfl).2.2
      exact if_neg neither

theorem parseSign_renderInteger (value : Int) (rest : List UInt8) :
    parseSign [45] (renderInteger value ++ rest) =
      (if value < 0 then [45] else [], (decimal value.natAbs).bytes ++ rest) := by
  unfold renderInteger
  by_cases negative : value < 0
  · rw [if_pos negative, if_pos negative, List.cons_append, parseSign]
    exact if_pos (List.mem_singleton.mpr rfl)
  · rw [if_neg negative, if_neg negative]
    cases digits : (decimal value.natAbs).bytes with
    | nil => exact absurd digits (decimal_ne_nil _)
    | cons c others =>
        have digit : isDigit c = true := by
          apply isDigit_of_mem_decimal
          rw [digits]
          exact List.mem_cons_self
        have noSign : c ∉ [(45 : UInt8)] := by
          rw [List.mem_singleton]
          intro same
          rw [same] at digit
          exact absurd digit (by decide)
        rw [List.cons_append, parseSign, if_neg noSign]

theorem parseNumber_renderInteger (value : Int) {rest : List UInt8} (ends : EndsNumber rest) :
    parseNumber (renderInteger value ++ rest) = some (.integer value, rest) := by
  unfold parseNumber
  rw [parseSign_renderInteger]
  simp only [parseDigits_decimal _ ends, Option.bind_eq_bind, Option.bind_some,
    if_neg (no_leadingZero value.natAbs), parseFraction_of_endsNumber ends,
    parseExponent_of_endsNumber ends, digitsValue_decimal, and_self, if_true, pure,
    Option.some.injEq, Prod.mk.injEq, and_true, Value.integer.injEq]
  by_cases negative : value < 0
  · simp only [if_pos negative, List.cons_ne_self, if_false]
    omega
  · simp only [if_neg negative, if_true]
    omega

/-! ### Values -/

/-- A number begins with a digit or a sign, and with nothing else. -/
theorem ne_of_first {c other : UInt8} (first : isDigit c = true ∨ c = 45)
    (noDigit : isDigit other = false) (noSign : other ≠ 45) : c ≠ other := by
  intro same
  rcases first with digit | sign
  · rw [same, noDigit] at digit
    cases digit
  · exact noSign (same.symm.trans sign)

theorem isSpace_of_first {c : UInt8} (first : isDigit c = true ∨ c = 45) : isSpace c = false := by
  simp only [isSpace, Bool.or_eq_false_iff, beq_eq_false_iff_ne]
  exact ⟨⟨⟨ne_of_first first rfl (by decide), ne_of_first first rfl (by decide)⟩,
    ne_of_first first rfl (by decide)⟩, ne_of_first first rfl (by decide)⟩

/-- A character at which a number begins is none of the others that a value
begins with. -/
theorem parseValue_of_number {c : UInt8} (first : isDigit c = true ∨ c = 45) (fuel : Nat)
    (rest : List UInt8) : parseValue (fuel + 1) (c :: rest) = parseNumber (c :: rest) := by
  have visible : ¬ isSpace c = true := Bool.eq_false_iff.mp (isSpace_of_first first)
  have kept : skipSpace (c :: rest) = c :: rest := List.dropWhile_cons_of_neg visible
  rw [parseValue, kept]
  dsimp only
  rw [if_neg (ne_of_first first rfl (by decide)), if_neg (ne_of_first first rfl (by decide)),
    if_neg (ne_of_first first rfl (by decide)), if_neg (ne_of_first first rfl (by decide)),
    if_neg (ne_of_first first rfl (by decide)), if_neg (ne_of_first first rfl (by decide))]

theorem exists_renderInteger_cons (value : Int) :
    ∃ c rest, renderInteger value = c :: rest ∧ (isDigit c = true ∨ c = 45) := by
  unfold renderInteger
  by_cases negative : value < 0
  · exact ⟨45, _, if_pos negative, Or.inr rfl⟩
  · rw [if_neg negative]
    cases digits : (decimal value.natAbs).bytes with
    | nil => exact absurd digits (decimal_ne_nil _)
    | cons c rest =>
        have member : c ∈ (decimal value.natAbs).bytes := by
          rw [digits]
          exact List.mem_cons_self
        exact ⟨c, rest, rfl, Or.inl (isDigit_of_mem_decimal member)⟩

theorem parseWord_append (word : List UInt8) (value : Value) (rest : List UInt8) :
    parseWord word value (word ++ rest) = some (value, rest) := by
  have isWord : word.isPrefixOf (word ++ rest) = true :=
    List.isPrefixOf_iff_prefix.mpr (List.prefix_append word rest)
  rw [parseWord, if_pos isWord, List.drop_left]

/-- No value begins with a closing bracket. -/
theorem exists_render_cons {value : Value} (integral : Integral value) :
    ∃ c rest, render value = c :: rest ∧ isSpace c = false ∧ c ≠ 93 := by
  cases value with
  | null => exact ⟨110, _, rfl, rfl, by decide⟩
  | bool value =>
      cases value with
      | true => exact ⟨116, _, rfl, rfl, by decide⟩
      | false => exact ⟨102, _, rfl, rfl, by decide⟩
  | integer value =>
      rcases exists_renderInteger_cons value with ⟨c, rest, written, first⟩
      exact ⟨c, rest, written, isSpace_of_first first, ne_of_first first rfl (by decide)⟩
  | real text => exact integral.elim
  | string text => exact ⟨34, _, rfl, rfl, by decide⟩
  | array elements => exact ⟨91, _, rfl, rfl, by decide⟩
  | object members => exact ⟨123, _, rfl, rfl, by decide⟩

theorem parseValue_array {fuel : Nat} {text behind : List UInt8} {elements : List Value}
    (opened : expect 93 text = none) (read : parseElements fuel text = some (elements, behind)) :
    parseValue (fuel + 1) (91 :: text) = some (.array elements, behind) := by
  have unfolded : parseValue (fuel + 1) (91 :: text) =
      match expect 93 text with
      | some rest => some (.array [], rest)
      | none => (parseElements fuel text).map
          fun (parsed : List Value × List UInt8) => (.array parsed.1, parsed.2) := rfl
  rw [unfolded, opened]
  dsimp only
  rw [read]
  rfl

theorem parseValue_object {fuel : Nat} {text behind : List UInt8}
    {members : List (List UInt8 × Value)} (opened : expect 125 text = none)
    (read : parseMembers fuel text = some (members, behind)) :
    parseValue (fuel + 1) (123 :: text) = some (.object members, behind) := by
  have unfolded : parseValue (fuel + 1) (123 :: text) =
      match expect 125 text with
      | some rest => some (.object [], rest)
      | none => (parseMembers fuel text).map
          fun (parsed : List (List UInt8 × Value) × List UInt8) =>
            (.object parsed.1, parsed.2) := rfl
  rw [unfolded, opened]
  dsimp only
  rw [read]
  rfl

/-- The first member of an object, read up to what stands behind its value. -/
theorem parseMembers_of_first {fuel : Nat} {key text behind : List UInt8} {value : Value}
    (plain : PlainText key) (read : parseValue fuel text = some (value, behind)) :
    parseMembers (fuel + 1) (quoted key ++ 58 :: text) =
      match expect 125 behind with
      | some rest => some ([(key, value)], rest)
      | none => do
          let rest ← expect 44 behind
          let (members, rest) ← parseMembers fuel rest
          return ((key, value) :: members, rest) := by
  have shape : quoted key ++ 58 :: text = 34 :: (key ++ 34 :: 58 :: text) := by
    rw [quoted, List.cons_append, List.append_assoc]
    rfl
  rw [shape, parseMembers, expect_self rfl]
  simp only [Option.bind_eq_bind, Option.bind_some, parseString_of_plain plain,
    expect_self (show isSpace 58 = false from rfl), read]
  rfl

/-- A plain value is read back from its text, if the text behind it cannot be
taken for more of a number. -/
def ValuesRead (fuel : Nat) : Prop :=
  ∀ value rest, Integral value → escapes value = 0 → EndsNumber rest →
    (render value).length < fuel → parseValue fuel (render value ++ rest) = some (value, rest)

def MembersRead (fuel : Nat) : Prop :=
  ∀ members rest, members ≠ [] → IntegralMembers members → memberEscapes members = 0 →
    (renderMembers members).length < fuel →
    parseMembers fuel (renderMembers members ++ rest) = some (members, rest)

def ElementsRead (fuel : Nat) : Prop :=
  ∀ elements rest, elements ≠ [] → IntegralElements elements → elementEscapes elements = 0 →
    (renderElements elements).length < fuel →
    parseElements fuel (renderElements elements ++ rest) = some (elements, rest)

theorem valuesRead_succ {fuel : Nat} (objects : MembersRead fuel) (arrays : ElementsRead fuel) :
    ValuesRead (fuel + 1) := by
  intro value rest integral plain ends enough
  cases value with
  | null => exact parseWord_append [110, 117, 108, 108] .null rest
  | bool value =>
      cases value with
      | true => exact parseWord_append [116, 114, 117, 101] (.bool true) rest
      | false => exact parseWord_append [102, 97, 108, 115, 101] (.bool false) rest
  | integer value =>
      rcases exists_renderInteger_cons value with ⟨c, others, written, first⟩
      have number := parseNumber_renderInteger value ends
      change parseValue (fuel + 1) (renderInteger value ++ rest) = _
      rw [written, List.cons_append] at number ⊢
      rw [parseValue_of_number first, number]
  | real text => exact integral.elim
  | string text =>
      have read := parseString_of_plain ((plainText_iff text).mp plain) rest
      have text34 : render (.string text) ++ rest = 34 :: (text ++ 34 :: rest) := by
        rw [render, quoted, List.cons_append, List.append_assoc]
        rfl
      rw [text34]
      change (parseString (text ++ 34 :: rest)).map _ = _
      rw [read]
      rfl
  | array elements =>
      cases elements with
      | nil => rfl
      | cons element others =>
          have nonempty : element :: others ≠ [] := List.cons_ne_nil _ _
          rcases exists_render_cons integral.1 with ⟨c, tail, written, visible, notClosed⟩
          have opened : expect 93 (renderElements (element :: others) ++ rest) = none := by
            rw [renderElements, written]
            exact expect_other visible notClosed _
          exact parseValue_array opened
            (arrays _ rest nonempty integral plain (Nat.lt_of_succ_lt_succ enough))
  | object members =>
      cases members with
      | nil => rfl
      | cons member others =>
          have nonempty : member :: others ≠ [] := List.cons_ne_nil _ _
          have opened : expect 125 (renderMembers (member :: others) ++ rest) = none :=
            expect_other rfl (by decide) _
          exact parseValue_object opened
            (objects _ rest nonempty integral plain (Nat.lt_of_succ_lt_succ enough))

theorem membersRead_succ {fuel : Nat} (values : ValuesRead fuel) (objects : MembersRead fuel) :
    MembersRead (fuel + 1) := by
  have brace : ∀ rest : List UInt8, EndsNumber (125 :: rest) :=
    endsNumber_cons rfl (by decide) (by decide)
  have comma : ∀ rest : List UInt8, EndsNumber (44 :: rest) :=
    endsNumber_cons rfl (by decide) (by decide)
  intro members rest nonempty integral plain enough
  cases members with
  | nil => exact absurd rfl nonempty
  | cons member others =>
      rcases member with ⟨key, value⟩
      have noEscapes : key.countP (fun c => Special c) + escapes value +
          memberEscapes others = 0 := plain
      have keyPlain : PlainText key := (plainText_iff key).mp (by omega)
      rw [renderMembers] at enough ⊢
      cases others with
      | nil =>
          simp only [List.isEmpty_nil, if_true, List.append_assoc, List.cons_append,
            List.nil_append] at enough ⊢
          have shorter : (render value).length < fuel := by
            simp only [quoted, List.length_append, List.length_cons] at enough
            omega
          have read := values value (125 :: rest) integral.1 (by omega) (brace rest) shorter
          rw [parseMembers_of_first keyPlain read, expect_self rfl]
      | cons next more =>
          simp only [List.isEmpty_cons, Bool.false_eq_true, if_false, List.append_assoc,
            List.cons_append] at enough ⊢
          have shorter : (render value).length < fuel ∧
              (renderMembers (next :: more)).length < fuel := by
            simp only [quoted, List.length_append, List.length_cons] at enough
            omega
          have read := values value (44 :: (renderMembers (next :: more) ++ rest)) integral.1
            (by omega) (comma _) shorter.1
          have behind := objects (next :: more) rest (List.cons_ne_nil _ _) integral.2
            (by omega) shorter.2
          rw [parseMembers_of_first keyPlain read, expect_other rfl (by decide),
            expect_self rfl]
          simp only [Option.bind_eq_bind, Option.bind_some, behind]
          rfl

theorem elementsRead_succ {fuel : Nat} (values : ValuesRead fuel) (arrays : ElementsRead fuel) :
    ElementsRead (fuel + 1) := by
  have bracket : ∀ rest : List UInt8, EndsNumber (93 :: rest) :=
    endsNumber_cons rfl (by decide) (by decide)
  have comma : ∀ rest : List UInt8, EndsNumber (44 :: rest) :=
    endsNumber_cons rfl (by decide) (by decide)
  intro elements rest nonempty integral plain enough
  cases elements with
  | nil => exact absurd rfl nonempty
  | cons value others =>
      have noEscapes : escapes value + elementEscapes others = 0 := plain
      rw [renderElements] at enough ⊢
      rw [parseElements]
      cases others with
      | nil =>
          simp only [List.isEmpty_nil, if_true, List.append_assoc, List.cons_append,
            List.nil_append, List.length_append, List.length_singleton] at enough ⊢
          have read := values value (93 :: rest) integral.1 (by omega) (bracket rest)
            (by omega)
          simp only [Option.bind_eq_bind, read, Option.bind_some,
            expect_self (show isSpace 93 = false from rfl)]
          rfl
      | cons next more =>
          simp only [List.isEmpty_cons, Bool.false_eq_true, if_false, List.append_assoc,
            List.cons_append, List.length_append, List.length_cons] at enough ⊢
          have read := values value (44 :: (renderElements (next :: more) ++ rest))
            integral.1 (by omega) (comma _) (by omega)
          have behind := arrays (next :: more) rest (List.cons_ne_nil _ _) integral.2
            (by omega) (by omega)
          have opened : expect 93 (44 :: (renderElements (next :: more) ++ rest)) = none :=
            expect_other rfl (by decide) _
          simp only [Option.bind_eq_bind, read, Option.bind_some, opened,
            expect_self (show isSpace 44 = false from rfl), behind]
          rfl

theorem parsed_of_render (fuel : Nat) : ValuesRead fuel ∧ MembersRead fuel ∧ ElementsRead fuel := by
  induction fuel with
  | zero =>
      refine ⟨?_, ?_, ?_⟩
      · intro value rest integral plain ends impossible
        exact absurd impossible (Nat.not_lt_zero _)
      · intro members rest nonempty integral plain impossible
        exact absurd impossible (Nat.not_lt_zero _)
      · intro elements rest nonempty integral plain impossible
        exact absurd impossible (Nat.not_lt_zero _)
  | succ fuel ih =>
      rcases ih with ⟨values, objects, arrays⟩
      exact ⟨valuesRead_succ objects arrays, membersRead_succ values objects,
        elementsRead_succ values arrays⟩

/-- What needs no escape is read back. -/
theorem parse_render {value : Value} (integral : Integral value) (plain : escapes value = 0) :
    parse (render value) = some value := by
  have ends : EndsNumber [] := by
    intro c impossible
    cases impossible
  have read := (parsed_of_render ((render value).length + 1)).1 value [] integral plain ends
    (Nat.lt_succ_self _)
  rw [List.append_nil] at read
  rw [parse, read]
  rfl

/-! ## What is written without escapes and needs them -/

/-- Every member that is asked for is there, and covers what is expected of it. -/
inductive Covers : Value → Value → Prop
  | same (value : Value) : Covers value value
  | object {found expected : List (List UInt8 × Value)} (image : List UInt8 → Value)
      (distinct : (expected.map Prod.fst).Nodup)
      (has : ∀ key value, (key, value) ∈ expected →
        (Value.object found).get key = some (image key))
      (covers : ∀ key value, (key, value) ∈ expected → Covers (image key) value) :
      Covers (.object found) (.object expected)

/-- What one member takes, with the comma or brace behind it. -/
def memberLength (member : List UInt8 × Value) : Nat :=
  stringLength member.1 + 4 + leastLength member.2

theorem membersLength_eq_sum {members : List (List UInt8 × Value)} (nonempty : members ≠ []) :
    membersLength members = (members.map memberLength).sum := by
  induction members with
  | nil => exact absurd rfl nonempty
  | cons member rest ih =>
      rcases member with ⟨key, value⟩
      rw [membersLength_cons, List.map_cons, List.sum_cons]
      cases rest with
      | nil => rfl
      | cons next more =>
          rw [← ih (List.cons_ne_nil _ _)]
          rfl

/-- An object that covers another one takes at least as much room: its members
of the expected names are different members. -/
theorem leastLength_le_of_covers {found expected : Value} (covers : Covers found expected) :
    leastLength expected ≤ leastLength found := by
  induction covers with
  | same value => exact Nat.le_refl _
  | @object found expected image distinct has covers ih =>
      rw [leastLength_object, leastLength_object]
      apply Nat.add_le_add_left
      cases expected with
      | nil =>
          change 1 ≤ membersLength found
          cases found with
          | nil => exact Nat.le_refl 1
          | cons member rest =>
              rcases member with ⟨key, value⟩
              rw [membersLength_cons]
              omega
      | cons member others =>
          let images := (member :: others).map fun expected => (expected.1, image expected.1)
          have keys : images.map Prod.fst = (member :: others).map Prod.fst := by
            rw [List.map_map]
            rfl
          have different : images.Nodup := by
            apply List.Nodup.of_map Prod.fst
            rw [keys]
            exact distinct
          have inside : images ⊆ found := by
            intro pair isImage
            rcases List.mem_map.mp isImage with ⟨⟨key, value⟩, isMember, rfl⟩
            exact mem_of_get (has key value isMember)
          rcases different.subperm inside with ⟨chosen, reordered, sublist⟩
          have foundNonempty : found ≠ [] := by
            intro none
            have first := inside (List.mem_map_of_mem (List.mem_cons_self))
            rw [none] at first
            exact absurd first List.not_mem_nil
          rw [membersLength_eq_sum (List.cons_ne_nil member others),
            membersLength_eq_sum foundNonempty]
          calc ((member :: others).map memberLength).sum
              ≤ ((member :: others).map fun expected =>
                  memberLength (expected.1, image expected.1)).sum := by
                apply List.sum_le_sum
                intro pair isMember
                exact Nat.add_le_add_left (ih pair.1 pair.2 isMember) _
            _ = (images.map memberLength).sum := by
                rw [List.map_map]
                rfl
            _ = (chosen.map memberLength).sum := ((reordered.map memberLength).sum_eq).symm
            _ ≤ (found.map memberLength).sum := by
                apply (sublist.map memberLength).sum_le_sum
                intro length isLength
                exact Nat.zero_le length

/-- Written without escapes, a value is read back, or only covered by what is
read, exactly when none of its strings needs one. -/
theorem exists_covers_iff {value : Value} (integral : Integral value) :
    (∃ found, parse (render value) = some found ∧ Covers found value) ↔ escapes value = 0 := by
  constructor
  · rintro ⟨found, parsed, covers⟩
    have needed := leastLength_le_of_covers covers
    have available := leastLength_le_of_parse parsed
    unfold leastLength at needed
    unfold leastLength at available
    omega
  · intro plain
    exact ⟨value, parse_render integral plain, .same value⟩

/-- A quote inside a string ends it, and the rest of the string is taken for
something else. -/
example : parse (render (.object [([97], .string [34, 44, 34, 98, 34, 58, 34])])) =
    some (.object [([97], .string []), ([98], .string [])]) := rfl

end JsonText
end Library
end TrustChain
