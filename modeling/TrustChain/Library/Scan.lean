import TrustChain.Library.JsonText

namespace TrustChain
namespace Library

/-!
# Words and numbers in a text

The words of a text are what is left between its separators.  A scanner that
skips separators and takes what stands in front of the next one finds the words
one after the other.  Where a text is cut off at a byte that is no separator,
the words in front of that byte are not touched.

Numbers are read as `atoi` reads them.  What becomes of a number that no `int`
can hold is left open, as the C standard leaves it open.
-/

section Words

variable {Symbol : Type} (isSpace : Symbol → Bool)

/-- What stands between the separators, without the empty pieces. -/
def words (text : List Symbol) : List (List Symbol) :=
  (text.splitOnP isSpace).filter fun word => !word.isEmpty

/-- The conversion `%s`: separators are skipped, the word is taken, and the rest
begins behind it. -/
def scanWord (text : List Symbol) : Option (List Symbol × List Symbol) :=
  let rest := text.dropWhile isSpace
  if rest.isEmpty then none
  else some (rest.takeWhile fun c => !isSpace c, rest.dropWhile fun c => !isSpace c)

/-- The format `%s %s`: what is assigned to the first and to the second argument. -/
def scanTwo (text : List Symbol) : Option (List Symbol) × Option (List Symbol) :=
  match scanWord isSpace text with
  | none => (none, none)
  | some (first, rest) => (some first, (scanWord isSpace rest).map Prod.fst)

variable {isSpace}

theorem words_cons_of_space {c : Symbol} (space : isSpace c = true) (text : List Symbol) :
    words isSpace (c :: text) = words isSpace text := by
  unfold words
  rw [List.splitOnP_cons_eq_if_modifyHead, if_pos space]
  rfl

theorem words_append_of_spaces {spaces : List Symbol} (all : ∀ c ∈ spaces, isSpace c = true)
    (text : List Symbol) : words isSpace (spaces ++ text) = words isSpace text := by
  induction spaces with
  | nil => rfl
  | cons c rest ih =>
      rw [List.forall_mem_cons] at all
      rw [List.cons_append, words_cons_of_space all.1, ih all.2]

/-- A word does not reach into this text. -/
def StartsWithSpace (isSpace : Symbol → Bool) (text : List Symbol) : Prop :=
  ∀ c, text.head? = some c → isSpace c = true

/-- A word in front is the first of the words. -/
theorem words_append {word rest : List Symbol} (nonempty : word ≠ [])
    (all : ∀ c ∈ word, isSpace c = false) (ends : StartsWithSpace isSpace rest) :
    words isSpace (word ++ rest) = word :: words isSpace rest := by
  have kept : (!word.isEmpty) = true := by
    rw [Bool.not_eq_true', List.isEmpty_eq_false_iff]
    exact nonempty
  cases rest with
  | nil =>
      unfold words
      rw [List.append_nil, List.splitOnP_eq_singleton all]
      exact List.filter_cons_of_pos kept
  | cons c others =>
      rw [words_cons_of_space (ends c rfl)]
      unfold words
      rw [List.splitOnP_append_cons_of_forall_mem all c (ends c rfl)]
      exact List.filter_cons_of_pos kept

theorem head?_dropWhile_not {test : Symbol → Bool} {text : List Symbol} {c : Symbol}
    (first : (text.dropWhile test).head? = some c) : test c = false := by
  have stopped := List.head?_dropWhile_not test text
  rw [first] at stopped
  exact stopped

/-- A word with separators in front of it, if any, and the rest behind it. -/
structure FirstWord (isSpace : Symbol → Bool) (text word rest : List Symbol) : Prop where
  split : ∃ spaces, (∀ c ∈ spaces, isSpace c = true) ∧ text = spaces ++ (word ++ rest)
  nonempty : word ≠ []
  noSpace : ∀ c ∈ word, isSpace c = false
  ends : StartsWithSpace isSpace rest

theorem FirstWord.words {text word rest : List Symbol} (first : FirstWord isSpace text word rest) :
    words isSpace text = word :: words isSpace rest := by
  rcases first.split with ⟨spaces, all, rfl⟩
  rw [words_append_of_spaces all, words_append first.nonempty first.noSpace first.ends]

theorem words_of_spaces {text : List Symbol} (all : ∀ c ∈ text, isSpace c = true) :
    words isSpace text = [] := by
  have nothing := words_append_of_spaces all []
  rwa [List.append_nil] at nothing

/-- The scanner finds a first word or there is none. -/
theorem scanWord_cases (isSpace : Symbol → Bool) (text : List Symbol) :
    ((∀ c ∈ text, isSpace c = true) ∧ scanWord isSpace text = none) ∨
      ∃ word rest, FirstWord isSpace text word rest ∧
        scanWord isSpace text = some (word, rest) := by
  unfold scanWord
  cases behind : text.dropWhile isSpace with
  | nil => exact Or.inl ⟨List.dropWhile_eq_nil_iff.mp behind, rfl⟩
  | cons c others =>
      have notSpace : isSpace c = false := head?_dropWhile_not (by rw [behind]; rfl)
      apply Or.inr
      refine ⟨_, _, ⟨⟨text.takeWhile isSpace, ?_, ?_⟩, ?_, ?_, ?_⟩, rfl⟩
      · exact fun c member => List.mem_takeWhile_imp member
      · rw [List.takeWhile_append_dropWhile, ← behind, List.takeWhile_append_dropWhile]
      · rw [List.takeWhile_cons_of_pos (by rw [notSpace]; rfl)]
        exact List.cons_ne_nil _ _
      · intro c member
        have kept := List.mem_takeWhile_imp member
        rwa [Bool.not_eq_true'] at kept
      · intro c first
        have stopped := head?_dropWhile_not first
        rwa [Bool.not_eq_false'] at stopped

/-- `%s %s` assigns the first two words, as far as there are any. -/
theorem scanTwo_eq (text : List Symbol) :
    scanTwo isSpace text = ((words isSpace text)[0]?, (words isSpace text)[1]?) := by
  unfold scanTwo
  rcases scanWord_cases isSpace text with ⟨all, scanned⟩ | ⟨first, rest, isFirst, scanned⟩
  · rw [scanned, words_of_spaces all]
    rfl
  · rw [scanned, isFirst.words]
    rcases scanWord_cases isSpace rest with ⟨all, scanned⟩ | ⟨second, behind, isSecond, scanned⟩
    · rw [words_of_spaces all]
      simp only [scanned]
      rfl
    · rw [isSecond.words]
      simp only [scanned]
      rfl

/-- The first words of a text are the first words of what is in front of a byte
that is no separator and that none of them contains. -/
theorem take_words_takeWhile [DecidableEq Symbol] {stop : Symbol} (noSpace : isSpace stop = false)
    (count : Nat) {text : List Symbol}
    (free : ∀ word ∈ (words isSpace text).take count, stop ∉ word) :
    (words isSpace (text.takeWhile (· ≠ stop))).take count = (words isSpace text).take count := by
  have passes : ∀ c, isSpace c = true → decide (c ≠ stop) = true := by
    intro c space
    rw [decide_eq_true_eq]
    rintro rfl
    rw [noSpace] at space
    cases space
  induction count generalizing text with
  | zero => rfl
  | succ count ih =>
      rcases scanWord_cases isSpace text with ⟨all, _⟩ | ⟨word, rest, isFirst, _⟩
      · rw [List.takeWhile_eq_self_iff.mpr fun c member => passes c (all c member)]
      · rw [isFirst.words, List.take_succ_cons] at free
        rw [List.forall_mem_cons] at free
        rcases isFirst.split with ⟨spaces, all, split⟩
        have cut : text.takeWhile (· ≠ stop) =
            spaces ++ (word ++ rest.takeWhile (· ≠ stop)) := by
          rw [split, List.takeWhile_append_of_pos fun c member => passes c (all c member),
            List.takeWhile_append_of_pos]
          intro c member
          rw [decide_eq_true_eq]
          rintro rfl
          exact free.1 member
        have ends : StartsWithSpace isSpace (rest.takeWhile (· ≠ stop)) := by
          intro c first
          rw [List.head?_takeWhile, Option.filter_eq_some_iff] at first
          exact isFirst.ends c first.1
        have cutFirst : FirstWord isSpace (text.takeWhile (· ≠ stop)) word
            (rest.takeWhile (· ≠ stop)) :=
          ⟨⟨spaces, all, cut⟩, isFirst.nonempty, isFirst.noSpace, ends⟩
        rw [cutFirst.words, isFirst.words, List.take_succ_cons, List.take_succ_cons, ih free.2]

end Words

/-! ## `isspace` and `atoi` -/

/-- `isspace` in the C locale: the blank, and HT, LF, VT, FF and CR. -/
def isSpace (c : UInt8) : Bool := c == 32 || (9 ≤ c && c ≤ 13)

/-- The number at the start of a text: white space is skipped, a sign is read if
there is one, and digits as far as they go. -/
def leadingInt (text : List UInt8) : Int :=
  match text.dropWhile isSpace with
  | 45 :: rest => -(JsonText.digitsValue (rest.takeWhile JsonText.isDigit) : Int)
  | 43 :: rest => (JsonText.digitsValue (rest.takeWhile JsonText.isDigit) : Int)
  | rest => (JsonText.digitsValue (rest.takeWhile JsonText.isDigit) : Int)

/-- The result of `atoi` for a number that no `int` can hold; `none` is a
program without a meaning. -/
abbrev IntOverflow := Int → Option Int32

/-- `atoi`. -/
def atoi (overflow : IntOverflow) (text : List UInt8) : Option Int32 :=
  if -2 ^ 31 ≤ leadingInt text ∧ leadingInt text < 2 ^ 31 then
    some (Int32.ofInt (leadingInt text))
  else overflow (leadingInt text)

/-- A library in which `atoi` is `strtol` followed by a conversion to `int`:
the number is brought into the range of `long` first. -/
def IntOverflow.throughLong (longBits : Nat) : IntOverflow := fun number =>
  some (Int32.ofInt (max (-2 ^ (longBits - 1)) (min (2 ^ (longBits - 1) - 1) number)))

theorem digit_range {c : UInt8} (digit : JsonText.isDigit c = true) : 48 ≤ c ∧ c ≤ 57 := by
  simp only [JsonText.isDigit, Bool.and_eq_true, decide_eq_true_eq] at digit
  exact digit

theorem not_isSpace_of_isDigit {c : UInt8} (digit : JsonText.isDigit c = true) :
    isSpace c = false := by
  have range := digit_range digit
  simp only [UInt8.le_iff_toNat_le, UInt8.reduceToNat] at range
  have noBlank : (c == 32) = false := by
    rw [beq_eq_false_iff_ne]
    rintro rfl
    exact absurd range.1 (by decide)
  have noControl : decide (c ≤ 13) = false := by
    simp only [decide_eq_false_iff_not, UInt8.le_iff_toNat_le, UInt8.reduceToNat]
    omega
  rw [isSpace, noBlank, noControl, Bool.and_false]
  rfl

/-- A text of digits is read as the number that they write, whatever stands
behind it that is no digit. -/
theorem leadingInt_of_digits {digits rest : List UInt8} (nonempty : digits ≠ [])
    (all : ∀ c ∈ digits, JsonText.isDigit c = true)
    (ends : rest.takeWhile JsonText.isDigit = []) :
    leadingInt (digits ++ rest) = JsonText.digitsValue digits := by
  have value : (digits ++ rest).takeWhile JsonText.isDigit = digits := by
    rw [List.takeWhile_append_of_pos all, ends, List.append_nil]
  cases digits with
  | nil => exact absurd rfl nonempty
  | cons first others =>
      have digit := all first List.mem_cons_self
      have range := digit_range digit
      have start : ((first :: others) ++ rest).dropWhile isSpace = (first :: others) ++ rest := by
        apply List.dropWhile_cons_of_neg
        rw [not_isSpace_of_isDigit digit]
        exact Bool.false_ne_true
      unfold leadingInt
      rw [start]
      split
      · rename_i same
        cases same
        exact absurd range (by decide)
      · rename_i same
        cases same
        exact absurd range (by decide)
      · rename_i same _ _
        rw [value]

/-! ## Numerals -/

/-- Numbers are written without zeros in front, or with any number of them. -/
inductive NumeralForm
  | shortest
  | padded
  deriving DecidableEq

/-- The text writes the number. -/
def NumeralForm.Writes (form : NumeralForm) (text : List UInt8) (number : Nat) : Prop :=
  text ≠ [] ∧ (∀ c ∈ text, JsonText.isDigit c = true) ∧ JsonText.digitsValue text = number ∧
    (form = .shortest → text = (decimal number).bytes)

/-- The number is an `int`, or the library makes of it what the conversion to
`uint32_t` turns back into it. -/
def Recovered (overflow : IntOverflow) (number : UInt32) : Prop :=
  number.toNat < 2 ^ 31 ∨
    ∃ converted, overflow number.toNat = some converted ∧ converted.toUInt32 = number

theorem toUInt32_ofInt_toNat (number : UInt32) : (Int32.ofInt number.toNat).toUInt32 = number := by
  rw [Int32.ofInt_eq_ofNat]
  apply UInt32.toNat_inj.mp
  change (BitVec.ofNat 32 number.toNat).toNat = number.toNat
  rw [BitVec.toNat_ofNat]
  exact Nat.mod_eq_of_lt number.toNat_lt

/-- With a `long` of 64 bits every number is recovered. -/
theorem recovered_throughLong_64 (number : UInt32) :
    Recovered (IntOverflow.throughLong 64) number := by
  have bound := number.toNat_lt
  apply Or.inr
  refine ⟨_, rfl, ?_⟩
  have inRange : max (-2 ^ (64 - 1)) (min (2 ^ (64 - 1) - 1) (number.toNat : Int)) =
      (number.toNat : Int) := by
    omega
  rw [inRange, toUInt32_ofInt_toNat]

/-- With a `long` of 32 bits only an `int` is: all greater numbers are read as
the greatest `int`. -/
theorem recovered_throughLong_32_iff (number : UInt32) :
    Recovered (IntOverflow.throughLong 32) number ↔ number.toNat < 2 ^ 31 := by
  constructor
  · rintro (small | ⟨converted, same, back⟩)
    · exact small
    · by_contra large
      have clamped : max (-2 ^ (32 - 1)) (min (2 ^ (32 - 1) - 1) (number.toNat : Int)) =
          ((2147483647 : UInt32).toNat : Int) := by
        have value : (2147483647 : UInt32).toNat = 2147483647 := rfl
        omega
      rw [IntOverflow.throughLong, clamped] at same
      cases same
      rw [toUInt32_ofInt_toNat] at back
      rw [← back] at large
      exact large (by decide)
  · exact Or.inl

/-- The numeral of a number is read as this number exactly if it is recovered. -/
theorem atoi_numeral_iff (overflow : IntOverflow) {form : NumeralForm} {text rest : List UInt8}
    {number : UInt32} (writes : form.Writes text number.toNat)
    (ends : rest.takeWhile JsonText.isDigit = []) :
    (∃ converted, atoi overflow (text ++ rest) = some converted ∧ converted.toUInt32 = number) ↔
      Recovered overflow number := by
  rcases writes with ⟨nonempty, digits, value, _⟩
  have leading : leadingInt (text ++ rest) = (number.toNat : Int) := by
    rw [leadingInt_of_digits nonempty digits ends, value]
  unfold atoi Recovered
  rw [leading]
  by_cases small : number.toNat < 2 ^ 31
  · rw [if_pos (by omega)]
    exact iff_of_true ⟨_, rfl, toUInt32_ofInt_toNat number⟩ (Or.inl small)
  · rw [if_neg (by omega)]
    constructor
    · exact Or.inr
    · rintro (impossible | recovered)
      · exact absurd impossible small
      · exact recovered

end Library
end TrustChain
