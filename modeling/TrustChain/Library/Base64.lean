import Mathlib.Data.List.Basic

namespace TrustChain
namespace Library
namespace Base64

/-!
# Standard base64

Three bytes are written as four characters of six bits each, and a shorter rest
is filled up with `=`.  Decoding gives the bytes back, and the length of the
text depends on the number of bytes only.
-/

/-! ## The alphabet -/

/-- `A`–`Z`, `a`–`z`, `0`–`9`, `+` and `/`. -/
def character (value : Nat) : UInt8 :=
  if value < 26 then UInt8.ofNat (65 + value)
  else if value < 52 then UInt8.ofNat (71 + value)
  else if value < 62 then UInt8.ofNat (value - 4)
  else if value = 62 then 43
  else 47

/-- The six bits that a character stands for. -/
def value (c : UInt8) : Option Nat :=
  if 65 ≤ c ∧ c ≤ 90 then some (c.toNat - 65)
  else if 97 ≤ c ∧ c ≤ 122 then some (c.toNat - 71)
  else if 48 ≤ c ∧ c ≤ 57 then some (c.toNat + 4)
  else if c = 43 then some 62
  else if c = 47 then some 63
  else none

/-- `=`. -/
def pad : UInt8 := 61

theorem value_character_fin : ∀ bits : Fin 64, value (character bits) = some bits.val := by
  decide

theorem value_character {bits : Nat} (bound : bits < 64) : value (character bits) = some bits :=
  value_character_fin ⟨bits, bound⟩

theorem character_printable_fin : ∀ bits : Fin 64, 43 ≤ character bits ∧ character bits ≠ pad := by
  decide

theorem character_printable {bits : Nat} (bound : bits < 64) :
    43 ≤ character bits ∧ character bits ≠ pad :=
  character_printable_fin ⟨bits, bound⟩

/-! ## Encoding and decoding -/

/-- The sextets of three bytes. -/
def firstSextet (first : UInt8) : Nat := first.toNat / 4
def secondSextet (first : UInt8) (second : Nat) : Nat := first.toNat % 4 * 16 + second / 16
def thirdSextet (second : UInt8) (third : Nat) : Nat := second.toNat % 16 * 4 + third / 64
def fourthSextet (third : UInt8) : Nat := third.toNat % 64

def encode : List UInt8 → List UInt8
  | first :: second :: third :: rest =>
      character (firstSextet first) :: character (secondSextet first second.toNat) ::
        character (thirdSextet second third.toNat) :: character (fourthSextet third) :: encode rest
  | [first, second] =>
      [character (firstSextet first), character (secondSextet first second.toNat),
        character (thirdSextet second 0), pad]
  | [first] => [character (firstSextet first), character (secondSextet first 0), pad, pad]
  | [] => []

/-- The first byte of a group. -/
def firstByte (a b : Nat) : UInt8 := UInt8.ofNat (a * 4 + b / 16)
def secondByte (b c : Nat) : UInt8 := UInt8.ofNat (b % 16 * 16 + c / 4)
def thirdByte (c d : Nat) : UInt8 := UInt8.ofNat (c % 4 * 64 + d)

/-- One or two bytes at the end of a padded text. -/
def decodePadded (a b c : UInt8) : Option (List UInt8) := do
  let a ← value a
  let b ← value b
  if c = pad then return [firstByte a b]
  else
    let c ← value c
    return [firstByte a b, secondByte b c]

def decode : List UInt8 → Option (List UInt8)
  | [] => some []
  | a :: b :: c :: d :: rest =>
      if d = pad then if rest = [] then decodePadded a b c else none
      else do
        let a ← value a
        let b ← value b
        let c ← value c
        let d ← value d
        let bytes ← decode rest
        return firstByte a b :: secondByte b c :: thirdByte c d :: bytes
  | _ => none

/-! ## Sextets of a byte -/

theorem firstSextet_lt (first : UInt8) : firstSextet first < 64 := by
  have := first.toNat_lt
  unfold firstSextet
  omega

theorem secondSextet_lt (first : UInt8) {second : Nat} (bound : second < 256) :
    secondSextet first second < 64 := by
  unfold secondSextet
  omega

theorem thirdSextet_lt (second : UInt8) {third : Nat} (bound : third < 256) :
    thirdSextet second third < 64 := by
  unfold thirdSextet
  omega

theorem fourthSextet_lt (third : UInt8) : fourthSextet third < 64 :=
  Nat.mod_lt _ (by decide)

theorem firstByte_sextets (first : UInt8) {second : Nat} (bound : second < 256) :
    firstByte (firstSextet first) (secondSextet first second) = first := by
  have whole : firstSextet first * 4 + secondSextet first second / 16 = first.toNat := by
    unfold firstSextet secondSextet
    omega
  rw [firstByte, whole, UInt8.ofNat_toNat]

theorem secondByte_sextets (first second : UInt8) {third : Nat} (bound : third < 256) :
    secondByte (secondSextet first second.toNat) (thirdSextet second third) = second := by
  have high := second.toNat_lt
  have whole : secondSextet first second.toNat % 16 * 16 + thirdSextet second third / 4 =
      second.toNat := by
    unfold secondSextet thirdSextet
    omega
  rw [secondByte, whole, UInt8.ofNat_toNat]

theorem thirdByte_sextets (second third : UInt8) :
    thirdByte (thirdSextet second third.toNat) (fourthSextet third) = third := by
  have high := third.toNat_lt
  have whole : thirdSextet second third.toNat % 4 * 64 + fourthSextet third = third.toNat := by
    unfold thirdSextet fourthSextet
    omega
  rw [thirdByte, whole, UInt8.ofNat_toNat]

/-! ## The codec -/

/-- Decoding the text of some bytes gives the bytes back. -/
theorem decode_encode (bytes : List UInt8) : decode (encode bytes) = some bytes := by
  induction bytes using encode.induct with
  | case1 first second third rest ih =>
      have notPad := (character_printable (fourthSextet_lt third)).2
      simp only [encode, decode, if_neg notPad, value_character (firstSextet_lt first),
        value_character (secondSextet_lt first second.toNat_lt),
        value_character (thirdSextet_lt second third.toNat_lt),
        value_character (fourthSextet_lt third), ih, Option.bind_eq_bind, Option.bind_some,
        firstByte_sextets first second.toNat_lt, secondByte_sextets first second third.toNat_lt,
        thirdByte_sextets, pure]
  | case2 first second =>
      have zero : 0 < 256 := by decide
      have notPad := (character_printable (thirdSextet_lt second zero)).2
      simp only [encode, decode, if_pos, decodePadded, if_neg notPad,
        value_character (firstSextet_lt first),
        value_character (secondSextet_lt first second.toNat_lt),
        value_character (thirdSextet_lt second zero), Option.bind_eq_bind, Option.bind_some,
        firstByte_sextets first second.toNat_lt, secondByte_sextets first second zero, pure]
  | case3 first =>
      have zero : 0 < 256 := by decide
      simp only [encode, decode, if_pos, decodePadded, value_character (firstSextet_lt first),
        value_character (secondSextet_lt first zero), Option.bind_eq_bind, Option.bind_some,
        firstByte_sextets first zero, pure]
  | case4 => rfl

/-- Four characters for every three bytes that are begun. -/
theorem length_encode (bytes : List UInt8) :
    (encode bytes).length = (bytes.length + 2) / 3 * 4 := by
  induction bytes using encode.induct with
  | case1 first second third rest ih =>
      simp only [encode, List.length_cons, ih]
      omega
  | case2 first second => simp [encode]
  | case3 first => simp [encode]
  | case4 => rfl

theorem encode_ne_nil {bytes : List UInt8} (nonempty : bytes ≠ []) : encode bytes ≠ [] := by
  intro none
  have length := length_encode bytes
  have positive : 0 < bytes.length := List.length_pos_iff.mpr nonempty
  rw [none, List.length_nil] at length
  omega

/-- No control character occurs in the text, nor a blank. -/
theorem printable_of_mem_encode {bytes : List UInt8} {c : UInt8} (member : c ∈ encode bytes) :
    43 ≤ c := by
  have zero : 0 < 256 := by decide
  have padPrintable : 43 ≤ pad := by decide
  induction bytes using encode.induct with
  | case1 first second third rest ih =>
      simp only [encode, List.mem_cons] at member
      rcases member with rfl | rfl | rfl | rfl | member
      · exact (character_printable (firstSextet_lt first)).1
      · exact (character_printable (secondSextet_lt first second.toNat_lt)).1
      · exact (character_printable (thirdSextet_lt second third.toNat_lt)).1
      · exact (character_printable (fourthSextet_lt third)).1
      · exact ih member
  | case2 first second =>
      simp only [encode, List.mem_cons, List.not_mem_nil, or_false] at member
      rcases member with rfl | rfl | rfl | rfl
      · exact (character_printable (firstSextet_lt first)).1
      · exact (character_printable (secondSextet_lt first second.toNat_lt)).1
      · exact (character_printable (thirdSextet_lt second zero)).1
      · exact padPrintable
  | case3 first =>
      simp only [encode, List.mem_cons, List.not_mem_nil, or_false] at member
      rcases member with rfl | rfl | rfl | rfl
      · exact (character_printable (firstSextet_lt first)).1
      · exact (character_printable (secondSextet_lt first zero)).1
      · exact padPrintable
      · exact padPrintable
  | case4 => cases member

/-- The text of `Man!`, whose last group is padded. -/
example : encode [77, 97, 110, 33] = [84, 87, 70, 117, 73, 81, 61, 61] := by decide

/-! ## Lines -/

/-- A text cut into full lines of this width and a last one that is not empty. -/
structure Wrapped (width : Nat) (text : List UInt8) (full : List (List UInt8))
    (last : List UInt8) : Prop where
  whole : full.flatten ++ last = text
  fullLength : ∀ line ∈ full, line.length = width
  lastLength : 1 ≤ last.length ∧ last.length ≤ width

/-- Lines with their newlines. -/
def unlines (lines : List (List UInt8)) : List UInt8 := lines.flatMap (· ++ [10])

theorem unlines_cons (line : List UInt8) (rest : List (List UInt8)) :
    unlines (line :: rest) = line ++ 10 :: unlines rest := by
  rw [unlines, List.flatMap_cons, List.append_assoc]
  rfl

/-- Without the newlines the text is left. -/
theorem filter_unlines {lines : List (List UInt8)} (free : ∀ line ∈ lines, (10 : UInt8) ∉ line) :
    (unlines lines).filter (· ≠ 10) = lines.flatten := by
  induction lines with
  | nil => rfl
  | cons line rest ih =>
      have here : line.filter (· ≠ 10) = line := by
        rw [List.filter_eq_self]
        intro c member
        have different : c ≠ 10 := fun same => free line List.mem_cons_self (same ▸ member)
        simpa using different
      have tail := ih fun other member => free other (List.mem_cons_of_mem _ member)
      rw [unlines_cons, List.filter_append, here, List.flatten_cons, ← tail]
      rfl

/-- A character of the text is a newline or stands in one of the lines. -/
theorem eq_newline_or_mem_line {lines : List (List UInt8)} {c : UInt8}
    (member : c ∈ unlines lines) : c = 10 ∨ ∃ line ∈ lines, c ∈ line := by
  rcases List.mem_flatMap.mp member with ⟨line, inside, character⟩
  rcases List.mem_append.mp character with inLine | newline
  · exact Or.inr ⟨line, inside, inLine⟩
  · exact Or.inl (List.mem_singleton.mp newline)

/-- One newline for each line. -/
theorem length_unlines (lines : List (List UInt8)) :
    (unlines lines).length = lines.flatten.length + lines.length := by
  induction lines with
  | nil => rfl
  | cons line rest ih =>
      rw [unlines_cons, List.length_append, List.length_cons, ih, List.flatten_cons,
        List.length_append, List.length_cons]
      omega

namespace Wrapped

variable {width : Nat} {text last : List UInt8} {full : List (List UInt8)}

/-- A text of one line. -/
theorem short (nonempty : text ≠ []) (fits : text.length ≤ width) : Wrapped width text [] text where
  whole := rfl
  fullLength := fun _ impossible => absurd impossible List.not_mem_nil
  lastLength := ⟨List.length_pos_iff.mpr nonempty, fits⟩

/-- One more line in front. -/
theorem cons (wrapped : Wrapped width (text.drop width) full last) (longer : width ≤ text.length) :
    Wrapped width text (text.take width :: full) last where
  whole := by
    rw [List.flatten_cons, List.append_assoc, wrapped.whole, List.take_append_drop]
  fullLength := by
    intro line member
    rcases List.mem_cons.mp member with rfl | inside
    · rw [List.length_take, Nat.min_eq_left longer]
    · exact wrapped.fullLength line inside
  lastLength := wrapped.lastLength

/-- All full lines take their width of the text. -/
theorem length (wrapped : Wrapped width text full last) :
    width * full.length + last.length = text.length := by
  have lines : ∀ some : List (List UInt8), (∀ line ∈ some, line.length = width) →
      some.flatten.length = width * some.length := by
    intro some
    induction some with
    | nil => exact fun _ => rfl
    | cons line rest ih =>
        intro lengths
        have tail := ih fun other member => lengths other (List.mem_cons_of_mem _ member)
        rw [List.flatten_cons, List.length_append, lengths line List.mem_cons_self, tail,
          List.length_cons, Nat.mul_succ, Nat.add_comm]
  rw [← wrapped.whole, List.length_append, lines full wrapped.fullLength]

theorem flatten (wrapped : Wrapped width text full last) : (full ++ [last]).flatten = text := by
  rw [List.flatten_append, List.flatten_singleton, wrapped.whole]

/-- What is not in the text is in none of the lines. -/
theorem not_mem_line (wrapped : Wrapped width text full last) {c : UInt8} (free : c ∉ text) :
    ∀ line ∈ full ++ [last], c ∉ line := by
  intro line inside member
  apply free
  rw [← wrapped.flatten]
  exact List.mem_flatten_of_mem inside member

end Wrapped

end Base64
end Library
end TrustChain
