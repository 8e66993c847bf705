import ExampleProbes.Json.Numeral
import ExampleProbes.Proofs.Json.WrittenStrings

/-!
A whole number that was written is read again where it fits into a word. Its digits begin with no
zero but that of zero itself, and none of them is left out of the significand.
-/
namespace ExampleProbes.Json

/-- What ends a whole number: neither another digit nor a point or an exponent. -/
def EndsNumber (rest : List UInt8) : Prop :=
  ∀ b ∈ rest.head?, ¬ isDigit b ∧ b ≠ 0x2E ∧ b ≠ 0x65 ∧ b ≠ 0x45

def digitOf (c : Char) : Nat := c.toNat - 48

theorem encoding_of_isDigit {c : Char} (digit : c.isDigit) :
    ∃ b, String.utf8EncodeChar c = [b] ∧ isDigit b ∧ digitValue b = digitOf c := by
  obtain ⟨low, high⟩ : 48 ≤ c.toNat ∧ c.toNat ≤ 57 := Char.isDigit_iff_toNat.mp digit
  have single : c.toNat ≤ 127 := by omega
  have value : (UInt8.ofNat c.toNat).toNat = c.toNat := by
    rw [UInt8.toNat_ofNat']
    omega
  refine ⟨UInt8.ofNat c.toNat, ?_, ?_, ?_⟩
  · simp [String.utf8EncodeChar, single]
  · simp [isDigit, UInt8.le_iff_toNat_le, value, low, high]
  · simp [digitValue, digitOf, value]

theorem digitsFrom_encoded {text : List Char} (digits : ∀ c ∈ text, c.isDigit)
    {rest : List UInt8} (ends : EndsNumber rest) (place : Place) :
    ∃ after, digitsFrom (encoded text ++ rest) place = (text.map digitOf, after) ∧
      after.rest = rest := by
  induction text generalizing place with
  | nil =>
    cases rest with
    | nil => exact ⟨_, rfl, rfl⟩
    | cons b rest =>
      obtain ⟨other, _⟩ := ends b rfl
      exact ⟨⟨b :: rest, place, place.past b⟩, by simp [encoded, digitsFrom, other], rfl⟩
  | cons c text ih =>
    obtain ⟨first, others⟩ := List.forall_mem_cons.mp digits
    obtain ⟨b, byte, digit, value⟩ := encoding_of_isDigit first
    obtain ⟨after, read, left⟩ := ih others (place.past b)
    refine ⟨after, ?_, left⟩
    have split : encoded (c :: text) = b :: encoded text := by simp [encoded, byte]
    rw [split, List.cons_append, digitsFrom, if_pos digit, read, value]
    rfl

/-- No number but zero is written with a leading zero. -/
theorem head?_toDigits {n : Nat} (positive : 0 < n) : (Nat.toDigits 10 n).head? ≠ some '0' := by
  induction n using Nat.strongRecOn with
  | ind n ih =>
    by_cases single : n < 10
    · have digits : ∀ d < 10, 0 < d → d.digitChar ≠ '0' := by decide
      simpa [Nat.toDigits_of_lt_base single] using digits n single positive
    · have front := ih (n / 10) (by omega) (by omega)
      rw [Nat.toDigits_of_base_le (by decide) (by omega)]
      rwa [List.head?_append_of_ne_nil _ Nat.toDigits_ne_nil]

theorem value_toDigits (n : Nat) :
    ((Nat.toDigits 10 n).map digitOf).foldl (fun n d => n * 10 + d) 0 = n := by
  rw [List.foldl_map]
  calc (Nat.toDigits 10 n).foldl (fun n c => n * 10 + digitOf c) 0
    _ = Nat.ofDigitChars 10 (Nat.toDigits 10 n) 0 := by
      simp only [Nat.mul_comm _ 10]
      rfl
    _ = n := Nat.ofDigitChars_ten_toDigits

theorem le_foldl_digits (digits : List Nat) (value : Nat) :
    value ≤ digits.foldl (fun n d => n * 10 + d) value := by
  induction digits generalizing value with
  | nil => exact Nat.le_refl value
  | cons d digits ih =>
    have later := ih (value * 10 + d)
    rw [List.foldl_cons]
    omega

theorem foldl_addWhole {digits : List Nat} {value : Nat}
    (fits : digits.foldl (fun n d => n * 10 + d) value ≤ maxWord) :
    digits.foldl Significand.addWhole ⟨value, 0, false⟩ =
      ⟨digits.foldl (fun n d => n * 10 + d) value, 0, false⟩ := by
  induction digits generalizing value with
  | nil => rfl
  | cons d digits ih =>
    rw [List.foldl_cons] at fits ⊢
    have kept := le_foldl_digits digits (value * 10 + d)
    have room : ¬ maxWord < value * 10 + d := by omega
    rw [Significand.addWhole, if_neg (by simpa using room), ih fits, List.foldl_cons]

theorem bytesOf_toString (n : Nat) : bytesOf (toString n) = encoded (Nat.toDigits 10 n) := by
  rw [bytesOf_eq, Nat.toString_eq_repr, Nat.toList_repr]

theorem isDigit_toDigits (n : Nat) : ∀ c ∈ Nat.toDigits 10 n, c.isDigit :=
  fun _ => Nat.isDigit_of_mem_toDigits (by decide) (by decide)

/-- A written number begins with a digit. -/
theorem exists_first_digit (n : Nat) :
    ∃ b later, encoded (Nat.toDigits 10 n) = b :: later ∧ isDigit b := by
  obtain ⟨c, more, written⟩ := List.exists_cons_of_ne_nil (Nat.toDigits_ne_nil (n := n) (b := 10))
  have digit := isDigit_toDigits n c (by simp [written])
  obtain ⟨b, byte, isDigit, _⟩ := encoding_of_isDigit digit
  exact ⟨b, encoded more, by simp [written, encoded, byte], isDigit⟩

theorem digits_unpadded (n d : Nat) (more : List Nat) :
    (Nat.toDigits 10 n).map digitOf ≠ 0 :: d :: more := by
  intro padded
  obtain ⟨c, others, written, zero, _⟩ := List.map_eq_cons_iff.mp padded
  have digit := isDigit_toDigits n c (by simp [written])
  have low : 48 ≤ c.toNat := (Char.isDigit_iff_toNat.mp digit).1
  have first : c = '0' := by
    apply Char.toNat_inj.mp
    simp only [digitOf] at zero
    exact Nat.le_antisymm (Nat.sub_eq_zero_iff_le.mp zero) low
  by_cases positive : 0 < n
  · exact head?_toDigits positive (by simp [written, first])
  · obtain rfl : n = 0 := by omega
    simp at padded

section Written
variable {c : Cursor} {n : Nat} {rest : List UInt8} (ends : EndsNumber rest)
  (ahead : c.rest = bytesOf (toString n) ++ rest)
include ends ahead

theorem readWhole_written :
    ∃ after, Numeral.readWhole .endOfValue c = .ok ((Nat.toDigits 10 n).map digitOf, after) ∧
      after.rest = rest := by
  rw [bytesOf_toString] at ahead
  obtain ⟨b, later, written, digit⟩ := exists_first_digit n
  obtain ⟨after, read, left⟩ := digitsFrom_encoded (isDigit_toDigits n) ends c.read
  have first : Numeral.firstDigit .endOfValue c = .ok () := by
    rw [Numeral.firstDigit, ahead, written, List.cons_append]
    simp [digit]
  refine ⟨after, ?_, left⟩
  rw [Numeral.readWhole, first, ahead, read]
  simp only [bind, Except.bind]
  split
  · rename_i d more _ padded
    exact absurd (Prod.mk.inj padded).1 (digits_unpadded n d more)
  · rfl

theorem numeral_written :
    ∃ after, Numeral.read .endOfValue c =
      .ok ({ negative := false, whole := (Nat.toDigits 10 n).map digitOf }, after) ∧
      after.rest = rest := by
  obtain ⟨after, read, left⟩ := readWhole_written ends ahead
  have unsigned : ¬ c.rest.head? = some 0x2D := by
    obtain ⟨b, later, written, digit⟩ := exists_first_digit n
    rw [ahead, bytesOf_toString, written]
    rintro ⟨⟩
    revert digit
    decide
  have fraction : Numeral.readFraction .endOfValue after = .ok ([], after) := by
    unfold Numeral.readFraction
    split
    · rename_i point
      exact absurd rfl (ends 0x2E (by simp [← left, point])).2.1
    · rfl
  have exponent : ¬ (after.rest.head? = some 0x65 ∨ after.rest.head? = some 0x45) := by
    rw [left]
    rintro (small | capital)
    · exact (ends 0x65 small).2.2.1 rfl
    · exact (ends 0x45 capital).2.2.2 rfl
  refine ⟨after, ?_, left⟩
  simp [Numeral.read, unsigned, read, fraction, Numeral.readExponent, exponent, bind, Except.bind]

/-- A number that fits into a word is read again from the text that it is written in. -/
theorem Cursor.number_written (word : n ≤ maxWord) (source : Source) :
    ∃ after, c.number source = .ok (.int n, after) ∧ after.rest = rest := by
  obtain ⟨after, read, left⟩ := numeral_written ends ahead
  refine ⟨after, ?_, left⟩
  have whole := value_toDigits n
  have significand : Significand.ofDigits ((Nat.toDigits 10 n).map digitOf) [] = ⟨n, 0, false⟩ := by
    rw [Significand.ofDigits, foldl_addWhole (by rwa [whole]), whole]
    rfl
  rw [Cursor.number, read]
  simp [Numeral.value, significand, bind, Except.bind, pure, Except.pure]

end Written

end ExampleProbes.Json
