import Mathlib.Data.List.Basic
import Mathlib.Tactic.SplitIfs
import ExampleProbes.Json.StringReader
import ExampleProbes.Json.Write

/-!
A string that was written is read again, whatever characters it holds. Each character is written
as bytes that take the machine from between two characters to the same place, with the bytes of
the character found.
-/
namespace ExampleProbes.Json

/-- The bytes of a text as its readers take them. -/
def bytesOf (text : String) : List UInt8 := text.toUTF8.data.toList

def encoded (text : List Char) : List UInt8 := text.flatMap String.utf8EncodeChar

theorem bytesOf_append (first second : String) :
    bytesOf (first ++ second) = bytesOf first ++ bytesOf second := by
  simp [bytesOf]

theorem bytesOf_ofList (text : List Char) : bytesOf (String.ofList text) = encoded text := by
  simp [bytesOf, List.utf8Encode, encoded]

theorem bytesOf_eq (text : String) : bytesOf text = encoded text.toList := by
  rw [← bytesOf_ofList, String.ofList_toList]

theorem encoded_append (first second : List Char) :
    encoded (first ++ second) = encoded first ++ encoded second :=
  List.flatMap_append

/-- The bytes of a text are the bytes of that text alone. -/
theorem fromUTF8?_encoded (text : List Char) :
    String.fromUTF8? ⟨(encoded text).toArray⟩ = some (String.ofList text) := by
  have bytes : (⟨(encoded text).toArray⟩ : ByteArray) = text.utf8Encode := by
    apply ByteArray.ext
    rw [List.utf8Encode, List.data_toByteArray, encoded]
  rw [bytes, String.fromUTF8?, dif_pos ByteArray.isValidUTF8_utf8Encode]
  apply congrArg some
  rw [← String.toByteArray_inj, String.toByteArray_ofList]
  rfl

/-- A byte that stands for itself inside a string. -/
def IsPlain (b : UInt8) : Prop := b ≠ 0x22 ∧ b ≠ 0x5C ∧ 0x20 ≤ b

theorem isPlain_of_mem_encoding {c : Char} (quote : c ≠ '\x22') (slash : c ≠ '\\')
    (printed : ¬ c.toNat < 0x20) : ∀ b ∈ String.utf8EncodeChar c, IsPlain b := by
  have notQuote : c.toNat ≠ 0x22 := fun same => quote (Char.toNat_inj.mp same)
  have notSlash : c.toNat ≠ 0x5C := fun same => slash (Char.toNat_inj.mp same)
  simp only [String.utf8EncodeChar, IsPlain, ne_eq, ← UInt8.toNat_inj, UInt8.le_iff_toNat_le,
    Char.toNat_val]
  split_ifs <;> simp [UInt8.toNat_ofNat'] <;> omega

section Machine
variable (out rest : List UInt8) (place : Place)

/-- A byte that does not close the string adds what it completes to what was found. -/
theorem stringFrom_cons {state next : StringState} {b : UInt8} {bytes : List UInt8}
    (inside : ¬ (state = .plain ∧ b = 0x22)) (taken : state.step b = .ok (bytes, next)) :
    stringFrom state out (b :: rest) place =
      stringFrom next (bytes.reverse ++ out) rest (place.past b) := by
  rw [stringFrom, if_neg inside, taken]

theorem stringFrom_of_plain {b : UInt8} (plain : IsPlain b) :
    stringFrom .plain out (b :: rest) place = stringFrom .plain (b :: out) rest (place.past b) := by
  obtain ⟨quote, slash, printed⟩ := plain
  have shown : ¬ b < 0x20 := UInt8.not_lt.mpr printed
  have taken : StringState.plain.step b = .ok ([b], .plain) := by
    rw [StringState.step, if_neg slash, if_neg shown]
  exact stringFrom_cons out rest place (fun closes => quote closes.2) taken

theorem stringFrom_of_slash :
    stringFrom .plain out (0x5C :: rest) place = stringFrom .escape out rest (place.past 0x5C) := by
  have taken : StringState.plain.step 0x5C = .ok ([], .escape) := rfl
  exact stringFrom_cons out rest place (by decide) taken

theorem stringFrom_of_escaped {b byte : UInt8} (letter : b ≠ 0x75)
    (escaped : escapedByte? b = some byte) :
    stringFrom .plain out (0x5C :: b :: rest) place =
      stringFrom .plain (byte :: out) rest ((place.past 0x5C).past b) := by
  have taken : StringState.escape.step b = .ok ([byte], .plain) := by
    rw [StringState.step, if_neg letter, escaped]
  rw [stringFrom_of_slash]
  exact stringFrom_cons out rest _ (by simp) taken

theorem stringFrom_of_unit {a b c d : UInt8} {found : Nat}
    (number : hexNumber? [a, b, c, d] = some found) (low : ¬ isLow found) (high : ¬ isHigh found) :
    stringFrom .plain out (0x5C :: 0x75 :: a :: b :: c :: d :: rest) place =
      stringFrom .plain ((utf8 found).reverse ++ out) rest
        ((((((place.past 0x5C).past 0x75).past a).past b).past c).past d) := by
  have letter : StringState.escape.step 0x75 = .ok ([], .unit [] none) := rfl
  have first : (StringState.unit [] none).step a = .ok ([], .unit [a] none) := rfl
  have second : (StringState.unit [a] none).step b = .ok ([], .unit [b, a] none) := rfl
  have third : (StringState.unit [b, a] none).step c = .ok ([], .unit [c, b, a] none) := rfl
  have last : (StringState.unit [c, b, a] none).step d = .ok (utf8 found, .plain) := by
    have digits : (d :: [c, b, a]).reverse = [a, b, c, d] := rfl
    rw [StringState.step, if_neg (by simp), digits, number]
    simp only [unitDone, if_neg low, if_neg high]
  rw [stringFrom_of_slash, stringFrom_cons _ _ _ (by simp) letter,
    stringFrom_cons _ _ _ (by simp) first, stringFrom_cons _ _ _ (by simp) second,
    stringFrom_cons _ _ _ (by simp) third, stringFrom_cons _ _ _ (by simp) last]
  rfl

theorem stringFrom_append {taken : List UInt8} (plain : ∀ b ∈ taken, IsPlain b) :
    ∃ after, stringFrom .plain out (taken ++ rest) place =
      stringFrom .plain (taken.reverse ++ out) rest after := by
  induction taken generalizing out place with
  | nil => exact ⟨place, rfl⟩
  | cons b taken ih =>
    obtain ⟨first, others⟩ := List.forall_mem_cons.mp plain
    obtain ⟨after, same⟩ := ih (b :: out) (place.past b) others
    refine ⟨after, ?_⟩
    rw [List.cons_append, stringFrom_of_plain out _ place first, same]
    simp

/-- A control character is written as the number of its code point in four digits. -/
theorem hexNumber?_of_control : ∀ n < 0x20,
    hexNumber? (0x30 :: 0x30 :: encoded [hexChar (n / 16), hexChar (n % 16)]) = some n ∧
      (encoded [hexChar (n / 16), hexChar (n % 16)]).length = 2 := by
  decide

theorem stringFrom_of_control {c : Char} (control : c.toNat < 0x20) :
    ∃ after, stringFrom .plain out
        (encoded ['\\', 'u', '0', '0', hexChar (c.toNat / 16), hexChar (c.toNat % 16)] ++ rest)
        place =
      stringFrom .plain ((String.utf8EncodeChar c).reverse ++ out) rest after := by
  obtain ⟨number, two⟩ := hexNumber?_of_control c.toNat control
  obtain ⟨tens, ones, digits⟩ := List.length_eq_two.mp two
  rw [digits] at number
  have low : ¬ isLow c.toNat := by
    simp only [isLow, Bool.and_eq_true, decide_eq_true_eq]
    omega
  have high : ¬ isHigh c.toNat := by
    simp only [isHigh, Bool.and_eq_true, decide_eq_true_eq]
    omega
  have read := stringFrom_of_unit out rest place number low high
  rw [utf8, Char.ofNat_toNat] at read
  have split : encoded ['\\', 'u', '0', '0', hexChar (c.toNat / 16), hexChar (c.toNat % 16)] =
      0x5C :: 0x75 :: 0x30 :: 0x30 :: [tens, ones] := by
    rw [← digits]
    rfl
  exact ⟨_, by rw [split]; exact read⟩

theorem stringFrom_escape (c : Char) :
    ∃ after, stringFrom .plain out (encoded (escape c) ++ rest) place =
      stringFrom .plain ((String.utf8EncodeChar c).reverse ++ out) rest after := by
  fun_cases escape c with
  | case8 _ _ _ _ _ _ _ control => exact stringFrom_of_control out rest place control
  | case9 quote slash _ _ _ _ _ control =>
    have plain := isPlain_of_mem_encoding quote slash control
    simpa [encoded] using stringFrom_append out rest place plain
  | _ =>
    -- A letter behind a backslash, which stands for the character.
    subst_vars
    exact ⟨_, stringFrom_of_escaped out rest place (by decide) rfl⟩

theorem stringFrom_written (text : List Char) :
    ∃ after, stringFrom .plain out (encoded (text.flatMap escape) ++ 0x22 :: rest) place =
      .ok (out.reverse ++ encoded text, .of rest after) := by
  induction text generalizing out place with
  | nil => exact ⟨_, by simp [stringFrom, encoded]; rfl⟩
  | cons c text ih =>
    obtain ⟨next, first⟩ := stringFrom_escape out (encoded (text.flatMap escape) ++ 0x22 :: rest)
      place c
    obtain ⟨after, others⟩ := ih ((String.utf8EncodeChar c).reverse ++ out) next
    refine ⟨after, ?_⟩
    rw [List.flatMap_cons, encoded_append, List.append_assoc, first, others]
    simp [encoded]

end Machine

/-- The bytes of a written string, its closing quote included, from behind the opening one. -/
theorem bytesOf_quoted (text : String) :
    bytesOf (quoted text) = 0x22 :: (encoded (text.toList.flatMap escape) ++ [0x22]) := by
  rw [quoted, bytesOf_ofList, ← List.singleton_append, encoded_append, encoded_append]
  rfl

/-- A written string is read again, whatever stands behind it. -/
theorem Cursor.string_written {c : Cursor} {text : String} {rest : List UInt8}
    (ahead : c.rest = bytesOf (quoted text) ++ rest) :
    ∃ after, c.skip.string = .ok (text, after) ∧ after.rest = rest := by
  have opened : c.skip.rest = encoded (text.toList.flatMap escape) ++ 0x22 :: rest := by
    rw [Cursor.skip, ahead, bytesOf_quoted]
    simp [Cursor.of]
  obtain ⟨place, read⟩ := stringFrom_written [] rest c.skip.read text.toList
  refine ⟨.of rest place, ?_, rfl⟩
  have found := fromUTF8?_encoded text.toList
  rw [String.ofList_toList] at found
  rw [Cursor.string, opened, read]
  simp only [bind, Except.bind, List.reverse_nil, List.nil_append, found]
  rfl

end ExampleProbes.Json
