import ExampleProbes.Proofs.Attempts
import ExampleProbes.Proofs.Command.WrittenSettings

/-!
What is read as settings can be written as such: its durations are words, since no other number
is taken for a duration.
-/
namespace ExampleProbes
open Json

namespace Json

theorem Significand.addWhole_le {s : Significand} (word : s.value ≤ maxWord) (d : Nat) :
    (s.addWhole d).value ≤ maxWord := by
  unfold addWhole
  split
  · exact word
  · rename_i room
    exact Nat.not_lt.mp fun large => room (Or.inr large)

theorem Significand.foldl_addWhole_le {s : Significand} (word : s.value ≤ maxWord)
    (digits : List Nat) : (digits.foldl addWhole s).value ≤ maxWord := by
  induction digits generalizing s with
  | nil => exact word
  | cons d digits ih => exact ih (addWhole_le word d)

theorem Numeral.value_le {numeral : Numeral} {place : Place} {n : Nat}
    (read : numeral.value place = .ok (.int (.ofNat n))) : n ≤ maxWord := by
  have word : (Significand.ofDigits numeral.whole []).value ≤ maxWord :=
    Significand.foldl_addWhole_le (Nat.zero_le _) numeral.whole
  simp only [Numeral.value] at read
  split at read
  · have same : (if numeral.negative then -((Significand.ofDigits numeral.whole []).value : Int)
        else (Significand.ofDigits numeral.whole []).value) = (n : Int) :=
      Json.int.inj (Except.ok.inj read)
    split at same <;> omega
  · obtain ⟨x, _, same⟩ := map_eq_ok read
    cases same

theorem Cursor.number_le {source : Source} {c after : Cursor} {n : Nat}
    (read : c.number source = .ok (.int (.ofNat n), after)) : n ≤ maxWord := by
  obtain ⟨⟨numeral, behind⟩, _, read⟩ := bind_eq_ok read
  obtain ⟨value, found, same⟩ := bind_eq_ok read
  obtain ⟨rfl, _⟩ := Prod.mk.inj (Except.ok.inj same)
  exact Numeral.value_le found

end Json

namespace Settings
variable {source : Source} {draft next : Draft} {c after : Cursor}

theorem readWord_le {n : Nat} (read : readWord source c = .ok (n, after)) : n ≤ maxWord := by
  simp only [readWord] at read
  split at read
  · cases read
  · split at read
    · split at read
      · cases read
      · rename_i m behind number
        obtain ⟨rfl, _⟩ := Prod.mk.inj (Except.ok.inj read)
        exact Cursor.number_le number
      · cases read
      · cases read
    · cases read

/-- A draft with one more duration, which is a word. -/
theorem words_of_readWord (set : Nat → Draft)
    (words : ∀ n, n ≤ maxWord → (set n).complete.Words)
    (read : ((readWord source c).map fun (n, after) => (set n, after)) = .ok (next, after)) :
    next.complete.Words := by
  obtain ⟨⟨n, behind⟩, number, same⟩ := map_eq_ok read
  obtain ⟨rfl, _⟩ := Prod.mk.inj same
  exact words n (readWord_le number)

theorem words_of_readField {field : Field} (words : draft.complete.Words)
    (read : readField source draft field c = .ok (next, after)) : next.complete.Words := by
  cases field with
  | timeout =>
    exact words_of_readWord (fun n => { draft with timeout := some n })
      (fun n word => { words with timeout := word }) read
  | initialPushDelay =>
    exact words_of_readWord (fun n => { draft with initialPushDelay := some n })
      (fun n word => { words with initialPushDelay := word }) read
  | pushInterval =>
    exact words_of_readWord (fun n => { draft with pushInterval := some n })
      (fun n word => { words with pushInterval := word }) read
  | displayTimeout =>
    exact words_of_readWord (fun n => { draft with displayTimeout := some n })
      (fun n word => { words with displayTimeout := word }) read
  | notificationMethod =>
    obtain ⟨⟨text, behind⟩, _, same⟩ := map_eq_ok read
    obtain ⟨rfl, _⟩ := Prod.mk.inj same
    exact { words with }

theorem words_of_readListed {fields : List Field} {first : Bool} (words : draft.complete.Words)
    (read : readListed source draft first fields c = .ok (next, after)) : next.complete.Words := by
  induction fields generalizing draft first c with
  | nil =>
    obtain ⟨rfl, _⟩ := Prod.mk.inj (Except.ok.inj read)
    exact words
  | cons field rest ih =>
    obtain ⟨item, _, read⟩ := bind_eq_ok read
    cases item with
    | none =>
      obtain ⟨rfl, _⟩ := Prod.mk.inj (Except.ok.inj read)
      exact words
    | some item =>
      obtain ⟨⟨filled, behind⟩, field, read⟩ := bind_eq_ok read
      exact ih (words_of_readField words field) read

theorem words_of_readNamed {fuel : Nat} {first : Bool} (words : draft.complete.Words)
    (read : readNamed source fuel draft first c = .ok (next, after)) : next.complete.Words := by
  induction fuel generalizing draft first c with
  | zero => cases read
  | succ fuel ih =>
    obtain ⟨named, _, read⟩ := bind_eq_ok read
    cases named with
    | none =>
      obtain ⟨rfl, _⟩ := Prod.mk.inj (Except.ok.inj read)
      exact words
    | some named =>
      obtain ⟨key, behindKey⟩ := named
      dsimp only at read
      -- A field is passed over, refused because it was there before, or read.
      split at read
      · obtain ⟨value, _, read⟩ := bind_eq_ok read
        obtain ⟨behind, _, read⟩ := bind_eq_ok read
        exact ih words read
      · split at read
        · cases read
        · obtain ⟨value, _, read⟩ := bind_eq_ok read
          obtain ⟨⟨filled, behind⟩, field, read⟩ := bind_eq_ok read
          exact ih (words_of_readField words field) read

theorem words_standing : ({} : Draft).complete.Words := by
  constructor <;> decide

theorem words_of_readSettings {settings : Settings}
    (read : readSettings source c = .ok (settings, after)) : settings.Words := by
  simp only [readSettings] at read
  split at read
  · cases read
  · split at read
    · obtain ⟨⟨draft, behind⟩, fields, read⟩ := bind_eq_ok read
      obtain ⟨closed, _, same⟩ := bind_eq_ok read
      obtain ⟨rfl, _⟩ := Prod.mk.inj (Except.ok.inj same)
      exact words_of_readListed words_standing fields
    · split at read
      · obtain ⟨⟨draft, behind⟩, fields, read⟩ := bind_eq_ok read
        obtain ⟨closed, _, same⟩ := bind_eq_ok read
        obtain ⟨rfl, _⟩ := Prod.mk.inj (Except.ok.inj same)
        exact words_of_readNamed words_standing fields
      · cases read

theorem words_of_read {bytes : List UInt8} {settings : Settings}
    (accepted : read source bytes = .ok settings) : settings.Words := by
  obtain ⟨⟨found, behind⟩, settings, accepted⟩ := bind_eq_ok accepted
  obtain ⟨_, _, same⟩ := bind_eq_ok accepted
  obtain rfl := Except.ok.inj same
  exact words_of_readSettings settings

end Settings
end ExampleProbes
