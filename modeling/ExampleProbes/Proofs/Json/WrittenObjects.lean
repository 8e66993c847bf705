import ExampleProbes.Json.Read
import ExampleProbes.Proofs.Json.WrittenNumbers

/-!
Written objects of plain values. The compact and the indented form differ in nothing but the white
space between their parts; keys, colons, commas and the closing brace are passed as they were
written, whatever white space stands before them.
-/
namespace ExampleProbes.Json

/-- White space, or nothing. -/
def Gap (bytes : List UInt8) : Prop := ∀ b ∈ bytes, isGap b

instance (bytes : List UInt8) : Decidable (Gap bytes) :=
  List.decidableBAll (isGap ·) bytes

theorem skip_rest {c : Cursor} {b : UInt8} {rest : List UInt8} (ahead : c.rest = b :: rest) :
    c.skip.rest = rest := by
  rw [Cursor.skip, ahead]
  rfl

theorem gapFrom_rest {gap rest : List UInt8} (space : Gap gap)
    (stop : ∀ b ∈ rest.head?, ¬ isGap b) (place : Place) :
    (gapFrom (gap ++ rest) place).rest = rest := by
  induction gap generalizing place with
  | nil =>
    cases rest with
    | nil => rfl
    | cons b rest => simp [gapFrom, stop b rfl]
  | cons b gap ih =>
    obtain ⟨first, others⟩ := List.forall_mem_cons.mp space
    rw [List.cons_append, gapFrom, if_pos first]
    exact ih others _

theorem gap_rest_same {c : Cursor} {b : UInt8} {rest : List UInt8} (stop : ¬ isGap b)
    (ahead : c.rest = b :: rest) : c.gap.rest = b :: rest := by
  rw [Cursor.gap, ahead, gapFrom, if_neg stop]

section Passing
variable {c : Cursor} {gap rest : List UInt8} (space : Gap gap)
include space

theorem gap_rest (stop : ∀ b ∈ rest.head?, ¬ isGap b) (ahead : c.rest = gap ++ rest) :
    c.gap.rest = rest := by
  rw [Cursor.gap, ahead]
  exact gapFrom_rest space stop c.read

theorem gap_rest_cons {b : UInt8} (stop : ¬ isGap b) (ahead : c.rest = gap ++ b :: rest) :
    c.gap.rest = b :: rest :=
  gap_rest space (by simpa using stop) ahead

theorem nextKey_first {key : String} (ahead : c.rest = gap ++ (bytesOf (quoted key) ++ rest)) :
    ∃ after, c.nextKey true = .ok (some (key, after)) ∧ after.rest = rest := by
  have opens : c.gap.rest = bytesOf (quoted key) ++ rest := by
    rw [bytesOf_quoted] at ahead ⊢
    exact gap_rest_cons space (by decide) ahead
  obtain ⟨after, read, left⟩ := Cursor.string_written opens
  refine ⟨after, ?_, left⟩
  rw [bytesOf_quoted] at opens
  simp [Cursor.nextKey, opens, read, Except.map]

theorem nextKey_later {key : String}
    (ahead : c.rest = 0x2C :: (gap ++ (bytesOf (quoted key) ++ rest))) :
    ∃ after, c.nextKey false = .ok (some (key, after)) ∧ after.rest = rest := by
  have comma := gap_rest_same (by decide) ahead
  have opens : c.gap.skip.gap.rest = bytesOf (quoted key) ++ rest := by
    have behind := skip_rest comma
    rw [bytesOf_quoted] at behind ⊢
    exact gap_rest_cons space (by decide) behind
  obtain ⟨after, read, left⟩ := Cursor.string_written opens
  refine ⟨after, ?_, left⟩
  rw [bytesOf_quoted] at opens
  simp [Cursor.nextKey, comma, opens, read, Except.map]

theorem nextKey_last {first : Bool} (ahead : c.rest = gap ++ 0x7D :: rest) :
    c.nextKey first = .ok none := by
  have closes := gap_rest_cons space (by decide) ahead
  simp [Cursor.nextKey, closes]

theorem endObject_written (ahead : c.rest = gap ++ 0x7D :: rest) :
    ∃ after, c.endObject = .ok after ∧ after.rest = rest := by
  have closes := gap_rest_cons space (by decide) ahead
  refine ⟨c.gap.skip, ?_, skip_rest closes⟩
  simp [Cursor.endObject, closes]

end Passing

theorem colon_written {c : Cursor} {rest : List UInt8} (ahead : c.rest = 0x3A :: rest) :
    ∃ after, c.colon = .ok after ∧ after.rest = rest := by
  have here := gap_rest_same (by decide) ahead
  refine ⟨c.gap.skip, ?_, skip_rest here⟩
  simp [Cursor.colon, here]

theorem finish_written {c : Cursor} (space : Gap c.rest) : c.finish = .ok () := by
  have ended : c.gap.rest = [] := gap_rest space (by simp) (by simp)
  simp [Cursor.finish, ended]

theorem endsNumber_of_isGap {b : UInt8} (space : isGap b) :
    ¬ isDigit b ∧ b ≠ 0x2E ∧ b ≠ 0x65 ∧ b ≠ 0x45 := by
  simp only [isGap, Bool.or_eq_true, decide_eq_true_eq] at space
  obtain ((rfl | rfl) | rfl) | rfl := space <;> decide

/-- The white space of a written object: before its keys, behind their colons and before the
closing brace. -/
structure Layout where
  beforeKey : List UInt8
  beforeValue : List UInt8
  beforeEnd : List UInt8
  gap_beforeKey : Gap beforeKey
  gap_beforeValue : Gap beforeValue
  gap_beforeEnd : Gap beforeEnd

namespace Layout

def compact : Layout where
  beforeKey := []
  beforeValue := []
  beforeEnd := []
  gap_beforeKey := by decide
  gap_beforeValue := by decide
  gap_beforeEnd := by decide

def indented : Layout where
  beforeKey := [0x0A, 0x20, 0x20]
  beforeValue := [0x20]
  beforeEnd := [0x0A]
  gap_beforeKey := by decide
  gap_beforeValue := by decide
  gap_beforeEnd := by decide

variable (layout : Layout)

/-- Fields as they stand in an object, the first of them without a comma where `first` is true. -/
def fields : (first : Bool) → List (String × Json) → List UInt8
  | _, [] => []
  | first, (name, value) :: more =>
    (if first then [] else [0x2C]) ++ layout.beforeKey ++ bytesOf (quoted name) ++ [0x3A] ++
      layout.beforeValue ++ bytesOf value.compact ++ fields false more

def object (all : List (String × Json)) : List UInt8 :=
  [0x7B] ++ layout.fields true all ++ layout.beforeEnd ++ [0x7D]

theorem length_le_fields (first : Bool) (all : List (String × Json)) :
    all.length ≤ (layout.fields first all).length := by
  induction all generalizing first with
  | nil => exact Nat.zero_le _
  | cons entry more ih =>
    have later := ih false
    simp only [fields, List.length_append, List.length_cons]
    omega

/-- No number goes on behind a field. -/
theorem endsNumber_fields (all : List (String × Json)) (rest : List UInt8) :
    EndsNumber (layout.fields false all ++ (layout.beforeEnd ++ 0x7D :: rest)) := by
  cases all with
  | cons entry more =>
    rintro b ⟨⟩
    decide
  | nil =>
    intro b ahead
    have space := layout.gap_beforeEnd
    cases gap : layout.beforeEnd with
    | nil =>
      rw [gap] at ahead
      cases ahead
      decide
    | cons first more =>
      rw [gap] at ahead space
      cases ahead
      exact endsNumber_of_isGap (space b (by simp))

theorem nextKey_written {c : Cursor} {first : Bool} {key : String} {rest : List UInt8}
    (ahead : c.rest =
      (if first then [] else [0x2C]) ++ layout.beforeKey ++ bytesOf (quoted key) ++ rest) :
    ∃ after, c.nextKey first = .ok (some (key, after)) ∧ after.rest = rest := by
  cases first with
  | true => exact nextKey_first layout.gap_beforeKey (by simpa using ahead)
  | false => exact nextKey_later layout.gap_beforeKey (by simpa using ahead)

end Layout

theorem bytesOf_compactFields (all : List (String × Json)) :
    bytesOf (compactFields all) = Layout.compact.fields false all := by
  induction all with
  | nil => rfl
  | cons entry more ih =>
    simp only [compactFields, bytesOf_append, ih, Layout.fields, Layout.compact, List.append_nil]
    rfl

theorem bytesOf_compact_object (all : List (String × Json)) :
    bytesOf (Json.object all).compact = Layout.compact.object all := by
  cases all with
  | nil => rfl
  | cons entry more =>
    simp only [Json.compact, bytesOf_append, bytesOf_compactFields, Layout.object, Layout.fields,
      Layout.compact, List.append_assoc, List.nil_append, ↓reduceIte]
    rfl

/-- A value that is written alike in both forms. -/
def IsPlainValue (value : Json) : Prop := ∀ depth, value.prettyAt depth = value.compact

theorem isPlainValue_int (n : Int) : IsPlainValue (.int n) := fun depth => by
  rw [prettyAt, compact]

theorem isPlainValue_string (text : String) : IsPlainValue (.string text) := fun depth => by
  rw [prettyAt, compact]

theorem bytesOf_prettyFields {all : List (String × Json)}
    (plain : ∀ entry ∈ all, IsPlainValue entry.2) :
    bytesOf (prettyFields 1 all) = Layout.indented.fields false all := by
  induction all with
  | nil => rfl
  | cons entry more ih =>
    obtain ⟨first, others⟩ := List.forall_mem_cons.mp plain
    simp only [prettyFields, bytesOf_append, first 1, ih others, Layout.fields, Layout.indented,
      List.append_assoc]
    rfl

theorem bytesOf_pretty_object {entry : String × Json} {more : List (String × Json)}
    (plain : ∀ field ∈ entry :: more, IsPlainValue field.2) :
    bytesOf (Json.object (entry :: more)).pretty = Layout.indented.object (entry :: more) := by
  obtain ⟨first, others⟩ := List.forall_mem_cons.mp plain
  simp only [Json.pretty, prettyAt, bytesOf_append, first 1, bytesOf_prettyFields others,
    Layout.object, Layout.fields, Layout.indented, List.append_assoc]
  rfl

end ExampleProbes.Json
