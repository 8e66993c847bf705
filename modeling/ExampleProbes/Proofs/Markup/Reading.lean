import Mathlib.Data.List.Induction
import Mathlib.Data.Nat.Find
import ExampleProbes.Markup.Tag
import ExampleProbes.Proofs.Markup.Grammar

/-!
What reading a tag gives for each line. The first place of the marker and the last closing
bracket cut the line, the grammar of elements accepts or refuses what is between, and the
attributes are taken from the left up to the first whose value does not decode or whose name
came before.
-/
namespace ExampleProbes

namespace Marker

theorem name_letters (marker : Marker) : ∀ c ∈ marker.name.toList, Element.isWordChar c :=
  List.all_eq_true.mp (by cases marker <;> decide)

/-- A place of the line where the marker stands. -/
def StandsIn (marker : Marker) (line : List Char) (i : Nat) : Prop :=
  ∃ rest, line.drop i = marker.opening ++ rest ∧
    ∀ c ∈ rest.head?, Text.isSpace c ∨ c = '/' ∨ c = '>'

structure FirstIn (marker : Marker) (line : List Char) (i : Nat) : Prop where
  stands : marker.StandsIn line i
  least : ∀ k, marker.StandsIn line k → i ≤ k

theorem endsName_iff {rest : List Char} :
    endsName rest ↔ ∀ c ∈ rest.head?, Text.isSpace c ∨ c = '/' ∨ c = '>' := by
  cases rest with
  | nil => simp [endsName]
  | cons c rest => simp [endsName, or_assoc]

theorem standsAt_iff {marker : Marker} {line : List Char} :
    marker.standsAt line ↔ marker.StandsIn line 0 := by
  unfold standsAt StandsIn
  cases split : after? marker.opening line with
  | none =>
    have nowhere : ∀ rest, line ≠ marker.opening ++ rest := by
      intro rest same
      rw [after?_eq_some_iff.mpr same] at split
      cases split
    simp [nowhere]
  | some rest =>
    have same : line = marker.opening ++ rest := after?_eq_some_iff.mp split
    simp [same, endsName_iff]

theorem StandsIn.opens {marker : Marker} {text : List Char} {i : Nat}
    (stands : marker.StandsIn text i) : text[i]? = some '<' := by
  obtain ⟨rest, split, _⟩ := stands
  have front := congrArg List.head? split
  simpa [opening] using front

theorem StandsIn.lt_length {marker : Marker} {line : List Char} {i : Nat}
    (stands : marker.StandsIn line i) : i < line.length :=
  (List.getElem?_eq_some_iff.mp stands.opens).1

theorem split?_eq_none_iff {marker : Marker} {line : List Char} :
    marker.split? line = none ↔ ∀ i, ¬ marker.StandsIn line i := by
  induction line with
  | nil =>
    have nowhere : ∀ i, ¬ marker.StandsIn [] i := by
      intro i stands
      exact absurd stands.lt_length (by simp)
    simp [split?, nowhere]
  | cons c rest ih =>
    rw [split?]
    split
    · rename_i here
      have first := standsAt_iff.mp here
      constructor
      · intro absent
        cases absent
      · intro nowhere
        exact absurd first (nowhere 0)
    · rename_i missing
      rw [Option.map_eq_none_iff, ih]
      constructor
      · intro nowhere i stands
        cases i with
        | zero => exact missing (standsAt_iff.mpr stands)
        | succ i => exact nowhere i stands
      · intro nowhere i stands
        exact nowhere (i + 1) stands

theorem split?_of_first {marker : Marker} {line : List Char} {i : Nat}
    (first : marker.FirstIn line i) : marker.split? line = some (line.take i, line.drop i) := by
  induction line generalizing i with
  | nil => exact absurd first.stands.lt_length (by simp)
  | cons c rest ih =>
    rw [split?]
    cases i with
    | zero => simp [standsAt_iff.mpr first.stands]
    | succ i =>
      have missing : ¬ marker.standsAt (c :: rest) := by
        intro here
        have least := first.least 0 (standsAt_iff.mp here)
        omega
      have later : marker.FirstIn rest i := by
        constructor
        · exact first.stands
        · intro k stands
          have least := first.least (k + 1) stands
          omega
      simp [missing, ih later]

end Marker

namespace Tag

structure LastClose (text : List Char) (j : Nat) : Prop where
  closes : text[j]? = some '>'
  greatest : ∀ k, text[k]? = some '>' → k ≤ j

/-- The line from `i` to `j`, both included. -/
def between (line : List Char) (i j : Nat) : List Char := (line.take (j + 1)).drop i

theorem LastClose.tail {c : Char} {rest : List Char} {j : Nat} (last : LastClose (c :: rest) (j + 1)) :
    LastClose rest j := by
  constructor
  · exact last.closes
  · intro k closes
    have most := last.greatest (k + 1) closes
    omega

theorem LastClose.cons {c : Char} {rest : List Char} {j : Nat} (last : LastClose rest j) :
    LastClose (c :: rest) (j + 1) := by
  constructor
  · exact last.closes
  · intro k closes
    cases k with
    | zero => exact Nat.zero_le _
    | succ k =>
      have most := last.greatest k closes
      omega

theorem LastClose.drop {line : List Char} {i j : Nat} (last : LastClose line j) (order : i ≤ j) :
    LastClose (line.drop i) (j - i) := by
  constructor
  · rw [List.getElem?_drop, Nat.add_sub_cancel' order]
    exact last.closes
  · intro k closes
    rw [List.getElem?_drop] at closes
    have most := last.greatest (i + k) closes
    omega

theorem exists_lastClose {text : List Char} (closed : '>' ∈ text) : ∃ j, LastClose text j := by
  induction text with
  | nil => simp at closed
  | cons c rest ih =>
    by_cases later : '>' ∈ rest
    · obtain ⟨j, last⟩ := ih later
      exact ⟨j + 1, last.cons⟩
    · have here : c = '>' := by simpa [later, eq_comm] using closed
      refine ⟨0, by simp [here], ?_⟩
      intro k closes
      cases k with
      | zero => exact Nat.le_refl 0
      | succ k =>
        have member : rest[k]? = some '>' := closes
        exact absurd (List.mem_of_getElem? member) later

theorem upToLastClose?_eq_none_iff {text : List Char} :
    upToLastClose? text = none ↔ '>' ∉ text := by
  induction text with
  | nil => simp [upToLastClose?]
  | cons c rest ih =>
    rw [upToLastClose?]
    cases inner : upToLastClose? rest with
    | none =>
      have none := ih.mp inner
      simp [none, eq_comm]
    | some kept =>
      have some : '>' ∈ rest := by
        rw [← Decidable.not_not (p := '>' ∈ rest), ← ih, inner]
        simp
      simp [some]

theorem upToLastClose?_of_last {text : List Char} {j : Nat} (last : LastClose text j) :
    upToLastClose? text = some (text.take (j + 1)) := by
  induction text generalizing j with
  | nil => exact absurd last.closes (by simp)
  | cons c rest ih =>
    rw [upToLastClose?]
    cases j with
    | zero =>
      have none : '>' ∉ rest := by
        intro later
        obtain ⟨k, closes⟩ := List.mem_iff_getElem?.mp later
        exact absurd (last.greatest (k + 1) closes) (by omega)
      have here : c = '>' := by simpa using last.closes
      simp [upToLastClose?_eq_none_iff.mpr none, here]
    | succ j => simp [ih last.tail]

theorem not_isWordChar_of_endsName {c : Char} (ends : Text.isSpace c ∨ c = '/' ∨ c = '>') :
    ¬ Element.isWordChar c := by
  rcases ends with space | rfl | rfl
  · intro word
    simp only [Text.isSpace, Bool.or_eq_true, Bool.and_eq_true, decide_eq_true_eq,
      beq_iff_eq] at space
    change (((decide (c.val ≥ 'A'.val ∧ c.val ≤ 'Z'.val) || (c.val ≥ 'a'.val && c.val ≤ 'z'.val)) ||
      (c.val ≥ '0'.val && c.val ≤ '9'.val)) || c == '_') = true at word
    simp only [Bool.or_eq_true, Bool.and_eq_true, decide_eq_true_eq, beq_iff_eq,
      UInt32.le_iff_toNat_le, ge_iff_le] at word
    have value : c.toNat = c.val.toNat := rfl
    rcases word with letter | rfl
    · have bounds : 'A'.val.toNat = 65 ∧ 'Z'.val.toNat = 90 ∧ 'a'.val.toNat = 97 ∧
          'z'.val.toNat = 122 ∧ '0'.val.toNat = 48 ∧ '9'.val.toNat = 57 := by decide
      omega
    · exact absurd space (by decide)
  · decide
  · decide

/-- The cut line still starts with the marker. -/
theorem standsIn_between {marker : Marker} {line : List Char} {i j : Nat}
    (stands : marker.StandsIn line i) (last : LastClose line j) (order : i < j) :
    marker.StandsIn (between line i j) 0 := by
  obtain ⟨rest, split, ends⟩ := stands
  have closes := (last.drop (Nat.le_of_lt order)).closes
  rw [split] at closes
  have beyond : marker.opening.length ≤ j - i := by
    by_contra inside
    rw [List.getElem?_append_left (by omega)] at closes
    have member := List.mem_of_getElem? closes
    cases marker <;> revert member <;> decide
  have cut : between line i j =
      marker.opening ++ rest.take (j + 1 - i - marker.opening.length) := by
    rw [between, List.drop_take, split, List.take_append, List.take_of_length_le (by omega)]
  refine ⟨_, cut, ?_⟩
  intro c first
  obtain ⟨n, size⟩ : ∃ n, j + 1 - i - marker.opening.length = n + 1 :=
    ⟨j - i - marker.opening.length, by omega⟩
  rw [size, List.head?_take] at first
  exact ends c first

/-- An element that starts at a marker has no other name. -/
theorem name_of_standsIn {marker : Marker} {raw after : List Char} {element : Element}
    (stands : marker.StandsIn raw 0) (read : Element.read? raw = some (element, after)) :
    element.name = marker.name.toList := by
  obtain ⟨rest, split, ends⟩ := stands
  obtain ⟨⟨_, words⟩, _, ⟨attributes, closing⟩, whole⟩ := Element.read?_eq_some_iff.mp read
  have stop : ∀ c ∈ rest.head?, ¬ Element.isWordChar c :=
    fun c first => not_isWordChar_of_endsName (ends c first)
  rw [whole] at split
  simp only [List.drop_zero, Marker.opening, List.cons_append, List.cons.injEq, true_and,
    List.append_assoc] at split
  have one := takeWhile_append_of_stop words (attributes.head closing after)
  rw [split, takeWhile_append_of_stop marker.name_letters stop] at one
  exact one.symm

/-- Attributes as written and as kept, in one order: every value decodes, no name twice. -/
structure Decodes (found : List (List Char × List Char)) (kept : List (String × String)) :
    Prop where
  names : kept.map Prod.fst = found.map fun written => String.ofList written.1
  values : kept.map (fun plain => some plain.2.toList) =
    found.map fun written => Reference.decode written.2
  distinct : (kept.map Prod.fst).Nodup

/-- The first attribute at fault is called `name`; those before it decode to `kept`. -/
def FirstFault (found : List (List Char × List Char)) (name : String)
    (fault : (value : List Char) → (kept : List (String × String)) → Prop) : Prop :=
  ∃ before value after kept, found = before ++ (name.toList, value) :: after ∧
    Decodes before kept ∧ fault value kept

def Undecodable (value : List Char) (_ : List (String × String)) : Prop :=
  Reference.decode value = none

def Repeats (name : String) (value : List Char) (kept : List (String × String)) : Prop :=
  Reference.decode value ≠ none ∧ name ∈ kept.map Prod.fst

theorem lookup_isSome_iff {name : String} {seen : List (String × String)} :
    (seen.lookup name).isSome ↔ name ∈ seen.map Prod.fst := by
  rw [List.lookup_isSome_iff, List.mem_map]
  exact exists_congr fun entry => and_congr_right fun _ => by rw [beq_iff_eq, eq_comm]

theorem lookup_of_mem {entries : List (String × String)} (distinct : (entries.map Prod.fst).Nodup)
    {key value : String} (member : (key, value) ∈ entries) : entries.lookup key = some value := by
  obtain ⟨before, after, rfl⟩ := List.append_of_mem member
  refine List.lookup_eq_some_iff.mpr ⟨before, after, rfl, fun entry earlier => ?_⟩
  rw [List.map_append, List.nodup_append] at distinct
  have different := distinct.2.2 entry.1 (List.mem_map_of_mem earlier) key (by simp)
  simpa using different.symm

theorem decodeFrom_append {seen kept : List (String × String)}
    {before : List (List Char × List Char)} (after : List (List Char × List Char))
    (names : kept.map Prod.fst = before.map fun written => String.ofList written.1)
    (values : kept.map (fun plain => some plain.2.toList) =
      before.map fun written => Reference.decode written.2)
    (distinct : ((seen ++ kept).map Prod.fst).Nodup) :
    decodeFrom seen (before ++ after) = decodeFrom (seen ++ kept) after := by
  induction before generalizing seen kept with
  | nil =>
    obtain rfl : kept = [] := by simpa using names
    simp
  | cons written before ih =>
    cases kept with
    | nil => cases names
    | cons plain kept =>
      obtain ⟨name, text⟩ := plain
      obtain ⟨rfl, otherNames⟩ := List.cons.inj names
      obtain ⟨decoded, otherValues⟩ := List.cons.inj values
      have fresh : ¬ (seen.lookup (String.ofList written.1)).isSome := by
        rw [lookup_isSome_iff]
        intro earlier
        simp only [List.map_append, List.map_cons, List.nodup_append] at distinct
        exact distinct.2.2 _ earlier _ (by simp) rfl
      have later : decodeFrom (seen ++ [(String.ofList written.1, text)]) (before ++ after) =
          decodeFrom (seen ++ [(String.ofList written.1, text)] ++ kept) after :=
        ih otherNames otherValues (by simpa using distinct)
      simp only [List.cons_append, decodeFrom, ← decoded, fresh, Bool.false_eq_true, ↓reduceIte,
        String.ofList_toList, later, List.append_assoc, List.nil_append]

theorem Decodes.decodeFrom_append {before : List (List Char × List Char)}
    {kept : List (String × String)} (decodes : Decodes before kept)
    (after : List (List Char × List Char)) :
    decodeFrom [] (before ++ after) = decodeFrom kept after :=
  Tag.decodeFrom_append after decodes.names decodes.values decodes.distinct

theorem decodeFrom_of_decodes {found : List (List Char × List Char)}
    {kept : List (String × String)} (decodes : Decodes found kept) :
    decodeFrom [] found = .ok kept := by
  simpa [decodeFrom] using decodes.decodeFrom_append []

theorem decodeFrom_of_undecodable {found : List (List Char × List Char)} {name : String}
    (fault : FirstFault found name Undecodable) :
    decodeFrom [] found = .error (.invalidReference name) := by
  obtain ⟨before, value, after, kept, rfl, decodes, undecodable⟩ := fault
  rw [decodes.decodeFrom_append, decodeFrom, undecodable]
  simp

theorem decodeFrom_of_repeats {found : List (List Char × List Char)} {name : String}
    (fault : FirstFault found name (Repeats name)) :
    decodeFrom [] found = .error (.duplicateAttribute name) := by
  obtain ⟨before, value, after, kept, rfl, decodes, decodable, earlier⟩ := fault
  obtain ⟨plain, decoded⟩ := Option.ne_none_iff_exists'.mp decodable
  have seen := lookup_isSome_iff.mpr earlier
  rw [decodes.decodeFrom_append, decodeFrom, decoded]
  simp [seen]

theorem FirstFault.append {found : List (List Char × List Char)} {name : String}
    {fault : List Char → List (String × String) → Prop} (first : FirstFault found name fault)
    (more : List (List Char × List Char)) : FirstFault (found ++ more) name fault := by
  obtain ⟨before, value, after, kept, rfl, decodes, faulty⟩ := first
  exact ⟨before, value, after ++ more, kept, by simp, decodes, faulty⟩

/-- Attributes all decode, or one of them is the first at fault. -/
theorem decodes_or_fault (found : List (List Char × List Char)) :
    (∃ kept, Decodes found kept) ∨ ∃ name,
      FirstFault found name Undecodable ∨ FirstFault found name (Repeats name) := by
  induction found using List.reverseRecOn with
  | nil => exact Or.inl ⟨[], rfl, rfl, .nil⟩
  | append_singleton before last ih =>
    obtain ⟨name, value⟩ := last
    rcases ih with ⟨kept, decodes⟩ | ⟨earlier, fault | fault⟩
    · have split : before ++ [(name, value)] =
          before ++ ((String.ofList name).toList, value) :: [] := by simp
      cases decoded : Reference.decode value with
      | none => exact Or.inr ⟨_, Or.inl ⟨before, value, [], kept, split, decodes, decoded⟩⟩
      | some plain =>
        by_cases again : String.ofList name ∈ kept.map Prod.fst
        · have repeats : Repeats (String.ofList name) value kept := ⟨by simp [decoded], again⟩
          exact Or.inr ⟨_, Or.inr ⟨before, value, [], kept, split, decodes, repeats⟩⟩
        · left
          refine ⟨kept ++ [(String.ofList name, String.ofList plain)], ?_, ?_, ?_⟩
          · simp [decodes.names]
          · simp [decodes.values, decoded]
          · rw [List.map_append, List.nodup_append]
            refine ⟨decodes.distinct, by simp, ?_⟩
            rintro _ member _ new rfl
            obtain rfl : _ = String.ofList name := by simpa using new
            exact again member
    · exact Or.inr ⟨earlier, Or.inl (fault.append _)⟩
    · exact Or.inr ⟨earlier, Or.inr (fault.append _)⟩

theorem decodeFrom_eq_ok_iff {found : List (List Char × List Char)}
    {kept : List (String × String)} : decodeFrom [] found = .ok kept ↔ Decodes found kept := by
  constructor
  · intro answer
    rcases decodes_or_fault found with ⟨other, decodes⟩ | ⟨name, fault | fault⟩
    · rw [decodeFrom_of_decodes decodes] at answer
      obtain rfl := Except.ok.inj answer
      exact decodes
    · rw [decodeFrom_of_undecodable fault] at answer
      cases answer
    · rw [decodeFrom_of_repeats fault] at answer
      cases answer
  · exact decodeFrom_of_decodes

theorem decodeFrom_eq_error_iff {found : List (List Char × List Char)} {error : TagError} :
    decodeFrom [] found = .error error ↔ ∃ name,
      (error = .invalidReference name ∧ FirstFault found name Undecodable) ∨
      (error = .duplicateAttribute name ∧ FirstFault found name (Repeats name)) := by
  constructor
  · intro answer
    rcases decodes_or_fault found with ⟨kept, decodes⟩ | ⟨name, fault | fault⟩
    · rw [decodeFrom_of_decodes decodes] at answer
      cases answer
    · rw [decodeFrom_of_undecodable fault] at answer
      exact ⟨name, Or.inl ⟨(Except.error.inj answer).symm, fault⟩⟩
    · rw [decodeFrom_of_repeats fault] at answer
      exact ⟨name, Or.inr ⟨(Except.error.inj answer).symm, fault⟩⟩
  · rintro ⟨name, ⟨rfl, fault⟩ | ⟨rfl, fault⟩⟩
    · exact decodeFrom_of_undecodable fault
    · exact decodeFrom_of_repeats fault

theorem ofElement_of_written {marker : Marker} {raw : List Char}
    {found : List (List Char × List Char)}
    (written : Element.Written marker.name.toList raw found) :
    ofElement marker raw =
      (decodeFrom [] found).map fun kept => ⟨marker, kept, String.ofList raw⟩ := by
  have named : marker.name.toList ≠ [] := by cases marker <;> decide
  have read : Element.read? raw = some (⟨marker.name.toList, found⟩, []) :=
    Element.read?_eq_some_iff.mpr ⟨⟨named, marker.name_letters⟩, raw, written, (List.append_nil raw).symm⟩
  simp [ofElement, read]

/-- What starts with the marker and is no element is malformed, and never for its name. -/
theorem ofElement_of_not_written {marker : Marker} {raw : List Char}
    (stands : marker.StandsIn raw 0)
    (underivable : ∀ found, ¬ Element.Written marker.name.toList raw found) :
    ofElement marker raw = .error (.malformed marker (.noElement (String.ofList raw))) ∨
      ofElement marker raw = .error (.malformed marker .trailingText) := by
  unfold ofElement
  split
  · exact Or.inl rfl
  · exact Or.inr rfl
  · rename_i element read
    have name := name_of_standsIn stands read
    obtain ⟨_, word, written, whole⟩ := Element.read?_eq_some_iff.mp read
    rw [name] at written
    rw [List.append_nil] at whole
    exact absurd (whole ▸ written) (underivable _)

theorem ofElement_error {marker : Marker} {raw : List Char} {error : TagError}
    (stands : marker.StandsIn raw 0) (answer : ofElement marker raw = .error error) :
    error = .malformed marker (.noElement (String.ofList raw)) ∨
      error = .malformed marker .trailingText ∨
      ∃ name, error = .invalidReference name ∨ error = .duplicateAttribute name := by
  by_cases derivable : ∃ found, Element.Written marker.name.toList raw found
  · obtain ⟨found, written⟩ := derivable
    rw [ofElement_of_written written] at answer
    cases decoded : decodeFrom [] found with
    | ok kept =>
      rw [decoded] at answer
      cases answer
    | error fault =>
      rw [decoded] at answer
      obtain rfl := Except.error.inj answer
      obtain ⟨name, ⟨same, _⟩ | ⟨same, _⟩⟩ := decodeFrom_eq_error_iff.mp decoded
      · exact Or.inr (Or.inr ⟨name, Or.inl same⟩)
      · exact Or.inr (Or.inr ⟨name, Or.inr same⟩)
  · have underivable : ∀ found, ¬ Element.Written marker.name.toList raw found :=
      fun found written => derivable ⟨found, written⟩
    rcases ofElement_of_not_written stands underivable with same | same
    · exact Or.inl (Except.error.inj (answer.symm.trans same))
    · exact Or.inr (Or.inl (Except.error.inj (answer.symm.trans same)))

theorem read_of_nowhere {marker : Marker} {line : List Char}
    (nowhere : ∀ i, ¬ marker.StandsIn line i) :
    read marker line = .error (.missingMarker marker) := by
  simp [read, Marker.split?_eq_none_iff.mpr nowhere]

section Cut
variable {marker : Marker} {line : List Char} {i j : Nat}

theorem read_of_unclosed (first : marker.FirstIn line i)
    (unclosed : ∀ j, LastClose line j → ¬ i < j) :
    read marker line = .error (.unterminated marker) := by
  have none : '>' ∉ line.drop i := by
    intro later
    obtain ⟨k, last⟩ := exists_lastClose (List.mem_of_mem_drop later)
    obtain ⟨n, closes⟩ := List.mem_iff_getElem?.mp later
    rw [List.getElem?_drop] at closes
    have most := last.greatest _ closes
    cases n with
    | zero =>
      rw [Nat.add_zero, first.stands.opens] at closes
      cases closes
    | succ n => exact unclosed k last (by omega)
  simp [read, Marker.split?_of_first first, upToLastClose?_eq_none_iff.mpr none]

theorem read_of_cut (first : marker.FirstIn line i) (last : LastClose line j) (order : i < j) :
    read marker line = ofElement marker (between line i j) := by
  have cut : upToLastClose? (line.drop i) = some (between line i j) := by
    rw [upToLastClose?_of_last (last.drop (Nat.le_of_lt order)), between, List.drop_take]
    congr 2
    omega
  simp [read, Marker.split?_of_first first, cut]

theorem read_eq_unterminated_iff (first : marker.FirstIn line i) :
    read marker line = .error (.unterminated marker) ↔ ∀ j, LastClose line j → ¬ i < j := by
  constructor
  · intro answer j last order
    rw [read_of_cut first last order] at answer
    have error := ofElement_error (standsIn_between first.stands last order) answer
    simp at error
  · exact read_of_unclosed first

theorem read_malformed_iff (first : marker.FirstIn line i) (last : LastClose line j)
    (order : i < j) :
    (∃ reason, read marker line = .error (.malformed marker reason)) ↔
      ∀ found, ¬ Element.Written marker.name.toList (between line i j) found := by
  rw [read_of_cut first last order]
  constructor
  · rintro ⟨reason, answer⟩ found written
    rw [ofElement_of_written written] at answer
    cases decoded : decodeFrom [] found with
    | ok kept =>
      rw [decoded] at answer
      cases answer
    | error fault =>
      rw [decoded] at answer
      obtain rfl := Except.error.inj answer
      have error := decodeFrom_eq_error_iff.mp decoded
      simp at error
  · intro underivable
    have stands := standsIn_between first.stands last order
    rcases ofElement_of_not_written stands underivable with answer | answer
    · exact ⟨_, answer⟩
    · exact ⟨_, answer⟩

end Cut

theorem exists_firstIn {marker : Marker} {line : List Char} {i : Nat}
    (stands : marker.StandsIn line i) : ∃ k, marker.FirstIn line k := by
  classical
  exact ⟨Nat.find ⟨i, stands⟩, Nat.find_spec ⟨i, stands⟩, fun k here => Nat.find_min' _ here⟩

/-- Where the marker stands, a line is read as unterminated or as the element cut from it. -/
theorem read_placed {marker : Marker} {line : List Char} {i : Nat}
    (stands : marker.StandsIn line i) :
    read marker line = .error (.unterminated marker) ∨
      ∃ raw, marker.StandsIn raw 0 ∧ read marker line = ofElement marker raw := by
  obtain ⟨k, first⟩ := exists_firstIn stands
  by_cases closed : ∃ j, LastClose line j ∧ k < j
  · obtain ⟨j, last, order⟩ := closed
    exact Or.inr ⟨_, standsIn_between first.stands last order, read_of_cut first last order⟩
  · exact Or.inl (read_of_unclosed first fun j last order => closed ⟨j, last, order⟩)

theorem read_eq_missingMarker_iff {marker : Marker} {line : List Char} :
    read marker line = .error (.missingMarker marker) ↔ ∀ i, ¬ marker.StandsIn line i := by
  constructor
  · intro answer i stands
    rcases read_placed stands with other | ⟨raw, inside, other⟩
    · rw [answer] at other
      cases other
    · have error := ofElement_error inside (other.symm.trans answer)
      simp at error
  · exact read_of_nowhere

theorem read_ne_otherName (marker : Marker) (line : List Char) (name : String) :
    read marker line ≠ .error (.malformed marker (.otherName name)) := by
  intro answer
  by_cases nowhere : ∀ i, ¬ marker.StandsIn line i
  · rw [read_of_nowhere nowhere] at answer
    cases answer
  · obtain ⟨i, stands⟩ := not_forall_not.mp nowhere
    rcases read_placed stands with other | ⟨raw, inside, other⟩
    · rw [answer] at other
      cases other
    · have error := ofElement_error inside (other.symm.trans answer)
      simp at error

theorem map_eq_error_iff {α β : Type} {f : α → β} {answer : Except TagError α} {error : TagError} :
    answer.map f = .error error ↔ answer = .error error := by
  cases answer <;> simp [Except.map]

theorem read_by_cut_and_grammar (marker : Marker) (line : List Char) :
    (read marker line = .error (.missingMarker marker) ↔ ∀ i, ¬ marker.StandsIn line i) ∧
    (∀ i, marker.FirstIn line i →
      (read marker line = .error (.unterminated marker) ↔ ∀ j, LastClose line j → ¬ i < j) ∧
      ∀ j, LastClose line j → i < j →
        ((∃ reason, read marker line = .error (.malformed marker reason)) ↔
          ∀ found, ¬ Element.Written marker.name.toList (between line i j) found) ∧
        ∀ found, Element.Written marker.name.toList (between line i j) found →
          (∀ name, read marker line = .error (.invalidReference name) ↔
            FirstFault found name Undecodable) ∧
          (∀ name, read marker line = .error (.duplicateAttribute name) ↔
            FirstFault found name (Repeats name)) ∧
          ∀ tag, read marker line = .ok tag ↔ tag.marker = marker ∧
            tag.raw = String.ofList (between line i j) ∧ Decodes found tag.attributes) ∧
    ∀ name, read marker line ≠ .error (.malformed marker (.otherName name)) := by
  refine ⟨read_eq_missingMarker_iff, ?_, read_ne_otherName marker line⟩
  intro i first
  refine ⟨read_eq_unterminated_iff first, ?_⟩
  intro j last order
  refine ⟨read_malformed_iff first last order, ?_⟩
  intro found written
  have whole := (read_of_cut first last order).trans (ofElement_of_written written)
  rw [whole]
  refine ⟨?_, ?_, ?_⟩
  · intro name
    rw [map_eq_error_iff, decodeFrom_eq_error_iff]
    simp
  · intro name
    rw [map_eq_error_iff, decodeFrom_eq_error_iff]
    simp
  · intro tag
    rw [← decodeFrom_eq_ok_iff]
    obtain ⟨kind, attributes, raw⟩ := tag
    cases decoded : decodeFrom [] found with
    | ok kept =>
      simp only [Except.map, Except.ok.injEq, Tag.mk.injEq]
      constructor
      · rintro ⟨rfl, rfl, rfl⟩
        exact ⟨rfl, rfl, rfl⟩
      · rintro ⟨rfl, rfl, rfl⟩
        exact ⟨rfl, rfl, rfl⟩
    | error fault => simp [Except.map]

/-- A value is decoded before its name is looked up. -/
theorem read_of_repeated_undecodable :
    ∃ line i j found, Marker.probe.FirstIn line i ∧ LastClose line j ∧ i < j ∧
      Element.Written "Probe".toList (between line i j) found ∧
      FirstFault found ":a" Undecodable ∧
      read .probe line = .error (.invalidReference ":a") := by
  have first : Marker.probe.FirstIn "# <Probe :a='1' :a = '&;'/>".toList 2 := by
    constructor
    · exact ⟨" :a='1' :a = '&;'/>".toList, by decide, Marker.endsName_iff.mp (by decide)⟩
    · intro k stands
      match k with
      | 0 => exact absurd (Marker.standsAt_iff.mpr stands) (by decide)
      | 1 => exact absurd (Marker.standsAt_iff.mpr stands) (by decide)
      | k + 2 => exact Nat.le_add_left 2 k
  have last : LastClose "# <Probe :a='1' :a = '&;'/>".toList 26 := by
    constructor
    · decide
    · intro k closes
      have inside : k < 27 := by
        by_contra outside
        rw [List.getElem?_eq_none (by simpa using outside)] at closes
        cases closes
      omega
  have read : Element.read? (between "# <Probe :a='1' :a = '&;'/>".toList 2 26) =
      some (⟨"Probe".toList, [(":a".toList, "1".toList), (":a".toList, "&;".toList)]⟩, []) := by
    decide
  obtain ⟨_, word, written, whole⟩ := Element.read?_eq_some_iff.mp read
  rw [List.append_nil] at whole
  rw [← whole] at written
  have fault : FirstFault [(":a".toList, "1".toList), (":a".toList, "&;".toList)] ":a" Undecodable :=
    ⟨[(":a".toList, "1".toList)], "&;".toList, [], [(":a", "1")], rfl,
      ⟨by decide, by decide, by decide⟩, by unfold Undecodable; decide⟩
  have answers := (read_by_cut_and_grammar .probe _).2.1 2 first
  exact ⟨_, 2, 26, _, first, last, by decide, written, fault,
    ((answers.2 26 last (by decide)).2 _ written).1 ":a" |>.mpr fault⟩

end Tag
end ExampleProbes
