import Mathlib.Data.List.TakeWhile
import ExampleProbes.Markup.Element

/-!
The words that are elements, by a grammar, and that reading takes just these words from the
front of a text. Each part of an element has its words and its reader: `value?` reads quoted
values, `attribute?` assignments, `attributesWithin` assignments in a row, `close?` the end.
-/
namespace ExampleProbes

section Span
variable {α : Type} {p : α → Bool} {xs ys : List α}

theorem takeWhile_append_of_stop (all : ∀ a ∈ xs, p a) (stop : ∀ a ∈ ys.head?, ¬ p a) :
    (xs ++ ys).takeWhile p = xs := by
  rw [List.takeWhile_append_of_pos all]
  cases ys with
  | nil => simp
  | cons a rest => simp [stop a rfl]

theorem dropWhile_append_of_stop (all : ∀ a ∈ xs, p a) (stop : ∀ a ∈ ys.head?, ¬ p a) :
    (xs ++ ys).dropWhile p = ys := by
  rw [List.dropWhile_append_of_pos all]
  cases ys with
  | nil => rfl
  | cons a rest => simp [stop a rfl]

end Span

namespace Element

/-- White space inside an element, or none. -/
def Gap (text : List Char) : Prop := ∀ c ∈ text, c ∈ [' ', '\t', '\r', '\n']

inductive Name : List Char → Prop where
  | mk {c : Char} {rest : List Char} (first : c.isAlpha ∨ c ∈ [':', '_', '$'])
      (more : ∀ d ∈ rest, d.isAlphanum ∨ d ∈ ['_', '$', ':', '.', '-']) : Name (c :: rest)

inductive Quoted : List Char → (value : List Char) → Prop where
  | mk {quote : Char} {value : List Char} (kind : quote ∈ ['\x22', '\x27'])
      (plain : ∀ c ∈ value, c ∉ [quote, '<']) : Quoted (quote :: (value ++ [quote])) value

inductive Assignment : List Char → (found : List Char × List Char) → Prop where
  | mk {name before after word value : List Char} (named : Name name) (left : Gap before)
      (right : Gap after) (quoted : Quoted word value) :
      Assignment (name ++ (before ++ '=' :: (after ++ word))) (name, value)

/-- Assignments in a row, each after white space. -/
inductive Attributes : List Char → List (List Char × List Char) → Prop where
  | nil : Attributes [] []
  | cons {gap word rest : List Char} {found : List Char × List Char}
      {others : List (List Char × List Char)} (apart : gap ≠ []) (space : Gap gap)
      (first : Assignment word found) (more : Attributes rest others) :
      Attributes (gap ++ (word ++ rest)) (found :: others)

inductive Closing : List Char → Prop where
  | mk {gap close : List Char} (space : Gap gap) (kind : close ∈ [['>'], ['/', '>']]) :
      Closing (gap ++ close)

/-- The elements of a name, with their attributes. -/
inductive Written (name : List Char) : List Char → List (List Char × List Char) → Prop where
  | mk {text close : List Char} {found : List (List Char × List Char)}
      (attributes : Attributes text found) (closed : Closing close) :
      Written name ('<' :: (name ++ (text ++ close))) found

theorem isGap_iff {c : Char} : isGap c ↔ c ∈ [' ', '\t', '\r', '\n'] := by
  simp [isGap, or_assoc]

theorem startsName_iff {c : Char} : startsName c ↔ c.isAlpha ∨ c ∈ [':', '_', '$'] := by
  simp [startsName, or_assoc]

theorem continuesName_iff {c : Char} :
    continuesName c ↔ c.isAlphanum ∨ c ∈ ['_', '$', ':', '.', '-'] := by
  simp [continuesName, or_assoc]

theorem inValue_iff {quote c : Char} : inValue quote c ↔ c ∉ [quote, '<'] := by
  simp [inValue]

theorem Gap.all {text : List Char} (gap : Gap text) : ∀ c ∈ text, isGap c :=
  fun c member => isGap_iff.mpr (gap c member)

theorem Gap.skip {gap rest : List Char} (space : Gap gap) (stop : ∀ c ∈ rest.head?, ¬ isGap c) :
    skipGap (gap ++ rest) = rest := dropWhile_append_of_stop space.all stop

theorem skipGap_split (text : List Char) :
    ∃ gap, Gap gap ∧ text = gap ++ skipGap text := by
  refine ⟨text.takeWhile isGap, ?_, List.takeWhile_append_dropWhile.symm⟩
  intro c member
  exact isGap_iff.mp (List.mem_takeWhile_imp member)

theorem value?_eq_some_iff {text value after : List Char} :
    value? text = some (value, after) ↔ ∃ word, Quoted word value ∧ text = word ++ after := by
  constructor
  · intro read
    cases text with
    | nil => cases read
    | cons quote rest =>
      simp only [value?] at read
      split at read
      · rename_i kind
        cases left : rest.dropWhile (inValue quote) with
        | nil => simp [left] at read
        | cons c behind =>
          simp only [left] at read
          split at read
          · rename_i closes
            obtain ⟨rfl, rfl⟩ : rest.takeWhile (inValue quote) = value ∧ behind = after := by
              simpa using read
            refine ⟨quote :: (rest.takeWhile (inValue quote) ++ [quote]), ⟨by simpa using kind, ?_⟩, ?_⟩
            · intro d member
              exact inValue_iff.mp (List.mem_takeWhile_imp member)
            · have whole := List.takeWhile_append_dropWhile (p := inValue quote) (l := rest)
              rw [left, closes] at whole
              simp [whole]
          · cases read
      · cases read
  · rintro ⟨_, ⟨kind, plain⟩, rfl⟩
    rename_i quote
    have inside : ∀ c ∈ value, inValue quote c := fun c member => inValue_iff.mpr (plain c member)
    have stop : ∀ c ∈ (quote :: after).head?, ¬ inValue quote c := by
      intro c first
      obtain rfl : quote = c := by simpa using first
      simp [inValue]
    have quotes : quote = '\x22' ∨ quote = '\x27' := by simpa using kind
    have word : quote :: (value ++ [quote]) ++ after = quote :: (value ++ quote :: after) := by simp
    rw [word]
    simp only [value?, quotes, ↓reduceIte, dropWhile_append_of_stop inside stop,
      takeWhile_append_of_stop inside stop]

theorem Quoted.head {word value : List Char} (quoted : Quoted word value) (rest : List Char) :
    ∀ c ∈ (word ++ rest).head?, ¬ isGap c := by
  intro c first
  cases quoted with
  | mk kind plain =>
    rename_i quote
    obtain rfl : quote = c := by simpa using first
    have quotes : quote = '\x22' ∨ quote = '\x27' := by simpa using kind
    rcases quotes with rfl | rfl <;> decide

theorem not_continuesName_of_isGap {c : Char} (gap : isGap c) : ¬ continuesName c := by
  have kinds : c = ' ' ∨ c = '\t' ∨ c = '\r' ∨ c = '\n' := by simpa using isGap_iff.mp gap
  rcases kinds with rfl | rfl | rfl | rfl <;> decide

theorem attribute?_eq_some_iff {text after : List Char} {found : List Char × List Char} :
    attribute? text = some (found, after) ↔ ∃ word, Assignment word found ∧ text = word ++ after := by
  constructor
  · intro read
    cases text with
    | nil => cases read
    | cons c rest =>
      simp only [attribute?] at read
      split at read
      · rename_i starts
        split at read
        · rename_i afterSign sign
          obtain ⟨⟨value, behind⟩, valued, same⟩ := Option.map_eq_some_iff.mp read
          obtain ⟨rfl, rfl⟩ : (c :: rest.takeWhile continuesName, value) = found ∧ behind = after := by
            simpa using same
          obtain ⟨word, quoted, split⟩ := value?_eq_some_iff.mp valued
          obtain ⟨left, leftGap, leftSplit⟩ := skipGap_split (rest.dropWhile continuesName)
          obtain ⟨right, rightGap, rightSplit⟩ := skipGap_split afterSign
          have named : Name (c :: rest.takeWhile continuesName) := by
            constructor
            · exact startsName_iff.mp starts
            · intro d member
              exact continuesName_iff.mp (List.mem_takeWhile_imp member)
          refine ⟨_, ⟨named, leftGap, rightGap, quoted⟩, ?_⟩
          have whole := List.takeWhile_append_dropWhile (p := continuesName) (l := rest)
          rw [leftSplit, sign, rightSplit, split] at whole
          simpa using whole.symm
        · cases read
      · cases read
  · rintro ⟨_, ⟨named, left, right, quoted⟩, rfl⟩
    rename_i before between word value
    cases named with
    | mk starts more =>
      rename_i c rest
      have inside : ∀ d ∈ rest, continuesName d := fun d member => continuesName_iff.mpr (more d member)
      have stop : ∀ d ∈ (before ++ '=' :: (between ++ (word ++ after))).head?, ¬ continuesName d := by
        intro d first
        cases before with
        | nil =>
          obtain rfl : '=' = d := by simpa using first
          decide
        | cons g more =>
          obtain rfl : g = d := by simpa using first
          exact not_continuesName_of_isGap (left.all g (by simp))
      have value : value? (skipGap (between ++ (word ++ after))) = some (value, after) := by
        rw [right.skip (quoted.head after)]
        exact value?_eq_some_iff.mpr ⟨word, quoted, rfl⟩
      have sign : skipGap (before ++ '=' :: (between ++ (word ++ after))) =
          '=' :: (between ++ (word ++ after)) := left.skip (by simp [isGap])
      simp [attribute?, startsName_iff.mpr starts, dropWhile_append_of_stop inside stop,
        takeWhile_append_of_stop inside stop, sign, value]

theorem close?_eq_some_iff {text after : List Char} :
    close? text = some after ↔ ∃ word, Closing word ∧ text = word ++ after := by
  constructor
  · intro read
    obtain ⟨gap, space, split⟩ := skipGap_split text
    simp only [close?] at read
    split at read
    · rename_i rest left
      obtain rfl : rest = after := by simpa using read
      exact ⟨gap ++ ['/', '>'], ⟨space, by simp⟩, by rw [split, left]; simp⟩
    · rename_i rest left
      obtain rfl : rest = after := by simpa using read
      exact ⟨gap ++ ['>'], ⟨space, by simp⟩, by rw [split, left]; simp⟩
    · cases read
  · rintro ⟨_, ⟨space, kind⟩, rfl⟩
    rename_i gap close
    have closes : close = ['>'] ∨ close = ['/', '>'] := by simpa using kind
    rcases closes with rfl | rfl
    · have left : skipGap (gap ++ '>' :: after) = '>' :: after := space.skip (by simp [isGap])
      simp [close?, left]
    · have left : skipGap (gap ++ '/' :: '>' :: after) = '/' :: '>' :: after :=
        space.skip (by simp [isGap])
      simp [close?, left]

theorem Name.all {name : List Char} (named : Name name) : ∀ c ∈ name, continuesName c := by
  intro c member
  cases named with
  | mk starts more =>
    rename_i d rest
    rcases List.mem_cons.mp member with rfl | later
    · rcases starts with letter | other
      · simp [continuesName, Char.isAlphanum, letter]
      · have kinds : c = ':' ∨ c = '_' ∨ c = '$' := by simpa using other
        rcases kinds with rfl | rfl | rfl <;> decide
    · exact continuesName_iff.mpr (more c later)

theorem Assignment.head {word : List Char} {found : List Char × List Char}
    (assignment : Assignment word found) (rest : List Char) :
    ∀ c ∈ (word ++ rest).head?, ¬ isGap c := by
  intro c first gap
  cases assignment with
  | mk named left right quoted =>
    cases named with
    | mk starts more =>
      rename_i d name
      obtain rfl : d = c := by simpa using first
      have continues := Name.all ⟨starts, more⟩ d (by simp)
      exact not_continuesName_of_isGap gap continues

/-- Nothing that closes an element starts an attribute. -/
theorem Closing.attribute?_eq_none {word after : List Char} (closing : Closing word) :
    attribute? (skipGap (word ++ after)) = none := by
  cases closing with
  | mk space kind =>
    rename_i gap close
    have closes : close = ['>'] ∨ close = ['/', '>'] := by simpa using kind
    rcases closes with rfl | rfl
    · have left : skipGap (gap ++ ['>'] ++ after) = '>' :: after := by
        rw [List.append_assoc]
        exact space.skip (by simp [isGap])
      rw [left]
      rfl
    · have left : skipGap (gap ++ ['/', '>'] ++ after) = '/' :: '>' :: after := by
        rw [List.append_assoc]
        exact space.skip (by simp [isGap])
      rw [left]
      rfl

theorem attributesWithin_of_none {fuel : Nat} {text : List Char}
    (stop : attribute? (skipGap text) = none) : attributesWithin fuel text = ([], text) := by
  cases fuel with
  | zero => rfl
  | succ fuel =>
    cases text with
    | nil => rfl
    | cons c rest =>
      by_cases gap : isGap c
      · have skipped : skipGap (c :: rest) = skipGap rest := by simp [skipGap, gap]
        rw [skipped] at stop
        simp [attributesWithin, stop]
      · simp [attributesWithin, gap]

theorem attributesWithin_sound (fuel : Nat) (text : List Char) :
    ∃ front, Attributes front (attributesWithin fuel text).1 ∧
      text = front ++ (attributesWithin fuel text).2 := by
  induction fuel generalizing text with
  | zero => exact ⟨[], .nil, rfl⟩
  | succ fuel ih =>
    cases text with
    | nil => exact ⟨[], .nil, rfl⟩
    | cons c rest =>
      simp only [attributesWithin]
      split
      · rename_i gap
        split
        · exact ⟨[], .nil, rfl⟩
        · rename_i found after assigned
          obtain ⟨word, assignment, first⟩ := attribute?_eq_some_iff.mp assigned
          obtain ⟨front, more, behind⟩ := ih after
          obtain ⟨space, spaces, skipped⟩ := skipGap_split rest
          have apart : Gap (c :: space) := by
            intro d member
            rcases List.mem_cons.mp member with rfl | inner
            · exact isGap_iff.mp gap
            · exact spaces d inner
          refine ⟨_, .cons (List.cons_ne_nil c space) apart assignment more, ?_⟩
          calc c :: rest = c :: (space ++ (word ++ after)) := by rw [← first, ← skipped]
            _ = c :: (space ++ (word ++ (front ++ (attributesWithin fuel after).2))) := by
              rw [← behind]
            _ = c :: space ++ (word ++ front) ++ (attributesWithin fuel after).2 := by simp
      · exact ⟨[], .nil, rfl⟩

theorem attributesWithin_complete {fuel : Nat} {front last : List Char}
    {found : List (List Char × List Char)} (attributes : Attributes front found)
    (enough : front.length ≤ fuel) (stop : attribute? (skipGap last) = none) :
    attributesWithin fuel (front ++ last) = (found, last) := by
  induction attributes generalizing fuel with
  | nil => exact attributesWithin_of_none stop
  | cons apart space first more ih =>
    rename_i gap word rest found others
    obtain ⟨g, gap, rfl⟩ := List.exists_cons_of_ne_nil apart
    cases fuel with
    | zero => simp at enough
    | succ fuel =>
      have room : rest.length ≤ fuel := by
        simp only [List.length_append, List.length_cons] at enough
        omega
      have inner : Gap gap := fun c member => space c (List.mem_cons_of_mem g member)
      have assigned : attribute? (skipGap (gap ++ (word ++ (rest ++ last)))) =
          some (found, rest ++ last) := by
        rw [inner.skip (first.head _)]
        exact attribute?_eq_some_iff.mpr ⟨word, first, rfl⟩
      simp [attributesWithin, space.all g (by simp), assigned, ih room]

theorem not_isWordChar_of_isGap {c : Char} (gap : isGap c) : ¬ isWordChar c := by
  have stops := not_continuesName_of_isGap gap
  simp only [continuesName, isWordChar, Bool.or_eq_true] at stops ⊢
  grind

theorem Closing.head {close : List Char} (closing : Closing close) (after : List Char) :
    ∀ c ∈ (close ++ after).head?, ¬ isWordChar c := by
  intro c first
  cases closing with
  | mk space kind =>
    rename_i gap close
    cases gap with
    | nil =>
      have closes : close = ['>'] ∨ close = ['/', '>'] := by simpa using kind
      rcases closes with rfl | rfl
      · obtain rfl : '>' = c := by simpa using first
        decide
      · obtain rfl : '/' = c := by simpa using first
        decide
    | cons g gap =>
      obtain rfl : g = c := by simpa using first
      exact not_isWordChar_of_isGap (space.all g (by simp))

/-- What follows the name of an element ends the name. -/
theorem Attributes.head {front close : List Char} {found : List (List Char × List Char)}
    (attributes : Attributes front found) (closing : Closing close) (after : List Char) :
    ∀ c ∈ (front ++ (close ++ after)).head?, ¬ isWordChar c := by
  cases attributes with
  | nil => exact closing.head after
  | cons apart space =>
    intro c first
    obtain ⟨g, gap, rfl⟩ := List.exists_cons_of_ne_nil apart
    obtain rfl : g = c := by simpa using first
    exact not_isWordChar_of_isGap (space.all g (by simp))

/-- Reading takes an element from the front exactly where the grammar has one. -/
theorem read?_eq_some_iff {text after : List Char} {element : Element} :
    read? text = some (element, after) ↔
      (element.name ≠ [] ∧ ∀ c ∈ element.name, isWordChar c) ∧
      ∃ word, Written element.name word element.attributes ∧ text = word ++ after := by
  constructor
  · intro read
    unfold read? at read
    split at read
    · rename_i rest
      split at read
      · cases read
      · rename_i named
        obtain ⟨behind, closes, same⟩ := Option.map_eq_some_iff.mp read
        obtain ⟨rfl, rfl⟩ : _ = element ∧ behind = after := by simpa only [Prod.mk.injEq] using same
        obtain ⟨front, attributes, split⟩ := attributesWithin_sound _ (rest.dropWhile isWordChar)
        obtain ⟨close, closing, last⟩ := close?_eq_some_iff.mp closes
        have whole := List.takeWhile_append_dropWhile (p := isWordChar) (l := rest)
        rw [split, last] at whole
        refine ⟨⟨by simpa using named, fun c member => List.mem_takeWhile_imp member⟩, _,
          ⟨attributes, closing⟩, ?_⟩
        simpa using whole.symm
    · cases read
  · rintro ⟨⟨named, words⟩, _, ⟨attributes, closing⟩, rfl⟩
    rename_i front close
    have stop := attributes.head closing after
    have run : attributeRun (front ++ (close ++ after)) = (element.attributes, close ++ after) :=
      attributesWithin_complete attributes (by simp) closing.attribute?_eq_none
    have closes : close? (close ++ after) = some after :=
      close?_eq_some_iff.mpr ⟨close, closing, rfl⟩
    have taken : (element.name ++ (front ++ (close ++ after))).takeWhile isWordChar = element.name :=
      takeWhile_append_of_stop words stop
    have left : (element.name ++ (front ++ (close ++ after))).dropWhile isWordChar =
        front ++ (close ++ after) := dropWhile_append_of_stop words stop
    simp [read?, taken, left, run, closes, named]

end Element
end ExampleProbes
