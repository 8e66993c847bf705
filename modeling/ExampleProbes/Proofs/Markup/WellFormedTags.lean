import Mathlib.Data.List.Nodup
import ExampleProbes.Proofs.Markup.Reading

/-!
The lines on which a tag is read, and what its attributes give: each the value that its written
value decodes to. A line that is not one of these is read as malformed.
-/
namespace ExampleProbes.Tag

/-- The text from the marker to the last closing bracket of the line, where it is an element
    whose attributes all decode and have names of their own. -/
structure WellFormed (marker : Marker) (line raw : List Char)
    (found : List (List Char × List Char)) : Prop where
  cut : ∃ i j, marker.FirstIn line i ∧ LastClose line j ∧ i < j ∧ raw = between line i j
  element : Element.Written marker.name.toList raw found
  decodable : ∀ written ∈ found, Reference.decode written.2 ≠ none
  distinct : (found.map Prod.fst).Nodup

/-- The attribute called `name` is written with a value that decodes to `value`. -/
def Gives (found : List (List Char × List Char)) (name value : String) : Prop :=
  ∃ written, (name.toList, written) ∈ found ∧ Reference.decode written = some value.toList

section Attributes
variable {found : List (List Char × List Char)} {kept : List (String × String)}

theorem names_nodup_iff :
    (found.map fun written => String.ofList written.1).Nodup ↔ (found.map Prod.fst).Nodup := by
  have same : (found.map fun written => String.ofList written.1) =
      (found.map Prod.fst).map String.ofList := by
    rw [List.map_map]
    rfl
  rw [same]
  exact List.nodup_map_iff fun _ _ same => String.ofList_inj.mp same

theorem Decodes.distinct_found (decodes : Decodes found kept) : (found.map Prod.fst).Nodup := by
  rw [← names_nodup_iff, ← decodes.names]
  exact decodes.distinct

theorem Decodes.decodable (decodes : Decodes found kept) :
    ∀ written ∈ found, Reference.decode written.2 ≠ none := by
  intro written member
  have one : Reference.decode written.2 ∈ kept.map fun plain => some plain.2.toList := by
    rw [decodes.values]
    exact List.mem_map_of_mem member
  obtain ⟨plain, _, same⟩ := List.mem_map.mp one
  rw [← same]
  exact Option.some_ne_none _

theorem exists_decodes (decodable : ∀ written ∈ found, Reference.decode written.2 ≠ none)
    (distinct : (found.map Prod.fst).Nodup) : ∃ kept, Decodes found kept := by
  rcases decodes_or_fault found with decodes | ⟨name, fault | fault⟩
  · exact decodes
  · obtain ⟨before, value, after, kept, rfl, _, undecodable⟩ := fault
    exact absurd undecodable (decodable (name.toList, value) (by simp))
  · obtain ⟨before, value, after, kept, rfl, decodes, _, earlier⟩ := fault
    rw [decodes.names] at earlier
    obtain ⟨written, member, rfl⟩ := List.mem_map.mp earlier
    rw [List.map_append, List.nodup_append] at distinct
    have apart := distinct.2.2 written.1 (List.mem_map_of_mem member) written.1 (by simp)
    exact absurd rfl apart

theorem Decodes.getElem?_eq_some_iff (decodes : Decodes found kept) {i : Nat}
    {name value : String} : kept[i]? = some (name, value) ↔
      ∃ written, found[i]? = some (name.toList, written) ∧
        Reference.decode written = some value.toList := by
  have names := congrArg (·[i]?) decodes.names
  have values := congrArg (·[i]?) decodes.values
  simp only [List.getElem?_map] at names values
  cases plain : kept[i]? with
  | none =>
    rw [plain, Option.map_none, eq_comm, Option.map_eq_none_iff] at names
    simp [names]
  | some entry =>
    rw [plain] at names values
    obtain ⟨written, here, called⟩ := Option.map_eq_some_iff.mp names.symm
    rw [here, Option.map_some, Option.map_some, Option.some.injEq] at values
    obtain ⟨key, value⟩ := entry
    obtain ⟨word, text⟩ := written
    obtain rfl : String.ofList word = key := called
    simp only [here, Option.some.injEq, Prod.mk.injEq]
    constructor
    · rintro ⟨rfl, rfl⟩
      exact ⟨text, ⟨String.toList_ofList.symm, rfl⟩, values.symm⟩
    · rintro ⟨_, ⟨rfl, rfl⟩, same⟩
      exact ⟨String.ofList_toList, String.toList_inj.mp (Option.some.inj (values.trans same))⟩

theorem Decodes.gives_iff (decodes : Decodes found kept) {name value : String} :
    Gives found name value ↔ (name, value) ∈ kept := by
  rw [List.mem_iff_getElem?, Gives]
  constructor
  · rintro ⟨written, member, decoded⟩
    obtain ⟨i, here⟩ := List.mem_iff_getElem?.mp member
    exact ⟨i, decodes.getElem?_eq_some_iff.mpr ⟨written, here, decoded⟩⟩
  · rintro ⟨i, here⟩
    obtain ⟨written, there, decoded⟩ := decodes.getElem?_eq_some_iff.mp here
    exact ⟨written, List.mem_of_getElem? there, decoded⟩

/-- An attribute that is looked up has the value that its written value decodes to. -/
theorem Decodes.lookup_eq_some_iff (decodes : Decodes found kept) {name value : String} :
    kept.lookup name = some value ↔ Gives found name value := by
  rw [decodes.gives_iff]
  constructor
  · intro looked
    obtain ⟨before, after, rfl, _⟩ := List.lookup_eq_some_iff.mp looked
    simp
  · exact lookup_of_mem decodes.distinct

end Attributes

section Line
variable {marker : Marker} {line raw : List Char} {found : List (List Char × List Char)} {tag : Tag}

theorem WellFormed.read (formed : WellFormed marker line raw found) :
    ∃ kept, Decodes found kept ∧ Tag.read marker line = .ok ⟨marker, kept, String.ofList raw⟩ := by
  obtain ⟨i, j, first, last, order, rfl⟩ := formed.cut
  obtain ⟨kept, decodes⟩ := exists_decodes formed.decodable formed.distinct
  refine ⟨kept, decodes, ?_⟩
  rw [read_of_cut first last order, ofElement_of_written formed.element,
    decodeFrom_of_decodes decodes]
  rfl

theorem WellFormed.isOn (formed : WellFormed marker line raw found) : marker.isOn line = true := by
  obtain ⟨i, _, first, _⟩ := formed.cut
  rw [Marker.isOn, Marker.split?_of_first first]
  rfl

theorem cut_of_read (answer : Tag.read marker line = .ok tag) :
    ∃ i j, marker.FirstIn line i ∧ LastClose line j ∧ i < j ∧
      ofElement marker (between line i j) = .ok tag := by
  by_cases nowhere : ∀ i, ¬ marker.StandsIn line i
  · rw [read_of_nowhere nowhere] at answer
    cases answer
  · obtain ⟨_, stands⟩ := not_forall_not.mp nowhere
    obtain ⟨i, first⟩ := exists_firstIn stands
    by_cases unclosed : ∀ j, LastClose line j → ¬ i < j
    · rw [read_of_unclosed first unclosed] at answer
      cases answer
    · simp only [not_forall, not_not] at unclosed
      obtain ⟨j, last, order⟩ := unclosed
      rw [read_of_cut first last order] at answer
      exact ⟨i, j, first, last, order, answer⟩

theorem written_of_ofElement (stands : marker.StandsIn raw 0)
    (answer : ofElement marker raw = .ok tag) :
    ∃ found, Element.Written marker.name.toList raw found ∧ Decodes found tag.attributes ∧
      tag.raw = String.ofList raw := by
  by_cases derivable : ∃ found, Element.Written marker.name.toList raw found
  · obtain ⟨found, element⟩ := derivable
    rw [ofElement_of_written element] at answer
    cases decoded : decodeFrom [] found with
    | error fault =>
      rw [decoded] at answer
      cases answer
    | ok kept =>
      rw [decoded] at answer
      obtain rfl := Except.ok.inj answer
      exact ⟨found, element, decodeFrom_eq_ok_iff.mp decoded, rfl⟩
  · rcases ofElement_of_not_written stands (not_exists.mp derivable) with other | other
    · rw [other] at answer
      cases answer
    · rw [other] at answer
      cases answer

/-- A tag is read off a line on which one is well formed. -/
theorem wellFormed_of_read (answer : Tag.read marker line = .ok tag) :
    ∃ found, WellFormed marker line tag.raw.toList found ∧ Decodes found tag.attributes := by
  obtain ⟨i, j, first, last, order, answer⟩ := cut_of_read answer
  obtain ⟨found, element, decodes, same⟩ :=
    written_of_ofElement (standsIn_between first.stands last order) answer
  rw [same, String.toList_ofList]
  exact ⟨found, ⟨⟨i, j, first, last, order, rfl⟩, element, decodes.decodable,
    decodes.distinct_found⟩, decodes⟩

end Line
end ExampleProbes.Tag
