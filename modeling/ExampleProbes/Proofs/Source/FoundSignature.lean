import ExampleProbes.Proofs.Source.WrittenSignature

/-!
What the signature found on a line looks like, whatever the line holds. There is one just if the
line has an opening parenthesis; its parameters are pieces of the run after that, none of them
twice.
-/
namespace ExampleProbes.Signature

theorem mem_distinctFrom_iff {seen names : List String} {name : String} :
    name ∈ distinctFrom seen names ↔ name ∈ names ∧ name ∉ seen := by
  induction names generalizing seen with
  | nil => simp [distinctFrom]
  | cons first rest ih =>
    simp only [distinctFrom, List.contains_iff_mem]
    by_cases known : first ∈ seen
    · rw [if_pos known, ih]
      constructor
      · rintro ⟨later, fresh⟩
        exact ⟨List.mem_cons_of_mem first later, fresh⟩
      · rintro ⟨member, fresh⟩
        rcases List.mem_cons.mp member with rfl | later
        · exact absurd known fresh
        · exact ⟨later, fresh⟩
    · rw [if_neg known]
      by_cases same : name = first
      · simp [same, known]
      · simp [same, ih]

theorem distinctFrom_nodup (seen names : List String) : (distinctFrom seen names).Nodup := by
  induction names generalizing seen with
  | nil => exact .nil
  | cons first rest ih =>
    rw [distinctFrom]
    split
    · exact ih seen
    · refine List.nodup_cons.mpr ⟨?_, ih (first :: seen)⟩
      intro later
      exact (mem_distinctFrom_iff.mp later).2 List.mem_cons_self

/-- The pieces hold what was read before them and the text, without the commas. -/
theorem mem_of_mem_piecesFrom {piece text found : List Char} (cut : found ∈ piecesFrom piece text)
    {c : Char} (member : c ∈ found) : c ∈ piece ∨ c ∈ text ∧ c ≠ ',' := by
  induction text generalizing piece with
  | nil =>
    obtain rfl : found = piece.reverse := by simpa [piecesFrom] using cut
    exact Or.inl (List.mem_reverse.mp member)
  | cons d rest ih =>
    rw [piecesFrom] at cut
    split at cut
    · rcases List.mem_cons.mp cut with rfl | later
      · exact Or.inl (List.mem_reverse.mp member)
      · rcases ih later with none | ⟨behind, other⟩
        · simp at none
        · exact Or.inr ⟨List.mem_cons_of_mem d behind, other⟩
    · rename_i other
      rcases ih cut with before | ⟨behind, plain⟩
      · rcases List.mem_cons.mp before with rfl | before
        · exact Or.inr ⟨List.mem_cons_self, other⟩
        · exact Or.inl before
      · exact Or.inr ⟨List.mem_cons_of_mem d behind, plain⟩

theorem isPiece_of_mem_parameterNames {run : List Char} (chars : ∀ c ∈ run, isParameterChar c)
    {name : String} (member : name ∈ parameterNames run) : IsPiece name.toList := by
  unfold parameterNames at member
  obtain ⟨piece, kept, rfl⟩ := List.mem_map.mp member
  obtain ⟨cut, filled⟩ := List.mem_filter.mp kept
  rw [String.toList_ofList]
  constructor
  · simpa using filled
  · intro c inside
    have own : c ∈ run.filter (· != ' ') ∧ c ≠ ',' := by
      simpa using mem_of_mem_piecesFrom cut inside
    obtain ⟨⟨behind, notSpace⟩, notComma⟩ : (c ∈ run ∧ c ≠ ' ') ∧ c ≠ ',' := by simpa using own
    simpa [isParameterChar, notComma, notSpace] using chars c behind

theorem find?_eq_none_iff {line : List Char} : find? line = none ↔ '(' ∉ line := by
  have nothing : line.dropWhile (· != '(') = [] ↔ '(' ∉ line := by
    rw [List.dropWhile_eq_nil_iff]
    constructor
    · intro others inside
      simpa using others '(' inside
    · intro outside c member
      have different : c ≠ '(' := fun same => outside (same ▸ member)
      simpa using different
  rw [← nothing, find?]
  split
  · rename_i none
    simp [none]
  · rename_i opening
    simp [opening]

theorem parameters_of_find? {line : List Char} {signature : Signature}
    (found : find? line = some signature) :
    signature.parameters.Nodup ∧ ∀ name ∈ signature.parameters, IsPiece name.toList := by
  unfold find? at found
  split at found
  · cases found
  · obtain rfl := Option.some.inj found
    constructor
    · exact distinctFrom_nodup _ _
    · intro name member
      exact isPiece_of_mem_parameterNames (fun c inside => List.mem_takeWhile_imp inside)
        (mem_distinctFrom_iff.mp member).1

end ExampleProbes.Signature
