import Mathlib.Data.List.Nodup
import ExampleProbes.Source.Signature
import ExampleProbes.Proofs.Markup.Grammar

/-!
A signature written as an identifier and its parameters between parentheses is found again
from its line. Spaces are dropped from the run of parameters first, so what is cut at the
commas are the names themselves.
-/
namespace ExampleProbes.Signature

/-- The parameters with a comma and a space between them. -/
def parameterText (parameters : List (List Char)) : List Char :=
  List.intercalate [',', ' '] parameters

def text (identifier : String) (parameters : List String) : List Char :=
  identifier.toList ++ '(' :: (parameterText (parameters.map String.toList) ++ [')'])

/-- A name that stands between commas as one piece. -/
structure IsPiece (name : List Char) : Prop where
  someChar : name ≠ []
  chars : ∀ c ∈ name, isNameChar c ∨ c = '-'

theorem IsPiece.plain {name : List Char} (piece : IsPiece name) {c : Char} (member : c ∈ name) :
    c ≠ ',' ∧ c ≠ ' ' := by
  rcases piece.chars c member with letter | rfl
  · constructor
    · rintro rfl
      revert letter
      decide
    · rintro rfl
      revert letter
      decide
  · decide

theorem IsPiece.filter {name : List Char} (piece : IsPiece name) :
    name.filter (· != ' ') = name := by
  rw [List.filter_eq_self]
  intro c member
  simpa using (piece.plain member).2

theorem piecesFrom_append {name : List Char} (plain : ∀ c ∈ name, c ≠ ',') (piece rest : List Char) :
    piecesFrom piece (name ++ rest) = piecesFrom (name.reverse ++ piece) rest := by
  induction name generalizing piece with
  | nil => rfl
  | cons c name ih =>
    have different : c ≠ ',' := plain c (by simp)
    have later := ih (fun d member => plain d (List.mem_cons_of_mem c member)) (c :: piece)
    simp [piecesFrom, different, later]

theorem piecesFrom_parameterText {first : List Char} {others : List (List Char)}
    (pieces : ∀ name ∈ first :: others, IsPiece name) :
    piecesFrom [] ((parameterText (first :: others)).filter (· != ' ')) = first :: others := by
  induction others generalizing first with
  | nil =>
    have piece := pieces first (by simp)
    have step := piecesFrom_append (fun c member => (piece.plain member).1) [] []
    simpa [parameterText, piece.filter, piecesFrom] using step
  | cons second others ih =>
    have piece := pieces first (by simp)
    have later := ih fun name member => pieces name (List.mem_cons_of_mem first member)
    have split : (parameterText (first :: second :: others)).filter (· != ' ') =
        first ++ ',' :: (parameterText (second :: others)).filter (· != ' ') := by
      simp [parameterText, List.intercalate_cons_cons, piece.filter]
    rw [split, piecesFrom_append fun c member => (piece.plain member).1]
    simp [piecesFrom, later]

theorem parameterNames_parameterText {parameters : List String}
    (pieces : ∀ name ∈ parameters, IsPiece name.toList) :
    parameterNames (parameterText (parameters.map String.toList)) = parameters := by
  cases parameters with
  | nil => rfl
  | cons first others =>
    have all : ∀ name ∈ first.toList :: others.map String.toList, IsPiece name := by
      intro name member
      obtain ⟨parameter, given, rfl⟩ := List.mem_map.mp (List.map_cons ▸ member)
      exact pieces parameter given
    have kept : (first.toList :: others.map String.toList).filter (!·.isEmpty) =
        first.toList :: others.map String.toList := by
      rw [List.filter_eq_self]
      intro name member
      simpa using (all name member).someChar
    rw [parameterNames, List.map_cons, piecesFrom_parameterText all, kept]
    simp [Function.comp_def]

theorem isParameterChar_of_mem {parameters : List (List Char)}
    (pieces : ∀ name ∈ parameters, IsPiece name) {c : Char} (member : c ∈ parameterText parameters) :
    isParameterChar c := by
  have inPiece : ∀ name ∈ parameters, c ∈ name → isParameterChar c := by
    intro name given inside
    rcases (pieces name given).chars c inside with letter | rfl
    · simp [isParameterChar, letter]
    · decide
  induction parameters with
  | nil => simp [parameterText] at member
  | cons first others ih =>
    cases others with
    | nil => exact inPiece first (by simp) (by simpa [parameterText] using member)
    | cons second others =>
      simp only [parameterText, List.intercalate_cons_cons, List.append_assoc, List.mem_append,
        List.mem_cons, List.not_mem_nil, or_false] at member
      rcases member with inside | (rfl | rfl) | later
      · exact inPiece first (by simp) inside
      · decide
      · decide
      · exact ih (fun name given => pieces name (List.mem_cons_of_mem first given)) later
          fun name given => inPiece name (List.mem_cons_of_mem first given)

theorem distinctFrom_of_nodup {seen names : List String} (apart : names.Nodup)
    (fresh : ∀ name ∈ names, name ∉ seen) : distinctFrom seen names = names := by
  induction names generalizing seen with
  | nil => rfl
  | cons name rest ih =>
    obtain ⟨single, others⟩ := List.nodup_cons.mp apart
    have later : distinctFrom (name :: seen) rest = rest := by
      apply ih others
      intro other member known
      rcases List.mem_cons.mp known with rfl | earlier
      · exact single member
      · exact fresh other (List.mem_cons_of_mem name member) earlier
    simp [distinctFrom, fresh name (by simp), later]

/-- A written signature is the signature found on its line. -/
theorem find?_text {identifier : String} {parameters : List String}
    (word : ∀ c ∈ identifier.toList, isNameChar c)
    (pieces : ∀ name ∈ parameters, IsPiece name.toList) (apart : parameters.Nodup) :
    find? (text identifier parameters) = some ⟨identifier, parameters⟩ := by
  have before : ∀ c ∈ identifier.toList, (c != '(') = true := by
    intro c member
    have letter := word c member
    simp only [bne_iff_ne]
    rintro rfl
    revert letter
    decide
  have stop : ∀ c ∈ ('(' :: (parameterText (parameters.map String.toList) ++ [')'])).head?,
      ¬ (c != '(') = true := by simp
  have run : (parameterText (parameters.map String.toList) ++ [')']).takeWhile isParameterChar =
      parameterText (parameters.map String.toList) := by
    apply takeWhile_append_of_stop
    · intro c member
      apply isParameterChar_of_mem _ member
      intro name given
      obtain ⟨parameter, inside, rfl⟩ := List.mem_map.mp given
      exact pieces parameter inside
    · intro c first
      obtain rfl : ')' = c := by simpa using first
      decide
  have trailing : trailingName identifier.toList = identifier.toList := by
    rw [trailingName, List.takeWhile_eq_self_iff.mpr fun c member =>
      word c (List.mem_reverse.mp member), List.reverse_reverse]
  have all : distinct parameters = parameters :=
    distinctFrom_of_nodup apart fun _ _ => List.not_mem_nil
  simp [find?, text, dropWhile_append_of_stop before stop, takeWhile_append_of_stop before stop,
    run, trailing, parameterNames_parameterText pieces, of, all]

end ExampleProbes.Signature
