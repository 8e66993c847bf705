import Mathlib.Data.List.Infix
import ExampleProbes.Proofs.Source.FoundSignature

/-!
Signatures as matches of a pattern. A pattern is matched as far to the left as it can be, and
there each of its runs takes as much as lets the rest of the pattern match. For the pattern of a
signature that place is the name in front of the first opening parenthesis, although the name
may be empty and a match could be tried anywhere.
-/
namespace ExampleProbes

/-- One character of a class, or a captured run of characters of a class. -/
inductive PatternPart where
  | one (takes : Char → Bool)
  | run (takes : Char → Bool)

namespace PatternPart

/-- The ways to take a run from the start of a text, with what is left: the longest first. -/
def splits (takes : Char → Bool) : List Char → List (List Char × List Char)
  | [] => [([], [])]
  | c :: rest =>
    (if takes c then (splits takes rest).map fun (taken, left) => (c :: taken, left) else []) ++
      [([], c :: rest)]

/-- The captures of all matches at the start of a text, in the order in which they are tried. -/
def matchesAt : List PatternPart → List Char → List (List (List Char))
  | [], _ => [[]]
  | .one _ :: _, [] => []
  | .one takes :: parts, c :: rest => if takes c then matchesAt parts rest else []
  | .run takes :: parts, text =>
    (splits takes text).flatMap fun (taken, left) => (matchesAt parts left).map (taken :: ·)

/-- The captures of the first match at the leftmost place that has one. -/
def leftmost? (parts : List PatternPart) (text : List Char) : Option (List (List Char)) :=
  text.tails.findSome? fun tail => (matchesAt parts tail).head?

section Splits
variable {takes : Char → Bool} {text : List Char}

theorem append_of_mem_splits {taken left : List Char} (split : (taken, left) ∈ splits takes text) :
    text = taken ++ left ∧ ∀ c ∈ taken, takes c := by
  induction text generalizing taken with
  | nil =>
    obtain ⟨rfl, rfl⟩ : taken = [] ∧ left = [] := by simpa [splits] using split
    simp
  | cons c rest ih =>
    rw [splits, List.mem_append] at split
    rcases split with longer | shortest
    · split at longer
      · rename_i first
        obtain ⟨⟨more, behind⟩, inside, same⟩ := List.mem_map.mp longer
        obtain ⟨rfl, rfl⟩ := Prod.mk.inj same
        obtain ⟨joined, all⟩ := ih inside
        exact ⟨by rw [joined, List.cons_append], List.forall_mem_cons.mpr ⟨first, all⟩⟩
      · cases longer
    · obtain ⟨rfl, rfl⟩ : taken = [] ∧ left = c :: rest := by simpa using shortest
      simp

/-- The longest run is tried first. -/
theorem splits_longest (takes : Char → Bool) (text : List Char) :
    ∃ shorter, splits takes text = (text.takeWhile takes, text.dropWhile takes) :: shorter := by
  induction text with
  | nil => exact ⟨[], rfl⟩
  | cons c rest ih =>
    obtain ⟨shorter, same⟩ := ih
    by_cases first : takes c
    · simp [splits, first, same]
    · simp [splits, first]

/-- Where the rest of a pattern matches behind the longest run, that run is taken. -/
theorem head?_matchesAt_run_cons {parts : List PatternPart} {captures : List (List Char)}
    (rest : (matchesAt parts (text.dropWhile takes)).head? = some captures) :
    (matchesAt (.run takes :: parts) text).head? = some (text.takeWhile takes :: captures) := by
  obtain ⟨shorter, longest⟩ := splits_longest takes text
  rw [matchesAt, longest, List.flatMap_cons]
  simp [rest]

theorem head?_matchesAt_run (takes : Char → Bool) (text : List Char) :
    (matchesAt [.run takes] text).head? = some [text.takeWhile takes] := by
  exact head?_matchesAt_run_cons rfl

end Splits

end PatternPart

namespace Signature
open PatternPart

/-- A name, an opening parenthesis and a run of parameters. -/
def pattern : List PatternPart := [.run isNameChar, .one (· == '('), .run isParameterChar]

/-- At the start of a text the pattern matches just if the name there ends at a parenthesis. -/
theorem head?_matchesAt_pattern (text : List Char) :
    (matchesAt pattern text).head? =
      match text.dropWhile isNameChar with
      | '(' :: after => some [text.takeWhile isNameChar, after.takeWhile isParameterChar]
      | _ => none := by
  split
  · rename_i after ends
    apply head?_matchesAt_run_cons
    rw [ends]
    exact head?_matchesAt_run isParameterChar after
  · rename_i other
    -- Behind any run of the name a parenthesis would have to follow.
    have blocked : matchesAt pattern text = [] := by
      rw [pattern, matchesAt, List.flatMap_eq_nil_iff]
      rintro ⟨taken, left⟩ split
      obtain ⟨rfl, word⟩ := append_of_mem_splits split
      cases left with
      | nil => rfl
      | cons c rest =>
        have unopened : c ≠ '(' := by
          rintro rfl
          have stop : isNameChar '(' = false := by decide
          apply other rest
          rw [List.dropWhile_append_of_pos word]
          simp [stop]
        simp [matchesAt, unopened]
    rw [blocked]
    rfl

/-- A line around its first opening parenthesis: the longest name that ends in front of it and
    the longest run of parameters behind it. -/
structure FirstOpening (line before name run after : List Char) : Prop where
  split : line = before ++ name ++ '(' :: (run ++ after)
  first : '(' ∉ before ++ name
  word : ∀ c ∈ name, isNameChar c
  nameLongest : ∀ c ∈ before.getLast?, ¬ isNameChar c
  chars : ∀ c ∈ run, isParameterChar c
  runLongest : ∀ c ∈ after.head?, ¬ isParameterChar c

theorem exists_firstOpening {line : List Char} (opens : '(' ∈ line) :
    ∃ before name run after, FirstOpening line before name run after := by
  obtain ⟨front, behind, rfl, first⟩ := List.eq_append_cons_of_mem opens
  have joined : (front.reverse.dropWhile isNameChar).reverse ++ trailingName front = front := by
    rw [trailingName, ← List.reverse_append, List.takeWhile_append_dropWhile, List.reverse_reverse]
  refine ⟨(front.reverse.dropWhile isNameChar).reverse, trailingName front,
    behind.takeWhile isParameterChar, behind.dropWhile isParameterChar, ?_, ?_, ?_, ?_, ?_, ?_⟩
  · rw [joined, List.takeWhile_append_dropWhile]
  · rwa [joined]
  · intro c member
    exact List.mem_takeWhile_imp (List.mem_reverse.mp member)
  · intro c last
    rw [List.getLast?_reverse] at last
    simpa [Option.mem_def.mp last] using List.head?_dropWhile_not isNameChar front.reverse
  · intro c member
    exact List.mem_takeWhile_imp member
  · intro c first
    simpa [Option.mem_def.mp first] using List.head?_dropWhile_not isParameterChar behind

theorem head?_matchesAt_pattern_of_blocked {text : List Char}
    (blocked : '(' ∉ (text.dropWhile isNameChar).head?) :
    (matchesAt pattern text).head? = none := by
  rw [head?_matchesAt_pattern]
  split
  · rename_i after ends
    simp [ends] at blocked
  · rfl

theorem leftmost?_cons_of_blocked {c : Char} {rest : List Char}
    (blocked : '(' ∉ ((c :: rest).dropWhile isNameChar).head?) :
    leftmost? pattern (c :: rest) = leftmost? pattern rest := by
  rw [leftmost?, List.tails, List.findSome?_cons, head?_matchesAt_pattern_of_blocked blocked]
  rfl

theorem leftmost?_of_matchesAt {parts : List PatternPart} {text : List Char}
    {captures : List (List Char)} (here : (matchesAt parts text).head? = some captures) :
    leftmost? parts text = some captures := by
  cases text <;> simp [leftmost?, here]

/-- A name that begins in a text without a parenthesis, and ends there, meets none. -/
theorem blocked_append {before rest : List Char} (filled : before ≠ []) (first : '(' ∉ before)
    (nameLongest : ∀ c ∈ before.getLast?, ¬ isNameChar c) :
    '(' ∉ ((before ++ rest).dropWhile isNameChar).head? := by
  cases ends : before.dropWhile isNameChar with
  | nil =>
    have all := List.dropWhile_eq_nil_iff.mp ends _ (List.getLast_mem filled)
    exact absurd all (nameLongest _ (List.getLast?_eq_some_getLast filled))
  | cons c more =>
    have inside : c ∈ before := (List.dropWhile_suffix isNameChar).mem (by simp [ends])
    have unopened : c ≠ '(' := fun same => first (same ▸ inside)
    simpa [List.dropWhile_append, ends] using unopened

theorem leftmost?_pattern_of_firstOpening {line before name run after : List Char}
    (opening : FirstOpening line before name run after) :
    leftmost? pattern line = some [name, run] := by
  obtain ⟨rfl, first, word, nameLongest, chars, runLongest⟩ := opening
  induction before with
  | nil =>
    have stop : ∀ c ∈ ('(' :: (run ++ after)).head?, ¬ isNameChar c := by simp; decide
    apply leftmost?_of_matchesAt
    rw [head?_matchesAt_pattern]
    simp only [List.nil_append, dropWhile_append_of_stop word stop,
      takeWhile_append_of_stop word stop, takeWhile_append_of_stop chars runLongest]
  | cons c before ih =>
    have later : ∀ d ∈ before.getLast?, ¬ isNameChar d := by
      intro d last
      exact nameLongest d (by simp [List.getLast?_cons, Option.mem_def.mp last])
    rw [List.append_assoc, List.cons_append, leftmost?_cons_of_blocked, ← List.append_assoc]
    · exact ih (fun member => first (List.mem_cons_of_mem c member)) later
    · rw [← List.cons_append]
      apply blocked_append (List.cons_ne_nil c before) _ nameLongest
      exact fun member => first (List.mem_append_left name member)

theorem leftmost?_pattern_of_unopened {line : List Char} (unopened : '(' ∉ line) :
    leftmost? pattern line = none := by
  rw [leftmost?, List.findSome?_eq_none_iff]
  intro tail member
  apply head?_matchesAt_pattern_of_blocked
  intro opens
  have inside := (List.dropWhile_suffix isNameChar).mem (List.mem_of_head? opens)
  exact unopened (((List.mem_tails _ _).mp member).mem inside)

/-- The names in a run of parameters: the pieces between commas without their spaces, each once,
    at its first place. -/
def namesIn (run : List Char) : List String :=
  ((((run.filter (· != ' ')).splitOn ',').filter (!·.isEmpty)).map String.ofList).eraseDups

theorem piecesFrom_eq_splitOnPPrepend (piece text : List Char) :
    piecesFrom piece text = text.splitOnPPrepend (· == ',') piece := by
  induction text generalizing piece with
  | nil => rfl
  | cons c rest ih => simp [piecesFrom, List.splitOnPPrepend, ih]

theorem distinctFrom_eq_eraseDups (seen names : List String) :
    distinctFrom seen names = (names.filter (· ∉ seen)).eraseDups := by
  induction names generalizing seen with
  | nil => rfl
  | cons name rest ih =>
    rw [distinctFrom]
    by_cases known : name ∈ seen
    · simp [known, ih]
    · have later : rest.filter (· ∉ name :: seen) =
          (rest.filter (· ∉ seen)).filter (!· == name) := by
        rw [List.filter_filter]
        congr 1
        funext other
        by_cases same : other = name <;> simp [same]
      rw [List.filter_cons_of_pos (by simpa using known), List.eraseDups_cons, ← later, ← ih]
      simp [known]

theorem distinct_parameterNames (run : List Char) :
    distinct (parameterNames run) = namesIn run := by
  have pieces : piecesFrom [] (run.filter (· != ' ')) = (run.filter (· != ' ')).splitOn ',' :=
    piecesFrom_eq_splitOnPPrepend [] _
  have all : (parameterNames run).filter (· ∉ []) = parameterNames run :=
    List.filter_eq_self.mpr (by simp)
  rw [distinct, distinctFrom_eq_eraseDups, all, parameterNames, pieces, namesIn]

theorem find?_of_firstOpening {line before name run after : List Char}
    (opening : FirstOpening line before name run after) :
    find? line = some ⟨String.ofList name, namesIn run⟩ := by
  obtain ⟨rfl, first, word, nameLongest, chars, runLongest⟩ := opening
  have front : ∀ c ∈ before ++ name, (c != '(') = true := by
    intro c member
    simpa using fun same : c = '(' => first (same ▸ member)
  have stop : ∀ c ∈ ('(' :: (run ++ after)).head?, ¬ (c != '(') = true := by simp
  have trailing : trailingName (before ++ name) = name := by
    have letters : ∀ c ∈ name.reverse, isNameChar c := by simpa using word
    rw [trailingName, List.reverse_append, takeWhile_append_of_stop letters, List.reverse_reverse]
    rwa [List.head?_reverse]
  rw [find?, dropWhile_append_of_stop front stop, takeWhile_append_of_stop front stop]
  simp only [trailing, takeWhile_append_of_stop chars runLongest, of, distinct_parameterNames]

/-- A line has a signature just if it has an opening parenthesis, and then it is the one around
    the first of them: the longest name in front of it, and the names in the longest run of
    parameters behind it. That name and that run are what the leftmost match of the pattern
    captures, where any run takes as much as it can. No parameter is given twice, and none is
    empty or holds a space, a comma or a colon. -/
theorem find?_at_first_opening (line : List Char) :
    (find? line = none ↔ '(' ∉ line) ∧
    (leftmost? pattern line = none ↔ '(' ∉ line) ∧
    ('(' ∈ line → ∃ before name run after, FirstOpening line before name run after) ∧
    (∀ before name run after, FirstOpening line before name run after →
      leftmost? pattern line = some [name, run] ∧
        find? line = some ⟨String.ofList name, namesIn run⟩) ∧
    (∀ signature, find? line = some signature →
      signature.parameters.Nodup ∧
        ∀ parameter ∈ signature.parameters, parameter ≠ "" ∧
          ∀ c ∈ parameter.toList, c ≠ ' ' ∧ c ≠ ',' ∧ c ≠ ':') := by
  refine ⟨find?_eq_none_iff, ?_, exists_firstOpening, ?_, ?_⟩
  · constructor
    · intro unmatched opens
      obtain ⟨before, name, run, after, opening⟩ := exists_firstOpening opens
      rw [leftmost?_pattern_of_firstOpening opening] at unmatched
      cases unmatched
    · exact leftmost?_pattern_of_unopened
  · intro before name run after opening
    exact ⟨leftmost?_pattern_of_firstOpening opening, find?_of_firstOpening opening⟩
  · intro signature found
    obtain ⟨apart, pieces⟩ := parameters_of_find? found
    refine ⟨apart, ?_⟩
    intro parameter member
    have piece := pieces parameter member
    refine ⟨?_, ?_⟩
    · rintro rfl
      exact piece.someChar rfl
    · intro c inside
      obtain ⟨notComma, notSpace⟩ := piece.plain inside
      refine ⟨notSpace, notComma, ?_⟩
      rintro rfl
      have letter := piece.chars ':' inside
      revert letter
      decide

/-- The first parenthesis counts, although no name stands in front of it. -/
theorem find?_at_unnamed_opening :
    let line := "a = (b, c-d,, b) => f(x)".toList
    '(' ∈ line ∧
      FirstOpening line "a = ".toList [] "b, c-d,, b".toList ") => f(x)".toList ∧
      leftmost? pattern line = some [[], "b, c-d,, b".toList] ∧
      find? line = some ⟨"", ["b", "c-d"]⟩ ∧ ["b", "c-d"].Nodup := by
  intro line
  have opening : FirstOpening line "a = ".toList [] "b, c-d,, b".toList ") => f(x)".toList := by
    constructor
    · rfl
    · decide
    · rintro c ⟨⟩
    · rintro c ⟨⟩
      decide
    · exact List.all_eq_true.mp (by decide)
    · rintro c ⟨⟩
      decide
  obtain ⟨_, _, _, found, apart⟩ := find?_at_first_opening line
  obtain ⟨matched, signature⟩ := found _ _ _ _ opening
  have names : namesIn "b, c-d,, b".toList = ["b", "c-d"] := by
    rw [← distinct_parameterNames]
    decide
  rw [names] at signature
  exact ⟨by decide, opening, matched, signature, (apart _ signature).1⟩

end Signature
end ExampleProbes
