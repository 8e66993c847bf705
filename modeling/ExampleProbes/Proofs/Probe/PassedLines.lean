import Mathlib.Data.List.Forall2
import ExampleProbes.Proofs.Probe.Concatenation
import ExampleProbes.Proofs.Probe.Triggers

/-!
The lines of a document that reading passes: all, or those before the line at which it halts.
Each of them declares what it declares for itself, by its own text and the lines after it, and
what is found are the examples and the probes that the passed lines declare, in their order.
-/
namespace ExampleProbes

def Finding.example? : Finding → Option Example
  | .example e => some e
  | _ => none

def Finding.probe? : Finding → Option Probe
  | .probe p => some p
  | _ => none

namespace Annotations

/-- What is made of just the members that are kept stands for them, in their order. -/
theorem forall₂_filter_filterMap {α β : Type} {R : α → β → Prop} {keep : α → Bool}
    {f : α → Option β} {xs : List α} (made : ∀ x ∈ xs, keep x = (f x).isSome)
    (related : ∀ x ∈ xs, ∀ y ∈ f x, R x y) :
    List.Forall₂ R (xs.filter keep) (xs.filterMap f) := by
  induction xs with
  | nil => exact .nil
  | cons x xs ih =>
    rw [List.forall_mem_cons] at made related
    have later := ih made.2 related.2
    cases value : f x with
    | none =>
      rw [List.filter_cons_of_neg (by simp [made.1, value]), List.filterMap_cons_none value]
      exact later
    | some y =>
      rw [List.filter_cons_of_pos (by simp [made.1, value]), List.filterMap_cons_some value]
      exact .cons (related.1 y value) later

theorem exists_of_forall₂ {α β : Type} {R : α → β → Prop} {xs : List α} {ys : List β}
    (related : List.Forall₂ R xs ys) {x : α} (member : x ∈ xs) : ∃ y, R x y := by
  induction related with
  | nil => cases member
  | cons first _ ih =>
    rcases List.mem_cons.mp member with rfl | later
    · exact ⟨_, first⟩
    · exact ih later

theorem add_examples (found : Finding) (later : Annotations) :
    (add found later).examples = found.example?.toList ++ later.examples := by
  cases found <;> rfl

theorem add_probes (found : Finding) (later : Annotations) :
    (add found later).probes = found.probe?.toList ++ later.probes := by
  cases found <;> rfl

section Document
variable (document : Document)

def exampleAt (n : Nat) : Bool := (document.line? n).any Marker.example.isOn

/-- What line `n` declares for itself, whether or not it is read. -/
def answerAt (n : Nat) : Option (Except Stop Finding) :=
  (document.line? n).map fun line =>
    finding document.uri document.languageId n line (document.lines.drop n)

def findingAt (n : Nat) : Option Finding :=
  match answerAt document n with
  | some (.ok found) => some found
  | _ => none

/-- Whether line `n` stands before the line of the halt, if there is one. -/
def passes (halt : Option Halt) (n : Nat) : Bool := halt.all fun stop => n < stop.line

/-- The lines after line `k` that are passed. -/
def passedFrom (k : Nat) (halt : Option Halt) : List Nat :=
  (List.range' (k + 1) (document.lines.length - k)).filter (passes halt)

/-- What is found in the lines after line `k`. -/
structure ReadFrom (k : Nat) (found : Annotations) : Prop where
  examples : found.examples =
    (passedFrom document k found.halt).filterMap fun n => (findingAt document n).bind (·.example?)
  probes : found.probes =
    (passedFrom document k found.halt).filterMap fun n => (findingAt document n).bind (·.probe?)
  answered : ∀ n ∈ passedFrom document k found.halt, (findingAt document n).isSome
  halted : ∀ halt ∈ found.halt,
    k < halt.line ∧ answerAt document halt.line = some (.error (.halt halt))

end Document

variable {document : Document} {k : Nat}

theorem exampleAt_iff {n : Nat} : exampleAt document n = true ↔
    ∃ line, document.line? n = some line ∧ Marker.example.isOn line = true := by
  rw [exampleAt, Option.any_eq_true]

theorem bounds_of_line? {n : Nat} {line : List Char} (here : document.line? n = some line) :
    1 ≤ n ∧ n ≤ document.lines.length := by
  cases n with
  | zero => cases here
  | succ m =>
    have inside := (List.getElem?_eq_some_iff.mp here).1
    omega

section Dropped
variable {line : List Char} {rest : List (List Char)}

theorem line?_of_drop (here : document.lines.drop k = line :: rest) :
    document.line? (k + 1) = some line := by
  simpa [Document.line?] using congrArg List.head? here

theorem drop_of_drop (here : document.lines.drop k = line :: rest) :
    document.lines.drop (k + 1) = rest := by
  rw [← List.tail_drop, here]
  rfl

theorem lt_of_drop (here : document.lines.drop k = line :: rest) :
    k + rest.length < document.lines.length := by
  have count := congrArg List.length here
  simp only [List.length_drop, List.length_cons] at count
  omega

theorem answerAt_of_drop (here : document.lines.drop k = line :: rest) :
    answerAt document (k + 1) =
      some (finding document.uri document.languageId (k + 1) line rest) := by
  rw [answerAt, line?_of_drop here, Option.map_some, drop_of_drop here]

end Dropped

theorem passedFrom_sorted (k : Nat) (halt : Option Halt) :
    (passedFrom document k halt).Pairwise (· < ·) := by
  have all : (List.range' (k + 1) (document.lines.length - k)).Pairwise (· < ·) :=
    List.pairwise_lt_range'
  exact all.filter _

theorem mem_passedFrom_iff {halt : Option Halt} {n : Nat} :
    n ∈ passedFrom document 0 halt ↔
      1 ≤ n ∧ n ≤ document.lines.length ∧ passes halt n = true := by
  have last : n < 0 + 1 + (document.lines.length - 0) ↔ n ≤ document.lines.length := by omega
  rw [passedFrom, List.mem_filter, List.mem_range'_1, last, and_assoc]

theorem declaration_of_findingAt {n : Nat} {found : Finding}
    (answered : findingAt document n = some found) :
    ∃ line, document.line? n = some line ∧
      Declaration document.uri document.languageId n line (document.lines.drop n) found := by
  unfold findingAt answerAt at answered
  cases here : document.line? n with
  | none => simp [here] at answered
  | some line =>
    rw [here, Option.map_some] at answered
    cases outcome : finding document.uri document.languageId n line (document.lines.drop n) with
    | error stop => simp [outcome] at answered
    | ok other =>
      obtain rfl : other = found := by simpa [outcome] using answered
      exact ⟨line, rfl, declaration_of_finding outcome⟩

/-- Every line that is passed has been read. -/
theorem ReadFrom.declared {found : Annotations} (read : ReadFrom document 0 found) {n : Nat}
    {line : List Char} (here : document.line? n = some line)
    (passed : passes found.halt n = true) :
    ∃ own, findingAt document n = some own ∧
      Declaration document.uri document.languageId n line (document.lines.drop n) own := by
  obtain ⟨first, last⟩ := bounds_of_line? here
  have answered := read.answered n (mem_passedFrom_iff.mpr ⟨first, last, passed⟩)
  obtain ⟨own, answer⟩ := Option.isSome_iff_exists.mp answered
  obtain ⟨other, there, declared⟩ := declaration_of_findingAt answer
  rw [here] at there
  obtain rfl := Option.some.inj there
  exact ⟨own, answer, declared⟩

theorem readFrom_nil (behind : document.lines.drop k = []) : ReadFrom document k {} := by
  have none : document.lines.length - k = 0 := by simpa using congrArg List.length behind
  have empty : ∀ halt, passedFrom document k halt = [] := by
    intro halt
    simp [passedFrom, none]
  constructor <;> simp [empty]

theorem readFrom_halt {halt : Halt} (own : halt.line = k + 1)
    (answer : answerAt document (k + 1) = some (.error (.halt halt))) :
    ReadFrom document k { halt := some halt } := by
  have empty : passedFrom document k (some halt) = [] := by
    rw [passedFrom, List.filter_eq_nil_iff]
    intro n member
    have after := (List.mem_range'_1.mp member).1
    simp only [passes, Option.all_some, decide_eq_true_eq, own]
    omega
  constructor
  · simp [empty]
  · simp [empty]
  · simp [empty]
  · intro stop same
    obtain rfl : halt = stop := by simpa using same
    rw [own]
    exact ⟨Nat.lt_succ_self k, answer⟩

theorem readFrom_add {found : Finding} {later : Annotations} (inside : k < document.lines.length)
    (answer : answerAt document (k + 1) = some (.ok found))
    (read : ReadFrom document (k + 1) later) : ReadFrom document k (add found later) := by
  have own : findingAt document (k + 1) = some found := by simp [findingAt, answer]
  have passed : passedFrom document k (add found later).halt =
      (k + 1) :: passedFrom document (k + 1) later.halt := by
    have count : document.lines.length - k = (document.lines.length - (k + 1)) + 1 := by omega
    have first : passes later.halt (k + 1) := by
      cases stop : later.halt with
      | none => rfl
      | some halt => simpa [passes] using (read.halted halt stop).1
    rw [add_halt, passedFrom, count, List.range'_succ, List.filter_cons_of_pos first]
    rfl
  constructor
  · rw [passed, add_examples, read.examples, List.filterMap_cons, own]
    cases found <;> rfl
  · rw [passed, add_probes, read.probes, List.filterMap_cons, own]
    cases found <;> rfl
  · rw [passed]
    exact List.forall_mem_cons.mpr ⟨by simp [own], read.answered⟩
  · rw [add_halt]
    intro halt stop
    obtain ⟨behind, answered⟩ := read.halted halt stop
    exact ⟨by omega, answered⟩

/-- Reading from line `k + 1` on finds what the lines that it passes declare. -/
theorem readFrom_ofLinesFrom (numbered : document.lines.length ≤ maxLine)
    (lines : List (List Char)) (rest : document.lines.drop k = lines) :
    ReadFrom document k (ofLinesFrom document.uri document.languageId (k + 1) lines) := by
  induction lines generalizing k with
  | nil => exact readFrom_nil rest
  | cons line more ih =>
    have inside := lt_of_drop rest
    have answer := answerAt_of_drop rest
    unfold ofLinesFrom
    cases outcome : finding document.uri document.languageId (k + 1) line more with
    | error stop =>
      obtain ⟨halt, rfl, own⟩ := finding_haltsAt (Nat.le_add_left 1 k) _ _ _ _ stop outcome
      rw [outcome] at answer
      exact readFrom_halt own answer
    | ok found =>
      rw [outcome] at answer
      refine readFrom_add (by omega) answer ?_
      have later := drop_of_drop rest
      cases more with
      | nil => exact readFrom_nil later
      | cons next others =>
        -- Another line follows, so that the number of this one is not the largest.
        simp only [List.length_cons] at inside
        rw [nextLine_of_lt (by omega)]
        exact ih later

theorem ofDocument_read (numbered : document.lines.length ≤ maxLine) :
    ReadFrom document 0 (ofDocument document) :=
  readFrom_ofLinesFrom numbered document.lines rfl

end Annotations
end ExampleProbes
