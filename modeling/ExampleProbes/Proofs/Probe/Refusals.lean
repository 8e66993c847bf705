import ExampleProbes.Guest.Script
import ExampleProbes.Proofs.Attempts

/-!
What the record of a value holds, by what the value answers. The questions of a record stand in
one order; the first answer that refuses decides what the record says, and nothing of the other
answers is left in it but the display text. Where no answer refuses, every part is there.
-/
namespace ExampleProbes

namespace Value
section Answers
variable {α β : Type}

/-- What an answer says where it refuses. -/
def refusal : Except Fault α → List Fault
  | .ok _ => []
  | .error fault => [fault]

theorem refusal_take (answer : Except Fault α) : refusal answer = (refusal answer).take 1 := by
  cases answer <;> rfl

/-- Of two answers that are asked for one after the other, the first that refuses is told. -/
theorem refusal_bind {answer : Except Fault α} {next : α → Except Fault β}
    {own later : List Fault} (first : refusal answer = own.take 1)
    (rest : ∀ a, answer = .ok a → refusal (next a) = later.take 1) :
    refusal (answer >>= next) = (own ++ later).take 1 := by
  cases answer with
  | error fault =>
    cases own with
    | nil => simp [refusal] at first
    | cons other own =>
      obtain rfl : fault = other := by simpa [refusal] using first
      rfl
  | ok a =>
    cases own with
    | nil => exact rest a rfl
    | cons other own => simp [refusal] at first

theorem refusal_map (f : α → β) (answer : Except Fault α) :
    refusal (f <$> answer) = refusal answer := by
  cases answer <;> rfl

theorem refusal_mapM (f : α → Except Fault β) (asked : List α) :
    refusal (asked.mapM f) = (asked.flatMap (refusal ∘ f)).take 1 := by
  induction asked with
  | nil => rfl
  | cons first rest ih =>
    rw [List.mapM_cons, List.flatMap_cons]
    apply refusal_bind (refusal_take (f first))
    intro b _
    calc refusal (rest.mapM f >>= fun more => pure (b :: more))
      _ = refusal ((b :: ·) <$> rest.mapM f) := by rw [map_eq_pure_bind]
      _ = (rest.flatMap (refusal ∘ f)).take 1 := by rw [refusal_map, ih]

end Answers

/-- The members that are listed and may be read. -/
def readable (value : Value) : List String :=
  match value.memberNames with
  | .ok (some names) => names.filter value.isReadable
  | _ => []

def items (value : Value) : List Value :=
  match value.elements with
  | .ok (some values) => values
  | _ => []

def memberText (value : Value) (name : String) : Except Fault String :=
  value.member name >>= display

/-- The refusals among the answers to all questions of a record, in the order of the questions. -/
def refusals (value : Value) : List Fault :=
  refusal value.display ++ (refusal value.typeName ++
    ((refusal value.memberNames ++ value.readable.flatMap (refusal ∘ value.memberText)) ++
      (refusal value.elements ++ value.items.flatMap (refusal ∘ display))))

theorem mem_traits_iff {value : Value} {trait : Trait} :
    trait ∈ value.traits ↔ value.has trait := by
  simp [traits, Trait.mem_all]

theorem traits_ordered (value : Value) :
    value.traits.Pairwise fun earlier later => earlier.ctorIdx < later.ctorIdx := by
  have all : Trait.all.Pairwise fun earlier later => earlier.ctorIdx < later.ctorIdx := by decide
  exact all.filter value.has

end Value

namespace Observation
open Value

theorem readDisplays_eq_mapM (values : List Value) :
    readDisplays values = values.mapM Value.display := by
  induction values with
  | nil => rfl
  | cons value rest ih => rw [readDisplays, List.mapM_cons, ih]

theorem readMembers_eq_mapM (value : Value) (names : List String) :
    readMembers value names =
      (names.filter value.isReadable).mapM fun name => (name, ·) <$> value.memberText name := by
  induction names with
  | nil => rfl
  | cons name rest ih =>
    rw [readMembers]
    by_cases may : value.isReadable name
    · rw [if_pos may, List.filter_cons_of_pos may, List.mapM_cons, ih, memberText]
      simp only [map_eq_pure_bind, bind_assoc, pure_bind]
    · rw [if_neg may, List.filter_cons_of_neg may, ih]

theorem refusal_membersOf (value : Value) :
    refusal (membersOf value) =
      (refusal value.memberNames ++
        value.readable.flatMap (refusal ∘ value.memberText)).take 1 := by
  apply refusal_bind (refusal_take value.memberNames)
  intro names? listed
  cases names? with
  | none => simp [readable, listed, refusal, pure, Except.pure]
  | some names =>
    have told : (refusal ∘ fun name => (name, ·) <$> value.memberText name) =
        refusal ∘ value.memberText := by
      funext name
      exact refusal_map _ _
    have read := refusal_mapM (fun name => (name, ·) <$> value.memberText name)
      (names.filter value.isReadable)
    rw [told, ← readMembers_eq_mapM] at read
    simpa [readable, listed, ← map_eq_pure_bind, refusal_map] using read

theorem refusal_elementsOf (value : Value) :
    refusal (elementsOf value) =
      (refusal value.elements ++ value.items.flatMap (refusal ∘ Value.display)).take 1 := by
  apply refusal_bind (refusal_take value.elements)
  intro values? listed
  cases values? with
  | none => simp [items, listed, refusal, pure, Except.pure]
  | some values =>
    have read := refusal_mapM Value.display values
    rw [← readDisplays_eq_mapM] at read
    simpa [items, listed, ← map_eq_pure_bind, refusal_map] using read

theorem refusal_sections (expression display : String) (error : Option String) (value : Value) :
    refusal (sections expression display error value) =
      (refusal value.typeName ++
        ((refusal value.memberNames ++ value.readable.flatMap (refusal ∘ value.memberText)) ++
          (refusal value.elements ++ value.items.flatMap (refusal ∘ Value.display)))).take 1 := by
  apply refusal_bind (refusal_take value.typeName)
  intro typeName _
  apply refusal_bind (refusal_membersOf value)
  intro members _
  rw [← refusal_elementsOf]
  exact (congrArg refusal (map_eq_pure_bind ..).symm).trans (refusal_map _ _)

/-- The name of a member that is shown, and the display text of what reading it gives. -/
def ShowsMember (value : Value) (name : String) (shown : String × String) : Prop :=
  shown.1 = name ∧ value.memberText name = .ok shown.2

/-- Every part of a record is what the value answers. -/
structure Describes (expression : String) (error : Option String) (value : Value)
    (record : Observation) : Prop where
  expression : record.expression = expression
  display : value.display = .ok record.display
  traits : ∀ trait, trait ∈ record.traits ↔ value.has trait
  ordered : record.traits.Pairwise fun earlier later => earlier.ctorIdx < later.ctorIdx
  typeName : value.typeName = .ok record.typeName
  members : ∃ names?, value.memberNames = .ok names? ∧
    Option.Rel (fun names shown => List.Forall₂ (ShowsMember value)
      (names.filter value.isReadable) shown) names? record.members
  elements : ∃ values?, value.elements = .ok values? ∧
    Option.Rel (List.Forall₂ fun element text => element.display = .ok text) values?
      record.elements
  error : record.error = error

theorem members_of_membersOf {value : Value} {members : Option (List (String × String))}
    (read : membersOf value = .ok members) :
    ∃ names?, value.memberNames = .ok names? ∧
      Option.Rel (fun names shown => List.Forall₂ (ShowsMember value)
        (names.filter value.isReadable) shown) names? members := by
  obtain ⟨names?, listed, read⟩ := bind_eq_ok read
  refine ⟨names?, listed, ?_⟩
  cases names? with
  | none =>
    cases read
    exact .none
  | some names =>
    obtain ⟨shown, told, read⟩ := bind_eq_ok read
    cases read
    rw [readMembers_eq_mapM] at told
    refine .some ((forall₂_of_mapM_eq_ok told).imp ?_)
    rintro name pair named
    obtain ⟨text, answered, rfl⟩ := map_eq_ok named
    exact ⟨rfl, answered⟩

theorem elements_of_elementsOf {value : Value} {elements : Option (List String)}
    (read : elementsOf value = .ok elements) :
    ∃ values?, value.elements = .ok values? ∧
      Option.Rel (List.Forall₂ fun element text => element.display = .ok text) values?
        elements := by
  obtain ⟨values?, listed, read⟩ := bind_eq_ok read
  refine ⟨values?, listed, ?_⟩
  cases values? with
  | none =>
    cases read
    exact .none
  | some values =>
    obtain ⟨texts, told, read⟩ := bind_eq_ok read
    cases read
    rw [readDisplays_eq_mapM] at told
    exact .some (forall₂_of_mapM_eq_ok told)

theorem describes_of_sections {expression display : String} {error : Option String}
    {value : Value} {record : Observation} (shown : value.display = .ok display)
    (read : sections expression display error value = .ok record) :
    Describes expression error value record := by
  obtain ⟨typeName, named, read⟩ := bind_eq_ok read
  obtain ⟨members, listed, read⟩ := bind_eq_ok read
  obtain ⟨elements, indexed, read⟩ := bind_eq_ok read
  cases read
  exact {
    expression := rfl
    display := shown
    traits := fun _ => mem_traits_iff
    ordered := traits_ordered value
    typeName := named
    members := members_of_membersOf listed
    elements := elements_of_elementsOf indexed
    error := rfl }

theorem readMembers_of_answers {value : Value} {answers : String → Outcome} {names : List String}
    (agree : ∀ name ∈ names.filter value.isReadable, answers name = value.member name) :
    readMembers { value with member := answers } names = readMembers value names := by
  induction names with
  | nil => rfl
  | cons name rest ih =>
    have others := ih fun other member => agree other (by
      rw [List.mem_filter] at member ⊢
      exact ⟨List.mem_cons_of_mem name member.1, member.2⟩)
    rw [readMembers, readMembers, others]
    by_cases may : value.isReadable name
    · have same : answers name = value.member name := agree name (by simp [may])
      simp only [same]
    · simp only [if_neg may]

section Describe
variable (expression : String) (error : Option String)

/-- The display text comes first; behind it the sections refuse as all questions do. -/
theorem take_refusals_of_shown {value : Value} {display : String}
    (shown : value.display = .ok display) :
    value.refusals.take 1 = refusal (sections expression display error value) := by
  rw [refusal_sections, refusals, shown]
  rfl

theorem describe_of_refusal {value : Value} {fault : Fault}
    (first : value.refusals.head? = some fault) :
    describe expression value error =
      refused expression (value.display.toOption.getD undisplayed) fault.message := by
  obtain ⟨later, all⟩ := List.head?_eq_some_iff.mp first
  unfold describe
  cases shown : value.display with
  | error own =>
    obtain rfl : own = fault := by simpa [refusals, shown, refusal] using first
    rfl
  | ok display =>
    have told := take_refusals_of_shown expression error shown
    cases read : sections expression display error value with
    | error own =>
      obtain rfl : fault = own := by simpa [all, read, refusal] using told
      simp only [read]
      rfl
    | ok record => simp [all, read, refusal] at told

theorem describes_of_no_refusal {value : Value} (answered : value.refusals = []) :
    Describes expression error value (describe expression value error) := by
  unfold describe
  cases shown : value.display with
  | error own => simp [refusals, shown, refusal] at answered
  | ok display =>
    have told := take_refusals_of_shown expression error shown
    cases read : sections expression display error value with
    | error own => simp [answered, read, refusal] at told
    | ok record =>
      simp only [read]
      exact describes_of_sections shown read

/-- Members that are not listed, or may not be read, are not read. -/
theorem describe_of_members {value : Value} {answers : String → Outcome}
    (agree : ∀ name ∈ value.readable, answers name = value.member name) :
    describe expression { value with member := answers } error =
      describe expression value error := by
  have members : membersOf { value with member := answers } = membersOf value := by
    apply bind_congr_of_ok
    intro names? (listed : value.memberNames = .ok names?)
    cases names? with
    | none => rfl
    | some names =>
      have same : readMembers { value with member := answers } names = readMembers value names :=
        readMembers_of_answers (by simpa [readable, listed] using agree)
      exact congrArg (· >>= fun shown => pure (some shown)) same
  unfold describe sections
  rw [members]
  rfl

end Describe

/-- The record of a value is decided by the first refusal among its answers, tried in the order
    display text, type name, member names, the members that may be read one by one, elements and
    their texts. It has then no part but a display text, which is the value's own where that is
    not what was refused, and the message of the refusal. Where nothing is refused the record
    has every part in full and the error given to it. It has the refused form under every error
    just if something is refused, and it never hangs on a member that may not be read. -/
theorem describe_by_refusals (expression : String) (value : Value) (error : Option String) :
    (∀ fault, value.refusals.head? = some fault →
      describe expression value error =
        refused expression (value.display.toOption.getD undisplayed) fault.message) ∧
    (value.refusals = [] →
      Describes expression error value (describe expression value error)) ∧
    ((∃ display message, ∀ given, describe expression value given =
        refused expression display message) ↔ value.refusals ≠ []) ∧
    (∀ answers : String → Outcome,
      (∀ name ∈ value.readable, answers name = value.member name) →
      describe expression { value with member := answers } error =
        describe expression value error) := by
  refine ⟨?_, describes_of_no_refusal expression error, ?_, ?_⟩
  · intro fault first
    exact describe_of_refusal expression error first
  · constructor
    · rintro ⟨display, message, always⟩ answered
      -- With no error given, the record of a value that answers has none.
      have full := (describes_of_no_refusal expression none answered).error
      rw [always] at full
      cases full
    · intro refuses
      obtain ⟨fault, later, all⟩ := List.exists_cons_of_ne_nil refuses
      have first : value.refusals.head? = some fault := by rw [all, List.head?_cons]
      exact ⟨_, _, fun given => describe_of_refusal expression given first⟩
  · intro answers agree
    exact describe_of_members expression error agree

section Ledgers

/-- A value with two members that may be read, between them one that may not and has no answer. -/
def ledger (elements : List Value) : Value :=
  Value.withMembers [⟨"x", some (.ok (.ofText "1")), true⟩, ⟨"secret", none, false⟩,
      ⟨"y", some (.ok (.ofBool true)), true⟩]
    { display := .ok "ledger", has := fun trait => trait == .metaObject || trait == .date,
      elements := .ok (some elements) }

def silent : Value := { display := .error (.unsupportedMessage "toDisplayString") }

theorem describe_of_ledgers :
    let answers : String → Outcome := fun name =>
      if name = "secret" then .ok silent else (ledger []).member name
    (ledger [.ofText "a", silent]).refusals.head? =
        some (.unsupportedMessage "toDisplayString") ∧
      describe "l" (ledger [.ofText "a", silent]) (some "given") =
        refused "l" "ledger" "Unsupported message: toDisplayString" ∧
      (ledger []).refusals = [] ∧
      Describes "l" (some "given") (ledger []) (describe "l" (ledger []) (some "given")) ∧
      (∀ name ∈ (ledger []).readable, answers name = (ledger []).member name) ∧
      describe "l" { ledger [] with member := answers } none = describe "l" (ledger []) none := by
  intro answers
  have first : (ledger [.ofText "a", silent]).refusals.head? =
      some (.unsupportedMessage "toDisplayString") := by rfl
  have agree : ∀ name ∈ (ledger []).readable, answers name = (ledger []).member name := by
    intro name member
    have other : name ≠ "secret" := by
      rintro rfl
      revert member
      decide
    exact if_neg other
  refine ⟨first, (describe_by_refusals "l" _ (some "given")).1 _ first, by rfl, ?_, agree, ?_⟩
  · exact (describe_by_refusals "l" (ledger []) (some "given")).2.1 (by rfl)
  · exact (describe_by_refusals "l" (ledger []) none).2.2.2 answers agree

end Ledgers

end Observation
end ExampleProbes
