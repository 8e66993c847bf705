import ExampleProbes.Proofs.Markup.WellFormedTags
import ExampleProbes.Proofs.Probe.PassedLines
import ExampleProbes.Proofs.Probe.WrittenExample
import ExampleProbes.Proofs.Source.FoundSignature

/-!
The examples of a document and the lines that declare them. An example line has its signature on
the first line below that is not one itself, so that a block of them has one signature. It declares
an example where its tag gives a value to every parameter; where there is no tag or no signature to
read, reading ends there.
-/
namespace ExampleProbes.Annotations

section Document
variable (document : Document)

/-- Line `m` is the first below line `n` that is not marked as an example, and reads `text`. -/
structure FirstUnlike (n m : Nat) (text : List Char) : Prop where
  below : n < m
  here : document.line? m = some text
  unlike : Marker.example.isOn text = false
  between : ∀ k, n < k → k < m → exampleAt document k = true

def SignatureBelow (n : Nat) (signature : Signature) : Prop :=
  ∃ m text, FirstUnlike document n m text ∧ Signature.find? text = some signature

/-- Line `n` holds the example tag `raw`, with the attributes `found`. -/
def TagOn (n : Nat) (raw : List Char) (found : List (List Char × List Char)) : Prop :=
  ∃ line, document.line? n = some line ∧ Tag.WellFormed .example line raw found

/-- The tag on line `n` gives every parameter of the signature below. -/
def Binds (n : Nat) : Prop :=
  ∃ raw found signature, TagOn document n raw found ∧ SignatureBelow document n signature ∧
    ∀ name ∈ signature.parameters, ∃ value, Tag.Gives found name value

/-- An example as its own line declares it: one value for each parameter, from the attribute of
    that name, and none from an attribute whose name starts with a colon. -/
structure Bound (e : Example) : Prop where
  uri : e.location.uri = document.uri
  languageId : e.location.languageId = document.languageId
  signature : SignatureBelow document e.location.line e.signature
  distinct : e.signature.parameters.Nodup
  names : ∀ name ∈ e.signature.parameters, name ≠ "" ∧ ':' ∉ name.toList
  given : ∃ raw found, TagOn document e.location.line raw found ∧
    List.Forall₂ (Tag.Gives found) e.signature.parameters e.arguments ∧
    (Tag.Gives found ":name" e.name ∨
      (∀ value, ¬ Tag.Gives found ":name" value) ∧ e.name = String.ofList raw)

/-- What keeps an example line from being read. -/
inductive Unreadable (n : Nat) : Prop where
  | malformed (none : ∀ raw found, ¬ TagOn document n raw found)
  | last (none : ∀ m, n < m → m ≤ document.lines.length → exampleAt document m = true)
  | plain {m : Nat} {text : List Char} (first : FirstUnlike document n m text)
      (unopened : '(' ∉ text)

/-- The examples that are found are those of the lines before the halt that bind, in order. -/
structure ExamplesOf (found : Annotations) : Prop where
  ordered : (found.examples.map (·.location.line)).Pairwise (· < ·)
  lines : ∀ n, n ∈ found.examples.map (·.location.line) ↔
    (∀ halt ∈ found.halt, n < halt.line) ∧ Binds document n
  bound : ∀ e ∈ found.examples, Bound document e
  shared : ∀ e ∈ found.examples, ∀ later ∈ found.examples,
    e.location.line ≤ later.location.line →
    (∀ m, e.location.line ≤ m → m ≤ later.location.line → exampleAt document m = true) →
    e.signature = later.signature
  halts : ∀ n, exampleAt document n = true → Unreadable document n →
    ∃ halt, found.halt = some halt ∧ halt.line ≤ n

end Document

section Below
variable {document : Document} {n m : Nat} {text : List Char}

theorem FirstUnlike.later {k : Nat} (first : FirstUnlike document n m text) (order : n ≤ k)
    (block : ∀ i, n < i → i ≤ k → exampleAt document i = true) :
    FirstUnlike document k m text := by
  have beyond : k < m := by
    by_contra within
    have marked := block m first.below (by omega)
    simp [exampleAt, first.here, first.unlike] at marked
  refine ⟨beyond, first.here, first.unlike, ?_⟩
  intro i after before
  exact first.between i (by omega) before

/-- The signature is looked for on the first line that is not an example. -/
theorem signature?_of_firstUnlike {lines : List (List Char)}
    (rest : document.lines.drop n = lines) (first : FirstUnlike document n m text) :
    signature? lines = Signature.find? text := by
  -- Every line before `m` is an example, so that the search goes on to the next.
  have inside := (bounds_of_line? first.here).2
  have below := first.below
  induction lines generalizing n with
  | nil =>
    have count := congrArg List.length rest
    simp only [List.length_drop, List.length_nil] at count
    omega
  | cons line more ih =>
    have here := line?_of_drop rest
    rw [signature?]
    by_cases next : m = n + 1
    · have same := first.here
      rw [next, here] at same
      obtain rfl := Option.some.inj same
      rw [if_neg (by simp [first.unlike])]
    · have marked := first.between (n + 1) (Nat.lt_succ_self n) (by omega)
      rw [exampleAt, here, Option.any_some] at marked
      rw [if_pos marked]
      refine ih (drop_of_drop rest) ⟨by omega, first.here, first.unlike, ?_⟩ (by omega)
      intro k after before
      exact first.between k (by omega) before

theorem signatureBelow_of_signature? {lines : List (List Char)} {signature : Signature}
    (rest : document.lines.drop n = lines) (found : signature? lines = some signature) :
    SignatureBelow document n signature := by
  induction lines generalizing n with
  | nil => cases found
  | cons line more ih =>
    have here := line?_of_drop rest
    rw [signature?] at found
    split at found
    · rename_i marked
      obtain ⟨m, text, first, own⟩ := ih (drop_of_drop rest) found
      refine ⟨m, text, ⟨Nat.lt_of_succ_lt first.below, first.here, first.unlike, ?_⟩, own⟩
      intro k after before
      by_cases next : k = n + 1
      · rw [next, exampleAt, here]
        exact marked
      · exact first.between k (by omega) before
    · rename_i unlike
      rw [Bool.not_eq_true] at unlike
      refine ⟨n + 1, line, ⟨Nat.lt_succ_self n, here, unlike, ?_⟩, found⟩
      intro k after before
      omega

theorem SignatureBelow.signature?_eq {signature : Signature}
    (own : SignatureBelow document n signature) :
    signature? (document.lines.drop n) = some signature := by
  obtain ⟨m, text, first, found⟩ := own
  rw [signature?_of_firstUnlike rfl first, found]

/-- Lines of one block of examples have the same signature. -/
theorem SignatureBelow.shared {signature other : Signature}
    (own : SignatureBelow document n signature) (its : SignatureBelow document m other)
    (order : n ≤ m) (block : ∀ k, n ≤ k → k ≤ m → exampleAt document k = true) :
    signature = other := by
  obtain ⟨i, text, first, found⟩ := own
  have below := first.later order fun k after => block k (Nat.le_of_lt after)
  have same := (signature?_of_firstUnlike rfl below).symm.trans its.signature?_eq
  rw [found] at same
  exact Option.some.inj same

end Below

section Binding
variable {tag : Tag}

theorem exists_argumentsOf? {names : List String}
    (given : ∀ name ∈ names, ∃ value, tag.attribute? name = some value) :
    ∃ arguments, Example.argumentsOf? tag names = some arguments := by
  induction names with
  | nil => exact ⟨[], rfl⟩
  | cons name rest ih =>
    obtain ⟨⟨argument, own⟩, others⟩ := List.forall_mem_cons.mp given
    obtain ⟨arguments, later⟩ := ih others
    exact ⟨argument :: arguments, by simp [Example.argumentsOf?, own, later]⟩

theorem example?_of_exampleFinding (tag : Tag) (location : Location) (signature : Signature) :
    (exampleFinding tag location signature).example? = Example.bind? tag location signature := by
  unfold exampleFinding
  cases Example.bind? tag location signature <;> rfl

theorem example?_of_probeFinding (tag : Tag) (number trigger : Nat) :
    (probeFinding tag number trigger).example? = none := by
  obtain ⟨p, same, _⟩ := triggerLine_of_probeFinding tag number trigger
  rw [same]
  rfl

theorem example?_of_assertionFinding (tag : Tag) (number trigger : Nat) :
    (assertionFinding tag number trigger).example? = none := by
  rcases triggerLine_of_assertionFinding tag number trigger with nothing | ⟨p, same, _⟩
  · rw [nothing]
    rfl
  · rw [same]
    rfl

end Binding

section Declared
variable {uri languageId : String} {number : Nat} {line : List Char} {rest : List (List Char)}
  {found : Finding}

/-- Of the lines that can be read, only an example line declares an example. -/
theorem Declaration.marked_of_example? {e : Example}
    (declared : Declaration uri languageId number line rest found) (own : found.example? = some e) :
    Marker.example.isOn line = true := by
  cases declared with
  | ofExample marked => exact marked
  | ofProbe => simp [example?_of_probeFinding] at own
  | ofAssertion => simp [example?_of_assertionFinding] at own
  | ofCode => cases own

theorem Declaration.of_marked (declared : Declaration uri languageId number line rest found)
    (marked : Marker.example.isOn line = true) :
    ∃ tag signature, Tag.read .example line = .ok tag ∧ signature? rest = some signature ∧
      found.example? = Example.bind? tag ⟨uri, languageId, number⟩ signature := by
  cases declared with
  | @ofExample tag signature _ written below =>
    exact ⟨tag, signature, written, below, example?_of_exampleFinding _ _ _⟩
  | ofProbe unlike => simp [unlike] at marked
  | ofAssertion unlike => simp [unlike] at marked
  | ofCode unlike => simp [unlike] at marked

end Declared

section Scan
variable {document : Document} {n : Nat} {found : Finding} {e : Example}

theorem bound_of_bind? {tag : Tag} {signature : Signature}
    {attributes : List (List Char × List Char)}
    (made : Example.bind? tag ⟨document.uri, document.languageId, n⟩ signature = some e)
    (tagged : TagOn document n tag.raw.toList attributes)
    (decodes : Tag.Decodes attributes tag.attributes) (below : SignatureBelow document n signature) :
    e.location.line = n ∧ Bound document e := by
  unfold Example.bind? at made
  obtain ⟨arguments, bound, rfl⟩ := Option.map_eq_some_iff.mp made
  obtain ⟨_, text, _, own⟩ := id below
  obtain ⟨distinct, pieces⟩ := Signature.parameters_of_find? own
  refine ⟨rfl, rfl, rfl, below, distinct, ?_, tag.raw.toList, attributes, tagged, ?_, ?_⟩
  · intro name member
    have piece := pieces name member
    constructor
    · rintro rfl
      exact piece.someChar rfl
    · intro colon
      rcases piece.chars ':' colon with letter | hyphen
      · exact absurd letter (by decide)
      · exact absurd hyphen (by decide)
  · apply (argumentsOf?_eq_some_iff.mp bound).imp
    intro name value looked
    exact decodes.lookup_eq_some_iff.mp looked
  · cases called : tag.attribute? ":name" with
    | some name => exact Or.inl (decodes.lookup_eq_some_iff.mp called)
    | none =>
      refine Or.inr ⟨?_, String.ofList_toList.symm⟩
      intro value gives
      have looked : tag.attribute? ":name" = some value := decodes.lookup_eq_some_iff.mpr gives
      rw [called] at looked
      cases looked

theorem bound_of_findingAt (answered : findingAt document n = some found)
    (own : found.example? = some e) :
    e.location.line = n ∧ Bound document e := by
  obtain ⟨line, here, declared⟩ := declaration_of_findingAt answered
  obtain ⟨tag, signature, written, below, same⟩ := declared.of_marked (declared.marked_of_example? own)
  obtain ⟨attributes, formed, decodes⟩ := Tag.wellFormed_of_read written
  exact bound_of_bind? (same.symm.trans own) ⟨line, here, formed⟩ decodes
    (signatureBelow_of_signature? rfl below)

theorem Bound.binds (bound : Bound document e) : Binds document e.location.line := by
  obtain ⟨raw, attributes, tagged, given, _⟩ := bound.given
  exact ⟨raw, attributes, e.signature, tagged, bound.signature,
    fun _ member => exists_of_forall₂ given member⟩

theorem passes_iff {halt : Option Halt} :
    passes halt n = true ↔ ∀ stop ∈ halt, n < stop.line := by
  cases halt <;> simp [passes]

section Read
variable {all : Annotations} (read : ReadFrom document 0 all)
include read

theorem mem_examples_iff : e ∈ all.examples ↔ passes all.halt e.location.line = true ∧
    ∃ own, findingAt document e.location.line = some own ∧ own.example? = some e := by
  rw [read.examples, List.mem_filterMap]
  constructor
  · rintro ⟨n, passed, made⟩
    obtain ⟨own, answered, its⟩ := Option.bind_eq_some_iff.mp made
    obtain ⟨rfl, _⟩ := bound_of_findingAt answered its
    exact ⟨(mem_passedFrom_iff.mp passed).2.2, own, answered, its⟩
  · rintro ⟨passed, own, answered, its⟩
    obtain ⟨line, here, _⟩ := declaration_of_findingAt answered
    obtain ⟨first, last⟩ := bounds_of_line? here
    exact ⟨e.location.line, mem_passedFrom_iff.mpr ⟨first, last, passed⟩,
      Option.bind_eq_some_iff.mpr ⟨own, answered, its⟩⟩

theorem bound_of_mem_examples (member : e ∈ all.examples) : Bound document e := by
  obtain ⟨_, own, answered, its⟩ := (mem_examples_iff read).mp member
  exact (bound_of_findingAt answered its).2

theorem examples_ordered : (all.examples.map (·.location.line)).Pairwise (· < ·) := by
  rw [read.examples, List.pairwise_map]
  apply (passedFrom_sorted 0 all.halt).filterMap
  intro n m before first made second later
  obtain ⟨own, answered, its⟩ := Option.bind_eq_some_iff.mp made
  obtain ⟨other, found, others⟩ := Option.bind_eq_some_iff.mp later
  obtain ⟨rfl, _⟩ := bound_of_findingAt answered its
  obtain ⟨rfl, _⟩ := bound_of_findingAt found others
  exact before

/-- A line that binds yields its example once it is passed. -/
theorem exists_example_of_binds (passed : passes all.halt n = true) (binds : Binds document n) :
    ∃ e ∈ all.examples, e.location.line = n := by
  obtain ⟨raw, attributes, other, tagged, below, given⟩ := binds
  obtain ⟨line, here, formed⟩ := tagged
  obtain ⟨own, answered, declared⟩ := read.declared here passed
  obtain ⟨tag, signature, written, next, same⟩ := declared.of_marked formed.isOn
  obtain ⟨kept, decodes, reads⟩ := formed.read
  obtain rfl := Except.ok.inj (written.symm.trans reads)
  obtain rfl := Option.some.inj (below.signature?_eq.symm.trans next)
  have looked : ∀ name ∈ other.parameters,
      ∃ value, Tag.attribute? ⟨.example, kept, String.ofList raw⟩ name = some value := by
    intro name member
    obtain ⟨value, gives⟩ := given name member
    exact ⟨value, decodes.lookup_eq_some_iff.mpr gives⟩
  obtain ⟨arguments, bound⟩ := exists_argumentsOf? looked
  rw [Example.bind?, bound, Option.map_some] at same
  exact ⟨_, (mem_examples_iff read).mpr ⟨passed, own, answered, same⟩, rfl⟩

theorem mem_lines_iff : n ∈ all.examples.map (·.location.line) ↔
    (∀ halt ∈ all.halt, n < halt.line) ∧ Binds document n := by
  rw [List.mem_map, ← passes_iff]
  constructor
  · rintro ⟨e, member, rfl⟩
    exact ⟨((mem_examples_iff read).mp member).1, (bound_of_mem_examples read member).binds⟩
  · rintro ⟨passed, binds⟩
    exact exists_example_of_binds read passed binds

theorem halts_of_unreadable (marked : exampleAt document n = true)
    (unreadable : Unreadable document n) : ∃ halt, all.halt = some halt ∧ halt.line ≤ n := by
  by_contra none
  have passed : passes all.halt n = true := by
    rw [passes_iff]
    intro halt stops
    by_contra before
    exact none ⟨halt, stops, by omega⟩
  obtain ⟨line, here, isExample⟩ := exampleAt_iff.mp marked
  obtain ⟨_, _, declared⟩ := read.declared here passed
  obtain ⟨tag, signature, written, next, _⟩ := declared.of_marked isExample
  cases unreadable with
  | malformed formless =>
    obtain ⟨attributes, formed, _⟩ := Tag.wellFormed_of_read written
    exact formless tag.raw.toList attributes ⟨line, here, formed⟩
  | last examples =>
    obtain ⟨m, text, first, _⟩ := signatureBelow_of_signature? rfl next
    have another := examples m first.below (bounds_of_line? first.here).2
    simp [exampleAt, first.here, first.unlike] at another
  | plain first unopened =>
    rw [signature?_of_firstUnlike rfl first, Signature.find?_eq_none_iff.mpr unopened] at next
    cases next

end Read
end Scan

theorem ofDocument_examples (document : Document) (numbered : document.lines.length ≤ maxLine) :
    ExamplesOf document (ofDocument document) := by
  have read := ofDocument_read numbered
  have bound : ∀ e ∈ (ofDocument document).examples, Bound document e :=
    fun _ => bound_of_mem_examples read
  refine ⟨examples_ordered read, fun _ => mem_lines_iff read, bound, ?_,
    fun _ => halts_of_unreadable read⟩
  intro e member later laterMember order block
  exact (bound e member).signature.shared (bound later laterMember).signature order block

section Parts

/-- A block of two examples that bind and one that does not, and below it an example whose next
    line shows no signature. -/
def boundSource : Document where
  uri := "a"
  languageId := "toy"
  text := String.intercalate "\n"
    ["<Example :name=\"one\" n=\"1\"/>", "<Example n='&lt;2'/>", "<Example m=\"3\"/>", "f(n, n)",
      "<Example n=\"4\"/>", "g"]

theorem examples_of_boundSource :
    boundSource.lines.length ≤ maxLine ∧
      (ofDocument boundSource).examples =
        [⟨"one", ⟨"a", "toy", 1⟩, ⟨"f", ["n"]⟩, ["1"]⟩,
          ⟨"<Example n='&lt;2'/>", ⟨"a", "toy", 2⟩, ⟨"f", ["n"]⟩, ["<2"]⟩] ∧
      (ofDocument boundSource).halt = some (.missingSignature 5) ∧
      ¬ Binds boundSource 3 ∧ ExamplesOf boundSource (ofDocument boundSource) := by
  have scanned : boundSource.lines.length ≤ maxLine ∧
      (ofDocument boundSource).examples =
        [⟨"one", ⟨"a", "toy", 1⟩, ⟨"f", ["n"]⟩, ["1"]⟩,
          ⟨"<Example n='&lt;2'/>", ⟨"a", "toy", 2⟩, ⟨"f", ["n"]⟩, ["<2"]⟩] ∧
      (ofDocument boundSource).halt = some (.missingSignature 5) := by decide +kernel
  obtain ⟨few, examples, halted⟩ := scanned
  have whole := ofDocument_examples boundSource few
  refine ⟨few, examples, halted, ?_, whole⟩
  intro binds
  have before : ∀ halt ∈ (ofDocument boundSource).halt, 3 < halt.line := by
    rw [halted]
    decide
  have member := (whole.lines 3).mpr ⟨before, binds⟩
  rw [examples] at member
  exact absurd member (by decide)

end Parts
end ExampleProbes.Annotations
