import Mathlib.Data.Bool.AllAny
import Mathlib.Data.List.Forall2
import ExampleProbes.Probe.Annotations
import ExampleProbes.Proofs.Markup.Reading
import ExampleProbes.Proofs.Source.WrittenSignature

/-!
An example written out on two lines is found again. The first line is the tag, each value
between double quotes and its ampersands, opening angle brackets and double quotes as
references; the second is the signature. Whatever the values hold, reading the two lines
gives the one example back.
-/
namespace ExampleProbes

namespace Reference

def escapeChar (c : Char) : List Char :=
  if c = '&' then "&amp;".toList
  else if c = '<' then "&lt;".toList
  else if c = '\x22' then "&quot;".toList
  else [c]

/-- The text that stands for `value` between double quotes. -/
def escape (value : List Char) : List Char := value.flatMap escapeChar

theorem decode_escapeChar (c : Char) (rest : List Char) :
    decode (escapeChar c ++ rest) = (decode rest).map (c :: ·) := by
  unfold escapeChar
  split
  · subst c
    exact decode_reference "amp".toList rest (by decide)
  · split
    · subst c
      exact decode_reference "lt".toList rest (by decide)
    · split
      · subst c
        exact decode_reference "quot".toList rest (by decide)
      · rename_i plain _ _
        exact decode_cons_plain c rest plain

theorem decode_escape (value : List Char) : decode (escape value) = some value := by
  induction value with
  | nil => rfl
  | cons c value ih =>
    have step := decode_escapeChar c (escape value)
    rw [ih] at step
    exact step

theorem escapeChar_cases (c : Char) :
    (c ∉ ['\x22', '<'] ∧ escapeChar c = [c]) ∨ ∀ d ∈ escapeChar c, d ∉ ['\x22', '<', '\n'] := by
  unfold escapeChar
  split
  · exact Or.inr (List.all_iff_forall_prop.mp (by decide))
  · split
    · exact Or.inr (List.all_iff_forall_prop.mp (by decide))
    · split
      · exact Or.inr (List.all_iff_forall_prop.mp (by decide))
      · rename_i angle quote
        exact Or.inl ⟨by simp [angle, quote], rfl⟩

theorem mem_escape {value : List Char} {d : Char} (member : d ∈ escape value) :
    d ∉ ['\x22', '<'] ∧ (d = '\n' → d ∈ value) := by
  obtain ⟨c, inside, part⟩ := List.mem_flatMap.mp member
  rcases escapeChar_cases c with ⟨plain, same⟩ | marks
  · obtain rfl : d = c := by simpa [same] using part
    exact ⟨plain, fun _ => inside⟩
  · have mark := marks d part
    simp only [List.mem_cons, List.not_mem_nil, or_false, not_or] at mark
    exact ⟨by simp [mark.1, mark.2.1], fun newline => absurd newline mark.2.2⟩

end Reference

namespace Annotations

/-- An attribute with the white space before it. -/
def attributeText (name value : String) : List Char :=
  ' ' :: (name.toList ++ '=' :: '\x22' :: (Reference.escape value.toList ++ ['\x22']))

def elementText (name : String) (bindings : List (String × String)) : List Char :=
  "<Example".toList ++
    (((":name", name) :: bindings).flatMap (fun b => attributeText b.1 b.2) ++ " />".toList)

def exampleText (name identifier : String) (bindings : List (String × String)) : String :=
  String.ofList ("// ".toList ++ elementText name bindings ++
    '\n' :: Signature.text identifier (bindings.map Prod.fst))

def IsParameter (parameter : String) : Prop :=
  ∃ c rest, parameter.toList = c :: rest ∧ (c.isAlpha ∨ c ∈ ['_', '$']) ∧
    ∀ d ∈ rest, d.isAlphanum ∨ d ∈ ['_', '$', '-']

/-- A call that fits on one line, with a value for each parameter. -/
structure Writable (name identifier : String) (bindings : List (String × String)) : Prop where
  identifier : ∀ c ∈ identifier.toList, c.isAlphanum ∨ c ∈ ['_', '$']
  parameters : ∀ b ∈ bindings, IsParameter b.1
  distinct : (bindings.map Prod.fst).Nodup
  name : '\n' ∉ name.toList
  values : ∀ b ∈ bindings, '\n' ∉ b.2.toList

theorem assignment_written {name : String} (named : Element.Name name.toList) (value : String) :
    Element.Assignment
      (name.toList ++ '=' :: '\x22' :: (Reference.escape value.toList ++ ['\x22']))
      (name.toList, Reference.escape value.toList) := by
  have quoted : Element.Quoted ('\x22' :: (Reference.escape value.toList ++ ['\x22']))
      (Reference.escape value.toList) :=
    ⟨by simp, fun c member => (Reference.mem_escape member).1⟩
  have none : Element.Gap [] := by simp [Element.Gap]
  exact .mk named none none quoted

theorem attributes_written {attributes : List (String × String)}
    (named : ∀ b ∈ attributes, Element.Name b.1.toList) :
    Element.Attributes (attributes.flatMap fun b => attributeText b.1 b.2)
      (attributes.map fun b => (b.1.toList, Reference.escape b.2.toList)) := by
  induction attributes with
  | nil => exact .nil
  | cons b rest ih =>
    have later := ih fun other member => named other (List.mem_cons_of_mem b member)
    have apart : [' '] ≠ [] := by simp
    have space : Element.Gap [' '] := by simp [Element.Gap]
    have all := Element.Attributes.cons apart space (assignment_written (named b (by simp)) b.2) later
    simpa [attributeText] using all

theorem IsParameter.name {parameter : String} (parses : IsParameter parameter) :
    Element.Name parameter.toList := by
  obtain ⟨c, rest, split, first, more⟩ := parses
  rw [split]
  constructor
  · rcases first with letter | mark
    · exact Or.inl letter
    · right
      simp only [List.mem_cons, List.not_mem_nil, or_false] at mark ⊢
      exact Or.inr mark
  · intro d member
    rcases more d member with letter | mark
    · exact Or.inl letter
    · right
      simp only [List.mem_cons, List.not_mem_nil, or_false] at mark ⊢
      grind

section Written
variable {name identifier : String} {bindings : List (String × String)}

/-- The attributes as the tag has them, the example's name before the arguments. -/
def attributesOf (name : String) (bindings : List (String × String)) : List (String × String) :=
  (":name", name) :: bindings

theorem attributesOf_named (writable : Writable name identifier bindings) :
    ∀ b ∈ attributesOf name bindings, Element.Name b.1.toList := by
  intro b member
  rcases List.mem_cons.mp member with rfl | given
  · have split : ":name".toList = ':' :: "name".toList := by decide
    rw [split]
    exact ⟨by decide, List.all_iff_forall_prop.mp (by decide)⟩
  · exact (writable.parameters b given).name

theorem elementText_written (writable : Writable name identifier bindings) :
    Element.Written "Example".toList (elementText name bindings)
      ((attributesOf name bindings).map fun b => (b.1.toList, Reference.escape b.2.toList)) := by
  have closing : Element.Closing " />".toList :=
    .mk (by simp [Element.Gap] : Element.Gap [' ']) (by simp : ['/', '>'] ∈ _)
  exact .mk (attributes_written (attributesOf_named writable)) closing

theorem attributesOf_distinct (writable : Writable name identifier bindings) :
    ((attributesOf name bindings).map Prod.fst).Nodup := by
  rw [attributesOf, List.map_cons, List.nodup_cons]
  constructor
  · intro member
    obtain ⟨b, given, same⟩ := List.mem_map.mp member
    obtain ⟨c, rest, split, first, _⟩ := writable.parameters b given
    rw [same] at split
    have colon : ":name".toList = ':' :: "name".toList := by decide
    obtain rfl : ':' = c := (List.cons.inj (colon.symm.trans split)).1
    revert first
    decide
  · exact writable.distinct

theorem attributesOf_decodes (writable : Writable name identifier bindings) :
    Tag.Decodes
      ((attributesOf name bindings).map fun b => (b.1.toList, Reference.escape b.2.toList))
      (attributesOf name bindings) := by
  constructor
  · simp
  · simp [Reference.decode_escape]
  · exact attributesOf_distinct writable

theorem firstIn_exampleLine (name : String) (bindings : List (String × String)) :
    Marker.example.FirstIn ("// ".toList ++ elementText name bindings) 3 := by
  constructor
  · refine ⟨_, rfl, ?_⟩
    intro c first
    obtain rfl : ' ' = c := by simpa [attributeText] using first
    exact Or.inl (by decide)
  · intro k stands
    have opens := stands.opens
    match k with
    | 0 | 1 | 2 => cases opens
    | k + 3 => exact Nat.le_add_left 3 k

theorem lastClose_append (front : List Char) : Tag.LastClose (front ++ ['>']) front.length := by
  constructor
  · simp
  · intro k closes
    obtain ⟨inside, _⟩ := List.getElem?_eq_some_iff.mp closes
    simp only [List.length_append, List.length_singleton] at inside
    omega

theorem exampleLine_closes (name : String) (bindings : List (String × String)) :
    ∃ front, elementText name bindings = '<' :: (front ++ ['>']) := by
  have opening : "<Example".toList = '<' :: "Example".toList := by decide
  have closing : " />".toList = " /".toList ++ ['>'] := by decide
  unfold elementText
  rw [opening, closing]
  generalize ((":name", name) :: bindings).flatMap (fun b => attributeText b.1 b.2) = attributes
  exact ⟨"Example".toList ++ (attributes ++ " /".toList), by simp⟩

/-- The first line is read back, whatever its values hold. -/
theorem read_exampleLine (writable : Writable name identifier bindings) :
    Tag.read .example ("// ".toList ++ elementText name bindings) =
      .ok ⟨.example, attributesOf name bindings, String.ofList (elementText name bindings)⟩ := by
  obtain ⟨front, split⟩ := exampleLine_closes name bindings
  have line : "// ".toList ++ elementText name bindings = ('/' :: '/' :: ' ' :: '<' :: front) ++ ['>'] := by
    rw [split]
    rfl
  have first := firstIn_exampleLine name bindings
  have last : Tag.LastClose ("// ".toList ++ elementText name bindings) (front.length + 4) := by
    rw [line]
    exact lastClose_append _
  have cut : Tag.between ("// ".toList ++ elementText name bindings) 3 (front.length + 4) =
      elementText name bindings := by
    rw [line, split, Tag.between, List.take_of_length_le (by simp)]
    rfl
  have element : Element.Written Marker.example.name.toList (elementText name bindings) _ :=
    elementText_written writable
  rw [Tag.read_of_cut first last (by omega), cut, Tag.ofElement_of_written element,
    Tag.decodeFrom_of_decodes (attributesOf_decodes writable)]
  rfl

theorem IsParameter.piece {parameter : String} (parses : IsParameter parameter) :
    Signature.IsPiece parameter.toList := by
  obtain ⟨c, rest, split, first, more⟩ := parses
  rw [split]
  constructor
  · simp
  · intro d member
    rcases List.mem_cons.mp member with rfl | inside
    · rcases first with letter | mark
      · simp [Signature.isNameChar, Char.isAlphanum, letter]
      · simp only [List.mem_cons, List.not_mem_nil, or_false] at mark
        rcases mark with rfl | rfl <;> decide
    · rcases more d inside with letter | mark
      · simp [Signature.isNameChar, letter]
      · simp only [List.mem_cons, List.not_mem_nil, or_false] at mark
        rcases mark with rfl | rfl | rfl <;> decide

theorem find?_signatureLine (writable : Writable name identifier bindings) :
    Signature.find? (Signature.text identifier (bindings.map Prod.fst)) =
      some ⟨identifier, bindings.map Prod.fst⟩ := by
  apply Signature.find?_text
  · intro c member
    rcases writable.identifier c member with letter | mark
    · simp [Signature.isNameChar, letter]
    · simp only [List.mem_cons, List.not_mem_nil, or_false] at mark
      rcases mark with rfl | rfl <;> decide
  · intro parameter member
    obtain ⟨b, given, rfl⟩ := List.mem_map.mp member
    exact (writable.parameters b given).piece
  · exact writable.distinct

theorem argumentsOf?_eq_some_iff {tag : Tag} {names arguments : List String} :
    Example.argumentsOf? tag names = some arguments ↔
      List.Forall₂ (fun name argument => tag.attribute? name = some argument) names arguments := by
  induction names generalizing arguments with
  | nil => simp [Example.argumentsOf?, eq_comm]
  | cons name rest ih =>
    simp only [Example.argumentsOf?, Option.bind_eq_some_iff, Option.map_eq_some_iff, ih,
      List.forall₂_cons_left_iff]
    constructor
    · rintro ⟨argument, given, others, later, rfl⟩
      exact ⟨argument, others, given, later, rfl⟩
    · rintro ⟨argument, others, given, later, rfl⟩
      exact ⟨argument, given, others, later, rfl⟩

theorem bind?_attributesOf (writable : Writable name identifier bindings) (raw : String)
    (location : Location) :
    Example.bind? ⟨.example, attributesOf name bindings, raw⟩ location
        ⟨identifier, bindings.map Prod.fst⟩ =
      some ⟨name, location, ⟨identifier, bindings.map Prod.fst⟩, bindings.map Prod.snd⟩ := by
  have arguments : Example.argumentsOf? ⟨.example, attributesOf name bindings, raw⟩
      (bindings.map Prod.fst) = some (bindings.map Prod.snd) := by
    rw [argumentsOf?_eq_some_iff, List.forall₂_map_left_iff, List.forall₂_map_right_iff,
      List.forall₂_same]
    intro b given
    exact Tag.lookup_of_mem (attributesOf_distinct writable) (List.mem_cons_of_mem _ given)
  have called : Tag.attribute? ⟨.example, attributesOf name bindings, raw⟩ ":name" = some name := by
    simp [Tag.attribute?, attributesOf]
  simp [Example.bind?, arguments, called]

theorem isOn_of_no_angle {marker : Marker} {line : List Char} (plain : '<' ∉ line) :
    marker.isOn line = false := by
  have nowhere : ∀ i, ¬ marker.StandsIn line i :=
    fun i stands => plain (List.mem_of_getElem? stands.opens)
  simp [Marker.isOn, Marker.split?_eq_none_iff.mpr nowhere]

/-- The characters of the second line. -/
theorem mem_signatureLine (writable : Writable name identifier bindings) {c : Char}
    (member : c ∈ Signature.text identifier (bindings.map Prod.fst)) :
    Signature.isParameterChar c ∨ c = '(' ∨ c = ')' := by
  simp only [Signature.text, List.mem_append, List.mem_cons, List.not_mem_nil, or_false] at member
  rcases member with inside | paren | inside | paren
  · left
    rcases writable.identifier c inside with letter | mark
    · simp [Signature.isParameterChar, Signature.isNameChar, letter]
    · simp only [List.mem_cons, List.not_mem_nil, or_false] at mark
      rcases mark with rfl | rfl <;> decide
  · exact Or.inr (Or.inl paren)
  · left
    apply Signature.isParameterChar_of_mem _ inside
    intro word given
    obtain ⟨parameter, known, rfl⟩ := List.mem_map.mp given
    obtain ⟨b, bound, rfl⟩ := List.mem_map.mp known
    exact (writable.parameters b bound).piece
  · exact Or.inr (Or.inr paren)

theorem not_mem_signatureLine (writable : Writable name identifier bindings) {c : Char}
    (other : c ∈ ['<', '\n']) : c ∉ Signature.text identifier (bindings.map Prod.fst) := by
  intro member
  have kinds := mem_signatureLine writable member
  simp only [List.mem_cons, List.not_mem_nil, or_false] at other
  rcases other with rfl | rfl <;> revert kinds <;> decide

theorem newline_not_mem_attributeText {key value : String} (named : Element.Name key.toList)
    (oneLine : '\n' ∉ value.toList) : '\n' ∉ attributeText key value := by
  intro member
  simp only [attributeText, List.mem_cons, List.mem_append, List.not_mem_nil, or_false,
    Char.reduceEq, false_or] at member
  rcases member with inKey | inValue
  · exact absurd (named.all '\n' inKey) (by decide)
  · exact oneLine ((Reference.mem_escape inValue).2 rfl)

theorem attributesOf_oneLine (writable : Writable name identifier bindings) :
    ∀ b ∈ attributesOf name bindings, '\n' ∉ b.2.toList := by
  intro b member
  rcases List.mem_cons.mp member with rfl | given
  · exact writable.name
  · exact writable.values b given

theorem newline_not_mem_exampleLine (writable : Writable name identifier bindings) :
    '\n' ∉ "// ".toList ++ elementText name bindings := by
  intro member
  rcases List.mem_append.mp member with lead | inElement
  · exact absurd lead (by decide)
  · unfold elementText at inElement
    rcases List.mem_append.mp inElement with opening | behind
    · exact absurd opening (by decide)
    · rcases List.mem_append.mp behind with attributes | closing
      · obtain ⟨b, given, inside⟩ := List.mem_flatMap.mp attributes
        exact newline_not_mem_attributeText (attributesOf_named writable b given)
          (attributesOf_oneLine writable b given) inside
      · exact absurd closing (by decide)

theorem linesFrom_last {pending line : List Char} (plain : '\n' ∉ line)
    (someChar : line.reverse ++ pending ≠ []) :
    Text.linesFrom pending line = [pending.reverse ++ line] := by
  induction line generalizing pending with
  | nil => simpa [Text.linesFrom] using someChar
  | cons c line ih =>
    simp only [List.mem_cons, not_or] at plain
    have step : Text.linesFrom pending (c :: line) = Text.linesFrom (c :: pending) line := by
      rw [Text.linesFrom]
      intro newline
      exact plain.1 newline.symm
    rw [step, ih plain.2 (by simp)]
    simp

theorem toList_exampleText (name identifier : String) (bindings : List (String × String)) :
    (exampleText name identifier bindings).toList = "// ".toList ++ elementText name bindings ++
      '\n' :: Signature.text identifier (bindings.map Prod.fst) := String.toList_ofList

theorem lines_exampleText (writable : Writable name identifier bindings) :
    Text.lines (exampleText name identifier bindings).toList =
      ["// ".toList ++ elementText name bindings,
        Signature.text identifier (bindings.map Prod.fst)] := by
  obtain ⟨front, split⟩ := exampleLine_closes name bindings
  have noReturn : (Text.dropReturn (("// ".toList ++ elementText name bindings).reverse ++ [])).reverse =
      "// ".toList ++ elementText name bindings := by
    rw [split]
    simp [Text.dropReturn]
  have last : Text.lines (Signature.text identifier (bindings.map Prod.fst)) =
      [Signature.text identifier (bindings.map Prod.fst)] :=
    linesFrom_last (not_mem_signatureLine writable (by simp)) (by simp [Signature.text])
  rw [toList_exampleText, Text.lines,
    Text.linesFrom_append_newline _ _ _ (newline_not_mem_exampleLine writable), noReturn, last]

theorem finding_exampleLine (writable : Writable name identifier bindings)
    (uri languageId : String) :
    finding uri languageId 1 ("// ".toList ++ elementText name bindings)
        [Signature.text identifier (bindings.map Prod.fst)] =
      .ok (.example ⟨name, ⟨uri, languageId, 1⟩, ⟨identifier, bindings.map Prod.fst⟩,
        bindings.map Prod.snd⟩) := by
  have marked : Marker.example.isOn ("// ".toList ++ elementText name bindings) = true := by
    simp only [Marker.isOn, Marker.split?_of_first (firstIn_exampleLine name bindings),
      Option.isSome_some]
  have below : signature? [Signature.text identifier (bindings.map Prod.fst)] =
      some ⟨identifier, bindings.map Prod.fst⟩ := by
    have unmarked : Marker.example.isOn (Signature.text identifier (bindings.map Prod.fst)) = false :=
      isOn_of_no_angle (not_mem_signatureLine writable (by simp))
    simp [signature?, unmarked, find?_signatureLine writable]
  simp only [finding, marked, ↓reduceIte, tagAt, read_exampleLine writable, signatureAt, below,
    placeAt_of_le (Nat.le_refl 1), bind, Except.bind, pure, Except.pure, exampleFinding,
    bind?_attributesOf writable]

end Written

/-- An example written on two lines is what reading them finds, and all of it. -/
theorem ofDocument_exampleText {name identifier : String} {bindings : List (String × String)}
    (writable : Writable name identifier bindings) (uri languageId : String) :
    ofDocument ⟨uri, languageId, exampleText name identifier bindings⟩ =
      { examples := [⟨name, ⟨uri, languageId, 1⟩, ⟨identifier, bindings.map Prod.fst⟩,
          bindings.map Prod.snd⟩]
        probes := []
        halt := none } := by
  have plain : ∀ marker : Marker,
      marker.isOn (Signature.text identifier (bindings.map Prod.fst)) = false :=
    fun marker => isOn_of_no_angle (not_mem_signatureLine writable (by simp))
  have second : finding uri languageId (nextLine 1)
      (Signature.text identifier (bindings.map Prod.fst)) [] = .ok .nothing := by
    simp [finding, plain, pure, Except.pure]
  simp only [ofDocument, Document.lines, lines_exampleText writable, ofLines, ofLinesFrom,
    finding_exampleLine writable, second, add]

theorem ofDocument_exampleText_of_markup :
    Writable "<Probe/> &lt;" "f" [("x", "g(\x22>\x22)"), ("$y-1", "")] ∧
      exampleText "<Probe/> &lt;" "f" [("x", "g(\x22>\x22)"), ("$y-1", "")] =
        "// <Example :name=\x22&lt;Probe/> &amp;lt;\x22 x=\x22g(&quot;>&quot;)\x22 $y-1=\x22\x22 />\nf(x, $y-1)" ∧
      ofDocument ⟨"file:///f.js", "js",
          exampleText "<Probe/> &lt;" "f" [("x", "g(\x22>\x22)"), ("$y-1", "")]⟩ =
        { examples := [⟨"<Probe/> &lt;", ⟨"file:///f.js", "js", 1⟩, ⟨"f", ["x", "$y-1"]⟩,
            ["g(\x22>\x22)", ""]⟩]
          probes := []
          halt := none } := by
  have writable : Writable "<Probe/> &lt;" "f" [("x", "g(\x22>\x22)"), ("$y-1", "")] := by
    refine ⟨List.all_iff_forall_prop.mp (by decide), ?_, by decide, by decide, by decide⟩
    intro b member
    simp only [List.mem_cons, List.not_mem_nil, or_false] at member
    rcases member with rfl | rfl
    · exact ⟨'x', [], by decide, by decide, List.all_iff_forall_prop.mp (by decide)⟩
    · exact ⟨'$', ['y', '-', '1'], by decide, by decide, List.all_iff_forall_prop.mp (by decide)⟩
  exact ⟨writable, by decide, ofDocument_exampleText writable "file:///f.js" "js"⟩

end Annotations
end ExampleProbes
