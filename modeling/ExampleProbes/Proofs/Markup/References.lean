import Mathlib.Data.List.Induction
import ExampleProbes.Markup.Reference

/-!
The texts that references are read from. A reference is one of five names or the number of a
character, written in digits; decoding puts the character in its place and reads on behind it.
Decoding takes more than these texts: a number may have a plus sign before its digits, and in
nothing else does what it takes differ from the texts whose ampersands all start a reference.
-/
namespace ExampleProbes.Reference

/-- One or more digits, and the number they write. -/
inductive Numeral (digit? : Char → Option Nat) (base : Nat) : List Char → Nat → Prop where
  | one {c : Char} {d : Nat} (read : digit? c = some d) : Numeral digit? base [c] d
  | more {text : List Char} {n : Nat} {c : Char} {d : Nat} (before : Numeral digit? base text n)
      (read : digit? c = some d) : Numeral digit? base (text ++ [c]) (n * base + d)

/-- The number of a character, with `sign` before its digits. -/
inductive Numbered (sign : List Char) : List Char → Char → Prop where
  | decimal {digits : List Char} {c : Char} (number : Numeral decimalDigit? 10 digits c.toNat) :
      Numbered sign ('#' :: (sign ++ digits)) c
  | hexadecimal {x : Char} {digits : List Char} {c : Char} (kind : x = 'x' ∨ x = 'X')
      (number : Numeral hexDigit? 16 digits c.toNat) :
      Numbered sign ('#' :: x :: (sign ++ digits)) c

def predefined : List (List Char × Char) :=
  [("lt".toList, '<'), ("gt".toList, '>'), ("amp".toList, '&'), ("quot".toList, '\x22'),
    ("apos".toList, '\x27')]

/-- What stands between an ampersand and a semicolon, and the character it refers to. -/
inductive Refers : List Char → Char → Prop where
  | named {name : List Char} {c : Char} (listed : (name, c) ∈ predefined) : Refers name c
  | numbered {name : List Char} {c : Char} (number : Numbered [] name c) : Refers name c

def Accepted (name : List Char) (c : Char) : Prop := Refers name c ∨ Numbered ['+'] name c

/-- `out` is `text` with the character in place of each reference; an ampersand stands only
    where a reference starts. -/
inductive StandsFor (refers : List Char → Char → Prop) : List Char → List Char → Prop where
  | nil : StandsFor refers [] []
  | plain {c : Char} {text out : List Char} (other : c ≠ '&') (rest : StandsFor refers text out) :
      StandsFor refers (c :: text) (c :: out)
  | reference {name text out : List Char} {c : Char} (refer : refers name c)
      (rest : StandsFor refers text out) :
      StandsFor refers ('&' :: (name ++ ';' :: text)) (c :: out)

/-- Every ampersand starts a reference. -/
def EachStarts (refers : List Char → Char → Prop) (text : List Char) : Prop :=
  ∀ before after, text = before ++ '&' :: after →
    ∃ name c rest, after = name ++ ';' :: rest ∧ refers name c

/-- No ampersand starts a number with a plus sign. -/
def Unsigned (text : List Char) : Prop :=
  ∀ before name after, text = before ++ '&' :: (name ++ ';' :: after) →
    ∀ c, ¬ Numbered ['+'] name c

section Numerals
variable {digit? : Char → Option Nat} {base : Nat}

theorem digitsFrom?_concat (value : Nat) (text : List Char) (c : Char) :
    digitsFrom? digit? base value (text ++ [c]) =
      (digitsFrom? digit? base value text).bind fun n => (digit? c).map (n * base + ·) := by
  induction text generalizing value with
  | nil => cases h : digit? c <;> simp [digitsFrom?, h]
  | cons first rest ih =>
    cases h : digit? first with
    | none => simp [digitsFrom?, h]
    | some d => simp [digitsFrom?, h, ih]

theorem numeral_iff {text : List Char} {n : Nat} :
    Numeral digit? base text n ↔ text ≠ [] ∧ digitsFrom? digit? base 0 text = some n := by
  constructor
  · intro numeral
    induction numeral with
    | one read => simp [digitsFrom?, read]
    | more before read ih => simp [digitsFrom?_concat, ih.2, read]
  · intro ⟨filled, value⟩
    induction text using List.reverseRecOn generalizing n with
    | nil => contradiction
    | append_singleton front c ih =>
      rw [digitsFrom?_concat] at value
      obtain ⟨m, front_value, last⟩ := Option.bind_eq_some_iff.mp value
      obtain ⟨d, read, rfl⟩ := Option.map_eq_some_iff.mp last
      by_cases empty : front = []
      · subst empty
        obtain rfl : 0 = m := by simpa [digitsFrom?] using front_value
        simpa using Numeral.one read
      · exact .more (ih empty front_value) read

theorem Numeral.all {text : List Char} {n : Nat} (numeral : Numeral digit? base text n) :
    ∀ c ∈ text, (digit? c).isSome := by
  induction numeral with
  | one read => simp [read]
  | more before read ih =>
    intro c member
    rcases List.mem_append.mp member with front | last
    · exact ih c front
    · simp [List.mem_singleton.mp last, read]

theorem Numeral.unsigned (sign : digit? '+' = none) {rest : List Char} {n : Nat} :
    ¬ Numeral digit? base ('+' :: rest) n := by
  intro numeral
  have digit := numeral.all '+' List.mem_cons_self
  simp [sign] at digit

/-- A numeral, where a plus sign is no digit, is read with and without the sign. -/
theorem number?_eq_some_iff (sign : digit? '+' = none) {text : List Char} {n : Nat} :
    number? digit? base text = some n ↔
      Numeral digit? base text n ∨ ∃ digits, text = '+' :: digits ∧ Numeral digit? base digits n := by
  unfold number?
  split
  · simp [numeral_iff]
  · constructor
    · intro read
      cases read
    · rintro (numeral | ⟨digits, same, numeral⟩)
      · exact absurd numeral (Numeral.unsigned sign)
      · obtain rfl : [] = digits := by simpa using same
        exact absurd rfl (numeral_iff.mp numeral).1
  · rename_i rest filled
    constructor
    · intro read
      exact Or.inr ⟨rest, rfl, numeral_iff.mpr ⟨by simpa using filled, read⟩⟩
    · rintro (numeral | ⟨digits, same, numeral⟩)
      · exact absurd numeral (Numeral.unsigned sign)
      · obtain rfl : rest = digits := by simpa using same
        exact (numeral_iff.mp numeral).2
  · rename_i filled _ plain
    constructor
    · intro read
      exact Or.inl (numeral_iff.mpr ⟨by simpa using filled, read⟩)
    · rintro (numeral | ⟨digits, same, numeral⟩)
      · exact (numeral_iff.mp numeral).2
      · exact absurd same (plain digits)

end Numerals

theorem scalar?_eq_some_iff {n : Nat} {c : Char} : scalar? n = some c ↔ c.toNat = n := by
  unfold scalar?
  constructor
  · intro read
    split at read
    · rename_i valid
      obtain rfl : Char.ofNat n = c := by simpa using read
      rw [Char.ofNat, dif_pos valid]
      rfl
    · cases read
  · rintro rfl
    have valid : c.toNat.isValidChar := c.valid
    rw [if_pos valid, Char.ofNat_toNat]

theorem named?_eq_some_iff {name : List Char} {c : Char} :
    named? name = some c ↔ (name, c) ∈ predefined := by
  unfold named?
  split_ifs <;> simp_all [predefined, eq_comm (b := c)]

/-- What is read of a number, with the digits that `digit?` takes. -/
theorem number_scalar_iff {digit? : Char → Option Nat} {base : Nat} (sign : digit? '+' = none)
    {text : List Char} {c : Char} :
    (number? digit? base text).bind scalar? = some c ↔
      ∃ digits, (text = digits ∨ text = '+' :: digits) ∧ Numeral digit? base digits c.toNat := by
  rw [Option.bind_eq_some_iff]
  constructor
  · rintro ⟨n, read, character⟩
    obtain rfl := scalar?_eq_some_iff.mp character
    rcases (number?_eq_some_iff sign).mp read with numeral | ⟨digits, same, numeral⟩
    · exact ⟨text, Or.inl rfl, numeral⟩
    · exact ⟨digits, Or.inr same, numeral⟩
  · rintro ⟨digits, same, numeral⟩
    refine ⟨c.toNat, (number?_eq_some_iff sign).mpr ?_, scalar?_eq_some_iff.mpr rfl⟩
    rcases same with rfl | rfl
    · exact Or.inl numeral
    · exact Or.inr ⟨digits, rfl, numeral⟩

theorem accepted_number_iff {rest : List Char} {c : Char} :
    Accepted ('#' :: rest) c ↔ Numbered [] ('#' :: rest) c ∨ Numbered ['+'] ('#' :: rest) c := by
  have unlisted : ('#' :: rest, c) ∉ predefined := by simp [predefined]
  constructor
  · rintro ((listed | number) | signed)
    · exact absurd listed unlisted
    · exact Or.inl number
    · exact Or.inr signed
  · rintro (number | signed)
    · exact Or.inl (.numbered number)
    · exact Or.inr signed

theorem numbered_hexadecimal_iff {sign : List Char} (shape : sign = [] ∨ sign = ['+']) {x : Char}
    (kind : x = 'x' ∨ x = 'X') {text : List Char} {c : Char} :
    Numbered sign ('#' :: x :: text) c ↔
      ∃ digits, text = sign ++ digits ∧ Numeral hexDigit? 16 digits c.toNat := by
  constructor
  · intro numbered
    generalize whole : '#' :: x :: text = name at numbered
    cases numbered with
    | @decimal digits _ number =>
      -- Neither the sign nor a decimal digit is an x.
      exfalso
      have first : x ∈ sign ++ digits := by simp [← (List.cons.inj whole).2]
      have digit : ∀ d ∈ digits, (decimalDigit? d).isSome := number.all
      rcases kind with rfl | rfl <;> rcases shape with rfl | rfl <;>
        simp at first <;> exact absurd (digit _ first) (by decide)
    | @hexadecimal _ digits _ _ number =>
      simp only [List.cons.injEq, true_and] at whole
      exact ⟨digits, whole.2, number⟩
  · rintro ⟨digits, rfl, number⟩
    exact .hexadecimal kind number

theorem numbered_decimal_iff {sign rest : List Char}
    (plain : ∀ x ∈ rest.head?, ¬ (x = 'x' ∨ x = 'X')) {c : Char} :
    Numbered sign ('#' :: rest) c ↔
      ∃ digits, rest = sign ++ digits ∧ Numeral decimalDigit? 10 digits c.toNat := by
  constructor
  · intro numbered
    generalize whole : '#' :: rest = name at numbered
    cases numbered with
    | @decimal digits _ number => exact ⟨digits, (List.cons.inj whole).2, number⟩
    | @hexadecimal x _ _ kind number =>
      obtain rfl := (List.cons.inj whole).2
      exact absurd kind (plain x rfl)
  · rintro ⟨digits, rfl, number⟩
    exact .decimal number

theorem char?_hexadecimal {x : Char} (kind : x = 'x' ∨ x = 'X') (text : List Char) :
    char? ('#' :: x :: text) = (number? hexDigit? 16 text).bind scalar? := by
  rcases kind with rfl | rfl <;> simp [char?, named?]

theorem char?_decimal {rest : List Char} (plain : ∀ x ∈ rest.head?, ¬ (x = 'x' ∨ x = 'X')) :
    char? ('#' :: rest) = (number? decimalDigit? 10 rest).bind scalar? := by
  have unnamed : named? ('#' :: rest) = none := by simp [named?]
  unfold char?
  rw [unnamed]
  cases rest with
  | nil => rfl
  | cons x rest =>
    obtain ⟨lower, upper⟩ := not_or.mp (plain x rfl)
    simp [lower, upper]

theorem char?_unnumbered {name : List Char} (plain : '#' ∉ name.head?) :
    char? name = named? name := by
  unfold char?
  cases named? name with
  | some c => rfl
  | none =>
    cases name with
    | nil => rfl
    | cons first rest =>
      have other : first ≠ '#' := by simpa using plain
      simp [other]

theorem char?_eq_some_iff {name : List Char} {c : Char} :
    char? name = some c ↔ Accepted name c := by
  by_cases number : '#' ∈ name.head?
  · obtain ⟨rest, rfl⟩ := List.head?_eq_some_iff.mp number
    rw [accepted_number_iff]
    by_cases hex : ∃ x ∈ rest.head?, x = 'x' ∨ x = 'X'
    · obtain ⟨x, first, kind⟩ := hex
      obtain ⟨text, rfl⟩ := List.head?_eq_some_iff.mp first
      rw [char?_hexadecimal kind, number_scalar_iff (by decide),
        numbered_hexadecimal_iff (Or.inl rfl) kind, numbered_hexadecimal_iff (Or.inr rfl) kind]
      simp only [or_and_right, exists_or, List.nil_append, List.singleton_append]
    · have plain : ∀ x ∈ rest.head?, ¬ (x = 'x' ∨ x = 'X') := fun x first kind =>
        hex ⟨x, first, kind⟩
      rw [char?_decimal plain, number_scalar_iff (by decide), numbered_decimal_iff plain,
        numbered_decimal_iff plain]
      simp only [or_and_right, exists_or, List.nil_append, List.singleton_append]
  · rw [char?_unnumbered number, named?_eq_some_iff]
    constructor
    · intro listed
      exact Or.inl (.named listed)
    · rintro ((listed | (_ | _)) | (_ | _))
      · exact listed
      all_goals exact absurd rfl number

theorem Numbered.plain {sign name : List Char} (shape : sign = [] ∨ sign = ['+']) {c : Char}
    (numbered : Numbered sign name c) : '&' ∉ name ∧ ';' ∉ name := by
  have decimal : decimalDigit? '&' = none ∧ decimalDigit? ';' = none := by decide
  have hexadecimal : hexDigit? '&' = none ∧ hexDigit? ';' = none := by decide
  cases numbered with
  | decimal number =>
    have ampersand := number.all '&'
    have semicolon := number.all ';'
    rcases shape with rfl | rfl <;> simp_all
  | hexadecimal kind number =>
    have ampersand := number.all '&'
    have semicolon := number.all ';'
    rcases shape with rfl | rfl <;> rcases kind with rfl | rfl <;> simp_all

theorem Refers.plain {name : List Char} {c : Char} (refers : Refers name c) :
    '&' ∉ name ∧ ';' ∉ name := by
  cases refers with
  | named listed =>
    have all : ∀ entry ∈ predefined, '&' ∉ entry.1 ∧ ';' ∉ entry.1 := by decide
    exact all _ listed
  | numbered number => exact number.plain (Or.inl rfl)

theorem Accepted.plain {name : List Char} {c : Char} (accepted : Accepted name c) :
    '&' ∉ name ∧ ';' ∉ name :=
  accepted.elim Refers.plain fun signed => signed.plain (Or.inr rfl)

/-- A name is known from the text that it starts, since it has no semicolon. -/
theorem name_unique {first second rest after : List Char} (plain : ';' ∉ first)
    (other : ';' ∉ second) (same : first ++ ';' :: rest = second ++ ';' :: after) :
    first = second := by
  have taken := congrArg (List.takeWhile (· ≠ ';')) same
  have whole : ∀ name tail : List Char, ';' ∉ name →
      (name ++ ';' :: tail).takeWhile (· ≠ ';') = name := by
    intro name tail absent
    rw [List.takeWhile_append_of_pos]
    · simp
    · intro c member
      simpa using fun same : c = ';' => absent (same ▸ member)
  rwa [whole first rest plain, whole second after other] at taken

theorem decodeFrom_of_unended {rest : List Char} (unended : ';' ∉ rest) (name : List Char) :
    decodeFrom (some name) rest = none := by
  induction rest generalizing name with
  | nil => rfl
  | cons c rest ih =>
    simp only [List.mem_cons, not_or] at unended
    simp only [decodeFrom, Ne.symm unended.1, ↓reduceIte]
    exact ih unended.2 _

/-- Induction over a text, where any shorter text may be what follows a reference. -/
@[elab_as_elim]
theorem text_induction {motive : List Char → Prop} (nil : motive [])
    (plain : ∀ c rest, c ≠ '&' → motive rest → motive (c :: rest))
    (ampersand : ∀ rest, (∀ after, after.length ≤ rest.length → motive after) →
      motive ('&' :: rest)) (text : List Char) : motive text := by
  induction length : text.length using Nat.strongRecOn generalizing text with
  | ind n ih =>
    subst length
    cases text with
    | nil => exact nil
    | cons c rest =>
      by_cases starts : c = '&'
      · subst starts
        apply ampersand rest
        intro after short
        exact ih after.length (Nat.lt_succ_of_le short) after rfl
      · exact plain c rest starts (ih rest.length (Nat.lt_succ_self _) rest rfl)

theorem standsFor_of_decode {text out : List Char} (decoded : decode text = some out) :
    StandsFor Accepted text out := by
  induction text using text_induction generalizing out with
  | nil =>
    obtain rfl : [] = out := by simpa [decode_nil] using decoded
    exact .nil
  | plain c rest other ih =>
    rw [decode_cons_plain c rest other] at decoded
    obtain ⟨more, later, rfl⟩ := Option.map_eq_some_iff.mp decoded
    exact .plain other (ih later)
  | ampersand rest ih =>
    by_cases ended : ';' ∈ rest
    · obtain ⟨name, after, rfl, plain⟩ := List.eq_append_cons_of_mem ended
      rw [decode_reference name after plain] at decoded
      obtain ⟨d, character, tail⟩ := Option.bind_eq_some_iff.mp decoded
      obtain ⟨more, later, rfl⟩ := Option.map_eq_some_iff.mp tail
      have short : after.length ≤ (name ++ ';' :: after).length := by
        simp only [List.length_append, List.length_cons]
        omega
      exact .reference (char?_eq_some_iff.mp character) (ih after short later)
    · have refused : decode ('&' :: rest) = none := decodeFrom_of_unended ended []
      rw [refused] at decoded
      cases decoded

theorem decode_eq_some_iff {text out : List Char} :
    decode text = some out ↔ StandsFor Accepted text out := by
  constructor
  · exact standsFor_of_decode
  · intro stands
    induction stands with
    | nil => rfl
    | plain other rest ih => rw [decode_cons_plain _ _ other, ih, Option.map_some]
    | reference refer rest ih =>
      rw [decode_reference _ _ refer.plain.2, char?_eq_some_iff.mpr refer, Option.bind_some, ih,
        Option.map_some]

theorem StandsFor.mono {refers wider : List Char → Char → Prop}
    (sub : ∀ name c, refers name c → wider name c) {text out : List Char}
    (stands : StandsFor refers text out) : StandsFor wider text out := by
  induction stands with
  | nil => exact .nil
  | plain other rest ih => exact .plain other ih
  | reference refer rest ih => exact .reference (sub _ _ refer) ih

section EachStarts
variable {refers : List Char → Char → Prop}

theorem StandsFor.eachStarts (plain : ∀ name c, refers name c → '&' ∉ name)
    {text out : List Char} (stands : StandsFor refers text out) : EachStarts refers text := by
  induction stands with
  | nil =>
    intro before after same
    simp at same
  | plain other rest ih =>
    intro before after same
    cases before with
    | nil => exact absurd (List.cons.inj same).1 other
    | cons c before => exact ih before after (List.cons.inj same).2
  | @reference name text out c refer rest ih =>
    intro before after same
    cases before with
    | nil => exact ⟨name, c, text, (List.cons.inj same).2.symm, refer⟩
    | cons first before =>
      -- A later ampersand is neither in the name nor its semicolon, so it is in the rest.
      have inside := (List.cons.inj same).2
      rcases List.append_eq_append_iff.mp inside with ⟨middle, rfl, tail⟩ | ⟨middle, rfl, tail⟩
      · cases middle with
        | nil =>
          have ampersand := (List.cons.inj tail).1
          contradiction
        | cons last middle => exact ih middle after (List.cons.inj tail).2
      · cases middle with
        | nil =>
          have ampersand := (List.cons.inj tail).1
          contradiction
        | cons last middle =>
          obtain rfl := (List.cons.inj tail).1
          exact absurd (by simp) (plain _ _ refer)

theorem EachStarts.tail {before text : List Char} (each : EachStarts refers (before ++ text)) :
    EachStarts refers text := by
  intro front after same
  exact each (before ++ front) after (by rw [same, List.append_assoc])

theorem EachStarts.standsFor {text : List Char} (each : EachStarts refers text) :
    ∃ out, StandsFor refers text out := by
  induction text using text_induction with
  | nil => exact ⟨[], .nil⟩
  | plain c rest other ih =>
    have later : EachStarts refers ([c] ++ rest) := each
    obtain ⟨out, stands⟩ := ih later.tail
    exact ⟨c :: out, .plain other stands⟩
  | ampersand rest ih =>
    obtain ⟨name, d, after, rfl, refer⟩ := each [] rest rfl
    have split : '&' :: (name ++ ';' :: after) = ('&' :: (name ++ [';'])) ++ after := by simp
    have short : after.length ≤ (name ++ ';' :: after).length := by
      simp only [List.length_append, List.length_cons]
      omega
    obtain ⟨out, stands⟩ := ih after short (split ▸ each).tail
    exact ⟨d :: out, .reference refer stands⟩

end EachStarts

theorem Refers.unsigned {name : List Char} {c d : Char} (refers : Refers name c) :
    ¬ Numbered ['+'] name d := by
  intro signed
  have number : Numbered [] name c := by
    cases refers with
    | named listed =>
      exfalso
      cases signed <;> simp [predefined] at listed
    | numbered number => exact number
  cases signed with
  | @decimal written _ _ =>
    obtain ⟨digits, same, numeral⟩ := (numbered_decimal_iff (by simp)).mp number
    obtain rfl : '+' :: written = digits := same
    exact Numeral.unsigned rfl numeral
  | @hexadecimal _ written _ kind _ =>
    obtain ⟨digits, same, numeral⟩ := (numbered_hexadecimal_iff (Or.inl rfl) kind).mp number
    obtain rfl : '+' :: written = digits := same
    exact Numeral.unsigned rfl numeral

theorem EachStarts.unsigned {text : List Char} (each : EachStarts Refers text) :
    Unsigned text := by
  intro before name after same c signed
  obtain ⟨other, d, rest, split, refers⟩ := each before _ same
  have plain := (signed.plain (Or.inr rfl)).2
  obtain rfl := name_unique plain refers.plain.2 split
  exact refers.unsigned signed

/-- Where no number has a sign, what is accepted are references. -/
theorem StandsFor.refers {text out : List Char} (stands : StandsFor Accepted text out)
    (unsigned : Unsigned text) : StandsFor Refers text out := by
  induction stands with
  | nil => exact .nil
  | @plain c text out other rest ih =>
    refine .plain other (ih ?_)
    intro before name after same
    exact unsigned (c :: before) name after (by rw [same]; rfl)
  | @reference name text out c refer rest ih =>
    have referred : Refers name c := by
      rcases refer with refers | signed
      · exact refers
      · exact absurd signed (unsigned [] name text rfl c)
    refine .reference referred (ih ?_)
    intro before inner after same
    exact unsigned ('&' :: (name ++ ';' :: before)) inner after (by rw [same]; simp)

theorem standsFor_refers_iff {text out : List Char} :
    StandsFor Refers text out ↔ decode text = some out ∧ Unsigned text := by
  constructor
  · intro stands
    have each := stands.eachStarts fun _ _ refers => refers.plain.1
    exact ⟨decode_eq_some_iff.mpr (stands.mono fun _ _ => Or.inl), each.unsigned⟩
  · rintro ⟨decoded, unsigned⟩
    exact (decode_eq_some_iff.mp decoded).refers unsigned

theorem eachStarts_refers_iff {text : List Char} :
    EachStarts Refers text ↔ (decode text).isSome ∧ Unsigned text := by
  constructor
  · intro each
    obtain ⟨out, stands⟩ := each.standsFor
    obtain ⟨decoded, unsigned⟩ := standsFor_refers_iff.mp stands
    exact ⟨by simp [decoded], unsigned⟩
  · rintro ⟨some, unsigned⟩
    obtain ⟨out, decoded⟩ := Option.isSome_iff_exists.mp some
    exact (standsFor_refers_iff.mpr ⟨decoded, unsigned⟩).eachStarts fun _ _ refers => refers.plain.1

/-- A text decodes to what it stands for, and it decodes if each of its ampersands starts what
    is accepted as a reference. Of the references proper this holds of just the texts without
    a signed number: they decode if each ampersand starts a reference, and to what they then
    stand for. -/
theorem decode_by_references (text : List Char) :
    (∀ out, decode text = some out ↔ StandsFor Accepted text out) ∧
    ((decode text).isSome ↔ EachStarts Accepted text) ∧
    (∀ out, StandsFor Refers text out ↔ decode text = some out ∧ Unsigned text) ∧
    (EachStarts Refers text ↔ (decode text).isSome ∧ Unsigned text) := by
  refine ⟨fun out => decode_eq_some_iff, ?_, fun out => standsFor_refers_iff, eachStarts_refers_iff⟩
  rw [Option.isSome_iff_exists]
  constructor
  · rintro ⟨out, decoded⟩
    exact (decode_eq_some_iff.mp decoded).eachStarts fun _ _ accepted => accepted.plain.1
  · intro each
    obtain ⟨out, stands⟩ := each.standsFor
    exact ⟨out, decode_eq_some_iff.mpr stands⟩

theorem signed_number_is_decoded :
    decode "&#+65;".toList = some ['A'] ∧ ¬ EachStarts Refers "&#+65;".toList := by
  constructor
  · decide
  · intro each
    have numeral : Numeral decimalDigit? 10 ['6', '5'] 'A'.toNat  :=
      numeral_iff.mpr ⟨by decide, by decide⟩
    exact each.unsigned [] "#+65".toList [] rfl 'A' (.decimal numeral)

end ExampleProbes.Reference
