import ExampleProbes.Command.SettingsReader
import ExampleProbes.Proofs.Json.WrittenObjects

/-!
Settings that were written are read again, in either form and with white space behind them.
-/
namespace ExampleProbes.Settings
open Json

/-- All durations are words. -/
structure Words (settings : Settings) : Prop where
  timeout : settings.timeout ≤ maxWord
  initialPushDelay : settings.initialPushDelay ≤ maxWord
  pushInterval : settings.pushInterval ≤ maxWord
  displayTimeout : settings.displayTimeout ≤ maxWord

/-- A draft with one more of the given settings. -/
def Draft.put (settings : Settings) (draft : Draft) : Field → Draft
  | .timeout => { draft with timeout := some settings.timeout }
  | .initialPushDelay => { draft with initialPushDelay := some settings.initialPushDelay }
  | .pushInterval => { draft with pushInterval := some settings.pushInterval }
  | .displayTimeout => { draft with displayTimeout := some settings.displayTimeout }
  | .notificationMethod => { draft with notificationMethod := some settings.notificationMethod }

theorem Draft.has_put (settings : Settings) (draft : Draft) {field other : Field}
    (distinct : other ≠ field) : (draft.put settings field).has other = draft.has other := by
  cases field <;> cases other <;> simp [put, has] at distinct ⊢

/-- Once all fields are put, none has its standing value. -/
theorem Draft.complete_put (settings : Settings) :
    (Field.all.foldl (Draft.put settings) {}).complete = settings := rfl

theorem not_isGap_of_isDigit {b : UInt8} (digit : isDigit b) : ¬ isGap b :=
  fun space => (endsNumber_of_isGap space).1 digit

section Values
variable (source : Source) {c : Cursor} {gap rest : List UInt8} (space : Gap gap)
include space

theorem readWord_written {n : Nat} (word : n ≤ maxWord) (ends : EndsNumber rest)
    (ahead : c.rest = gap ++ (bytesOf (toString n) ++ rest)) :
    ∃ after, readWord source c = .ok (n, after) ∧ after.rest = rest := by
  obtain ⟨b, later, written, digit⟩ := exists_first_digit n
  rw [← bytesOf_toString] at written
  have here : c.gap.rest = bytesOf (toString n) ++ rest := by
    rw [written] at ahead ⊢
    exact gap_rest_cons space (not_isGap_of_isDigit digit) ahead
  obtain ⟨after, read, left⟩ := Cursor.number_written ends here word source
  refine ⟨after, ?_, left⟩
  rw [written] at here
  simp [readWord, here, digit, read]

theorem readText_written {text : String}
    (ahead : c.rest = gap ++ (bytesOf (quoted text) ++ rest)) :
    ∃ after, readText source c = .ok (text, after) ∧ after.rest = rest := by
  have here : c.gap.rest = bytesOf (quoted text) ++ rest := by
    rw [bytesOf_quoted] at ahead ⊢
    exact gap_rest_cons space (by decide) ahead
  obtain ⟨after, read, left⟩ := Cursor.string_written here
  refine ⟨after, ?_, left⟩
  rw [bytesOf_quoted] at here
  simp [readText, here, read]

theorem readField_written {settings : Settings} (words : settings.Words) (draft : Draft)
    (field : Field) (ends : EndsNumber rest)
    (ahead : c.rest = gap ++ (bytesOf (settings.value field).compact ++ rest)) :
    ∃ after, readField source draft field c = .ok (draft.put settings field, after) ∧
      after.rest = rest := by
  have readWord {n : Nat} (word : n ≤ maxWord)
      (ahead : c.rest = gap ++ (bytesOf (duration n).compact ++ rest)) :
      ∃ after, readWord source c = .ok (n, after) ∧ after.rest = rest := by
    rw [duration, Nat.min_eq_left word] at ahead
    exact readWord_written source space word ends ahead
  cases field with
  | timeout =>
    obtain ⟨after, read, left⟩ := readWord words.timeout ahead
    exact ⟨after, by simp [readField, read, Except.map, Draft.put], left⟩
  | initialPushDelay =>
    obtain ⟨after, read, left⟩ := readWord words.initialPushDelay ahead
    exact ⟨after, by simp [readField, read, Except.map, Draft.put], left⟩
  | pushInterval =>
    obtain ⟨after, read, left⟩ := readWord words.pushInterval ahead
    exact ⟨after, by simp [readField, read, Except.map, Draft.put], left⟩
  | displayTimeout =>
    obtain ⟨after, read, left⟩ := readWord words.displayTimeout ahead
    exact ⟨after, by simp [readField, read, Except.map, Draft.put], left⟩
  | notificationMethod =>
    obtain ⟨after, read, left⟩ := readText_written source space ahead
    exact ⟨after, by simp [readField, read, Except.map, Draft.put], left⟩

end Values

def entries (settings : Settings) (fields : List Field) : List (String × Json) :=
  fields.map fun field => (field.key, settings.value field)

section Objects
variable (source : Source) {settings : Settings} (words : settings.Words) (layout : Layout)
include words

/-- Fields are read in whatever order they were written, each of them once. -/
theorem readNamed_written {fields : List Field} (distinct : fields.Nodup) {draft : Draft}
    (missing : ∀ field ∈ fields, draft.has field = false) {first : Bool} {c : Cursor}
    {rest : List UInt8} {fuel : Nat} (enough : fields.length < fuel)
    (ahead : c.rest = layout.fields first (settings.entries fields) ++
      (layout.beforeEnd ++ 0x7D :: rest)) :
    ∃ after, readNamed source fuel draft first c =
        .ok (fields.foldl (Draft.put settings) draft, after) ∧
      after.rest = layout.beforeEnd ++ 0x7D :: rest := by
  -- The fields still to come are those that the draft does not have yet, so none is refused.
  induction fields generalizing draft first c fuel with
  | nil =>
    obtain ⟨fuel, rfl⟩ := Nat.exists_eq_succ_of_ne_zero (Nat.ne_of_gt enough)
    refine ⟨c, ?_, ahead⟩
    rw [readNamed, nextKey_last layout.gap_beforeEnd ahead]
    rfl
  | cons field more ih =>
    obtain ⟨fuel, rfl⟩ := Nat.exists_eq_succ_of_ne_zero (Nat.ne_of_gt (Nat.zero_lt_of_lt enough))
    obtain ⟨new, distinct⟩ := List.nodup_cons.mp distinct
    obtain ⟨absent, others⟩ := List.forall_mem_cons.mp missing
    have missing : ∀ other ∈ more, (draft.put settings field).has other = false := by
      intro other member
      have different : other ≠ field := fun same => new (same ▸ member)
      rw [Draft.has_put settings draft different]
      exact others other member
    simp only [entries, List.map_cons, Layout.fields, List.append_assoc] at ahead
    obtain ⟨named, key, behindKey⟩ := layout.nextKey_written (by
      simpa only [List.append_assoc] using ahead)
    obtain ⟨value, colon, behindColon⟩ := colon_written behindKey
    obtain ⟨next, read, behindValue⟩ := readField_written source layout.gap_beforeValue words
      draft field (layout.endsNumber_fields _ rest) behindColon
    obtain ⟨after, later, left⟩ := ih distinct missing (Nat.lt_of_succ_lt_succ enough) behindValue
    refine ⟨after, ?_, left⟩
    rw [readNamed, key]
    simp [bind, Except.bind, Field.ofKey?_key, absent, colon, read, later]

theorem readSettings_written {rest : List UInt8} {c : Cursor}
    (ahead : c.rest = layout.object (settings.entries Field.all) ++ rest) :
    ∃ after, readSettings source c = .ok (settings, after) ∧ after.rest = rest := by
  simp only [Layout.object, List.append_assoc, List.cons_append, List.nil_append] at ahead
  have opens := gap_rest_same (by decide) ahead
  have missing : ∀ field ∈ Field.all, ({} : Draft).has field = false := by decide
  have enough : Field.all.length < c.gap.rest.length + 1 := by
    have long := layout.length_le_fields true (settings.entries Field.all)
    rw [entries, List.length_map, ← entries] at long
    simp only [opens, List.length_cons, List.length_append]
    omega
  obtain ⟨filled, read, last⟩ := readNamed_written source words layout (by decide) missing enough
    (skip_rest opens)
  obtain ⟨after, closed, left⟩ := endObject_written layout.gap_beforeEnd last
  refine ⟨after, ?_, left⟩
  simp only [opens, List.length_cons, List.length_append] at read
  simp [readSettings, opens, read, closed, bind, Except.bind, pure, Except.pure,
    Draft.complete_put]

theorem read_written {trailing : List UInt8} (space : Gap trailing) :
    read source (layout.object (settings.entries Field.all) ++ trailing) = .ok settings := by
  obtain ⟨after, found, left⟩ := readSettings_written source words layout
    (c := .start (layout.object (settings.entries Field.all) ++ trailing)) rfl
  rw [read, found]
  simp only [bind, Except.bind, finish_written (left ▸ space)]
  rfl

end Objects

section Forms
variable (settings : Settings)

theorem bytesOf_compact :
    bytesOf settings.toJson.compact = Layout.compact.object (settings.entries Field.all) :=
  bytesOf_compact_object _

theorem bytesOf_pretty :
    bytesOf settings.toJson.pretty = Layout.indented.object (settings.entries Field.all) := by
  apply bytesOf_pretty_object
  intro entry member
  obtain ⟨field, _, rfl⟩ := List.mem_map.mp (show entry ∈ settings.entries Field.all from member)
  cases field with
  | notificationMethod => exact isPlainValue_string _
  | _ => exact isPlainValue_int _

end Forms

section Texts
variable (source : Source) {settings : Settings} (words : settings.Words) {trailing : List UInt8}
  (space : Gap trailing)
include words space

theorem read_compact :
    read source (bytesOf settings.toJson.compact ++ trailing) = .ok settings := by
  rw [bytesOf_compact]
  exact read_written source words Layout.compact space

theorem read_pretty :
    read source (bytesOf settings.toJson.pretty ++ trailing) = .ok settings := by
  rw [bytesOf_pretty]
  exact read_written source words Layout.indented space

end Texts

end ExampleProbes.Settings
