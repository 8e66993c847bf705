import ExampleProbes.Terminal.Response
import ExampleProbes.Proofs.Command.AcceptedSettings

/-!
Settings that were written are the same settings when they are read again, so that what one
invocation prints as its settings may be given to the next one as its settings file, which then
prints the same.
-/
namespace ExampleProbes
open Json

namespace Settings
variable {settings : Settings}

theorem ofText_eq_ok_iff {text : String} :
    ofText text = .ok settings ↔ read .text (bytesOf text) = .ok settings := by
  unfold ofText bytesOf
  cases read .text text.toUTF8.data.toList <;> simp

theorem ofFile_eq_ok_iff {bytes : List UInt8} :
    ofFile bytes = .ok settings ↔ read .stream bytes = .ok settings := by
  unfold ofFile
  cases read .stream bytes <;> simp

theorem ofText_compact (words : settings.Words) :
    ofText settings.toJson.compact = .ok settings := by
  have found := read_compact .text words (by decide : Gap [])
  rw [List.append_nil] at found
  exact ofText_eq_ok_iff.mpr found

theorem ofText_pretty (words : settings.Words) : ofText settings.toJson.pretty = .ok settings := by
  have found := read_pretty .text words (by decide : Gap [])
  rw [List.append_nil] at found
  exact ofText_eq_ok_iff.mpr found

/-- The line that settings are printed in is a file of these settings. -/
theorem ofFile_printed (words : settings.Words) :
    ofFile (bytesOf (settings.toJson.pretty ++ "\n")) = .ok settings := by
  have newline : Gap (bytesOf "\n") := by decide
  rw [bytesOf_append]
  exact ofFile_eq_ok_iff.mpr (read_pretty .stream words newline)

end Settings

namespace Terminal
variable {files : String → FileContent} {path : Option String} {settings : Settings}

theorem words_of_settingsFor (found : settingsFor files path = .ok settings) : settings.Words := by
  cases path with
  | none =>
    obtain rfl := Except.ok.inj found
    exact Settings.words_standing
  | some path =>
    simp only [settingsFor, settingsOf] at found
    split at found
    · exact Settings.words_of_read (Settings.ofFile_eq_ok_iff.mp found)
    · cases found
    · cases found

/-- The settings of an invocation were accepted, and their durations are words. -/
theorem of_effectiveSettings (found : effectiveSettings files path = .ok settings) :
    settings.Words ∧ settings.valid = .ok () := by
  obtain ⟨loaded, read, found⟩ := bind_eq_ok found
  obtain ⟨_, valid, same⟩ := bind_eq_ok found
  obtain rfl := Except.ok.inj same
  exact ⟨words_of_settingsFor read, valid⟩

/-- An invocation that prints settings prints accepted ones. -/
theorem of_respond_config (answered : (respond files (.ok (.config path))).code = 0) :
    ∃ settings : Settings, settings.Words ∧ settings.valid = .ok () ∧
      respond files (.ok (.config path)) = .line settings.toJson.pretty := by
  cases found : effectiveSettings files path with
  | error failure =>
    simp [respond, Request.answer, found, Except.mapError, Except.map, Response.refused] at answered
  | ok settings =>
    obtain ⟨words, valid⟩ := of_effectiveSettings found
    refine ⟨settings, words, valid, ?_⟩
    simp [respond, Request.answer, found, Except.mapError, Except.map]

theorem respond_of_printed {copy : String} (words : settings.Words)
    (valid : settings.valid = .ok ())
    (kept : (files copy).bytes = .ok (bytesOf (settings.toJson.pretty ++ "\n"))) :
    respond files (.ok (.config (some copy))) = .line settings.toJson.pretty := by
  have loaded : settingsFor files (some copy) = .ok settings := by
    rw [settingsFor, kept]
    exact Settings.ofFile_printed words
  have found : effectiveSettings files (some copy) = .ok settings := by
    rw [effectiveSettings, loaded]
    simp only [bind, Except.bind, valid]
    rfl
  simp [respond, Request.answer, found, Except.mapError, Except.map]

/-! ## The option for the settings file -/

/-- The arguments that name a settings file, by the word or by its letter. -/
inductive Names (copy : String) : List String → Prop where
  | equals : Names copy ["--config=" ++ copy]
  | letterEquals : Names copy ["-c=" ++ copy]
  | letter (behind : copy.toList.head? ≠ some '=') : Names copy ["-c" ++ copy]
  | next (word : Token.of copy = .word copy) : Names copy ["--config", copy]
  | letterNext (word : Token.of copy = .word copy) : Names copy ["-c", copy]

/-- What an argument means that gives the settings file, or asks for it in the next one. -/
def Token.isConfig (value : Option String) (token : Token) : Prop :=
  token = .long "config" value ∨ token = .short 'c' value

theorem Token.of_equals (copy : String) :
    Token.of ("--config=" ++ copy) = .long "config" (some copy) := by
  have letters : ("--config=" ++ copy).toList =
      ['-', '-', 'c', 'o', 'n', 'f', 'i', 'g', '='] ++ copy.toList := by
    rw [String.toList_append]
    rfl
  simp [Token.of, letters, valueAfterEquals]

theorem Token.of_letterEquals (copy : String) :
    Token.of ("-c=" ++ copy) = .short 'c' (some copy) := by
  have letters : ("-c=" ++ copy).toList = ['-', 'c', '='] ++ copy.toList := by
    rw [String.toList_append]
    rfl
  simp [Token.of, letters, valueAfterLetter]

section Option
variable {copy : String} (named : copy ≠ "")
include named

theorem Token.of_letter (behind : copy.toList.head? ≠ some '=') :
    Token.of ("-c" ++ copy) = .short 'c' (some copy) := by
  have letters : ("-c" ++ copy).toList = ['-', 'c'] ++ copy.toList := by
    rw [String.toList_append]
    rfl
  have value : valueAfterLetter copy.toList = some copy := by
    unfold valueAfterLetter
    split
    · rename_i none
      exact absurd (String.toList_eq_nil_iff.mp none) named
    · rename_i rest equals
      rw [equals] at behind
      exact absurd rfl behind
    · rw [String.ofList_toList]
  simp [Token.of, letters, value]

section Read
variable (verb : Option Verb) {given : Given} (fresh : given.config = none)
include fresh

theorem choose_config : given.choose .config copy = .ok { given with config := some copy } := by
  simp [Given.choose, Given.get, Given.put, fresh, named]

omit named fresh in
theorem meaning_config {token : Token} {value : Option String} (config : token.isConfig value) :
    meaning verb token = .ok .config ∧ attached token = value := by
  obtain rfl | rfl := config
  · obtain _ | _ | _ | _ := verb <;> exact ⟨rfl, rfl⟩
  · obtain _ | _ | _ | _ := verb <;> exact ⟨rfl, rfl⟩

theorem readFrom_attached {argument : String} (config : (Token.of argument).isConfig (some copy))
    (later : List String) : readFrom verb none given (argument :: later) =
      readFrom verb none { given with config := some copy } later := by
  obtain ⟨option, value⟩ := meaning_config verb config
  have chosen := choose_config named fresh
  rw [readFrom.eq_def]
  obtain token | token := config <;> simp only [token] at option value ⊢ <;>
    simp only [option, value, chosen]

theorem readFrom_next {argument : String} (config : (Token.of argument).isConfig none)
    (word : Token.of copy = .word copy) (later : List String) :
    readFrom verb none given (argument :: copy :: later) =
      readFrom verb none { given with config := some copy } later := by
  obtain ⟨option, value⟩ := meaning_config verb config
  have chosen := choose_config named fresh
  have takes : readFrom verb (some .config) given (copy :: later) =
      readFrom verb none { given with config := some copy } later := by
    rw [readFrom.eq_def]
    simp only [word, chosen]
  rw [readFrom.eq_def]
  obtain token | token := config <;> simp only [token] at option value ⊢ <;>
    simp only [option, value, takes]

theorem readFrom_config {option : List String} (names : Names copy option) (later : List String) :
    readFrom verb none given (option ++ later) =
      readFrom verb none { given with config := some copy } later := by
  cases names with
  | equals => exact readFrom_attached named verb fresh (.inl (Token.of_equals copy)) later
  | letterEquals =>
    exact readFrom_attached named verb fresh (.inr (Token.of_letterEquals copy)) later
  | letter behind =>
    exact readFrom_attached named verb fresh (.inr (Token.of_letter named behind)) later
  | next word => exact readFrom_next named verb fresh (.inl rfl) word later
  | letterNext word => exact readFrom_next named verb fresh (.inr rfl) word later

end Read

/-- The settings file may be named in front of the command and behind it. -/
theorem Request.of_config {environment : Option String} (usable : environment ≠ some "")
    {option arguments : List String} (names : Names copy option)
    (given : arguments = option ++ ["config"] ∨ arguments = "config" :: option) :
    Request.of arguments environment = .ok (.config (some copy)) := by
  have front : nonempty environment := by simpa [nonempty] using usable
  have own : nonempty (some copy) := by simpa [nonempty] using named
  obtain rfl | rfl := given
  · have general : readFrom none none {} (option ++ ["config"]) =
        .ok ({ config := some copy }, some (.config, [])) := by
      rw [readFrom_config named none rfl names]
      rfl
    rw [Request.of, general]
    simp [bind, Except.bind, readFrom, front, own, requestOf]
  · have special : readFrom (some .config) none {} option =
        .ok ({ config := some copy }, none) := by
      have fresh : ({} : Given).config = none := rfl
      have reads := readFrom_config named (some .config) fresh names []
      rw [List.append_nil] at reads
      rw [reads]
      rfl
    have general : readFrom none none {} ("config" :: option) =
        .ok ({}, some (.config, option)) := rfl
    rw [Request.of, general]
    simp [bind, Except.bind, special, front, own, requestOf]

end Option

end Terminal

open Terminal in
/-- Settings are read back from either form that they are written in, with whatever method they
name. So accepted settings are accepted again as written, under the same judgement, and what an
invocation prints as its settings makes any later one print the same, given as its settings file,
in whichever way its arguments name that file. -/
theorem Settings.read_back_as_written :
    (∀ settings : Settings, settings.Words →
      ofText settings.toJson.compact = .ok settings ∧
      ofText settings.toJson.pretty = .ok settings) ∧
    (∀ (text : String) (settings : Settings), ofText text = .ok settings →
      ∀ again ∈ [settings.toJson.compact, settings.toJson.pretty],
        ofText again = .ok settings ∧
        (ofText again).map validate = (ofText text).map validate) ∧
    (∀ (files later : String → FileContent) (path : Option String) (copy : String)
        (environment : Option String) (arguments : List String),
      (respond files (.ok (.config path))).code = 0 →
      (later copy).bytes = .ok (bytesOf (respond files (.ok (.config path))).out) →
      Request.of arguments environment = .ok (.config (some copy)) →
      respond later (Request.of arguments environment) = respond files (.ok (.config path))) ∧
    ∀ (copy : String) (environment : Option String) (option arguments : List String),
      copy ≠ "" → environment ≠ some "" → Names copy option →
      (arguments = option ++ ["config"] ∨ arguments = "config" :: option) →
      Request.of arguments environment = .ok (.config (some copy)) := by
  refine ⟨fun settings words => ⟨ofText_compact words, ofText_pretty words⟩, ?_, ?_, ?_⟩
  · intro text settings accepted again written
    have words := words_of_read (ofText_eq_ok_iff.mp accepted)
    have same : ofText again = .ok settings := by
      obtain rfl | rfl : again = settings.toJson.compact ∨ again = settings.toJson.pretty := by
        simpa using written
      · exact ofText_compact words
      · exact ofText_pretty words
    exact ⟨same, by rw [same, accepted]⟩
  · intro files later path copy environment arguments answered kept asked
    obtain ⟨settings, words, valid, printed⟩ := of_respond_config answered
    rw [printed] at kept ⊢
    rw [asked]
    exact respond_of_printed words valid kept
  · intro copy environment option arguments named usable names given
    exact Request.of_config named usable names given

/-- The longest duration, and a method of quotes, slashes, controls and a letter of two bytes. -/
def Settings.unusual : Settings where
  timeout := maxWord
  notificationMethod := "\x22\\\n\x01\x7f\u00e9"

open Terminal in
theorem Settings.unusual_read_back :
    let text := "\x7b\"push_interval\":0,\"x\":[1.5]\x7d"
    let missing : String → FileContent := fun _ => ⟨.error .missing, .error .missing⟩
    let copied : String → FileContent := fun _ =>
      ⟨.ok (bytesOf (respond missing (.ok (.config none))).out), .error .missing⟩
    Settings.unusual.Words ∧ ofText Settings.unusual.toJson.pretty = .ok Settings.unusual ∧
    ofText text = .ok { pushInterval := 0 } ∧
    ofText ({ pushInterval := 0 } : Settings).toJson.compact = .ok { pushInterval := 0 } ∧
    (respond missing (.ok (.config none))).code = 0 ∧
    respond copied (Request.of ["--config=copy.json", "config"] none) =
      respond missing (.ok (.config none)) ∧
    respond copied (Request.of ["config", "-c", "copy.json"] none) =
      respond missing (.ok (.config none)) := by
  intro text missing copied
  obtain ⟨written, accepted, printed, asked⟩ := Settings.read_back_as_written
  have words : Settings.unusual.Words := ⟨by decide, by decide, by decide, by decide⟩
  have found : ofText text = .ok { pushInterval := 0 } := by decide +kernel
  have answered : (respond missing (.ok (.config none))).code = 0 := rfl
  have front := asked "copy.json" none _ ["--config=copy.json", "config"] (by decide) (by decide)
    .equals (Or.inl rfl)
  have behind := asked "copy.json" none _ ["config", "-c", "copy.json"] (by decide) (by decide)
    (.letterNext rfl) (Or.inr rfl)
  refine ⟨words, (written Settings.unusual words).2, found, ?_, answered, ?_, ?_⟩
  · exact (accepted text _ found _ (by simp)).1
  · exact printed missing copied none "copy.json" none _ answered rfl front
  · exact printed missing copied none "copy.json" none _ answered rfl behind

end ExampleProbes
