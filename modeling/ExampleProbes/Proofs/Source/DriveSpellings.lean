import Mathlib
import ExampleProbes.Source.DriveLetter

/-!
Which addresses name the same document. An address on a drive consists of a start that gives
the drive letter and of a path behind it. Two such addresses are the same document just if
their letters agree up to case and their paths are equal; any other address is the same
document only as itself.
-/
namespace ExampleProbes

/-- An address on the drive `letter`, whose colon is plain or encoded, with `path` behind the
    slash that follows it. -/
structure OnDrive (uri : String) (letter : Char) (path : String) : Prop where
  isLetter : letter.isAlpha
  written : ∃ colon ∈ [":", "%3A", "%3a"],
    uri = "file:///" ++ String.singleton letter ++ colon ++ "/" ++ path

namespace DriveLetter

/-- The spellings of the colon, as they are matched. -/
def colons : List (List Char) := [[':'], ['%', '3', 'A'], ['%', '3', 'a']]

theorem split?_eq_some_iff {uri path : List Char} {letter : Char} :
    split? uri = some (letter, path) ↔ letter.isAlpha ∧
      ∃ colon ∈ colons, uri = "file:///".toList ++ letter :: (colon ++ '/' :: path) := by
  constructor
  · intro found
    unfold split? at found
    split at found
    · split at found
      -- One case for each spelling of the colon, and one where none of them stands there.
      · split at found <;> simp_all [colons]
      · cases found
    · cases found
  · rintro ⟨isLetter, colon, written, rfl⟩
    simp only [colons, List.mem_cons, List.not_mem_nil, or_false] at written
    rcases written with rfl | rfl | rfl <;> simp [split?, isLetter]

theorem toUpper_eq_iff {left right : Char} :
    left.toUpper = right.toUpper ↔ left.toLower = right.toLower := by
  constructor
  · intro same
    simpa using congrArg Char.toLower same
  · intro same
    simpa using congrArg Char.toUpper same

end DriveLetter

theorem split?_iff_onDrive {uri path : String} {letter : Char} :
    DriveLetter.split? uri.toList = some (letter, path.toList) ↔ OnDrive uri letter path := by
  rw [DriveLetter.split?_eq_some_iff]
  constructor
  · rintro ⟨isLetter, colon, spelled, written⟩
    refine ⟨isLetter, String.ofList colon, ?_, ?_⟩
    · simp only [DriveLetter.colons, List.mem_cons, List.not_mem_nil, or_false] at spelled
      rcases spelled with rfl | rfl | rfl <;> decide
    · apply String.toList_injective
      rw [written]
      simp
  · rintro ⟨isLetter, colon, spelled, rfl⟩
    refine ⟨isLetter, colon.toList, ?_, by simp⟩
    simp only [List.mem_cons, List.not_mem_nil, or_false] at spelled
    rcases spelled with rfl | rfl | rfl <;> decide

theorem OnDrive.unique {uri path other : String} {letter second : Char}
    (here : OnDrive uri letter path) (there : OnDrive uri second other) :
    letter = second ∧ path = other := by
  have same := (split?_iff_onDrive.mpr here).symm.trans (split?_iff_onDrive.mpr there)
  simpa [String.toList_inj] using same

theorem OnDrive.normalUri_eq {uri path : String} {letter : Char} (here : OnDrive uri letter path) :
    normalUri uri = "file:///" ++ String.singleton letter.toUpper ++ ":/" ++ path := by
  apply String.toList_injective
  rw [normalUri, DriveLetter.normalize, split?_iff_onDrive.mpr here]
  simp

/-- The normal form is on the drive that it was formed for. -/
theorem OnDrive.normal {uri path : String} {letter : Char} (here : OnDrive uri letter path) :
    OnDrive (normalUri uri) letter.toUpper path := by
  refine ⟨by simpa using here.isLetter, ":", List.mem_cons_self, ?_⟩
  rw [here.normalUri_eq]
  apply String.toList_injective
  simp

theorem normalUri_of_elsewhere {uri : String}
    (elsewhere : ∀ letter path, ¬ OnDrive uri letter path) : normalUri uri = uri := by
  have none : DriveLetter.split? uri.toList = none := by
    by_contra found
    obtain ⟨⟨letter, path⟩, split⟩ := Option.ne_none_iff_exists'.mp found
    refine elsewhere letter (String.ofList path) (split?_iff_onDrive.mp ?_)
    rw [split, String.toList_ofList]
  rw [normalUri, DriveLetter.normalize, none, String.ofList_toList]

theorem normalUri_normalUri (uri : String) : normalUri (normalUri uri) = normalUri uri := by
  by_cases here : ∃ letter path, OnDrive uri letter path
  · obtain ⟨letter, path, here⟩ := here
    rw [here.normal.normalUri_eq, here.normalUri_eq, Char.toUpper_toUpper_eq_toUpper]
  · push Not at here
    rw [normalUri_of_elsewhere here, normalUri_of_elsewhere here]

theorem sameDocument_iff_of_onDrive {a b path other : String} {left right : Char}
    (here : OnDrive a left path) (there : OnDrive b right other) :
    sameDocument a b ↔ left.toLower = right.toLower ∧ path = other := by
  rw [sameDocument_iff, ← DriveLetter.toUpper_eq_iff]
  constructor
  · intro same
    have normal := here.normal
    rw [same] at normal
    exact normal.unique there.normal
  · rintro ⟨letters, rfl⟩
    rw [here.normalUri_eq, there.normalUri_eq, letters]

theorem sameDocument_iff_of_elsewhere {a b : String}
    (elsewhere : ∀ letter path, ¬ OnDrive a letter path) : sameDocument a b ↔ a = b := by
  rw [sameDocument_iff, normalUri_of_elsewhere elsewhere]
  constructor
  · intro same
    have unmoved : ∀ letter path, ¬ OnDrive b letter path := by
      intro letter path there
      have normal := there.normal
      rw [← same] at normal
      exact elsewhere _ _ normal
    rw [same, normalUri_of_elsewhere unmoved]
  · rintro rfl
    exact (normalUri_of_elsewhere elsewhere).symm

theorem sameDocument_equivalence : Equivalence fun a b => sameDocument a b := by
  constructor
  · intro a
    exact sameDocument_iff.mpr rfl
  · intro a b same
    exact sameDocument_iff.mpr (sameDocument_iff.mp same).symm
  · intro a b c first second
    exact sameDocument_iff.mpr
      ((sameDocument_iff.mp first).trans (sameDocument_iff.mp second))

theorem sameDocument_iff_eq_or_onDrive {a b : String} :
    sameDocument a b ↔ a = b ∨ ∃ left right path,
      OnDrive a left path ∧ OnDrive b right path ∧ left.toLower = right.toLower := by
  constructor
  · intro same
    by_cases here : ∃ left path, OnDrive a left path
    · obtain ⟨left, path, here⟩ := here
      by_cases there : ∃ right other, OnDrive b right other
      · obtain ⟨right, other, there⟩ := there
        obtain ⟨letters, rfl⟩ := (sameDocument_iff_of_onDrive here there).mp same
        exact Or.inr ⟨left, right, path, here, there, letters⟩
      · push Not at there
        have back := sameDocument_equivalence.symm same
        exact Or.inl ((sameDocument_iff_of_elsewhere there).mp back).symm
    · push Not at here
      exact Or.inl ((sameDocument_iff_of_elsewhere here).mp same)
  · rintro (rfl | ⟨left, right, path, here, there, letters⟩)
    · exact sameDocument_equivalence.refl a
    · exact (sameDocument_iff_of_onDrive here there).mpr ⟨letters, rfl⟩

/-- Normal forms are normal. Two addresses are the same document just if they are equal, or both
    are on a drive, their letters agree up to case and their paths are equal; so this is an
    equivalence. It identifies no addresses that differ behind the drive, and an address
    that is not on a drive with itself alone. -/
theorem sameDocument_up_to_drive :
    (∀ uri, normalUri (normalUri uri) = normalUri uri) ∧
    (∀ a b, sameDocument a b ↔ a = b ∨ ∃ left right path,
      OnDrive a left path ∧ OnDrive b right path ∧ left.toLower = right.toLower) ∧
    (Equivalence fun a b => sameDocument a b) ∧
    (∀ a b left right path other, OnDrive a left path → OnDrive b right other →
      (sameDocument a b ↔ left.toLower = right.toLower ∧ path = other)) ∧
    (∀ a b, (∀ letter path, ¬ OnDrive a letter path) → (sameDocument a b ↔ a = b)) := by
  refine ⟨normalUri_normalUri, ?_, sameDocument_equivalence, ?_, ?_⟩
  · intro a b
    exact sameDocument_iff_eq_or_onDrive
  · intro a b left right path other here there
    exact sameDocument_iff_of_onDrive here there
  · intro a b elsewhere
    exact sameDocument_iff_of_elsewhere elsewhere

theorem letter_case_and_path_case :
    OnDrive "file:///c%3A/a.js" 'c' "a.js" ∧ OnDrive "file:///C:/A.js" 'C' "A.js" ∧
      sameDocument "file:///c%3A/a.js" "file:///C:/a.js" ∧
      ¬ sameDocument "file:///c%3A/a.js" "file:///C:/A.js" := by
  obtain ⟨_, same, _, onDrives, _⟩ := sameDocument_up_to_drive
  have lower : OnDrive "file:///c%3A/a.js" 'c' "a.js" := ⟨by decide, "%3A", by decide, by decide⟩
  have upper : OnDrive "file:///C:/a.js" 'C' "a.js" := ⟨by decide, ":", by decide, by decide⟩
  have other : OnDrive "file:///C:/A.js" 'C' "A.js" := ⟨by decide, ":", by decide, by decide⟩
  refine ⟨lower, other, (same _ _).mpr (Or.inr ⟨_, _, _, lower, upper, by decide⟩), ?_⟩
  intro together
  have paths := ((onDrives _ _ _ _ _ _ lower other).mp together).2
  exact absurd paths (by decide)

end ExampleProbes
