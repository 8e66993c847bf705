import ExampleProbes.Source.DriveLetter
import ExampleProbes.Proofs.Run.Striking
import ExampleProbes.Report.Change

/-!
Which firings a report takes note of, and under which spelling of their address. A file is
found under the spelling in which it was registered and under no other, so that a firing
whose address names the same document in another spelling is lost.
-/
namespace ExampleProbes

namespace Record

/-- A record whose probe records a firing is not the same after it. -/
theorem struck_ne {name : String} {record : Record} (applies : record.probe.appliesTo name)
    (firing : Firing) : record.struck name firing ≠ record := by
  intro same
  have gained := (struck_gained name firing record).own
  rw [same] at gained
  simp [applies] at gained

end Record

namespace Report

/-- A line where a firing during the example called `name` is recorded: it is heard, and has
    a record for the example or, for want of any record, gets an orphan. -/
def Noted (name uri : String) (line : Nat) (report : Report) : Prop :=
  report.Heard uri line ∧ (report.recordsAt uri line = [] ∨
    ∃ record ∈ report.recordsAt uri line, record.probe.appliesTo name)

/-- No two files are the same document. -/
def Distinct (report : Report) : Prop := report.uris.Pairwise fun a b => ¬ sameDocument a b

instance (report : Report) : Decidable report.Distinct :=
  inferInstanceAs (Decidable (List.Pairwise _ report.uris))

theorem Distinct.spelling {report : Report} (distinct : report.Distinct) {a b : String}
    (registered : a ∈ report.uris) (other : b ∈ report.uris) (same : sameDocument a b) :
    a = b := by
  have forms : (report.uris.map normalUri).Nodup :=
    List.pairwise_map.mpr (distinct.imp fun apart equal => apart (sameDocument_iff.mpr equal))
  exact List.inj_on_of_nodup_map forms registered other (sameDocument_iff.mp same)

end Report

namespace Machine
variable {name : String} {firing : Firing} {machine : Machine}

theorem fireProbes_of_none_applies {probes : List Probe}
    (spared : ∀ probe ∈ probes, probe.appliesTo name = false) (index : Nat) :
    machine.fireProbes name firing index probes = machine := by
  induction probes generalizing index with
  | nil => rfl
  | cons probe rest ih =>
    have first := spared probe List.mem_cons_self
    have others := fun p member => spared p (List.mem_cons_of_mem probe member)
    simp only [fireProbes, fireProbe, first, Bool.false_eq_true, ↓reduceIte, ih others]

/-- A firing changes the report just where it is noted. -/
theorem fire_report_eq_iff : (machine.fire name firing).report = machine.report ↔
    ¬ machine.report.Noted name firing.uri firing.line := by
  by_cases heard : machine.report.Heard firing.uri firing.line
  · have records := fire_recordsAt name heard
    constructor
    · rintro same ⟨_, unclaimed | ⟨record, member, applies⟩⟩
      · rw [same, unclaimed] at records
        simp [claimed] at records
      · have filled : machine.report.recordsAt firing.uri firing.line ≠ [] :=
          List.ne_nil_of_mem member
        rw [same, claimed_of_ne_nil filled] at records
        have fixed := List.map_inj_left.mp (records.symm.trans (List.map_id _).symm)
        exact Record.struck_ne applies firing (fixed record member)
    · intro silent
      have spared : ∀ probe ∈ machine.report.probesAt firing.uri firing.line,
          probe.appliesTo name = false := by
        intro probe member
        rw [Report.probesAt_eq] at member
        obtain ⟨record, inside, rfl⟩ := List.mem_map.mp member
        exact Bool.eq_false_iff.mpr fun applies =>
          silent ⟨heard, Or.inr ⟨record, inside, applies⟩⟩
      have filled : machine.report.recordsAt firing.uri firing.line ≠ [] :=
        fun none => silent ⟨heard, Or.inl none⟩
      rw [fire_of_claimed name heard.1 filled, fireProbes_of_none_applies spared]
  · have same := congrArg Machine.report (fire_of_not_heard name heard)
    exact iff_of_true same fun noted => heard noted.1

/-- What a firing comes to under another spelling of its address, which is that of a file in
    at most one of the two. The report becomes the same only if there is no other spelling,
    or the firing is not noted under either. -/
theorem fire_of_spelling {spelling : String} (distinct : machine.report.Distinct)
    (same : sameDocument firing.uri spelling) :
    (firing.uri ∈ machine.report.uris → spelling ≠ firing.uri →
      (machine.fire name { firing with uri := spelling }).report = machine.report) ∧
    ((machine.fire name firing).report =
        (machine.fire name { firing with uri := spelling }).report ↔
      spelling = firing.uri ∨
        ¬ machine.report.Noted name firing.uri firing.line ∧
          ¬ machine.report.Noted name spelling firing.line) := by
  have changed : (machine.fire name { firing with uri := spelling }).report = machine.report ↔
      ¬ machine.report.Noted name spelling firing.line := fire_report_eq_iff
  constructor
  · intro registered other
    refine changed.mpr fun noted => other ?_
    exact (distinct.spelling registered noted.1.2 same).symm
  · constructor
    · intro agree
      by_cases noted : machine.report.Noted name firing.uri firing.line
      · left
        by_contra other
        -- The firing is noted under its own address, so that the other one is not registered.
        have silent : ¬ machine.report.Noted name spelling firing.line := fun second =>
          other (distinct.spelling noted.1.2 second.1.2 same).symm
        have stays := agree.trans (changed.mpr silent)
        exact fire_report_eq_iff.mp stays noted
      · right
        rw [fire_report_eq_iff.mpr noted] at agree
        exact ⟨noted, changed.mp agree.symm⟩
    · rintro (rfl | ⟨first, second⟩)
      · rfl
      · rw [fire_report_eq_iff.mpr first, changed.mpr second]

section DriveC

def driveC : Report :=
  [Change.file "file:///c%3A/a.js" "toy", .probe "file:///c%3A/a.js" 3 (.statement none 3)].foldl
    Change.applied {}

def lineThree : Firing :=
  ⟨"file:///c%3A/a.js", 3, "x = 1", .ok (.ofText "1"), fun name => .error (.unknownIdentifier name)⟩

theorem firing_of_upper_case_letter :
    (Machine.fire "e" { lineThree with uri := "file:///C:/a.js" } { report := driveC }).report =
      driveC := by
  have distinct : driveC.Distinct := by decide
  have same : sameDocument lineThree.uri "file:///C:/a.js" := by decide +kernel
  exact (@fire_of_spelling "e" lineThree { report := driveC } _ distinct same).1 (by decide)
    (by decide)

theorem upper_case_letter_is_lost :
    driveC.Distinct ∧ sameDocument lineThree.uri "file:///C:/a.js" ∧
      (Machine.fire "e" lineThree { report := driveC }).report ≠
        (Machine.fire "e" { lineThree with uri := "file:///C:/a.js" } { report := driveC }).report :=
  ⟨by decide, by decide +kernel, by decide⟩

end DriveC

end Machine
end ExampleProbes
