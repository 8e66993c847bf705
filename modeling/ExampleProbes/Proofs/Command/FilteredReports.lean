import ExampleProbes.Proofs.Command.KeptReports

/-!
Filters hold all through an analysis. Its plan is a filtered report, and firings and outcomes
keep it filtered, so that every report it sends or answers with is filtered. With it stands
what the run of one example adds to a report.
-/
namespace ExampleProbes.Analysis

theorem planFor_filtered (documents : List Document) (target : Document)
    (selection : Option Selection) : (planFor documents target selection).report.Filtered :=
  Report.filtered_iff_holds.mpr
    (planFor_holds (fun _ _ _ _ => .new _) (fun _ _ _ _ => .new _) fun _ _ => .new _)

variable (interpreter : Interpreter) (ties : Ties)

theorem run_filtered (settings : Settings) (documents : List Document) (arguments : List Json)
    {machine : Machine} (before : machine.report.Filtered) :
    (run interpreter ties settings documents arguments ⟨machine, []⟩).Keeps
      (AllReports Report.Filtered) fun value session => AllReports Report.Filtered session ∧
        ∀ report, value = .ok report → report.Filtered := by
  refine run_keeps interpreter ties (fun _ _ _ _ fired => fired.filtered)
    (fun _ e made held => held.observeExample e made) (fun plan accepted => ?_) before
  obtain ⟨asked, target, _, _, rfl⟩ := planFor_of_plan accepted
  exact planFor_filtered documents target asked.selection

/-- In every state of the run of an example, and however it ends, all that has come into the
    report is stored under the name of the example, on its own record or on the records of
    lines that are not for other examples, and nothing else has changed. So a record with a
    filter holds observations for one example only, all through every analysis, in all
    reports that it sends and in the one that it answers with. -/
theorem observations_belong_to_their_examples (interpreter : Interpreter) (ties : Ties) :
    (∀ (e : Example) (limit : Option Nat) (report : Report) (attached : Nat) (calls : List Call),
      ∀ now ∈ ((Run.runExample interpreter e).upTo Machine.release limit
          { report, attached, calls }).states,
        Report.Attributed e report now.report ∧ (report.Sound → now.report.Sound)) ∧
    ∀ settings documents arguments attached calls,
      let analysis := run interpreter ties settings documents arguments ⟨{ attached, calls }, []⟩
      (∀ session ∈ analysis.states, session.machine.report.Filtered ∧
        ∀ push ∈ session.sent, push.report.Filtered) ∧
      ∀ report, analysis.value = .ok report → report.Filtered := by
  refine ⟨fun e limit report attached calls now member => ?_, ?_⟩
  · exact Run.runExample_attributed interpreter e rfl limit now member
  · intro settings documents arguments attached calls analysis
    let start : Machine := { attached, calls }
    have empty : start.report.Filtered := .empty
    have keeps := run_filtered interpreter ties settings documents arguments empty
    refine ⟨fun session member => ?_, keeps.ends.2⟩
    rcases keeps.states session member with seen | ⟨_, ended, _⟩
    · exact seen
    · exact ended

end ExampleProbes.Analysis
