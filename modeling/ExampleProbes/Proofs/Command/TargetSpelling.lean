import ExampleProbes.Guest.Script
import ExampleProbes.Proofs.Command.Dispatching

/-!
The address by which a command names its document. It is compared and not kept: of two
spellings of one document that is open, each finds the document under the address it was
opened with, and all that follows is done with that address.
-/
namespace ExampleProbes

/-- Being the same document is transitive, so that both spellings find the same one. -/
theorem openDocument?_congr {u v : String} (same : sameDocument u v) (documents : List Document) :
    openDocument? documents v = openDocument? documents u := by
  unfold openDocument? sameDocument
  rw [sameDocument_iff.mp same]

theorem openDocument?_isSome {u : String} {documents : List Document}
    (opened : ∃ document ∈ documents, sameDocument document.uri u) :
    ∃ target, openDocument? documents u = some target := by
  apply Option.isSome_iff_exists.mp
  unfold openDocument?
  exact List.find?_isSome.mpr opened

/-- What follows the address is read, or refused, whatever the address is. -/
theorem AnalysisArguments.of_string (rest : List Json) :
    ∃ read : Except Failure (Option Selection), ∀ uri,
      AnalysisArguments.of (.string uri :: rest) = read.map (AnalysisArguments.mk uri) := by
  match rest with
  | [] => exact ⟨.ok none, fun uri => rfl⟩
  | [_] => exact ⟨.error (.invalidArguments (.count "1 or 3" 2)), fun uri => rfl⟩
  | [line, text] =>
    refine ⟨do return some ⟨← lineAt 1 line, ← textAt 2 text⟩, fun uri => ?_⟩
    simp only [AnalysisArguments.of, textAt]
    cases lineAt 1 line with
    | error failure => rfl
    | ok line => cases text <;> rfl
  | _ :: _ :: _ :: more =>
    exact ⟨.error (.invalidArguments (.count "1 or 3" (more.length + 4))), fun uri => rfl⟩

theorem DisplayArguments.of_string (rest : List Json) :
    ∃ read : Except Failure String, ∀ uri,
      DisplayArguments.of (.string uri :: rest) = read.map (DisplayArguments.mk uri) := by
  match rest with
  | [] => exact ⟨.error (.invalidArguments (.count "2" 1)), fun uri => rfl⟩
  | [text] =>
    refine ⟨textAt 1 text, fun uri => ?_⟩
    cases text <;> rfl
  | _ :: _ :: more =>
    exact ⟨.error (.invalidArguments (.count "2" (more.length + 3))), fun uri => rfl⟩

section Spellings
variable {u v : String} (same : sameDocument u v) {documents : List Document}
  (opened : ∃ document ∈ documents, sameDocument document.uri u)
include same opened

theorem Analysis.plan_of_spelling (settings : Settings) (rest : List Json) :
    plan settings documents (.string v :: rest) = plan settings documents (.string u :: rest) := by
  obtain ⟨target, found⟩ := openDocument?_isSome opened
  have foundToo := (openDocument?_congr same documents).trans found
  obtain ⟨read, reads⟩ := AnalysisArguments.of_string rest
  unfold plan
  rw [reads, reads]
  cases read with
  | error failure => rfl
  | ok selection =>
    simp only [Except.map, Bind.bind, Except.bind, found, foundToo]

theorem Analysis.run_of_spelling (interpreter : Interpreter) (ties : Ties) (settings : Settings)
    (rest : List Json) :
    run interpreter ties settings documents (.string v :: rest) =
      run interpreter ties settings documents (.string u :: rest) := by
  funext session
  simp only [run, plan_of_spelling same opened settings rest]

theorem Display.run_of_spelling (interpreter : Interpreter) (settings : Settings)
    (rest : List Json) :
    run interpreter settings documents (.string v :: rest) =
      run interpreter settings documents (.string u :: rest) := by
  obtain ⟨target, found⟩ := openDocument?_isSome opened
  have foundToo := (openDocument?_congr same documents).trans found
  obtain ⟨read, reads⟩ := DisplayArguments.of_string rest
  have given : givenText (.string v :: rest) = givenText (.string u :: rest) := by
    cases rest with
    | nil => rfl
    | cons text more => cases text <;> rfl
  unfold run
  rw [reads, reads, given]
  cases read with
  | error failure => rfl
  | ok text => simp only [Except.map, found, foundToo]

theorem Command.execute_of_spelling {interpreter : Interpreter} {ties : Ties}
    {settings : Settings} {command : Command}
    (standard : command ∈ Registry.standard interpreter ties settings)
    (rest : List Json) :
    command.execute documents (.string v :: rest) =
      command.execute documents (.string u :: rest) := by
  have analysed := Analysis.run_of_spelling same opened interpreter ties settings rest
  have displayed := Display.run_of_spelling same opened interpreter settings rest
  simp only [Registry.standard, List.mem_cons, List.not_mem_nil, or_false] at standard
  rcases standard with rfl | rfl
  · rw [analysis]
    dsimp only
    rw [analysed]
  · rw [display]
    dsimp only
    rw [displayed]

/-- A standard command that is given an open document under another spelling replies as it
    does to the first one: with the same answer at the same time, after the same calls, and
    having sent the same reports. -/
theorem Registry.dispatch_of_spelling {registry : Registry} {name : String} {command : Command}
    (found : registry.get? name = some command) {interpreter : Interpreter} {ties : Ties}
    {settings : Settings} (standard : command ∈ Registry.standard interpreter ties settings)
    (rest : List Json) (machine : Machine) :
    ∃ reply, registry.dispatch documents name (.string u :: rest) machine = some reply ∧
      registry.dispatch documents name (.string v :: rest) machine = some reply := by
  refine ⟨_, dispatch_of_found found documents _ machine, ?_⟩
  rw [dispatch_of_found found, Command.execute_of_spelling same opened standard rest]

end Spellings

section DriveLetters

def underLowerCase : Document :=
  ⟨"file:///c:/a.js", "toy", "<Example :name=\"A\" />\nf()\nx = 1"⟩

def endsOnce : Script where
  globals := [("toy", [("f", .ok { display := .ok "f", has := (· == .executable) })])]
  invocations := [("f", [⟨[⟨1, ⟨"file:///c:/a.js", 3⟩,
    ⟨"file:///c:/a.js", 3, "x = 1", .ok (.ofText "1"), Script.scope [("x", .ok (.ofText "1"))]⟩⟩],
    0, .ok (.ofText "1")⟩])]

def asks (expression : String) : Call → Bool
  | .live asked => asked == expression
  | _ => false

theorem mem_of_asks {expression : String} {calls : List Call}
    (asked : calls.any (asks expression)) : .live expression ∈ calls := by
  obtain ⟨call, member, asks⟩ := List.any_eq_true.mp asked
  unfold ExampleProbes.asks at asks
  split at asks
  · rw [← eq_of_beq asks]
    exact member
  · cases asks

/-- The selection on the third line is probed, whichever way the document is named. -/
theorem selection_under_both_spellings :
    let registry := Registry.standard endsOnce.interpreter (fun _ => .last) {}
    let dispatched (uri : String) := registry.dispatch [underLowerCase] "babylonian_analysis"
      [.string uri, .int 2, .string "x"] {}
    sameDocument "file:///c%3A/a.js" "file:///C:/a.js" ∧
      (∃ document ∈ [underLowerCase], sameDocument document.uri "file:///c%3A/a.js") ∧
      ∃ reply, dispatched "file:///c%3A/a.js" = some reply ∧
        dispatched "file:///C:/a.js" = some reply ∧
        Call.live "x" ∈ reply.session.machine.calls := by
  intro registry dispatched
  have same : sameDocument "file:///c%3A/a.js" "file:///C:/a.js" := by decide +kernel
  have opened : ∃ document ∈ [underLowerCase], sameDocument document.uri "file:///c%3A/a.js" :=
    ⟨underLowerCase, List.mem_singleton_self _, by decide +kernel⟩
  have found : registry.get? "babylonian_analysis" =
      some (.analysis endsOnce.interpreter (fun _ => .last) {}) := rfl
  obtain ⟨reply, first, second⟩ := Registry.dispatch_of_spelling same opened found
    List.mem_cons_self [.int 2, .string "x"] {}
  have called : (dispatched "file:///c%3A/a.js").any
      (fun reply => reply.session.machine.calls.any (asks "x")) := by decide +kernel
  rw [show dispatched "file:///c%3A/a.js" = some reply from first] at called
  exact ⟨same, opened, reply, first, second, mem_of_asks called⟩

end DriveLetters

end ExampleProbes
