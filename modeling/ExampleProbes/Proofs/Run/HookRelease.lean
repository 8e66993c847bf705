import Mathlib.Data.List.Forall2
import ExampleProbes.Proofs.Run.StageLaws

/-!
Hooks belong to the run of one example. The calls of such a run form an `Episode`: what it
attached is detached at its end, in the order of attaching, also where the run is given up.
A run of several examples is a sequence of episodes, so that at no moment hooks of two
examples sit in the interpreter together, and none is left behind.
-/
namespace ExampleProbes

namespace Call

def attached? : Call → Option Nat
  | .attach _ _ number => number
  | _ => none

def detached? : Call → Option Nat
  | .detach number => some number
  | _ => none

def attachedIn (calls : List Call) : List Nat := calls.filterMap attached?

def detachedIn (calls : List Call) : List Nat := calls.filterMap detached?

/-- The calls made between the lookup of an example's function and the release of hooks. -/
def isInner : Call → Bool
  | .evaluate .. | .attach .. | .invoke .. | .live _ => true
  | _ => false

/-- The hooks that sit in the interpreter after a call, by their numbers. -/
def sitting (hooks : List Nat) : Call → List Nat
  | .attach _ _ (some number) => hooks ++ [number]
  | .detach number => hooks.filter (· != number)
  | _ => hooks

def sittingAfter (calls : List Call) : List Nat := calls.foldl sitting []

end Call
open Call

/-- The calls of the run of `e`: its function is looked for first, and what is attached is
    detached at the end, in the same order. -/
def Episode (e : Example) (calls : List Call) : Prop :=
  ∃ inner, (∀ call ∈ inner, call.isInner) ∧
    calls = .lookup e.location.languageId e.signature.identifier :: inner ++
      (attachedIn inner).map .detach

namespace Call

@[simp] theorem attachedIn_nil : attachedIn [] = [] := rfl

@[simp] theorem detachedIn_nil : detachedIn [] = [] := rfl

@[simp] theorem attachedIn_cons (call : Call) (rest : List Call) :
    attachedIn (call :: rest) = call.attached?.toList ++ attachedIn rest := by
  simp only [attachedIn, List.filterMap_cons]
  cases call.attached? <;> rfl

@[simp] theorem detachedIn_cons (call : Call) (rest : List Call) :
    detachedIn (call :: rest) = call.detached?.toList ++ detachedIn rest := by
  simp only [detachedIn, List.filterMap_cons]
  cases call.detached? <;> rfl

@[simp] theorem attachedIn_append (a b : List Call) :
    attachedIn (a ++ b) = attachedIn a ++ attachedIn b := List.filterMap_append

@[simp] theorem detachedIn_append (a b : List Call) :
    detachedIn (a ++ b) = detachedIn a ++ detachedIn b := List.filterMap_append

@[simp] theorem attachedIn_detaches (numbers : List Nat) :
    attachedIn (numbers.map .detach) = [] := by
  simp [attachedIn, List.filterMap_map, attached?]

@[simp] theorem detachedIn_detaches (numbers : List Nat) :
    detachedIn (numbers.map .detach) = numbers := by
  induction numbers with
  | nil => rfl
  | cons number rest ih => simp [detached?, ih]

theorem detachedIn_inner (calls : List Call) (inner : ∀ call ∈ calls, call.isInner) :
    detachedIn calls = [] := by
  refine List.filterMap_eq_nil_iff.mpr fun call member => ?_
  have one := inner call member
  cases call <;> simp [isInner, detached?] at one ⊢

theorem foldl_sitting_inner (calls : List Call) (inner : ∀ call ∈ calls, call.isInner)
    (hooks : List Nat) : calls.foldl sitting hooks = hooks ++ attachedIn calls := by
  induction calls generalizing hooks with
  | nil => simp [attachedIn]
  | cons call rest ih =>
    have later := ih (fun c member => inner c (by simp [member]))
    have one := inner call (by simp)
    rw [List.foldl_cons, later]
    cases call with
    | attach uri line number => cases number <;> simp [sitting, attached?]
    | load | lookup | detach => simp [isInner] at one
    | evaluate | invoke | live => simp [sitting, attached?]

theorem foldl_sitting_detaches (numbers hooks : List Nat) :
    (numbers.map Call.detach).foldl sitting hooks = hooks.filter (· ∉ numbers) := by
  induction numbers generalizing hooks with
  | nil => exact (List.filter_eq_self.mpr (by simp)).symm
  | cons number rest ih =>
    rw [List.map_cons, List.foldl_cons, ih]
    simp only [sitting, List.filter_filter]
    apply List.filter_congr
    intro hook _
    by_cases same : hook = number <;> simp [same]

theorem mem_attachedIn_of_sitting (calls : List Call) (hooks : List Nat) (number : Nat)
    (sits : number ∈ calls.foldl sitting hooks) :
    number ∈ hooks ∨ number ∈ attachedIn calls := by
  induction calls generalizing hooks with
  | nil => exact Or.inl sits
  | cons call rest ih =>
    rcases ih _ sits with before | later
    · cases call with
      | attach uri line attached =>
        cases attached with
        | none => exact Or.inl before
        | some one =>
          rcases List.mem_append.mp before with old | new
          · exact Or.inl old
          · exact Or.inr (by simp_all [attached?])
      | detach gone => exact Or.inl (List.mem_filter.mp before).1
      | load | lookup | evaluate | invoke | live => exact Or.inl before
    · refine Or.inr ?_
      rw [attachedIn_cons]
      exact List.mem_append_right _ later

end Call

namespace Episode
variable {e : Example} {calls : List Call}

theorem detachedIn_eq (episode : Episode e calls) : detachedIn calls = attachedIn calls := by
  obtain ⟨inner, isInner, rfl⟩ := episode
  simp [detachedIn_inner inner isInner, detached?, attached?]

theorem leaves_none (episode : Episode e calls) : sittingAfter calls = [] := by
  obtain ⟨inner, isInner, rfl⟩ := episode
  simp only [sittingAfter, List.cons_append, List.foldl_cons, List.foldl_append]
  rw [foldl_sitting_inner inner isInner, foldl_sitting_detaches]
  simp [sitting]

end Episode

namespace Machine

def Idle (machine : Machine) : Prop := machine.hooks = [] ∧ machine.held = []

theorem foldl_detach (numbers : List Nat) (machine : Machine) :
    numbers.foldl detach machine =
      { machine with
        hooks := machine.hooks.filter (·.number ∉ numbers)
        calls := machine.calls ++ numbers.map .detach } := by
  induction numbers generalizing machine with
  | nil => simp [List.filter_eq_self.mpr]
  | cons number rest ih =>
    rw [List.foldl_cons, ih]
    simp only [detach, log, List.filter_filter, List.map_cons, List.append_assoc,
      List.singleton_append, mk.injEq, and_true, true_and]
    apply List.filter_congr
    intro hook _
    by_cases same : hook.number = number <;> simp [same]

theorem release_eq (machine : Machine) :
    machine.release =
      { machine with
        hooks := machine.hooks.filter (·.number ∉ machine.held)
        held := []
        calls := machine.calls ++ machine.held.map .detach } := by
  simp [release, foldl_detach]

theorem release_of_held_nil {machine : Machine} (none : machine.held = []) :
    machine.release = machine := by
  cases machine
  simp_all [release]

end Machine
open Machine

/-- `now` stands in the run of `e` that began in `start`: what was attached since is held,
    in order, and is all that sits in the interpreter. -/
structure Running (e : Example) (start now : Machine) : Prop where
  calls : ∃ inner, (∀ call ∈ inner, call.isInner) ∧ attachedIn inner = now.held ∧
    now.calls = start.calls ++ .lookup e.location.languageId e.signature.identifier :: inner
  hooks : now.hooks.map (·.number) = now.held
  held : now.held = List.range' start.attached now.held.length
  attached : now.attached = start.attached + now.held.length
  names : ∀ hook ∈ now.hooks, hook.name = e.name

/-- From `start` to `now` the examples ran one after another, each in an episode. -/
structure Released (examples : List Example) (start now : Machine) : Prop where
  idle : now.Idle
  attached : start.attached ≤ now.attached
  calls : ∃ episodes, List.Forall₂ Episode examples episodes ∧
    now.calls = start.calls ++ episodes.flatten ∧
    attachedIn episodes.flatten = List.range' start.attached (now.attached - start.attached)

namespace Running
variable {e : Example} {start now : Machine}

theorem begins (idle : start.Idle) :
    Running e start (start.log (.lookup e.location.languageId e.signature.identifier)) where
  calls := ⟨[], by simp, idle.2.symm, by simp [log]⟩
  hooks := by simp [log, idle.1, idle.2]
  held := by simp [log, idle.2]
  attached := by simp [log, idle.2]
  names := by simp [log, idle.1]

theorem log (running : Running e start now) (call : Call) (inner : call.isInner)
    (nothing : call.attached? = none) : Running e start (now.log call) where
  calls := by
    obtain ⟨made, isInner, held, calls⟩ := running.calls
    refine ⟨made ++ [call], ?_, by simp [nothing, held, Machine.log], ?_⟩
    · intro c member
      rcases List.mem_append.mp member with old | new
      · exact isInner c old
      · rw [List.mem_singleton.mp new]
        exact inner
    · simp [Machine.log, calls]
  hooks := running.hooks
  held := running.held
  attached := running.attached
  names := running.names

theorem change (running : Running e start now) (f : Report → Report) :
    Running e start (now.change f) :=
  ⟨running.calls, running.hooks, running.held, running.attached, running.names⟩

theorem attach (running : Running e start now) (interpreter : Interpreter) (uri : String)
    (line : Nat) : Running e start (now.attach interpreter e.name uri line) := by
  unfold Machine.attach
  split
  · exact running.log _ rfl rfl
  · obtain ⟨made, isInner, held, calls⟩ := running.calls
    constructor
    · refine ⟨made ++ [.attach uri line (some now.attached)], ?_, ?_, ?_⟩
      · intro c member
        rcases List.mem_append.mp member with old | new
        · exact isInner c old
        · rw [List.mem_singleton.mp new]
          rfl
      · simp [attached?, held, Machine.log]
      · simp [Machine.log, calls]
    · simp [Machine.log, running.hooks]
    · have next := running.held
      simp only [Machine.log, List.length_append, List.length_singleton]
      rw [List.range'_1_concat, ← next, running.attached]
    · simp only [Machine.log, List.length_append, List.length_singleton, running.attached]
      omega
    · intro hook member
      rcases List.mem_append.mp member with old | new
      · exact running.names hook old
      · rw [List.mem_singleton.mp new]

theorem attachFor (running : Running e start now) (interpreter : Interpreter) :
    Running e start (Run.attachFor interpreter e.name now) :=
  List.foldlRecOn _ _ running fun _ running line _ => running.attach interpreter line.1 line.2

theorem strike (running : Running e start now) (event : Event) :
    Running e start (now.strike event) :=
  Run.strike_kept (Running e start) event running (fun _ _ running => running.log _ rfl rfl)
    fun _ f running => running.change f

/-- Releasing the hooks completes the episode. -/
theorem episode (running : Running e start now) : ∃ episode, Episode e episode ∧
    attachedIn episode = now.held ∧ now.release.calls = start.calls ++ episode := by
  obtain ⟨inner, isInner, held, calls⟩ := running.calls
  refine ⟨_, ⟨inner, isInner, rfl⟩, ?_, ?_⟩
  · simp [attached?, held]
  · simp [release_eq, calls, held]

theorem released_hooks (running : Running e start now) : now.release.hooks = [] := by
  rw [release_eq]
  refine List.filter_eq_nil_iff.mpr fun hook member => ?_
  have held : hook.number ∈ now.held := by
    rw [← running.hooks]
    exact List.mem_map_of_mem member
  simp [held]

theorem release (running : Running e start now) : Released [e] start now.release := by
  obtain ⟨episode, isEpisode, numbers, calls⟩ := running.episode
  have attached : now.release.attached = now.attached := by rw [release_eq]
  have count := running.attached
  refine ⟨⟨running.released_hooks, by rw [release_eq]⟩, by omega, [episode], ?_, ?_, ?_⟩
  · exact .cons isEpisode .nil
  · simpa using calls
  · rw [List.flatten_singleton, numbers, running.held, attached, count]
    simp

end Running

namespace Released
variable {start mid now : Machine} {first second : List Example}

theorem refl (idle : start.Idle) : Released [] start start :=
  ⟨idle, Nat.le_refl _, [], .nil, by simp, by simp [attachedIn]⟩

theorem append (before : Released first start mid) (after : Released second mid now) :
    Released (first ++ second) start now := by
  obtain ⟨firsts, matchFirst, callsFirst, numbersFirst⟩ := before.calls
  obtain ⟨seconds, matchSecond, callsSecond, numbersSecond⟩ := after.calls
  have upper := before.attached
  have lower := after.attached
  refine ⟨after.idle, Nat.le_trans upper lower, firsts ++ seconds,
    List.rel_append matchFirst matchSecond, ?_, ?_⟩
  · simp [callsSecond, callsFirst]
  · rw [List.flatten_append, attachedIn_append, numbersFirst, numbersSecond]
    have middle : mid.attached = start.attached + (mid.attached - start.attached) := by omega
    have total : now.attached - start.attached =
        (mid.attached - start.attached) + (now.attached - mid.attached) := by omega
    rw [total, ← List.range'_append_1, ← middle]

theorem of_running {e : Example} (running : Running e start now) (none : now.held = []) :
    Released [e] start now := by
  have released := running.release
  rwa [release_of_held_nil none] at released

end Released

/-- `now` stands in the run of one of the examples; those before it have ended. -/
def Midway (examples : List Example) (start now : Machine) : Prop :=
  ∃ before e after mid, examples = before ++ e :: after ∧
    Released before start mid ∧ Running e mid now

theorem Midway.cons {e : Example} {rest : List Example} {start mid now : Machine}
    (first : Released [e] start mid) (midway : Midway rest mid now) :
    Midway (e :: rest) start now := by
  obtain ⟨before, current, after, last, split, released, running⟩ := midway
  exact ⟨e :: before, current, after, last, by simp [split], first.append released, running⟩

namespace Run

theorem runExample_releases (interpreter : Interpreter) (e : Example) {start : Machine}
    (idle : start.Idle) :
    (runExample interpreter e start).Keeps (Running e start) fun _ => Released [e] start := by
  have stages : Stages interpreter e start (fun m => Running e start m ∧ m.held = [])
      (Running e start) (Released [e] start) :=
    { looked := ⟨.begins idle, idle.2⟩
      evaluated := fun m source ready => ⟨ready.1.log _ rfl rfl, ready.2⟩
      refused := fun m expression fault ready => .of_running (ready.1.change _) ready.2
      attached := fun m ready => ready.1.attachFor interpreter
      invoked := fun m name arguments running => running.log _ rfl rfl
      struck := fun m event running => running.strike event
      settled := fun m outcome running => (running.change _).release }
  exact stages.keeps.mono (fun _ seen => seen.elim And.left id) fun _ _ => id

theorem runAll_releases (interpreter : Interpreter) (examples : List Example)
    {start : Machine} (idle : start.Idle) :
    (runAll interpreter examples start).Keeps (Midway examples start)
      fun _ => Released examples start := by
  induction examples generalizing start with
  | nil => exact Released.refl idle
  | cons e rest ih =>
    have first := runExample_releases interpreter e idle
    have seen : ∀ m, Running e start m → Midway (e :: rest) start m := fun m running =>
      ⟨[], e, rest, start, rfl, .refl idle, running⟩
    refine (first.mono seen fun _ _ => id).bind fun _ mid released => ?_
    exact (ih released.idle).mono (fun _ midway => midway.cons released)
      fun _ _ later => released.append later

/-- Where the run is given up, the example that was running is released like any other. -/
theorem runAll_upTo_releases (interpreter : Interpreter) (examples : List Example)
    {start : Machine} (idle : start.Idle) (limit : Option Nat) :
    ((runAll interpreter examples).upTo Machine.release limit start).Keeps
      (Midway examples start) fun value now =>
        ∃ begun, Released (examples.take begun) start now ∧
          (value.isSome → begun = examples.length) := by
  refine (Process.upTo_keeps (runAll_releases interpreter examples idle) Machine.release limit).mono
    (fun _ => id) fun value now last => ?_
  cases value with
  | some value => exact ⟨examples.length, by rwa [List.take_length], fun _ => rfl⟩
  | none =>
    obtain ⟨left, ⟨before, e, after, mid, split, released, running⟩, rfl⟩ := last
    refine ⟨before.length + 1, ?_, by simp⟩
    have begun : examples.take (before.length + 1) = before ++ [e] := by
      have whole : before.take (before.length + 1) = before :=
        List.take_of_length_le (Nat.le_succ _)
      simp [split, List.take_append, whole]
    rw [begun]
    exact released.append running.release

end Run

/-- At no moment hooks that were attached in two different episodes sit together. -/
theorem sitting_in_one_episode {examples : List Example} {episodes : List (List Call)}
    (each : List.Forall₂ Episode examples episodes) (moment : List Call)
    (begins : moment <+: episodes.flatten) :
    sittingAfter moment = [] ∨ ∃ episode ∈ episodes,
      ∀ number ∈ sittingAfter moment, number ∈ attachedIn episode := by
  -- A moment lies inside the first episode, or beyond it, where nothing of it sits any more.
  induction each generalizing moment with
  | nil =>
    rw [List.prefix_nil.mp begins]
    exact Or.inl rfl
  | @cons e episode rest episodes first each ih =>
    rcases List.prefix_or_prefix_of_prefix begins (List.prefix_append episode _) with
      inside | beyond
    · refine Or.inr ⟨episode, by simp, fun number sits => ?_⟩
      have attached := mem_attachedIn_of_sitting moment [] number sits
      obtain ⟨more, rfl⟩ := inside
      simp only [List.not_mem_nil, false_or] at attached
      simp [attached]
    · obtain ⟨later, rfl⟩ := beyond
      have continues := (List.prefix_append_right_inj episode).mp begins
      have same : sittingAfter (episode ++ later) = sittingAfter later := by
        rw [sittingAfter, List.foldl_append, ← sittingAfter, first.leaves_none, sittingAfter]
      rw [same]
      rcases ih later continues with none | ⟨other, member, inside⟩
      · exact Or.inl none
      · exact Or.inr ⟨other, List.mem_cons_of_mem _ member, inside⟩

/-- The hooks that sit in the interpreter of `now` are those that the calls since `start`
    attached and did not detach. -/
def Accounted (start now : Machine) : Prop :=
  ∃ made, now.calls = start.calls ++ made ∧ now.hooks.map (·.number) = sittingAfter made

theorem flatten_leaves_none {examples : List Example} {episodes : List (List Call)}
    (each : List.Forall₂ Episode examples episodes) : sittingAfter episodes.flatten = [] := by
  induction each with
  | nil => rfl
  | @cons e episode rest episodes first each ih =>
    rw [List.flatten_cons, sittingAfter, List.foldl_append, ← sittingAfter, first.leaves_none]
    exact ih

theorem detachedIn_flatten {examples : List Example} {episodes : List (List Call)}
    (each : List.Forall₂ Episode examples episodes) :
    detachedIn episodes.flatten = attachedIn episodes.flatten := by
  induction each with
  | nil => rfl
  | cons first each ih => simp [first.detachedIn_eq, ih]

theorem Released.accounted {examples : List Example} {start now : Machine}
    (released : Released examples start now) : Accounted start now := by
  obtain ⟨episodes, each, calls, _⟩ := released.calls
  exact ⟨episodes.flatten, calls, by rw [released.idle.1, flatten_leaves_none each, List.map_nil]⟩

theorem Midway.accounted {examples : List Example} {start now : Machine}
    (midway : Midway examples start now) : Accounted start now := by
  obtain ⟨before, e, after, mid, _, released, running⟩ := midway
  obtain ⟨episodes, each, callsBefore, _⟩ := released.calls
  obtain ⟨inner, isInner, held, calls⟩ := running.calls
  refine ⟨episodes.flatten ++ .lookup e.location.languageId e.signature.identifier :: inner,
    by simp [calls, callsBefore], ?_⟩
  rw [sittingAfter, List.foldl_append, ← sittingAfter, flatten_leaves_none each,
    List.foldl_cons, foldl_sitting_inner inner isInner, running.hooks, held]
  rfl

namespace Run

theorem forward_calls : Course.Forward fun a b : Machine => a.calls <+: b.calls :=
  ⟨fun _ => List.prefix_rfl, List.IsPrefix.trans⟩

theorem runAll_calls_grow (interpreter : Interpreter) (examples : List Example)
    (limit : Option Nat) :
    Process.Advances (fun a b : Machine => a.calls <+: b.calls)
      ((runAll interpreter examples).upTo Machine.release limit) := by
  have logged : ∀ (m : Machine) call, m.calls <+: (m.log call).calls := fun m call =>
    List.prefix_append _ _
  have released : ∀ m : Machine, m.calls <+: m.release.calls := fun m => by
    rw [release_eq]
    exact List.prefix_append _ _
  refine Process.advances_upTo forward_calls ?_ released limit
  refine runAll_advances forward_calls interpreter logged (fun _ _ _ => List.prefix_rfl) ?_ ?_
    released examples
  · intro m name uri line
    unfold Machine.attach
    split <;> exact logged m _
  · intro m event
    exact strike_kept (fun now => m.calls <+: now.calls) event List.prefix_rfl
      (fun now _ before => before.trans (logged now _)) fun _ _ before => before

/-- However the run of the examples ends, every hook that was attached has been detached
    once, in the order of attaching, in the episode of the example that attached it. At no
    moment hooks of two episodes sit together, and none sits in the interpreter at the end. -/
theorem hooks_live_within_episodes (interpreter : Interpreter) (examples : List Example)
    (limit : Option Nat) (report : Report) (attached : Nat) (calls : List Call) :
    let course := (runAll interpreter examples).upTo Machine.release limit
      { report, attached, calls }
    course.final.hooks = [] ∧ ∃ episodes,
      course.final.calls = calls ++ episodes.flatten ∧
      List.Forall₂ Episode (examples.take episodes.length) episodes ∧
      (course.value.isSome → episodes.length = examples.length) ∧
      detachedIn episodes.flatten = attachedIn episodes.flatten ∧
      (attachedIn episodes.flatten).Nodup ∧
      (∀ moment, moment <+: episodes.flatten → sittingAfter moment = [] ∨
        ∃ episode ∈ episodes, ∀ number ∈ sittingAfter moment, number ∈ attachedIn episode) ∧
      ∀ now ∈ course.states, ∃ moment, moment <+: episodes.flatten ∧
        now.calls = calls ++ moment ∧ now.hooks.map (·.number) = sittingAfter moment := by
  intro course
  have idle : Machine.Idle { report, attached, calls } := ⟨rfl, rfl⟩
  have keeps := runAll_upTo_releases interpreter examples idle limit
  obtain ⟨begun, released, completed⟩ := keeps.ends
  obtain ⟨episodes, each, made, numbers⟩ := released.calls
  have length : episodes.length = min begun examples.length := by
    rw [← each.length_eq, List.length_take]
  have taken : examples.take episodes.length = examples.take begun := by
    rw [List.take_eq_take_iff, length]
    omega
  refine ⟨released.idle.1, episodes, made, taken ▸ each, ?_, ?_, ?_, ?_, ?_⟩
  · intro ended
    have all := completed ended
    omega
  · exact detachedIn_flatten each
  · rw [numbers]
    exact List.nodup_range'
  · exact fun moment begins => sitting_in_one_episode each moment begins
  · intro now member
    have seen : Accounted { report, attached, calls } now := by
      rcases keeps.states now member with midway | ⟨_, _, ended, _⟩
      · exact midway.accounted
      · exact ended.accounted
    obtain ⟨moment, sofar, hooks⟩ := seen
    -- The calls of `now` are those of `moment`; they only grow until the end.
    have grows := runAll_calls_grow interpreter examples limit { report, attached, calls }
    have early := grows.states forward_calls now member
    rw [sofar, made, List.prefix_append_right_inj] at early
    exact ⟨moment, early, sofar, hooks⟩

end Run
end ExampleProbes
