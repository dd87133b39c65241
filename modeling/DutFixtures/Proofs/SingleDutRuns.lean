import DutFixtures.Proofs.DutContexts
import Mathlib.Data.Nat.Find

namespace DutFixtures

/-- The request for one DUT alone, made of its parts of all fields. -/
def DutRequest.single (r : DutRequest) (index : Nat) : DutRequest where
  count := 1
  appDir := partFor r.appDir index
  target := r.target.map fun value => partFor value index
  config := r.config.map fun value => partFor value index
  buildDir := r.buildDir.map fun value => partFor value index

/-- What is found out about a DUT once its build directory is known. -/
def DutRequest.recordFor (r : DutRequest) (index : Nat) (dir : String) : ResolvedDut where
  index
  appDir := partFor r.appDir index
  target := unlessEmpty (r.target.map fun value => partFor value index)
  config := r.configFor index
  buildDir := dir

theorem DutRun.reports_of_looks (looks : List Report) (outcome : Except Failure (List ResolvedDut)) :
    DutRun.reports ⟨looks.map .looked, outcome⟩ = looks := by
  simp only [DutRun.reports, List.filterMap_map]
  exact List.filterMap_some

theorem DutRun.reports_of_resolved (looks : List Report) (dut : ResolvedDut) (later : DutRun)
    (outcome : Except Failure (List ResolvedDut)) :
    DutRun.reports ⟨looks.map .looked ++ .resolved dut :: later.notes, outcome⟩ =
      looks ++ later.reports := by
  have first : (looks.map DutNote.looked).filterMap DutNote.report? = looks :=
    reports_of_looks looks outcome
  simp only [DutRun.reports, List.filterMap_append, first]
  rfl

section Steps

variable {r : DutRequest} {isDir : String → Bool} {index : Nat}

theorem DutRequest.run_cons_of_found {dir : String} (rest : List Nat) (inRange : index < r.count)
    (found : ((r.contextFor index).search isDir).outcome = .ok dir) :
    (r.partValues.run isDir r.count (index :: rest)).reports =
        ((r.contextFor index).search isDir).reports ++
          (r.partValues.run isDir r.count rest).reports ∧
      (r.partValues.run isDir r.count (index :: rest)).outcome =
        (r.partValues.run isDir r.count rest).outcome.map fun duts =>
          r.recordFor index dir :: duts := by
  have step : r.partValues.run isDir r.count (index :: rest) =
      ⟨((r.contextFor index).search isDir).reports.map .looked ++
          .resolved (r.recordFor index dir) :: (r.partValues.run isDir r.count rest).notes,
        (r.partValues.run isDir r.count rest).outcome.map fun duts =>
          r.recordFor index dir :: duts⟩ := by
    rw [DutValues.run, context_partValues inRange]
    simp only [found, configOf_partValues inRange]
    rfl
  rw [step]
  exact ⟨DutRun.reports_of_resolved _ _ _ _, rfl⟩

theorem DutRequest.run_cons_of_failed {e : Failure} (rest : List Nat) (inRange : index < r.count)
    (failed : ((r.contextFor index).search isDir).outcome = .error e) :
    (r.partValues.run isDir r.count (index :: rest)).reports =
        ((r.contextFor index).search isDir).reports ∧
      (r.partValues.run isDir r.count (index :: rest)).outcome = .error e := by
  have step : r.partValues.run isDir r.count (index :: rest) =
      ⟨((r.contextFor index).search isDir).reports.map .looked, .error e⟩ := by
    rw [DutValues.run, context_partValues inRange]
    simp only [failed]
  rw [step]
  exact ⟨DutRun.reports_of_looks _ _, rfl⟩

/-- DUTs whose builds are found are passed in order, each with its own reports and
its own record, and the run goes on with the others as if it began there. -/
theorem DutRequest.run_append_of_found {before : List Nat} (rest : List Nat)
    (dirOf : Nat → String) (found : ∀ i ∈ before, i < r.count ∧
      ((r.contextFor i).search isDir).outcome = .ok (dirOf i)) :
    (r.partValues.run isDir r.count (before ++ rest)).reports =
        (before.flatMap fun i => ((r.contextFor i).search isDir).reports) ++
          (r.partValues.run isDir r.count rest).reports ∧
      (r.partValues.run isDir r.count (before ++ rest)).outcome =
        (r.partValues.run isDir r.count rest).outcome.map fun duts =>
          before.map (fun i => r.recordFor i (dirOf i)) ++ duts := by
  induction before with
  | nil =>
    refine ⟨rfl, ?_⟩
    cases outcome : (r.partValues.run isDir r.count rest).outcome <;>
      simp only [List.nil_append, outcome] <;> rfl
  | cons first before ih =>
    obtain ⟨inRange, here⟩ := found first (List.mem_cons_self ..)
    obtain ⟨reports, outcome⟩ := ih fun i member => found i (List.mem_cons_of_mem _ member)
    obtain ⟨reportsHere, outcomeHere⟩ := run_cons_of_found (before ++ rest) inRange here
    rw [List.cons_append, reportsHere, outcomeHere, reports, outcome]
    refine ⟨by rw [List.flatMap_cons, List.append_assoc], ?_⟩
    cases (r.partValues.run isDir r.count rest).outcome <;> rfl

end Steps

theorem DutRequest.run_of_admissible {r : DutRequest} (admissible : r.Admissible)
    (isDir : String → Bool) :
    r.run isDir = r.partValues.run isDir r.count (List.range r.count) := by
  rw [run, values_of_admissible admissible]

/-- The DUTs up to a failing one are all that a run looks at. -/
theorem DutRequest.run_of_first_failure {r : DutRequest} (admissible : r.Admissible)
    {isDir : String → Bool} {index : Nat} {e : Failure} (inRange : index < r.count)
    (dirOf : Nat → String)
    (found : ∀ i, i < index → ((r.contextFor i).search isDir).outcome = .ok (dirOf i))
    (failed : ((r.contextFor index).search isDir).outcome = .error e) :
    (r.run isDir).outcome = .error e ∧
      (r.run isDir).reports =
        (List.range (index + 1)).flatMap fun i => ((r.contextFor i).search isDir).reports := by
  obtain ⟨after, split⟩ : ∃ after, List.range r.count = List.range index ++ index :: after := by
    obtain ⟨further, count⟩ := Nat.exists_eq_add_of_lt inRange
    refine ⟨(List.range further).map fun i => index + (i + 1), ?_⟩
    rw [count, Nat.add_assoc, List.range_add, List.range_succ_eq_map]
    simp [Function.comp_def]
  have earlier : ∀ i ∈ List.range index, i < r.count ∧
      ((r.contextFor i).search isDir).outcome = .ok (dirOf i) := by
    intro i member
    have before := List.mem_range.mp member
    exact ⟨before.trans inRange, found i before⟩
  obtain ⟨reports, outcome⟩ := run_append_of_found (index :: after) dirOf earlier
  obtain ⟨reportsHere, outcomeHere⟩ := run_cons_of_failed after inRange failed
  rw [run_of_admissible admissible, split, outcome, reports, outcomeHere, reportsHere]
  exact ⟨rfl, by rw [List.range_succ, List.flatMap_append, List.flatMap_singleton]⟩

theorem DutRequest.run_of_all_found {r : DutRequest} (admissible : r.Admissible)
    {isDir : String → Bool} (dirOf : Nat → String)
    (found : ∀ i, i < r.count → ((r.contextFor i).search isDir).outcome = .ok (dirOf i)) :
    (r.run isDir).outcome = .ok ((List.range r.count).map fun i => r.recordFor i (dirOf i)) ∧
      (r.run isDir).reports =
        (List.range r.count).flatMap fun i => ((r.contextFor i).search isDir).reports := by
  have all : ∀ i ∈ List.range r.count, i < r.count ∧
      ((r.contextFor i).search isDir).outcome = .ok (dirOf i) := by
    intro i member
    exact ⟨List.mem_range.mp member, found i (List.mem_range.mp member)⟩
  obtain ⟨reports, outcome⟩ := run_append_of_found [] dirOf all
  rw [List.append_nil] at reports outcome
  rw [run_of_admissible admissible, outcome, reports]
  exact ⟨by simp [DutValues.run, Except.map], by simp [DutValues.run, DutRun.reports]⟩

section Single

variable {r : DutRequest} {index : Nat}

theorem DutRequest.single_admissible (admissible : r.Admissible) (inRange : index < r.count) :
    (r.single index).Admissible := by
  have fits {value : String} (old : PartsFit value r.count) : PartsFit (partFor value index) 1 :=
    Or.inl (by rw [dutParts_partFor old inRange]; rfl)
  refine ⟨le_rfl, admissible.positive.trans admissible.limited, fits admissible.appDir, ?_, ?_, ?_⟩
  · intro part given
    obtain ⟨value, old, rfl⟩ := Option.map_eq_some_iff.mp given
    exact fits (admissible.target value old)
  · intro part given
    obtain ⟨value, old, rfl⟩ := Option.map_eq_some_iff.mp given
    exact fits (admissible.config value old)
  · intro part given
    obtain ⟨value, old, rfl⟩ := Option.map_eq_some_iff.mp given
    exact fits (admissible.buildDir value old)

/-- Taking the part of a DUT once more changes nothing, whether the field is given or not. -/
theorem map_partFor_partFor {count : Nat} {value : Option String}
    (fits : ∀ text ∈ value, PartsFit text count) (inRange : index < count) :
    ((value.map fun text => partFor text index).map fun text => partFor text 0) =
      value.map fun text => partFor text index := by
  cases value with
  | none => rfl
  | some text => simp only [Option.map_some, partFor_partFor (fits text rfl) inRange]

theorem DutRequest.contextFor_single (admissible : r.Admissible) (inRange : index < r.count) :
    (r.single index).contextFor 0 = r.contextFor index := by
  simp only [contextFor, configFor, single, partFor_partFor admissible.appDir inRange,
    map_partFor_partFor admissible.target inRange, map_partFor_partFor admissible.config inRange,
    map_partFor_partFor admissible.buildDir inRange]

theorem DutRequest.recordFor_single (admissible : r.Admissible) (inRange : index < r.count)
    (dir : String) :
    (r.single index).recordFor 0 dir = { r.recordFor index dir with index := 0 } := by
  simp only [recordFor, configFor, single, partFor_partFor admissible.appDir inRange,
    map_partFor_partFor admissible.target inRange, map_partFor_partFor admissible.config inRange]

/-- The run for one DUT alone is the search for its build directory. -/
theorem DutRequest.run_single (admissible : r.Admissible) (inRange : index < r.count)
    (isDir : String → Bool) :
    ((r.single index).run isDir).reports = ((r.contextFor index).search isDir).reports ∧
      ((r.single index).run isDir).outcome =
        ((r.contextFor index).search isDir).outcome.map fun dir =>
          [{ r.recordFor index dir with index := 0 }] := by
  have alone := single_admissible admissible inRange
  have context := contextFor_single admissible inRange
  cases outcome : ((r.contextFor index).search isDir).outcome with
  | error e =>
    obtain ⟨result, reports⟩ := run_of_first_failure alone (show 0 < (r.single index).count from
      Nat.one_pos) (fun _ => "") (fun i before => absurd before i.not_lt_zero)
      (by rw [context]; exact outcome)
    rw [result, reports]
    exact ⟨by simp [context], rfl⟩
  | ok dir =>
    have found : ∀ i, i < (r.single index).count →
        (((r.single index).contextFor i).search isDir).outcome = .ok dir := by
      intro i before
      have zero : i = 0 := Nat.lt_one_iff.mp before
      rw [zero, context, outcome]
    obtain ⟨result, reports⟩ := run_of_all_found alone (fun _ => dir) found
    have count : List.range (r.single index).count = [0] := rfl
    rw [result, reports, count]
    refine ⟨by simp [context], ?_⟩
    simp only [List.map_singleton, recordFor_single admissible inRange]
    rfl

end Single

/-- Every DUT alone is resolved. The run gives their records, each with the number of its
DUT, and makes their reports one after the other. -/
def DutRequest.ResolvesInTurn (r : DutRequest) (isDir : String → Bool) : Prop :=
  ∃ duts : List ResolvedDut, duts.length = r.count ∧
    (∀ i, i < r.count → ∃ dut, ((r.single i).run isDir).outcome = .ok [dut] ∧
      duts[i]? = some { dut with index := i }) ∧
    (r.run isDir).outcome = .ok duts ∧
    (r.run isDir).reports = (List.range r.count).flatMap fun i => ((r.single i).run isDir).reports

/-- A DUT alone fails and those before it do not. The run ends with that failure and with
the reports of that DUT, and there are none on later ones. -/
def DutRequest.FailsInTurn (r : DutRequest) (isDir : String → Bool) (index : Nat) (e : Failure) :
    Prop :=
  index < r.count ∧
    (∀ i, i < index → ∃ dut, ((r.single i).run isDir).outcome = .ok [dut]) ∧
    ((r.single index).run isDir).outcome = .error e ∧
    (r.run isDir).outcome = .error e ∧
    (r.run isDir).reports =
      (List.range (index + 1)).flatMap fun i => ((r.single i).run isDir).reports

section InTurn

variable {r : DutRequest} {isDir : String → Bool} (admissible : r.Admissible)
include admissible

theorem DutRequest.run_single_of_found {index : Nat} {dir : String} (inRange : index < r.count)
    (found : ((r.contextFor index).search isDir).outcome = .ok dir) :
    ((r.single index).run isDir).outcome = .ok [{ r.recordFor index dir with index := 0 }] := by
  rw [(run_single admissible inRange isDir).2, found]
  rfl

/-- The reports of the searches for some of the first DUTs are those of their single runs. -/
theorem DutRequest.flatMap_single_reports {bound : Nat} (inRange : bound ≤ r.count) :
    ((List.range bound).flatMap fun i => ((r.contextFor i).search isDir).reports) =
      (List.range bound).flatMap fun i => ((r.single i).run isDir).reports := by
  refine List.flatMap_congr fun i member => ?_
  have before := List.mem_range.mp member
  rw [(run_single admissible (before.trans_le inRange) isDir).1]

theorem DutRequest.resolvesInTurn_of_found (dirOf : Nat → String)
    (found : ∀ i, i < r.count → ((r.contextFor i).search isDir).outcome = .ok (dirOf i)) :
    r.ResolvesInTurn isDir := by
  obtain ⟨outcome, reports⟩ := run_of_all_found admissible dirOf found
  refine ⟨_, by simp, ?_, outcome, ?_⟩
  · intro i inRange
    exact ⟨_, run_single_of_found admissible inRange (found i inRange), by simp [inRange, recordFor]⟩
  · rw [reports, flatMap_single_reports admissible le_rfl]

theorem DutRequest.failsInTurn_of_first_failure {index : Nat} {e : Failure}
    (inRange : index < r.count) (dirOf : Nat → String)
    (found : ∀ i, i < index → ((r.contextFor i).search isDir).outcome = .ok (dirOf i))
    (failed : ((r.contextFor index).search isDir).outcome = .error e) :
    r.FailsInTurn isDir index e := by
  obtain ⟨outcome, reports⟩ := run_of_first_failure admissible inRange dirOf found failed
  refine ⟨inRange, ?_, ?_, outcome, ?_⟩
  · intro i before
    exact ⟨_, run_single_of_found admissible (before.trans inRange) (found i before)⟩
  · rw [(run_single admissible inRange isDir).2, failed]
    rfl
  · rw [reports, flatMap_single_reports admissible (Nat.succ_le_of_lt inRange)]

end InTurn

/-- A run over several DUTs is the runs for each of them alone, in order and up to the
first one that fails. Each of these is the search for the build of one DUT. -/
theorem DutRequest.run_refines_single_runs (r : DutRequest) (isDir : String → Bool)
    (admissible : r.Admissible) :
    (r.ResolvesInTurn isDir ∨ ∃ index e, r.FailsInTurn isDir index e) ∧
      ∀ i, i < r.count →
        ((r.single i).run isDir).reports = ((r.contextFor i).search isDir).reports ∧
        ((r.single i).run isDir).outcome =
          ((r.contextFor i).search isDir).outcome.map fun dir =>
            [{ index := 0
               appDir := partFor r.appDir i
               target := unlessEmpty (r.target.map fun value => partFor value i)
               config := effectiveConfig (r.config.map fun value => partFor value i)
               buildDir := dir }] := by
  classical
  refine ⟨?_, fun i inRange => run_single admissible inRange isDir⟩
  let dirOf (i : Nat) : String := ((r.contextFor i).search isDir).outcome.toOption.getD ""
  have found_or_failed (i : Nat) : ((r.contextFor i).search isDir).outcome = .ok (dirOf i) ∨
      ∃ e, ((r.contextFor i).search isDir).outcome = .error e := by
    cases outcome : ((r.contextFor i).search isDir).outcome with
    | ok dir => exact Or.inl (by simp [dirOf, outcome, Except.toOption])
    | error e => exact Or.inr ⟨e, rfl⟩
  by_cases failure : ∃ i, i < r.count ∧ ∃ e, ((r.contextFor i).search isDir).outcome = .error e
  · obtain ⟨inRange, e, failed⟩ := Nat.find_spec failure
    refine Or.inr ⟨Nat.find failure, e, failsInTurn_of_first_failure admissible inRange dirOf ?_ failed⟩
    intro i before
    refine (found_or_failed i).resolve_right fun failedHere => ?_
    exact Nat.find_min failure before ⟨before.trans inRange, failedHere⟩
  · refine Or.inl (resolvesInTurn_of_found admissible dirOf fun i inRange => ?_)
    exact (found_or_failed i).resolve_right fun failedHere => failure ⟨i, inRange, failedHere⟩

/-- Two DUTs with one application, of which the second has a blank target and a
directory of its own. -/
theorem DutRequest.run_refines_single_runs_mixed :
    let r : DutRequest :=
      { count := 2, appDir := " app", target := some "esp32 | ", buildDir := some "|out" }
    let isDir : String → Bool := fun path => path == "app/build_esp32" || path == "app/out"
    r.Admissible ∧ (r.ResolvesInTurn isDir ∨ ∃ index e, r.FailsInTurn isDir index e) := by
  intro r isDir
  have admissible : r.Admissible := by decide +kernel
  exact ⟨admissible, (run_refines_single_runs r isDir admissible).1⟩

end DutFixtures
