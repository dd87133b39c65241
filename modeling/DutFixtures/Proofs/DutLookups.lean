import DutFixtures.Proofs.DutFaults

namespace DutFixtures

/-- The lists of a run hold an entry for each of its DUTs and no others. -/
structure DutValues.Complete (v : DutValues) (count : Nat) : Prop where
  appDirs : v.appDirs.length = count
  targets : ∀ targets ∈ v.targets, targets.length = count
  configs : v.configs.length = count
  buildDirs : v.buildDirs.length = count

/-- A context is made of the entries at an index, all of which are there. The target that is
picked is that entry as well, also where a run of one DUT takes the first one. -/
structure DutValues.LooksUp (v : DutValues) (count index : Nat) (ctx : BuildContext) : Prop where
  appDir : v.appDirs[index]? = some ctx.appDir
  target : ∀ targets ∈ v.targets, ∃ target, targets[index]? = some target ∧
    (count = 1 → targets[0]? = some target) ∧ pickTarget targets count index = .ok target ∧
    ctx.target = unlessEmpty (some target)
  noTarget : v.targets = none → ctx.target = none
  config : ∃ config, v.configs[index]? = some config ∧ ctx.config = some (effectiveConfig config)
  buildDir : v.buildDirs[index]? = some ctx.chosenDir

section Lookups

variable {v : DutValues} {targets : List String} {count index : Nat}

theorem getElem?_eq_getD {α : Type} {entries : List α} (inRange : index < entries.length)
    (fallback : α) : entries[index]? = some (entries.getD index fallback) := by
  rw [List.getElem?_eq_getElem inRange, List.getD_eq_getElem _ _ inRange]

/-- The only index of a run of one DUT is that of the first target. -/
theorem pickTarget_of_length (length : targets.length = count) (inRange : index < count) :
    ∃ target, targets[index]? = some target ∧ (count = 1 → targets[0]? = some target) ∧
      pickTarget targets count index = .ok target := by
  obtain ⟨target, there⟩ : ∃ target, targets[index]? = some target :=
    ⟨_, List.getElem?_eq_getElem (length.symm ▸ inRange)⟩
  refine ⟨target, there, fun single => ?_, pickTarget_of_getElem? inRange there⟩
  have first : index = 0 := by omega
  rwa [first] at there

theorem DutValues.Complete.context (complete : v.Complete count) (inRange : index < count) :
    ∃ ctx, v.context count index = .ok ctx ∧ v.LooksUp count index ctx := by
  have appDir := getElem?_eq_getD (complete.appDirs.symm ▸ inRange) ""
  have config := getElem?_eq_getD (complete.configs.symm ▸ inRange) none
  have buildDir := getElem?_eq_getD (complete.buildDirs.symm ▸ inRange) none
  cases given : v.targets with
  | none =>
    have context : v.context count index = .ok
        { appDir := v.appDirs.getD index "", target := none, config := some (v.configOf index),
          chosenDir := v.buildDirs.getD index none } := by
      rw [DutValues.context, given]
      rfl
    refine ⟨_, context, appDir, ?_, fun _ => rfl, ⟨_, config, rfl⟩, buildDir⟩
    intro targets same
    cases given.symm.trans same
  | some targets =>
    obtain ⟨target, there, first, picked⟩ :=
      pickTarget_of_length (complete.targets targets given) inRange
    have context : v.context count index = .ok
        { appDir := v.appDirs.getD index "", target := unlessEmpty (some target),
          config := some (v.configOf index), chosenDir := v.buildDirs.getD index none } := by
      rw [DutValues.context, given, Option.mapM_some, picked]
      rfl
    refine ⟨_, context, appDir, ?_, ?_, ⟨_, config, rfl⟩, buildDir⟩
    · intro targets' same
      cases given.symm.trans same
      exact ⟨target, there, first, picked, rfl⟩
    · intro absent
      cases given.symm.trans absent

end Lookups

namespace DutRequest

variable {r : DutRequest} {v : DutValues} {isDir : String → Bool} {e : Failure}

theorem complete_partValues (r : DutRequest) : r.partValues.Complete r.count where
  appDirs := by simp [partValues]
  targets := by simp [partValues]
  configs := by simp [partValues]
  buildDirs := by simp [partValues]

theorem eq_partValues (split : r.values = .ok v) : v = r.partValues := by
  rw [values_eq] at split
  cases fault : r.fault? with
  | some e =>
    rw [fault] at split
    nomatch split
  | none =>
    rw [fault] at split
    exact (Except.ok.inj split).symm

/-- A run fails before the first DUT or at a DUT without a build. -/
theorem run_error (failed : (r.run isDir).outcome = .error e) :
    r.fault? = some e ∨ ∃ appDir first, e = .noValidBuildDirectory appDir first := by
  cases fault : r.fault? with
  | some e' =>
    rw [run_of_fault fault] at failed
    cases failed
    exact Or.inl rfl
  | none => exact Or.inr (failure_of_sound (fault?_eq_none_iff.mp fault) failed).1

/-- The only parameter that is refused by itself is the number of DUTs. -/
theorem fault_aboutCount {reason : String} (fault : r.fault? = some (.invalidParameter reason)) :
    ∃ rest, reason = "DUT count " ++ rest := by
  unfold fault? at fault
  split at fault
  · cases fault
    exact ⟨"must be at least 1", by decide +kernel⟩
  split at fault
  · cases fault
    exact ⟨_, by rw [String.append_assoc, String.append_assoc]⟩
  · obtain ⟨field, -, mismatch⟩ := List.exists_of_findSome?_eq_some fault
    rw [GivenField.mismatch?] at mismatch
    split at mismatch <;> cases mismatch

theorem noTarget_ne_count (rest : String) (index configured : Nat) :
    Failure.noTarget index configured ≠ .invalidParameter ("DUT count " ++ rest) := by
  intro same
  have heads := congrArg (fun text => text.toList.head?) (Failure.invalidParameter.inj same)
  simp at heads

/-- When the fields of a request are split, each list has an entry for each DUT. So what is read
for a DUT is there, its target is the one of its index under either rule, and no run fails for
want of a target, whatever stands in the file system. -/
theorem lookups_in_range (r : DutRequest) :
    (∀ v, r.values = .ok v → v.Complete r.count ∧ v.targets.isSome = r.target.isSome ∧
      ∀ index, index < r.count →
        ∃ ctx, v.context r.count index = .ok ctx ∧ v.LooksUp r.count index ctx) ∧
    ∀ isDir index configured, (r.run isDir).outcome ≠ .error (.noTarget index configured) := by
  constructor
  · intro v split
    rw [eq_partValues split]
    refine ⟨r.complete_partValues, ?_, fun index => r.complete_partValues.context⟩
    rw [partValues, Option.isSome_map]
  · intro isDir index configured failed
    rcases run_error failed with fault | ⟨appDir, first, missing⟩
    · obtain ⟨rest, text⟩ := fault_aboutCount fault
      exact noTarget_ne_count rest index configured (congrArg Failure.invalidParameter text)
    · cases missing

/-- The first of two DUTs has no target, and the second one no directory of its own. -/
theorem lookups_in_range_mixed :
    let r : DutRequest :=
      { count := 2, appDir := "app", target := some "|esp32", buildDir := some "out | " }
    let v : DutValues :=
      ⟨["app", "app"], some ["", "esp32"], [none, none], [some "out", none]⟩
    r.values = .ok v ∧ 1 < r.count ∧ ∃ ctx, v.context 2 1 = .ok ctx ∧ v.LooksUp 2 1 ctx := by
  intro r v
  have split : r.values = .ok v := by decide +kernel
  obtain ⟨looksUp, -⟩ := lookups_in_range r
  obtain ⟨-, -, lookups⟩ := looksUp v split
  exact ⟨split, by decide, lookups 1 (by decide)⟩

end DutRequest

end DutFixtures
