import DutFixtures.Proofs.CallFields
import DutFixtures.Proofs.EmptyTexts
import DutFixtures.Proofs.SearchAnswers

namespace DutFixtures

/-- A request for one DUT of which all given texts are plain. -/
structure DutRequest.Plain (r : DutRequest) : Prop where
  one : r.count = 1
  appDir : IsPlain r.appDir
  target : ∀ value ∈ r.target, IsPlain value
  config : ∀ value ∈ r.config, IsPlain value
  buildDir : ∀ value ∈ r.buildDir, IsPlain value

theorem map_partFor_of_plain {value : Option String} (plain : ∀ text ∈ value, IsPlain text)
    (index : Nat) : (value.map fun text => partFor text index) = value := by
  cases value with
  | none => rfl
  | some text => rw [Option.map_some, (plain text rfl).partFor]

namespace DutRequest.Plain

variable {r : DutRequest} (plain : r.Plain)
include plain

theorem admissible : r.Admissible where
  positive := plain.one.ge
  limited := plain.one.trans_le (by decide)
  appDir := plain.appDir.partsFit _
  target value given := (plain.target value given).partsFit _
  config value given := (plain.config value given).partsFit _
  buildDir value given := (plain.buildDir value given).partsFit _

theorem single_eq : r.single 0 = r := by
  simp only [single, plain.appDir.partFor, map_partFor_of_plain plain.target,
    map_partFor_of_plain plain.config, map_partFor_of_plain plain.buildDir, ← plain.one]

theorem contextFor_eq :
    r.contextFor 0 =
      { appDir := r.appDir
        target := unlessEmpty r.target
        config := some (effectiveConfig r.config)
        chosenDir := unlessEmpty r.buildDir } := by
  simp only [contextFor, configFor, plain.appDir.partFor, map_partFor_of_plain plain.target,
    map_partFor_of_plain plain.config, map_partFor_of_plain plain.buildDir]

theorem recordFor_eq (dir : String) :
    r.recordFor 0 dir = ⟨0, r.appDir, unlessEmpty r.target, effectiveConfig r.config, dir⟩ := by
  simp only [recordFor, configFor, plain.appDir.partFor, map_partFor_of_plain plain.target,
    map_partFor_of_plain plain.config]

end DutRequest.Plain

/-- The context in which a request for one DUT is searched without being split. -/
def DutRequest.unsplitContext (r : DutRequest) : BuildContext where
  appDir := r.appDir
  target := r.target
  config := some (effectiveConfig r.config)
  chosenDir := r.buildDir

/-- A plain request is run by one search, with the texts as they are given. -/
theorem DutRequest.Plain.run_eq {r : DutRequest} (plain : r.Plain) (isDir : String → Bool) :
    (r.run isDir).reports = (r.unsplitContext.search isDir).reports ∧
      (r.run isDir).outcome = (r.unsplitContext.search isDir).outcome.map fun dir =>
        [⟨0, r.appDir, unlessEmpty r.target, effectiveConfig r.config, dir⟩] := by
  have inRange : 0 < r.count := plain.admissible.positive
  have same : (r.contextFor 0).cleaned = r.unsplitContext.cleaned := by
    simp only [plain.contextFor_eq, unsplitContext, BuildContext.cleaned, unlessEmpty_unlessEmpty]
  obtain ⟨reports, outcome⟩ := run_single plain.admissible inRange isDir
  rw [plain.single_eq, BuildContext.search_of_cleaned same] at reports outcome
  refine ⟨reports, ?_⟩
  rw [outcome]
  simp only [plain.recordFor_eq]

/-- The run and the search come to the same: one directory and one record with it, or one
failure in the same words. -/
theorem DutRequest.Plain.answers_agree {r : DutRequest} (plain : r.Plain)
    (isDir : String → Bool) :
    ((∃ name path, (r.unsplitContext.buildDirAnswer isDir).result = .ok (.buildDir name path) ∧
        (r.answer isDir).result =
          .ok (.duts [⟨0, r.appDir, unlessEmpty r.target, effectiveConfig r.config, name⟩])) ∨
      ∃ refusal, (r.unsplitContext.buildDirAnswer isDir).result = .error refusal ∧
        (r.answer isDir).result = .error refusal) ∧
    (r.answer isDir).checks = (r.unsplitContext.buildDirAnswer isDir).checks := by
  obtain ⟨reports, outcome⟩ := plain.run_eq isDir
  refine ⟨?_, by rw [checks_answer, BuildContext.checks_buildDirAnswer, reports]⟩
  cases found : (r.unsplitContext.search isDir).outcome with
  | ok name =>
    rw [found] at outcome
    rw [answer_of_ok outcome, BuildContext.buildDirAnswer_of_ok found]
    exact Or.inl ⟨name, joinPath r.appDir name, rfl, rfl⟩
  | error e =>
    rw [found] at outcome
    rw [answer_of_error outcome, BuildContext.buildDirAnswer_of_error found]
    -- The notes that are logged before a failure differ in form, its words do not.
    obtain ⟨refusal, refused⟩ := e.refused ((r.run isDir).notes.map DutNote.event)
    exact Or.inr ⟨refusal, (e.result_answer _ _).trans refused, refused⟩

theorem Defaults.contextFor_unsplit {d : Defaults} {p : RunParams} {r : DutRequest}
    (merged : d.requestFor p = some r) :
    d.contextFor ⟨p.appDir, p.target, some (effectiveConfig r.config), p.buildDir⟩ =
      some r.unsplitContext := by
  obtain ⟨appDir, path, rfl⟩ := Option.map_eq_some_iff.mp merged
  simp only [Defaults.contextFor, path]
  rfl

/-- For one DUT and plain texts the run over several DUTs does the same as the search for one
build directory: both find the same directory and record the same texts, or both fail in
the same words, and they look at the same paths in the same order. -/
theorem resolveDuts_agrees (d : Defaults) (bench : Bench) {fields : List (String × Json)}
    {p : RunParams} {r : DutRequest}
    (accepted : Tool.resolveDuts.decode fields = .ok (.resolveDuts p))
    (merged : d.requestFor p = some r) (plain : r.Plain) :
    let config := (unlessEmpty r.config).getD "default"
    let several := answerCall d bench "resolve_duts" fields
    let alone := answerCall d bench "resolve_build_dir"
      (SearchParams.mk p.appDir p.target (some config) p.buildDir).fields
    ((∃ name path, alone.result = .ok (.buildDir name path) ∧
        several.result = .ok (.duts
          [{ index := 0
             appDir := r.appDir
             target := unlessEmpty r.target
             config
             buildDir := name }])) ∨
      ∃ refusal, alone.result = .error refusal ∧ several.result = .error refusal) ∧
    several.checks = alone.checks := by
  intro config several alone
  -- Each side is one call on the same request: a run of it, and a search without splitting.
  have severalEq : several = r.answer bench.isDir := by
    have called := answerCall_of_decode accepted d bench
    rw [Call.run, merged] at called
    exact called
  have aloneEq : alone = r.unsplitContext.buildDirAnswer bench.isDir := by
    have decoded := Tool.decode_fields
      (.resolveBuildDir ⟨p.appDir, p.target, some config, p.buildDir⟩) trivial
    have context : d.contextFor ⟨p.appDir, p.target, some config, p.buildDir⟩ =
        some r.unsplitContext := Defaults.contextFor_unsplit merged
    have called := answerCall_of_decode decoded d bench
    rw [Call.run, context] at called
    exact called
  rw [severalEq, aloneEq]
  exact plain.answers_agree bench.isDir

/-- The empty configuration of the call stands against the default, and the only DUT falls
back to the name for none. -/
theorem resolveDuts_agrees_emptyConfig :
    let d : Defaults := { appDir := some "app", target := some "esp32", config := some "ws" }
    let bench : Bench := ⟨fun path => path == "app/build_esp32", .offline⟩
    let fields := [("config", Json.text "")]
    let r : DutRequest :=
      { count := 1, appDir := "app", target := some "esp32", config := some "" }
    Tool.resolveDuts.decode fields = .ok (.resolveDuts { config := some "" }) ∧
      d.requestFor { config := some "" } = some r ∧ r.Plain ∧
      (answerCall d bench "resolve_duts" fields).checks =
        (answerCall d bench "resolve_build_dir"
          (SearchParams.mk none none (some "default") none).fields).checks := by
  intro d bench fields r
  have accepted : Tool.resolveDuts.decode fields =
      .ok (.resolveDuts { config := some "" }) := rfl
  have merged : d.requestFor { config := some "" } = some r := rfl
  have plain : r.Plain :=
    { one := rfl
      appDir := ⟨by decide, by decide +kernel⟩
      target := by
        rintro value ⟨⟩
        exact ⟨by decide, by decide +kernel⟩
      config := by
        rintro value ⟨⟩
        exact ⟨by decide, by decide +kernel⟩
      buildDir := nofun }
  exact ⟨accepted, merged, plain, (resolveDuts_agrees d bench accepted merged plain).2⟩

end DutFixtures
