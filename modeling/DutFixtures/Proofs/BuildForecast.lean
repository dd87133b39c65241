import DutFixtures.Proofs.CallFields
import DutFixtures.Proofs.FirstDirectory
import DutFixtures.Proofs.SearchAnswers

namespace DutFixtures

/-- Both tools for build directories refuse some arguments in the same words, on every
bench and without an event. -/
structure RefusedAlike (d : Defaults) (fields : List (String × Json)) (refusal : Refusal) :
    Prop where
  cause :
    (∃ fault, faultIn? Tool.resolveBuildDir.parameters fields = some fault ∧
      refusal = ⟨.invalidParams, "failed to deserialize parameters: " ++ fault.message⟩) ∨
    (unlessEmpty (textParameter "app_path" fields) = none ∧ d.appDir = none ∧
      refusal = ⟨.invalidParams,
        "No application path configured. Set --app-path or pass app_path argument."⟩)
  listing : ∀ bench, answerCall d bench "list_build_candidates" fields = ⟨[], .error refusal⟩
  resolving : ∀ bench, answerCall d bench "resolve_build_dir" fields = ⟨[], .error refusal⟩

/-- The listed candidates say on every bench what the search for the same arguments comes
to: it takes the first one that is a directory there, and it logs its way up to it. -/
structure Forecast (d : Defaults) (fields : List (String × Json)) (appDir : String)
    (names : List String) : Prop where
  nonempty : names ≠ []
  listing : ∀ bench, (answerCall d bench "list_build_candidates" fields).result =
    .ok (.candidates appDir names)
  found : ∀ bench, (∃ name ∈ names, bench.isDir (joinPath appDir name) = true) →
    ∃ before name after, FirstMatch bench.isDir appDir names before name after ∧
      answerCall d bench "resolve_build_dir" fields =
        ⟨before.map (fun other => ⟨.warn, .buildDir, "Checking binary path: " ++
              joinPath appDir other ++ "... missing... trying another place"⟩) ++
            [⟨.info, .buildDir, "Found valid binary path: " ++ joinPath appDir name⟩,
              ⟨.info, .tools, "Resolved build directory: " ++ joinPath appDir name⟩],
          .ok (.buildDir name (joinPath appDir name))⟩
  missing : ∀ bench, (∀ name ∈ names, bench.isDir (joinPath appDir name) = false) →
    ∃ first, names.head? = some first ∧
      answerCall d bench "resolve_build_dir" fields =
        ⟨names.map fun other => ⟨.warn, .buildDir, "Checking binary path: " ++
            joinPath appDir other ++ "... missing... trying another place"⟩,
          .error ⟨.invalidParams, "No valid build directory under " ++ appDir ++
            ". Please build the binary via \"idf.py -B " ++ first ++
            " build\" and run the tests again"⟩⟩

section Answers

variable {ctx : BuildContext} {isDir : String → Bool}

theorem BuildContext.buildDirAnswer_of_match {before after : List String} {name : String}
    (first : FirstMatch isDir ctx.appDir ctx.candidates before name after) :
    ctx.buildDirAnswer isDir =
      ⟨before.map (fun other => (missingUnder ctx.appDir other).event) ++
          [(Report.found (joinPath ctx.appDir name)).event,
            ⟨.info, .tools, "Resolved build directory: " ++ joinPath ctx.appDir name⟩],
        .ok (.buildDir name (joinPath ctx.appDir name))⟩ := by
  have search := search_of_match first
  rw [buildDirAnswer_of_ok (by rw [search]), search, List.map_append, List.map_map,
    List.append_assoc]
  rfl

theorem BuildContext.buildDirAnswer_of_none {first : String}
    (none : NoDirectory isDir ctx.appDir ctx.candidates)
    (head : ctx.candidates.head? = some first) :
    ctx.buildDirAnswer isDir =
      ⟨ctx.candidates.map fun other => (missingUnder ctx.appDir other).event,
        .error ⟨.invalidParams, (Failure.noValidBuildDirectory ctx.appDir first).message⟩⟩ := by
  have search := search_of_none none head
  rw [buildDirAnswer_of_error (by rw [search]), search, List.map_map]
  rfl

end Answers

section Calls

variable {d : Defaults} {fields : List (String × Json)}

theorem refusedAlike_of_fault {fault : ParameterFault}
    (rejected : faultIn? Tool.resolveBuildDir.parameters fields = some fault) :
    RefusedAlike d fields
      ⟨.invalidParams, "failed to deserialize parameters: " ++ fault.message⟩ where
  cause := Or.inl ⟨fault, rejected, rfl⟩
  listing bench := answerCall_of_fault .listBuildCandidates rejected d bench
  resolving bench := answerCall_of_fault .resolveBuildDir rejected d bench

variable (sound : faultIn? Tool.resolveBuildDir.parameters fields = none)
include sound

theorem answerCall_listing (bench : Bench) :
    answerCall d bench "list_build_candidates" fields =
      (Call.listBuildCandidates (searchParams fields)).run d bench :=
  answerCall_of_sound .listBuildCandidates sound d bench

theorem answerCall_resolving (bench : Bench) :
    answerCall d bench "resolve_build_dir" fields =
      (Call.resolveBuildDir (searchParams fields)).run d bench :=
  answerCall_of_sound .resolveBuildDir sound d bench

theorem refusedAlike_of_no_path (absent : d.contextFor (searchParams fields) = none) :
    RefusedAlike d fields
      ⟨.invalidParams,
        "No application path configured. Set --app-path or pass app_path argument."⟩ where
  cause := by
    have none : d.appDirFor (textParameter "app_path" fields) = none :=
      Option.map_eq_none_iff.mp absent
    obtain ⟨notGiven, noDefault⟩ := Option.or_eq_none_iff.mp none
    exact Or.inr ⟨notGiven, noDefault, rfl⟩
  listing bench := by
    rw [answerCall_listing sound, Call.run, absent]
    rfl
  resolving bench := by
    rw [answerCall_resolving sound, Call.run, absent]
    rfl

theorem forecast_of_context {ctx : BuildContext}
    (present : d.contextFor (searchParams fields) = some ctx) :
    Forecast d fields ctx.appDir ctx.candidates where
  nonempty := by
    obtain ⟨first, head⟩ := ctx.candidates_head
    intro empty
    rw [empty] at head
    nomatch head
  listing bench := by
    rw [answerCall_listing sound, Call.run, present]
    rfl
  found bench some := by
    obtain ⟨candidate, member, directory⟩ := some
    rcases firstMatch_or_none bench.isDir ctx.appDir ctx.candidates with
      ⟨before, name, after, first⟩ | none
    · refine ⟨before, name, after, first, ?_⟩
      rw [answerCall_resolving sound, Call.run, present]
      exact BuildContext.buildDirAnswer_of_match first
    · rw [none candidate member] at directory
      nomatch directory
  missing bench none := by
    obtain ⟨first, head⟩ := ctx.candidates_head
    refine ⟨first, head, ?_⟩
    rw [answerCall_resolving sound, Call.run, present]
    exact BuildContext.buildDirAnswer_of_none none head

end Calls

/-- The list of candidates forecasts the search: for the same arguments either both tools
refuse alike, or the list does not depend on the bench and says what the search does on
each one. -/
theorem refused_or_forecast (d : Defaults) (fields : List (String × Json)) :
    (∃ refusal, RefusedAlike d fields refusal) ∨
      ∃ appDir names, Forecast d fields appDir names := by
  cases checked : faultIn? Tool.resolveBuildDir.parameters fields with
  | some fault => exact Or.inl ⟨_, refusedAlike_of_fault checked⟩
  | none =>
    cases context : d.contextFor (searchParams fields) with
    | none => exact Or.inl ⟨_, refusedAlike_of_no_path checked context⟩
    | some ctx => exact Or.inr ⟨_, _, forecast_of_context checked context⟩

end DutFixtures
