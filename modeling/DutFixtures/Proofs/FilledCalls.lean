import DutFixtures.Proofs.CallFields
import DutFixtures.Proofs.EmptyTexts

namespace DutFixtures

/-- A text with the default in its place if it is empty or not given, and there is one. -/
def filledText (given default : Option String) : Option String :=
  (unlessEmpty given).or (default.or given)

def SearchParams.filledFrom (p : SearchParams) (d : Defaults) : SearchParams where
  appDir := filledText p.appDir d.appDir
  target := p.target.or d.target
  config := p.config.or d.config
  buildDir := p.buildDir.or d.buildDir

def RunParams.filledFrom (p : RunParams) (d : Defaults) : RunParams where
  count := some (p.count.getD d.dutCount)
  appDir := filledText p.appDir d.appDir
  target := p.target.or d.target
  config := p.config.or d.config
  buildDir := p.buildDir.or d.buildDir

/-- The call that names the defaults that it would use. -/
def Call.filledFrom (call : Call) (d : Defaults) : Call :=
  match call with
  | .hostIp dest => .hostIp (filledText dest d.probeDest)
  | .listBuildCandidates params => .listBuildCandidates (params.filledFrom d)
  | .resolveBuildDir params => .resolveBuildDir (params.filledFrom d)
  | .resolveDuts params => .resolveDuts (params.filledFrom d)
  | other => other

section Filled

variable {d : Defaults}

theorem appDirFor_filled (path : d.appDir ≠ some "") (given : Option String) :
    ({} : Defaults).appDirFor (filledText given d.appDir) = d.appDirFor given := by
  simp only [Defaults.appDirFor, filledText, Option.or_none]
  cases named : unlessEmpty given with
  | some text => rw [Option.some_or, Option.some_or, ← named, unlessEmpty_unlessEmpty]
  | none =>
    rw [Option.none_or, Option.none_or]
    cases default : d.appDir with
    | none => rw [Option.none_or, named]
    | some dir =>
      have nonempty : dir ≠ "" := fun empty => path (by rw [default, empty])
      rw [Option.some_or, unlessEmpty, Option.filter_some_pos (by simpa using nonempty)]

/-- An empty default destination counts as none, so that it may be passed on as well. -/
theorem destFor_filled (given : Option String) :
    ({} : Defaults).destFor (filledText given d.probeDest) = d.destFor given := by
  simp only [Defaults.destFor, filledText, unlessEmpty_none, Option.or_none]
  cases named : unlessEmpty given with
  | some text => rw [Option.some_or, Option.some_or, ← named, unlessEmpty_unlessEmpty]
  | none =>
    rw [Option.none_or, Option.none_or]
    cases default : d.probeDest with
    | none => rw [Option.none_or, named, unlessEmpty_none]
    | some dest => rw [Option.some_or]

theorem contextFor_filled (path : d.appDir ≠ some "") (p : SearchParams) :
    ({} : Defaults).contextFor (p.filledFrom d) = d.contextFor p := by
  simp only [Defaults.contextFor, SearchParams.filledFrom, appDirFor_filled path, Option.or_none]

theorem requestFor_filled (path : d.appDir ≠ some "") (p : RunParams) :
    ({} : Defaults).requestFor (p.filledFrom d) = d.requestFor p := by
  simp only [Defaults.requestFor, RunParams.filledFrom, appDirFor_filled path, Option.or_none,
    Option.getD_some]

theorem Call.run_filled (path : d.appDir ≠ some "") (call : Call) (bench : Bench) :
    (call.filledFrom d).run {} bench = call.run d bench := by
  cases call with
  | hostIp dest => simp only [filledFrom, run, destFor_filled]
  | listBuildCandidates params => simp only [filledFrom, run, contextFor_filled path]
  | logPerformance item value => rfl
  | resolveBuildDir params => simp only [filledFrom, run, contextFor_filled path]
  | resolveDuts params => simp only [filledFrom, run, requestFor_filled path]
  | runnerIp console => rfl

theorem Call.tool_filled (call : Call) : (call.filledFrom d).tool = call.tool := by
  cases call <;> rfl

theorem Call.sized_filled {call : Call} (sized : call.WordSized)
    (count : isWordSized d.dutCount = true) : (call.filledFrom d).WordSized := by
  cases call with
  | resolveDuts params =>
    intro n member
    cases Option.mem_some_iff.mp member
    cases given : params.count with
    | none => exact count
    | some m => exact sized m given
  | _ => trivial

end Filled

/-- A default that is not there. -/
def Defaults.without (d : Defaults) (part : NamePart) : Defaults :=
  match part with
  | .target => { d with target := none }
  | .config => { d with config := none }
  | .buildDir => { d with buildDir := none }

def SearchParams.withPart (p : SearchParams) (part : NamePart) (value : Option String) :
    SearchParams :=
  match part with
  | .target => { p with target := value }
  | .config => { p with config := value }
  | .buildDir => { p with buildDir := value }

def RunParams.withPart (p : RunParams) (part : NamePart) (value : Option String) : RunParams :=
  match part with
  | .target => { p with target := value }
  | .config => { p with config := value }
  | .buildDir => { p with buildDir := value }

/-- A call with another text for a parameter, if it is one of its parameters. -/
def Call.withPart (call : Call) (part : NamePart) (value : Option String) : Call :=
  match call with
  | .listBuildCandidates params => .listBuildCandidates (params.withPart part value)
  | .resolveBuildDir params => .resolveBuildDir (params.withPart part value)
  | .resolveDuts params => .resolveDuts (params.withPart part value)
  | other => other

section Empty

variable (d : Defaults) (part : NamePart)

theorem contextFor_withPart_some (p : SearchParams) (text : String) :
    d.contextFor (p.withPart part (some text)) =
      (d.contextFor p).map fun ctx => ctx.withPart part (some text) := by
  cases part <;>
    simp only [Defaults.contextFor, SearchParams.withPart, Option.map_map, Option.some_or] <;> rfl

theorem contextFor_withPart_none (p : SearchParams) :
    (d.without part).contextFor (p.withPart part none) =
      (d.contextFor p).map fun ctx => ctx.withPart part none := by
  cases part <;>
    simp only [Defaults.contextFor, SearchParams.withPart, Defaults.without, Option.map_map,
      Option.none_or] <;> rfl

theorem requestFor_withPart_some (p : RunParams) (text : String) :
    d.requestFor (p.withPart part (some text)) =
      (d.requestFor p).map fun r => r.withPart part (some text) := by
  cases part <;>
    simp only [Defaults.requestFor, RunParams.withPart, Option.map_map, Option.some_or] <;> rfl

theorem requestFor_withPart_none (p : RunParams) :
    (d.without part).requestFor (p.withPart part none) =
      (d.requestFor p).map fun r => r.withPart part none := by
  cases part <;>
    simp only [Defaults.requestFor, RunParams.withPart, Defaults.without, Option.map_map,
      Option.none_or] <;> rfl

/-- An empty text for a parameter keeps the default away and is then as good as none. -/
theorem Call.run_withPart_empty (call : Call) (bench : Bench) :
    (call.withPart part (some "")).run d bench =
      (call.withPart part none).run (d.without part) bench := by
  cases call with
  | hostIp dest => cases part <;> rfl
  | listBuildCandidates params =>
    simp only [withPart, run, contextFor_withPart_some, contextFor_withPart_none]
    cases d.contextFor params with
    | none => rfl
    | some ctx =>
      exact BuildContext.candidatesAnswer_of_cleaned (ctx.cleaned_withPart_empty part)
  | logPerformance item value => rfl
  | resolveBuildDir params =>
    simp only [withPart, run, contextFor_withPart_some, contextFor_withPart_none]
    cases d.contextFor params with
    | none => rfl
    | some ctx =>
      exact BuildContext.buildDirAnswer_of_cleaned (ctx.cleaned_withPart_empty part) bench.isDir
  | resolveDuts params =>
    simp only [withPart, run, requestFor_withPart_some, requestFor_withPart_none]
    cases d.requestFor params with
    | none => rfl
    | some r => simp only [Option.map_some, DutRequest.answer, r.run_withPart_empty part]
  | runnerIp console => rfl

end Empty

theorem Call.tool_withPart (call : Call) (part : NamePart) (value : Option String) :
    (call.withPart part value).tool = call.tool := by
  cases call <;> rfl

theorem Call.sized_withPart {call : Call} (sized : call.WordSized) (part : NamePart)
    (value : Option String) : (call.withPart part value).WordSized := by
  cases call with
  | resolveDuts params => cases part <;> exact sized
  | _ => trivial

/-- Defaults are as good as arguments. Whatever a call leaves out may as well be passed
from the defaults to a server without any, an empty application path or destination
included. An empty target, configuration or build directory keeps the default away: a call
that stays the same when `part` is made empty gives that part as an empty text. -/
theorem answerCall_filled (d : Defaults) (bench : Bench) (path : d.appDir ≠ some "")
    (sized : d.dutCount < Nat.pow 2 64) {tool : Tool} {fields : List (String × Json)} {call : Call}
    (accepted : tool.decode fields = .ok call) :
    tool.decode (call.filledFrom d).fields = .ok (call.filledFrom d) ∧
      answerCall d bench tool.name fields =
        answerCall {} bench tool.name (call.filledFrom d).fields ∧
      ∀ part, call.withPart part (some "") = call →
        tool.decode (call.withPart part none).fields = .ok (call.withPart part none) ∧
          answerCall d bench tool.name fields =
            answerCall (d.without part) bench tool.name (call.withPart part none).fields := by
  obtain ⟨rfl, fits⟩ := Tool.of_decode accepted
  have filled : call.tool.decode (call.filledFrom d).fields = .ok (call.filledFrom d) := by
    have count := (isWordSized_natCast d.dutCount).mpr sized
    have decoded := Tool.decode_fields _ (Call.sized_filled fits count)
    rwa [Call.tool_filled] at decoded
  refine ⟨filled, ?_, fun part empty => ?_⟩
  -- Both sides are read back as calls, and only what the calls do is left to compare.
  · rw [answerCall_of_decode accepted, answerCall_of_decode filled, Call.run_filled path]
  · have absent : call.tool.decode (call.withPart part none).fields =
        .ok (call.withPart part none) := by
      have decoded := Tool.decode_fields _ (Call.sized_withPart fits part none)
      rwa [Call.tool_withPart] at decoded
    refine ⟨absent, ?_⟩
    rw [answerCall_of_decode accepted, answerCall_of_decode absent,
      ← Call.run_withPart_empty, empty]

/-- Two DUTs of which only the count and the targets are configured for good: the empty
configuration of the call stands against that of the server. -/
theorem answerCall_filled_twoDuts :
    let d : Defaults :=
      { appDir := some "app", target := some "esp32|esp32c3", config := some "ws", dutCount := 2 }
    let bench : Bench := ⟨fun path => path == "app/build_esp32_default", .offline⟩
    let fields := [("target", Json.null), ("config", Json.text "")]
    let call := Call.resolveDuts { config := some "" }
    d.appDir ≠ some "" ∧ d.dutCount < Nat.pow 2 64 ∧ Tool.resolveDuts.decode fields = .ok call ∧
      answerCall d bench "resolve_duts" fields =
        answerCall {} bench "resolve_duts" (call.filledFrom d).fields ∧
      answerCall d bench "resolve_duts" fields =
        answerCall (d.without .config) bench "resolve_duts"
          (Call.resolveDuts {}).fields := by
  intro d bench fields call
  have path : d.appDir ≠ some "" := by decide
  have sized : d.dutCount < Nat.pow 2 64 := by decide
  have accepted : Tool.resolveDuts.decode fields = .ok call := rfl
  obtain ⟨-, filled, empty⟩ := answerCall_filled d bench path sized accepted
  exact ⟨path, sized, accepted, filled, (empty .config rfl).2⟩

end DutFixtures
