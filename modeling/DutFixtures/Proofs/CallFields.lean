import DutFixtures.Tool.Answer

namespace DutFixtures

/-- The fields that pass a parameter: one if it is given, and else none. -/
def passed (key : String) (value : Option Json) : List (String × Json) :=
  (value.map (Prod.mk key)).toList

def SearchParams.fields (p : SearchParams) : List (String × Json) :=
  passed "app_path" (p.appDir.map .text) ++ passed "target" (p.target.map .text) ++
    passed "config" (p.config.map .text) ++ passed "build_dir" (p.buildDir.map .text)

def RunParams.fields (p : RunParams) : List (String × Json) :=
  passed "count" (p.count.map fun n : Nat => Json.integer n) ++
    passed "app_path" (p.appDir.map .text) ++ passed "target" (p.target.map .text) ++
    passed "config" (p.config.map .text) ++ passed "build_dir" (p.buildDir.map .text)

/-- The fields with which a client makes a call. -/
def Call.fields : Call → List (String × Json)
  | .hostIp dest => passed "dest" (dest.map .text)
  | .listBuildCandidates params => params.fields
  | .logPerformance item value =>
    passed "item" (some (.text item)) ++ passed "value" (some (.text value))
  | .resolveBuildDir params => params.fields
  | .resolveDuts params => params.fields
  | .runnerIp console => passed "console" (some (.text console))

/-- The number of DUTs in a call fits into a word. -/
def Call.WordSized : Call → Prop
  | .resolveDuts params => ∀ n ∈ params.count, isWordSized n = true
  | _ => True

/-- Of fields with one key the last one is found. -/
theorem lookupField_append (key : String) (fields later : List (String × Json)) :
    lookupField key (fields ++ later) = (lookupField key later).or (lookupField key fields) := by
  induction fields with
  | nil => simp [lookupField]
  | cons field rest ih =>
    obtain ⟨name, value⟩ := field
    rw [List.cons_append, lookupField, ih, lookupField]
    cases lookupField key later <;> rfl

theorem lookupField_passed (key name : String) (value : Option Json) :
    lookupField key (passed name value) = if name = key then value else none := by
  cases value with
  | none => simp [passed, lookupField]
  | some json => simp [passed, lookupField]

section Lookups

variable {key : String} {fields : List (String × Json)}

theorem textParameter_of_lookup {value : Option String}
    (found : lookupField key fields = value.map .text) : textParameter key fields = value := by
  rw [textParameter, found]
  cases value <;> rfl

theorem countParameter_of_lookup {value : Option Nat}
    (found : lookupField key fields = value.map fun n : Nat => Json.integer n) :
    countParameter key fields = value := by
  rw [countParameter, found]
  cases value <;> rfl

theorem isWordSized_natCast (n : Nat) : isWordSized n = true ↔ n < Nat.pow 2 64 := by
  simp only [isWordSized, Bool.and_eq_true, decide_eq_true_eq, Nat.pow_eq]
  omega

end Lookups

/-- Some fields hold for a parameter what it may hold. -/
structure Parameter.Suited (p : Parameter) (fields : List (String × Json)) : Prop where
  admissible : (lookupField p.key fields).bind p.shape.fault? = none
  present : p.shape = .text → (lookupField p.key fields).isSome

theorem faultIn?_eq_none_iff {parameters : List Parameter} {fields : List (String × Json)} :
    faultIn? parameters fields = none ↔ ∀ p ∈ parameters, p.Suited fields := by
  simp only [faultIn?, Option.or_eq_none_iff, List.findSome?_eq_none_iff, ite_eq_right_iff]
  constructor
  · rintro ⟨admissible, present⟩ p member
    refine ⟨admissible p member, fun required => ?_⟩
    rw [← Option.isNone_eq_false_iff, ← Bool.not_eq_true]
    exact fun absent => nomatch present p member ⟨required, absent⟩
  · intro suited
    refine ⟨fun p member => (suited p member).admissible, fun p member missing => ?_⟩
    have there := (suited p member).present missing.1
    simp [Option.isNone_iff_eq_none.mp missing.2] at there

theorem Parameter.Suited.optionalText {p : Parameter} {fields : List (String × Json)}
    {value : Option String} (shape : p.shape = .optionalText)
    (found : lookupField p.key fields = value.map .text) : p.Suited fields := by
  refine ⟨?_, fun required => nomatch shape.symm.trans required⟩
  rw [found, shape]
  cases value <;> rfl

theorem Parameter.Suited.optionalCount {p : Parameter} {fields : List (String × Json)}
    {value : Option Nat} (shape : p.shape = .optionalCount)
    (found : lookupField p.key fields = value.map fun n : Nat => Json.integer n)
    (sized : ∀ n ∈ value, isWordSized n = true) : p.Suited fields := by
  refine ⟨?_, fun required => nomatch shape.symm.trans required⟩
  rw [found, shape]
  cases value with
  | none => rfl
  | some n =>
    -- `isWordSized` stays closed, so that no step computes with the bound of a word.
    have natural : ¬ (n : Int) < 0 := by omega
    rw [Option.map_some, Option.bind_some, Shape.fault?, sized n rfl, Bool.not_true,
      if_neg Bool.false_ne_true, if_neg natural]

theorem Parameter.Suited.text {p : Parameter} {fields : List (String × Json)}
    {value : String} (shape : p.shape = .text)
    (found : lookupField p.key fields = some (.text value)) : p.Suited fields := by
  refine ⟨?_, fun _ => by rw [found]; rfl⟩
  rw [found, shape]
  rfl

/-- The lookups in written fields: each key leads to its own parameter. -/
theorem SearchParams.lookups (p : SearchParams) :
    lookupField "app_path" p.fields = p.appDir.map .text ∧
      lookupField "target" p.fields = p.target.map .text ∧
      lookupField "config" p.fields = p.config.map .text ∧
      lookupField "build_dir" p.fields = p.buildDir.map .text := by
  simp [fields, lookupField_append, lookupField_passed]

theorem RunParams.lookups (p : RunParams) :
    (lookupField "count" p.fields = p.count.map fun n : Nat => Json.integer n) ∧
      lookupField "app_path" p.fields = p.appDir.map .text ∧
      lookupField "target" p.fields = p.target.map .text ∧
      lookupField "config" p.fields = p.config.map .text ∧
      lookupField "build_dir" p.fields = p.buildDir.map .text := by
  simp [fields, lookupField_append, lookupField_passed]

theorem searchParams_fields (p : SearchParams) : searchParams p.fields = p := by
  obtain ⟨appDir, target, config, buildDir⟩ := p.lookups
  simp only [searchParams, textParameter_of_lookup appDir, textParameter_of_lookup target,
    textParameter_of_lookup config, textParameter_of_lookup buildDir]

theorem runParams_fields (p : RunParams) : runParams p.fields = p := by
  obtain ⟨count, appDir, target, config, buildDir⟩ := p.lookups
  simp only [runParams, countParameter_of_lookup count, textParameter_of_lookup appDir,
    textParameter_of_lookup target, textParameter_of_lookup config,
    textParameter_of_lookup buildDir]

theorem Tool.call_fields (call : Call) : call.tool.call call.fields = call := by
  cases call with
  | hostIp dest =>
    have found : lookupField "dest" (Call.hostIp dest).fields = dest.map .text := by
      simp [Call.fields, lookupField_passed]
    simp only [Call.tool, Tool.call, textParameter_of_lookup found]
  | listBuildCandidates params =>
    simp only [Call.tool, Tool.call, Call.fields, searchParams_fields]
  | logPerformance item value => rfl
  | resolveBuildDir params =>
    simp only [Call.tool, Tool.call, Call.fields, searchParams_fields]
  | resolveDuts params => simp only [Call.tool, Tool.call, Call.fields, runParams_fields]
  | runnerIp console => rfl

theorem SearchParams.suited (p : SearchParams) :
    ∀ parameter ∈ Tool.resolveBuildDir.parameters, parameter.Suited p.fields := by
  obtain ⟨appDir, target, config, buildDir⟩ := p.lookups
  simp only [Tool.parameters, List.forall_mem_cons]
  exact ⟨.optionalText rfl appDir, .optionalText rfl buildDir,
    .optionalText rfl config, .optionalText rfl target, List.forall_mem_nil _⟩

theorem RunParams.suited {p : RunParams} (sized : ∀ n ∈ p.count, isWordSized n = true) :
    ∀ parameter ∈ Tool.resolveDuts.parameters, parameter.Suited p.fields := by
  obtain ⟨count, appDir, target, config, buildDir⟩ := p.lookups
  simp only [Tool.parameters, List.forall_mem_cons]
  exact ⟨.optionalText rfl appDir, .optionalText rfl buildDir,
    .optionalText rfl config, .optionalCount rfl count sized,
    .optionalText rfl target, List.forall_mem_nil _⟩

theorem Call.suited {call : Call} (sized : call.WordSized) :
    ∀ parameter ∈ call.tool.parameters, parameter.Suited call.fields := by
  cases call with
  | hostIp dest =>
    have found : lookupField "dest" (Call.hostIp dest).fields = dest.map .text := by
      simp [Call.fields, lookupField_passed]
    simp only [Call.tool, Tool.parameters, List.forall_mem_cons]
    exact ⟨.optionalText rfl found, List.forall_mem_nil _⟩
  | listBuildCandidates params => exact params.suited
  | logPerformance item value =>
    simp only [Call.tool, Tool.parameters, List.forall_mem_cons]
    exact ⟨.text rfl rfl, .text rfl rfl, List.forall_mem_nil _⟩
  | resolveBuildDir params => exact params.suited
  | resolveDuts params => exact RunParams.suited sized
  | runnerIp console =>
    simp only [Call.tool, Tool.parameters, List.forall_mem_cons]
    exact ⟨.text rfl rfl, List.forall_mem_nil _⟩

/-- The fields of a call are read as that call. -/
theorem Tool.decode_fields (call : Call) (sized : call.WordSized) :
    call.tool.decode call.fields = .ok call := by
  rw [decode, faultIn?_eq_none_iff.mpr (Call.suited sized)]
  exact congrArg Except.ok (call_fields call)

theorem Tool.tool_call (tool : Tool) (fields : List (String × Json)) :
    (tool.call fields).tool = tool := by
  cases tool <;> rfl

/-- A number of DUTs that is let through is a natural number and fits into a word. -/
theorem countParameter_sized {fields : List (String × Json)} {p : Parameter}
    (shape : p.shape = .optionalCount) (suited : p.Suited fields) :
    ∀ n ∈ countParameter p.key fields, isWordSized n = true := by
  have admissible := suited.admissible
  rw [shape] at admissible
  intro n member
  rw [countParameter] at member
  split at member
  · rename_i m found
    cases member
    rw [found, Option.bind_some, Shape.fault?] at admissible
    split at admissible
    · nomatch admissible
    rename_i sized
    split at admissible
    · nomatch admissible
    rename_i natural
    rw [Int.toNat_of_nonneg (by omega)]
    simpa using sized
  · nomatch member

/-- A call that is read is a call of its tool, and its number of DUTs fits into a word. -/
theorem Tool.of_decode {tool : Tool} {fields : List (String × Json)} {call : Call}
    (accepted : tool.decode fields = .ok call) : call.tool = tool ∧ call.WordSized := by
  rw [decode] at accepted
  split at accepted
  · nomatch accepted
  rename_i sound
  cases accepted
  refine ⟨tool.tool_call fields, ?_⟩
  cases tool with
  | resolveDuts =>
    have suited := faultIn?_eq_none_iff.mp sound
    simp only [Tool.parameters, List.forall_mem_cons] at suited
    obtain ⟨-, -, -, count, -⟩ := suited
    exact countParameter_sized rfl count
  | hostIp => trivial
  | listBuildCandidates => trivial
  | logPerformance => trivial
  | resolveBuildDir => trivial
  | runnerIp => trivial

theorem Tool.ofName?_name (tool : Tool) : Tool.ofName? tool.name = some tool := by
  cases tool <;> decide

theorem answerCall_of_decode {tool : Tool} {fields : List (String × Json)} {call : Call}
    (accepted : tool.decode fields = .ok call) (defaults : Defaults) (bench : Bench) :
    answerCall defaults bench tool.name fields = call.run defaults bench := by
  simp only [answerCall, Tool.ofName?_name, accepted]

theorem answerCall_of_rejected {tool : Tool} {fields : List (String × Json)}
    {fault : ParameterFault} (rejected : tool.decode fields = .error fault) (defaults : Defaults)
    (bench : Bench) :
    answerCall defaults bench tool.name fields =
      .refused .invalidParams ("failed to deserialize parameters: " ++ fault.message) := by
  simp only [answerCall, Tool.ofName?_name, rejected]

theorem answerCall_of_fault (tool : Tool) {fields : List (String × Json)}
    {fault : ParameterFault} (rejected : faultIn? tool.parameters fields = some fault)
    (defaults : Defaults) (bench : Bench) :
    answerCall defaults bench tool.name fields =
      .refused .invalidParams ("failed to deserialize parameters: " ++ fault.message) :=
  answerCall_of_rejected (by rw [Tool.decode, rejected]) defaults bench

theorem answerCall_of_sound (tool : Tool) {fields : List (String × Json)}
    (sound : faultIn? tool.parameters fields = none) (defaults : Defaults) (bench : Bench) :
    answerCall defaults bench tool.name fields = (tool.call fields).run defaults bench := by
  simp only [answerCall, Tool.ofName?_name, Tool.decode, sound]

end DutFixtures
