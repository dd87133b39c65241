import DutFixtures.Proofs.CallFields
import DutFixtures.Proofs.Ipv4Text
import DutFixtures.Proofs.JsonReading
import DutFixtures.Proofs.SearchAnswers

namespace DutFixtures

def Json.asText? : Json → Option String
  | .text s => some s
  | _ => none

def ResolvedDut.ofJson? : Json → Option ResolvedDut
  | .object [("index", .integer (.ofNat index)), ("app_path", .text appDir), ("target", .null),
      ("config", .text config), ("build_dir", .text buildDir)] =>
    some ⟨index, appDir, none, config, buildDir⟩
  | .object [("index", .integer (.ofNat index)), ("app_path", .text appDir),
      ("target", .text target), ("config", .text config), ("build_dir", .text buildDir)] =>
    some ⟨index, appDir, some target, config, buildDir⟩
  | _ => none

/-- The result of a tool, from a value that has the fields of such a result, in order, and
nothing else. -/
def Tool.result? : Tool → Json → Option ToolResult
  | .listBuildCandidates, .object [("app_path", .text appDir), ("candidates", .list names)] =>
    (names.mapM Json.asText?).map (.candidates appDir)
  | .resolveBuildDir, .object [("build_dir", .text name), ("path", .text path)] =>
    some (.buildDir name path)
  | .resolveDuts, .object [("duts", .list all)] => (all.mapM ResolvedDut.ofJson?).map .duts
  | .hostIp, .object [("dest", .text dest), ("host_ip", .text host)] =>
    (Ipv4.parse? host).map (.hostIp dest)
  | .runnerIp, .object [("dut_ip", .text dut), ("host_ip", .text host)] => do
    let dutIp ← Ipv4.parse? dut
    let hostAddress ← Ipv4.parse? host
    return .link ⟨dutIp, hostAddress⟩
  | .logPerformance, .object [("line", .text line)] => some (.line line)
  | _, _ => none

/-- The tool that gives such a result. -/
def ToolResult.tool : ToolResult → Tool
  | .candidates .. => .listBuildCandidates
  | .buildDir .. => .resolveBuildDir
  | .duts _ => .resolveDuts
  | .hostIp .. => .hostIp
  | .link _ => .runnerIp
  | .line _ => .logPerformance

theorem Json.asText?_eq_some_iff {json : Json} {s : String} :
    json.asText? = some s ↔ json = .text s := by
  cases json <;> simp [asText?]

theorem ResolvedDut.ofJson?_eq_some_iff {json : Json} {dut : ResolvedDut} :
    ofJson? json = some dut ↔ json = dut.json := by
  constructor
  · intro read
    unfold ofJson? at read
    split at read
    · cases read
      rfl
    · cases read
      rfl
    · nomatch read
  · rintro rfl
    obtain ⟨index, appDir, target, config, buildDir⟩ := dut
    cases target <;> rfl

theorem Ipv4.parse?_eq_some_iff {s : String} {ip : Ipv4} : parse? s = some ip ↔ s = ip.text := by
  rw [parse?, ofChars?_eq_some_iff, isAddressText_iff, text, String.ext_iff, String.toList_ofList]

/-- A list is read as the items that are written so, one by one. -/
theorem mapM_eq_some_iff {α β : Type} {read : α → Option β} {write : β → α}
    (inverse : ∀ {a b}, read a = some b ↔ a = write b) {as : List α} {bs : List β} :
    as.mapM read = some bs ↔ as = bs.map write := by
  induction as generalizing bs with
  | nil => cases bs <;> simp
  | cons a as ih =>
    rw [List.mapM_cons]
    simp only [Option.bind_eq_bind, Option.bind_eq_some_iff, Option.pure_def, Option.some.injEq]
    constructor
    · rintro ⟨b, first, rest, others, rfl⟩
      rw [List.map_cons, ← inverse.mp first, ← ih.mp others]
    · intro written
      obtain ⟨b, rest, rfl, first, others⟩ := List.map_eq_cons_iff.mp written.symm
      exact ⟨b, inverse.mpr first.symm, rest, ih.mpr others.symm, rfl⟩

theorem Tool.result?_eq_some_iff {tool : Tool} {json : Json} {result : ToolResult} :
    tool.result? json = some result ↔ tool = result.tool ∧ json = result.json := by
  constructor
  · intro read
    unfold result? at read
    split at read
    · obtain ⟨names, each, rfl⟩ := Option.map_eq_some_iff.mp read
      rw [(mapM_eq_some_iff Json.asText?_eq_some_iff).mp each]
      exact ⟨rfl, rfl⟩
    · cases read
      exact ⟨rfl, rfl⟩
    · obtain ⟨duts, each, rfl⟩ := Option.map_eq_some_iff.mp read
      rw [(mapM_eq_some_iff ResolvedDut.ofJson?_eq_some_iff).mp each]
      exact ⟨rfl, rfl⟩
    · obtain ⟨ip, address, rfl⟩ := Option.map_eq_some_iff.mp read
      rw [Ipv4.parse?_eq_some_iff.mp address]
      exact ⟨rfl, rfl⟩
    · obtain ⟨dutIp, first, read⟩ := Option.bind_eq_some_iff.mp read
      obtain ⟨hostIp, second, read⟩ := Option.bind_eq_some_iff.mp read
      cases read
      rw [Ipv4.parse?_eq_some_iff.mp first, Ipv4.parse?_eq_some_iff.mp second]
      exact ⟨rfl, rfl⟩
    · cases read
      exact ⟨rfl, rfl⟩
    · nomatch read
  · rintro ⟨rfl, rfl⟩
    cases result with
    | candidates appDir names =>
      exact Option.map_eq_some_iff.mpr
        ⟨names, (mapM_eq_some_iff Json.asText?_eq_some_iff).mpr rfl, rfl⟩
    | buildDir name path => rfl
    | duts duts =>
      exact Option.map_eq_some_iff.mpr
        ⟨duts, (mapM_eq_some_iff ResolvedDut.ofJson?_eq_some_iff).mpr rfl, rfl⟩
    | hostIp dest ip =>
      exact Option.map_eq_some_iff.mpr ⟨ip, Ipv4.parse?_eq_some_iff.mpr rfl, rfl⟩
    | link ips =>
      exact Option.bind_eq_some_iff.mpr ⟨ips.dutIp, Ipv4.parse?_eq_some_iff.mpr rfl,
        Option.bind_eq_some_iff.mpr ⟨ips.hostIp, Ipv4.parse?_eq_some_iff.mpr rfl, rfl⟩⟩
    | line text => rfl

section Results

variable {result : ToolResult}

theorem Failure.answer_ne_ok (e : Failure) (log : List Event) :
    (e.answer log).result ≠ .ok result := by
  obtain ⟨refusal, refused⟩ := e.refused log
  rw [refused]
  nofun

theorem Logged.ok_of_answer {α : Type} {logged : Logged α} {give : α → ToolResult}
    (done : (logged.answer give).result = .ok result) :
    ∃ value, logged.outcome = .ok value ∧ result = give value := by
  rw [answer] at done
  split at done
  · exact absurd done (Failure.answer_ne_ok _ _)
  · rename_i value outcome
    cases done
    exact ⟨value, outcome, rfl⟩

theorem BuildContext.ok_of_answer {ctx : BuildContext} {isDir : String → Bool}
    (done : (ctx.buildDirAnswer isDir).result = .ok result) :
    ∃ name, (ctx.search isDir).outcome = .ok name ∧
      result = .buildDir name (joinPath ctx.appDir name) := by
  cases outcome : (ctx.search isDir).outcome with
  | error e =>
    rw [buildDirAnswer_of_error outcome] at done
    exact absurd done (e.answer_ne_ok _)
  | ok name =>
    rw [buildDirAnswer_of_ok outcome] at done
    cases done
    exact ⟨name, rfl, rfl⟩

theorem DutRequest.ok_of_answer {r : DutRequest} {isDir : String → Bool}
    (done : (r.answer isDir).result = .ok result) :
    ∃ duts, (r.run isDir).outcome = .ok duts ∧ result = .duts duts := by
  cases outcome : (r.run isDir).outcome with
  | error e =>
    rw [answer_of_error outcome] at done
    exact absurd done (e.answer_ne_ok _)
  | ok duts =>
    rw [answer_of_ok outcome] at done
    cases done
    exact ⟨duts, rfl, rfl⟩

/-- A call that succeeds gives a result of its own tool. -/
theorem Call.tool_of_ok {call : Call} {d : Defaults} {bench : Bench}
    (done : (call.run d bench).result = .ok result) : call.tool = result.tool := by
  cases call with
  | hostIp dest =>
    obtain ⟨ip, -, rfl⟩ := Logged.ok_of_answer done
    rfl
  | listBuildCandidates params =>
    rw [run] at done
    split at done
    · nomatch done
    · cases done
      rfl
  | logPerformance item value =>
    cases done
    rfl
  | resolveBuildDir params =>
    rw [run] at done
    split at done
    · nomatch done
    · obtain ⟨name, -, rfl⟩ := BuildContext.ok_of_answer done
      rfl
  | resolveDuts params =>
    rw [run] at done
    split at done
    · nomatch done
    · obtain ⟨duts, -, rfl⟩ := DutRequest.ok_of_answer done
      rfl
  | runnerIp console =>
    obtain ⟨ips, -, rfl⟩ := Logged.ok_of_answer done
    rfl

theorem answerCall_tool {d : Defaults} {bench : Bench} {tool : Tool}
    {fields : List (String × Json)}
    (done : (answerCall d bench tool.name fields).result = .ok result) : tool = result.tool := by
  cases checked : tool.decode fields with
  | error fault =>
    rw [answerCall_of_rejected checked] at done
    cases done
  | ok call =>
    rw [answerCall_of_decode checked] at done
    rw [← (Tool.of_decode checked).1]
    exact Call.tool_of_ok done

/-- The text of a result is a document, and stands for that result alone. -/
theorem ToolResult.writtenDocument_iff {json : Json} :
    WrittenDocument result.text.toList json ↔ json = result.json := by
  have printed : WrittenDocument result.text.toList result.json := by
    rw [ToolResult.text, Json.pretty, String.toList_ofList]
    exact writtenDocument_print Layout.indented_blank result.json
  constructor
  · intro document
    exact document.unique printed
  · rintro rfl
    exact printed

end Results

/-- The text that a call answers stands for one value, from which the result can be taken back
as it was. So a tool answers the same text only for the same result. -/
theorem answer_text_lossless {d : Defaults} {bench : Bench} {tool : Tool}
    {fields : List (String × Json)} {result : ToolResult}
    (done : (answerCall d bench tool.name fields).result = .ok result) :
    (∀ json, WrittenDocument result.text.toList json ↔ json = result.json) ∧
    (∀ json, tool.result? json = some result ↔ json = result.json) ∧
    ∀ d' bench' fields' other,
      (answerCall d' bench' tool.name fields').result = .ok other →
      other.text = result.text → other = result := by
  have own := answerCall_tool done
  refine ⟨fun json => ToolResult.writtenDocument_iff, fun json => ?_, ?_⟩
  · rw [Tool.result?_eq_some_iff]
    exact and_iff_right own
  · intro d' bench' fields' other doneToo same
    have document := ToolResult.writtenDocument_iff.mpr (Eq.refl other.json)
    rw [same, ToolResult.writtenDocument_iff] at document
    have mine := Tool.result?_eq_some_iff.mpr ⟨own, rfl⟩
    have theirs := Tool.result?_eq_some_iff.mpr ⟨answerCall_tool doneToo, rfl⟩
    rw [document, mine] at theirs
    exact (Option.some.inj theirs).symm

/-- Two DUTs, the second one without a target, under paths with signs that have to be escaped. -/
theorem answer_text_lossless_escaped :
    let bench : Bench := ⟨fun _ => true, .offline⟩
    let fields := [("count", Json.integer 2), ("app_path", .text "a\"\\|b\x00\n"),
      ("target", .text "esp32|")]
    let result : ToolResult :=
      .duts [⟨0, "a\"\\", some "esp32", "default", "build_esp32_default"⟩,
        ⟨1, "b\x00", none, "default", "build_default"⟩]
    (answerCall {} bench "resolve_duts" fields).result = .ok result ∧
      (∀ json, WrittenDocument result.text.toList json ↔ json = result.json) ∧
      Tool.resolveDuts.result? result.json = some result := by
  intro bench fields result
  have done : (answerCall {} bench Tool.resolveDuts.name fields).result = .ok result := by
    decide +kernel
  obtain ⟨document, back, -⟩ := answer_text_lossless done
  exact ⟨done, document, (back _).mpr rfl⟩

end DutFixtures
