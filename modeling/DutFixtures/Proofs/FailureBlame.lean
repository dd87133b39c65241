import DutFixtures.Proofs.CallFields
import DutFixtures.Proofs.DutFaults
import DutFixtures.Proofs.SearchAnswers

namespace DutFixtures

/-- A failure that no other parameters would mend: the system refuses, or there is no IPv4
address. -/
def Failure.OfHost (e : Failure) : Prop :=
  (∃ text, e = .host text) ∨ ∃ reason, e = .noIpv4Address reason

/-- A log without events of failures. -/
def Quiet (log : List Event) : Prop :=
  ∀ event ∈ log, event.level ≠ .error

theorem Quiet.append {log more : List Event} (first : Quiet log) (second : Quiet more) :
    Quiet (log ++ more) := by
  intro event member
  rcases List.mem_append.mp member with early | late
  · exact first event early
  · exact second event late

theorem quiet_nil : Quiet [] := fun _ member => nomatch member

theorem quiet_singleton {event : Event} (quiet : event.level ≠ .error) : Quiet [event] := by
  intro other member
  rw [List.mem_singleton.mp member]
  exact quiet

theorem quiet_reports (reports : List Report) : Quiet (reports.map Report.event) := by
  intro event member
  obtain ⟨report, -, rfl⟩ := List.mem_map.mp member
  cases report <;> nofun

theorem quiet_notes (notes : List DutNote) : Quiet (notes.map DutNote.event) := by
  intro event member
  obtain ⟨note, -, rfl⟩ := List.mem_map.mp member
  cases note with
  | looked report => cases report <;> nofun
  | resolved dut => nofun

theorem Failure.answer_of_caller {e : Failure} (caller : e.blamesCaller = true)
    (log : List Event) : e.answer log = ⟨log, .error ⟨.invalidParams, e.message⟩⟩ := by
  rw [answer, if_pos caller]

theorem Failure.OfHost.answer_eq {e : Failure} (ofHost : e.OfHost) (log : List Event) :
    e.answer log =
      ⟨log ++ [⟨.error, .tools, "Fixture helper failed: " ++ e.message⟩],
        .error ⟨.internalError, e.message⟩⟩ := by
  rcases ofHost with ⟨text, rfl⟩ | ⟨reason, rfl⟩ <;> rfl

/-- The failure of a step, if it fails. -/
def failureOf {α : Type} : Except Failure α → Option Failure
  | .error e => some e
  | .ok _ => none

theorem failureOf_eq_some_iff {α : Type} {outcome : Except Failure α} {e : Failure} :
    failureOf outcome = some e ↔ outcome = .error e := by
  cases outcome <;> simp [failureOf]

section Helpers

variable {e : Failure}

theorem BuildContext.search_failure {ctx : BuildContext} {isDir : String → Bool}
    (failed : (ctx.search isDir).outcome = .error e) : e.blamesCaller = true := by
  obtain ⟨first, head⟩ := ctx.candidates_head
  rw [search_of_none (search_error_iff.mp ⟨e, failed⟩) head] at failed
  cases failed
  rfl

theorem DutRequest.fault_blames {r : DutRequest} (fault : r.fault? = some e) :
    e.blamesCaller = true := by
  unfold fault? at fault
  split at fault
  · cases fault
    rfl
  split at fault
  · cases fault
    rfl
  obtain ⟨field, -, misfit⟩ := List.exists_of_findSome?_eq_some fault
  unfold GivenField.mismatch? at misfit
  split at misfit
  · cases misfit
    rfl
  · nomatch misfit

theorem DutRequest.run_failure {r : DutRequest} {isDir : String → Bool}
    (failed : (r.run isDir).outcome = .error e) : e.blamesCaller = true := by
  cases fault : r.fault? with
  | some found =>
    rw [run_of_fault fault] at failed
    cases failed
    exact fault_blames fault
  | none =>
    obtain ⟨⟨appDir, first, rfl⟩, -⟩ := failure_of_sound (fault?_eq_none_iff.mp fault) failed
    rfl

theorem Host.probe_failure {host : Host} {dest : String} {ip : Ipv4}
    (failed : (host.probe dest ip).outcome = .error e) : e.OfHost := by
  unfold probe at failed
  split at failed
  · cases failed
    exact Or.inl ⟨_, rfl⟩
  · nomatch failed
  · cases failed
    exact Or.inr ⟨_, rfl⟩

theorem Host.quiet_probe (host : Host) (dest : String) (ip : Ipv4) :
    Quiet (host.probe dest ip).log := by
  have probing : Quiet [probeEvent ip] := quiet_singleton nofun
  unfold probe
  split
  · exact probing
  · exact probing.append (quiet_singleton nofun)
  · exact probing

theorem Host.ipTowards_failure {host : Host} {dest : Option String}
    (failed : (host.ipTowards dest).outcome = .error e) : e.OfHost := by
  unfold ipTowards at failed
  simp only at failed
  split at failed
  · cases failed
    exact Or.inl ⟨_, rfl⟩
  split at failed
  · cases failed
    exact Or.inr ⟨_, rfl⟩
  · exact probe_failure failed

theorem Host.quiet_ipTowards (host : Host) (dest : Option String) :
    Quiet (host.ipTowards dest).log := by
  unfold ipTowards
  simp only
  split
  · exact quiet_nil
  split
  · exact quiet_nil
  · exact host.quiet_probe _ _

/-- Without an announced address the host is not asked at all. -/
theorem Host.linkOnConsole_of_none {host : Host} {console : String}
    (silent : dutAddress console = none) :
    host.linkOnConsole console = ⟨[], .error .dutIpNotFound⟩ := by
  rw [linkOnConsole, silent]

theorem Host.linkOnConsole_of_some {host : Host} {console : String} {ip : Ipv4}
    (announced : dutAddress console = some ip) :
    host.linkOnConsole console =
      ⟨dutIpEvent ip :: (host.ipTowards (some ip.text)).log,
        (host.ipTowards (some ip.text)).outcome.map fun hostIp => ⟨ip, hostIp⟩⟩ := by
  rw [linkOnConsole, announced]

theorem Host.linkOnConsole_failure {host : Host} {console : String}
    (failed : (host.linkOnConsole console).outcome = .error e) :
    e.blamesCaller = true ∨ e.OfHost := by
  cases announced : dutAddress console with
  | none =>
    rw [linkOnConsole_of_none announced] at failed
    cases failed
    exact Or.inl rfl
  | some ip =>
    rw [linkOnConsole_of_some announced] at failed
    cases probed : (host.ipTowards (some ip.text)).outcome with
    | error other =>
      rw [probed] at failed
      cases failed
      exact Or.inr (ipTowards_failure probed)
    | ok hostIp => rw [probed] at failed; nomatch failed

theorem Host.quiet_linkOnConsole (host : Host) (console : String) :
    Quiet (host.linkOnConsole console).log := by
  cases announced : dutAddress console with
  | none =>
    rw [linkOnConsole_of_none announced]
    exact quiet_nil
  | some ip =>
    rw [linkOnConsole_of_some announced]
    have found : Quiet [dutIpEvent ip] := quiet_singleton nofun
    exact found.append (host.quiet_ipTowards _)

end Helpers

/-- The failure of the helper that a call rests on. A call that finds no application path
has not come to its helper. -/
def Call.failure? (call : Call) (d : Defaults) (bench : Bench) : Option Failure :=
  match call with
  | .hostIp dest => failureOf (bench.host.ipTowards (some (d.destFor dest))).outcome
  | .listBuildCandidates _ => none
  | .logPerformance .. => none
  | .resolveBuildDir params =>
    (d.contextFor params).bind fun ctx => failureOf (ctx.search bench.isDir).outcome
  | .resolveDuts params =>
    (d.requestFor params).bind fun r => failureOf (r.run bench.isDir).outcome
  | .runnerIp console => failureOf (bench.host.linkOnConsole console).outcome

/-- How a call is answered when its helper has failed, or has not. -/
inductive Answer.Follows : Option Failure → Answer → Prop
  | failed {e log} : Quiet log → Follows (some e) (e.answer log)
  | noAppDir : Follows none noAppDir
  | done {log result} : Quiet log → Follows none ⟨log, .ok result⟩

theorem Logged.answer_follows {α : Type} {logged : Logged α} (quiet : Quiet logged.log)
    (result : α → ToolResult) : (logged.answer result).Follows (failureOf logged.outcome) := by
  unfold answer
  cases logged.outcome with
  | error e => exact .failed quiet
  | ok value => exact .done quiet

theorem BuildContext.buildDirAnswer_follows (ctx : BuildContext) (isDir : String → Bool) :
    (ctx.buildDirAnswer isDir).Follows (failureOf (ctx.search isDir).outcome) := by
  have looks := quiet_reports (ctx.search isDir).reports
  cases outcome : (ctx.search isDir).outcome with
  | error e =>
    rw [buildDirAnswer_of_error outcome]
    exact .failed looks
  | ok name =>
    rw [buildDirAnswer_of_ok outcome]
    exact .done (looks.append (quiet_singleton nofun))

theorem DutRequest.answer_follows (r : DutRequest) (isDir : String → Bool) :
    (r.answer isDir).Follows (failureOf (r.run isDir).outcome) := by
  have notes := quiet_notes (r.run isDir).notes
  cases outcome : (r.run isDir).outcome with
  | error e =>
    rw [answer_of_error outcome]
    exact .failed notes
  | ok duts =>
    rw [answer_of_ok outcome]
    exact .done (notes.append (quiet_singleton nofun))

theorem Call.run_follows (call : Call) (d : Defaults) (bench : Bench) :
    (call.run d bench).Follows (call.failure? d bench) := by
  cases call with
  | hostIp dest => exact Logged.answer_follows (bench.host.quiet_ipTowards _) _
  | listBuildCandidates params =>
    rw [run]
    cases d.contextFor params with
    | none => exact .noAppDir
    | some ctx => exact .done (quiet_singleton nofun)
  | logPerformance item value => exact .done (quiet_singleton nofun)
  | resolveBuildDir params =>
    rw [run, failure?]
    cases d.contextFor params with
    | none => exact .noAppDir
    | some ctx => exact ctx.buildDirAnswer_follows bench.isDir
  | resolveDuts params =>
    rw [run, failure?]
    cases d.requestFor params with
    | none => exact .noAppDir
    | some r => exact r.answer_follows bench.isDir
  | runnerIp console => exact Logged.answer_follows (bench.host.quiet_linkOnConsole console) _

/-- Only the calls that ask the host for a route can fail at the host. -/
theorem Call.failure_blames {call : Call} {d : Defaults} {bench : Bench} {e : Failure}
    (failed : call.failure? d bench = some e) :
    e.blamesCaller = true ∨ e.OfHost ∧ (call.tool = .hostIp ∨ call.tool = .runnerIp) := by
  cases call with
  | hostIp dest =>
    have ofHost := Host.ipTowards_failure (failureOf_eq_some_iff.mp failed)
    exact Or.inr ⟨ofHost, Or.inl rfl⟩
  | listBuildCandidates params => nomatch failed
  | logPerformance item value => nomatch failed
  | resolveBuildDir params =>
    obtain ⟨ctx, -, search⟩ := Option.bind_eq_some_iff.mp failed
    exact Or.inl (BuildContext.search_failure (failureOf_eq_some_iff.mp search))
  | resolveDuts params =>
    obtain ⟨r, -, run⟩ := Option.bind_eq_some_iff.mp failed
    exact Or.inl (DutRequest.run_failure (failureOf_eq_some_iff.mp run))
  | runnerIp console =>
    have cause := Host.linkOnConsole_failure (failureOf_eq_some_iff.mp failed)
    exact cause.imp_right fun ofHost => ⟨ofHost, Or.inr rfl⟩

/-- An answer that blames nobody but the caller. -/
structure Answer.SparesServer (a : Answer) : Prop where
  blame : ∀ refusal, a.result = .error refusal → refusal.blame = .invalidParams
  quiet : Quiet a.log

/-- An answer that blames the server for a failure, with the words of the failure, and says
so at the end of the log and nowhere else. -/
structure Answer.BlamesServer (a : Answer) (e : Failure) : Prop where
  result : a.result = .error ⟨.internalError, e.message⟩
  log : ∃ earlier, Quiet earlier ∧
    a.log = earlier ++ [⟨.error, .tools, "Fixture helper failed: " ++ e.message⟩]

/-- The helper that a tool rests on fails at the host. -/
def FailsAtHost (d : Defaults) (bench : Bench) (tool : Tool) (fields : List (String × Json))
    (e : Failure) : Prop :=
  ∃ call, tool.decode fields = .ok call ∧ call.failure? d bench = some e ∧ e.OfHost

section Answers

variable {d : Defaults} {bench : Bench} {tool : Tool} {fields : List (String × Json)}
  {e : Failure}

theorem answerCall_of_atHost (failed : FailsAtHost d bench tool fields e) :
    (answerCall d bench tool.name fields).BlamesServer e := by
  obtain ⟨call, accepted, failure, ofHost⟩ := failed
  have follows := call.run_follows d bench
  rw [answerCall_of_decode accepted]
  rw [failure] at follows
  generalize call.run d bench = answer at follows
  cases follows with
  | failed quiet =>
    rw [ofHost.answer_eq]
    exact ⟨rfl, _, quiet, rfl⟩

theorem answerCall_of_not_atHost (sound : ∀ e, ¬ FailsAtHost d bench tool fields e) :
    (answerCall d bench tool.name fields).SparesServer := by
  have refused (message : String) : (Answer.refused .invalidParams message).SparesServer :=
    ⟨by rintro _ ⟨⟩; rfl, quiet_nil⟩
  cases checked : tool.decode fields with
  | error fault =>
    rw [answerCall_of_rejected checked]
    exact refused _
  | ok call =>
    have follows := call.run_follows d bench
    rw [answerCall_of_decode checked]
    cases failure : call.failure? d bench with
    | some e =>
      have caller : e.blamesCaller = true := (Call.failure_blames failure).resolve_right
        fun atHost => sound e ⟨call, checked, failure, atHost.1⟩
      rw [failure] at follows
      generalize call.run d bench = answer at follows
      cases follows with
      | failed quiet =>
        rw [Failure.answer_of_caller caller]
        exact ⟨by rintro _ ⟨⟩; rfl, quiet⟩
    | none =>
      rw [failure] at follows
      generalize call.run d bench = answer at follows
      cases follows with
      | noAppDir => exact refused _
      | done quiet => exact ⟨by rintro refusal ⟨⟩, quiet⟩

/-- A tool that does not ask for a route never fails at the host. -/
theorem FailsAtHost.tool_eq (failed : FailsAtHost d bench tool fields e) :
    tool = .hostIp ∨ tool = .runnerIp := by
  obtain ⟨call, accepted, failure, ofHost⟩ := failed
  have sameTool := (Tool.of_decode accepted).1
  rcases Call.failure_blames failure with caller | ⟨-, asks⟩
  · rcases ofHost with ⟨text, rfl⟩ | ⟨reason, rfl⟩ <;> nomatch caller
  · rwa [sameTool] at asks

theorem answerCall_message {call : Call} (accepted : tool.decode fields = .ok call)
    (failure : call.failure? d bench = some e) :
    ∃ refusal, (answerCall d bench tool.name fields).result = .error refusal ∧
      refusal.message = e.message := by
  have follows := call.run_follows d bench
  rw [answerCall_of_decode accepted]
  rw [failure] at follows
  generalize call.run d bench = answer at follows
  cases follows with
  | failed quiet =>
    unfold Failure.answer
    split <;> exact ⟨_, rfl, rfl⟩

/-- A call blames the server exactly when its helper fails at the host. -/
theorem answerCall_internalError_iff :
    (∃ refusal, (answerCall d bench tool.name fields).result = .error refusal ∧
      refusal.blame = .internalError) ↔ ∃ e, FailsAtHost d bench tool fields e := by
  constructor
  · rintro ⟨refusal, result, internal⟩
    by_contra sound
    have spared := answerCall_of_not_atHost fun e failed => sound ⟨e, failed⟩
    have caller := spared.blame refusal result
    rw [internal] at caller
    nomatch caller
  · rintro ⟨e, failed⟩
    exact ⟨_, (answerCall_of_atHost failed).result, rfl⟩

theorem answerCall_error_event {refusal : Refusal}
    (result : (answerCall d bench tool.name fields).result = .error refusal)
    (internal : refusal.blame = .internalError) :
    ∃ earlier, Quiet earlier ∧ (answerCall d bench tool.name fields).log =
      earlier ++ [⟨.error, .tools, "Fixture helper failed: " ++ refusal.message⟩] := by
  obtain ⟨e, failed⟩ := answerCall_internalError_iff.mp ⟨refusal, result, internal⟩
  have blamed := answerCall_of_atHost failed
  have same := blamed.result
  rw [result] at same
  cases same
  exact blamed.log

theorem answerCall_quiet
    (spared : ∀ refusal, (answerCall d bench tool.name fields).result = .error refusal →
      refusal.blame ≠ .internalError) : Quiet (answerCall d bench tool.name fields).log := by
  refine (answerCall_of_not_atHost fun e failed => ?_).quiet
  exact spared _ (answerCall_of_atHost failed).result rfl

end Answers

/-- Blame is assigned by where a call fails. The four tools that do not ask the host for a route
blame nobody but the caller and log no error; the words of a failed helper reach the caller
as they are; `host_ip` and `runner_ip` blame the server exactly when the host has failed them,
and then the one error that they log is their last event; a console without an address is the
caller's. -/
theorem blame_assigned (d : Defaults) (bench : Bench) (fields : List (String × Json)) :
    (∀ tool ∈ [Tool.listBuildCandidates, .resolveBuildDir, .resolveDuts, .logPerformance],
      (∀ refusal, (answerCall d bench tool.name fields).result = .error refusal →
        refusal.blame = .invalidParams) ∧
      ∀ event ∈ (answerCall d bench tool.name fields).log, event.level ≠ .error) ∧
    (∀ tool call e, Tool.decode tool fields = .ok call → call.failure? d bench = some e →
      ∃ refusal, (answerCall d bench tool.name fields).result = .error refusal ∧
        refusal.message = e.message) ∧
    (∀ tool ∈ [Tool.hostIp, .runnerIp],
      ((∃ refusal, (answerCall d bench tool.name fields).result = .error refusal ∧
          refusal.blame = .internalError) ↔ ∃ e, FailsAtHost d bench tool fields e) ∧
      (∀ refusal, (answerCall d bench tool.name fields).result = .error refusal →
        refusal.blame = .internalError →
        ∃ earlier, (∀ event ∈ earlier, event.level ≠ .error) ∧
          (answerCall d bench tool.name fields).log =
            earlier ++ [⟨.error, .tools, "Fixture helper failed: " ++ refusal.message⟩]) ∧
      ((∀ refusal, (answerCall d bench tool.name fields).result = .error refusal →
          refusal.blame ≠ .internalError) →
        ∀ event ∈ (answerCall d bench tool.name fields).log, event.level ≠ .error)) ∧
    ∀ console, Tool.decode .runnerIp fields = .ok (.runnerIp console) →
      dutAddress console = none →
      answerCall d bench Tool.runnerIp.name fields =
        ⟨[], .error ⟨.invalidParams, "No 'IPv4 address: ' line found in DUT output"⟩⟩ := by
  refine ⟨fun tool offline => ?_, fun tool call e accepted failure =>
    answerCall_message accepted failure, fun tool _ => ⟨answerCall_internalError_iff,
      fun refusal => answerCall_error_event, answerCall_quiet⟩, ?_⟩
  · have spared : (answerCall d bench tool.name fields).SparesServer := by
      refine answerCall_of_not_atHost fun e failed => ?_
      rcases failed.tool_eq with rfl | rfl <;> simp at offline
    exact ⟨spared.blame, spared.quiet⟩
  · intro console accepted silent
    rw [answerCall_of_decode accepted, Call.run, Host.linkOnConsole_of_none silent]
    rfl

end DutFixtures
