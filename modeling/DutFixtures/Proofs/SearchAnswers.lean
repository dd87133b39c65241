import DutFixtures.Tool.Answer

namespace DutFixtures

/-- An event of the search for a build directory. -/
def Event.isCheck (e : Event) : Bool :=
  e.component = .buildDir

/-- The looks at candidates that an answer logs. -/
def Answer.checks (a : Answer) : List Event :=
  a.log.filter Event.isCheck

theorem filter_isCheck_reports (reports : List Report) :
    (reports.map Report.event).filter Event.isCheck = reports.map Report.event := by
  rw [List.filter_eq_self]
  intro e member
  obtain ⟨report, -, rfl⟩ := List.mem_map.mp member
  cases report <;> rfl

/-- Of the notes of a run only the looks are logged as checks. -/
theorem filter_isCheck_notes (notes : List DutNote) :
    (notes.map DutNote.event).filter Event.isCheck =
      (notes.filterMap DutNote.report?).map Report.event := by
  induction notes with
  | nil => rfl
  | cons note rest ih =>
    cases note with
    | looked report =>
      have check : report.event.isCheck = true := by cases report <;> rfl
      rw [List.map_cons, DutNote.event, List.filter_cons_of_pos check, ih]
      rfl
    | resolved dut =>
      rw [List.map_cons, List.filter_cons_of_neg (by simp [DutNote.event, Event.isCheck]), ih]
      rfl

theorem Failure.checks_answer (e : Failure) (log : List Event) :
    (e.answer log).checks = log.filter Event.isCheck := by
  unfold answer
  split
  · rfl
  · rw [Answer.checks, List.filter_append]
    exact List.append_nil _

/-- What a failure tells the caller does not depend on what was logged before it. -/
theorem Failure.result_answer (e : Failure) (log other : List Event) :
    (e.answer log).result = (e.answer other).result := by
  unfold answer
  split <;> rfl

theorem Failure.refused (e : Failure) (log : List Event) :
    ∃ refusal, (e.answer log).result = .error refusal := by
  unfold answer
  split <;> exact ⟨_, rfl⟩

section Answers

variable {ctx : BuildContext} {r : DutRequest} {isDir : String → Bool} {e : Failure}

theorem BuildContext.buildDirAnswer_of_error (failed : (ctx.search isDir).outcome = .error e) :
    ctx.buildDirAnswer isDir = e.answer ((ctx.search isDir).reports.map Report.event) := by
  simp only [buildDirAnswer, failed]

theorem BuildContext.buildDirAnswer_of_ok {name : String}
    (taken : (ctx.search isDir).outcome = .ok name) :
    ctx.buildDirAnswer isDir =
      ⟨(ctx.search isDir).reports.map Report.event ++
          [⟨.info, .tools, "Resolved build directory: " ++ joinPath ctx.appDir name⟩],
        .ok (.buildDir name (joinPath ctx.appDir name))⟩ := by
  simp only [buildDirAnswer, taken]

theorem DutRequest.answer_of_error (failed : (r.run isDir).outcome = .error e) :
    r.answer isDir = e.answer ((r.run isDir).notes.map DutNote.event) := by
  simp only [answer, failed]

theorem DutRequest.answer_of_ok {duts : List ResolvedDut}
    (resolved : (r.run isDir).outcome = .ok duts) :
    r.answer isDir =
      ⟨(r.run isDir).notes.map DutNote.event ++
          [⟨.info, .tools, "Resolved parameters for " ++ toString duts.length ++ " DUTs"⟩],
        .ok (.duts duts)⟩ := by
  simp only [answer, resolved]

theorem BuildContext.checks_buildDirAnswer (ctx : BuildContext) (isDir : String → Bool) :
    (ctx.buildDirAnswer isDir).checks = (ctx.search isDir).reports.map Report.event := by
  cases outcome : (ctx.search isDir).outcome with
  | error e => rw [buildDirAnswer_of_error outcome, e.checks_answer, filter_isCheck_reports]
  | ok name =>
    rw [buildDirAnswer_of_ok outcome, Answer.checks, List.filter_append, filter_isCheck_reports]
    exact List.append_nil _

theorem DutRequest.checks_answer (r : DutRequest) (isDir : String → Bool) :
    (r.answer isDir).checks = (r.run isDir).reports.map Report.event := by
  cases outcome : (r.run isDir).outcome with
  | error e =>
    rw [answer_of_error outcome, e.checks_answer, filter_isCheck_notes]
    rfl
  | ok duts =>
    rw [answer_of_ok outcome, Answer.checks, List.filter_append, filter_isCheck_notes]
    exact List.append_nil _

end Answers

end DutFixtures
