import DutFixtures.Proofs.CheckedPaths

namespace DutFixtures

/-- A set of names without one of them. -/
def without (names : String → Bool) (name : String) : String → Bool :=
  fun other => names other && other != name

namespace BuildContext

/-- Of the candidates, those in a set are directories and no others. -/
def Shows (ctx : BuildContext) (isDir built : String → Bool) : Prop :=
  ∀ name ∈ ctx.candidates, isDir (joinPath ctx.appDir name) = built name

/-- No name of a set is the same path as another candidate. -/
def Apart (ctx : BuildContext) (built : String → Bool) : Prop :=
  ∀ name ∈ ctx.candidates, ∀ other ∈ ctx.candidates, built name = true →
    joinPath ctx.appDir name = joinPath ctx.appDir other → name = other

/-- Searches that succeed one after the other, with the names they answer. Each name stops
being a directory before the next search, and no other candidate changes. -/
inductive Walk (ctx : BuildContext) (built : String → Bool) :
    List String → (String → Bool) → Prop
  | start : Walk ctx built [] built
  | next {names left isDir name} :
      Walk ctx built names left → ctx.Shows isDir left → (ctx.search isDir).outcome = .ok name →
      Walk ctx built (names ++ [name]) (without left name)

variable {ctx : BuildContext} {isDir built left : String → Bool} {names rest : List String}
  {name : String}

theorem pairwise_idxOf_of_nodup (distinct : rest.Nodup) :
    rest.Pairwise fun a b => rest.idxOf a < rest.idxOf b := by
  rw [List.pairwise_iff_getElem]
  intro i j inside inside' before
  rwa [distinct.idxOf_getElem, distinct.idxOf_getElem]

/-- The first name of a set is taken out of it, and the others keep their places. -/
theorem filter_without (distinct : names.Nodup) (shape : names.filter left = name :: rest) :
    names.filter (without left name) = rest := by
  have fresh : name ∉ rest := by
    have nodup := distinct.filter left
    rw [shape] at nodup
    exact (List.nodup_cons.mp nodup).1
  have others : rest.filter (· != name) = rest :=
    List.filter_eq_self.mpr fun other member => by
      simpa using fun same : other = name => fresh (same ▸ member)
  calc names.filter (without left name)
      = (names.filter left).filter (· != name) := by
        rw [List.filter_filter]
        exact List.filter_congr fun other _ => Bool.and_comm _ _
    _ = rest.filter (· != name) := by rw [shape, List.filter_cons_of_neg (by simp)]
    _ = rest := others

/-- A search answers the first candidate that is a directory, and fails if there is none. -/
theorem Shows.search (shown : ctx.Shows isDir left) :
    (∃ name rest, ctx.candidates.filter left = name :: rest ∧
      (ctx.search isDir).outcome = .ok name) ∨
    ∃ first, ctx.candidates.filter left = [] ∧ ctx.candidates.head? = some first ∧
      (ctx.search isDir).outcome = .error (.noValidBuildDirectory ctx.appDir first) := by
  have same : ctx.candidates.filter left =
      ctx.candidates.filter fun name => isDir (joinPath ctx.appDir name) :=
    List.filter_congr fun name member => (shown name member).symm
  have passed {names : List String} (none : NoDirectory isDir ctx.appDir names) :
      (names.filter fun name => isDir (joinPath ctx.appDir name)) = [] :=
    List.filter_eq_nil_iff.mpr fun name member => by simp [none name member]
  rw [same]
  rcases firstMatch_or_none isDir ctx.appDir ctx.candidates with
    ⟨before, name, after, first⟩ | none
  · refine Or.inl ⟨name, after.filter fun name => isDir (joinPath ctx.appDir name), ?_, ?_⟩
    · rw [first.split, List.filter_append, passed first.missing, List.nil_append]
      exact List.filter_cons_of_pos first.found
    · rw [search_of_match first]
  · obtain ⟨first, head⟩ := ctx.candidates_head
    exact Or.inr ⟨first, passed none, head, by rw [search_of_none none head]⟩

theorem Shows.search_of_cons (shown : ctx.Shows isDir left)
    (shape : ctx.candidates.filter left = name :: rest) :
    (ctx.search isDir).outcome = .ok name := by
  rcases shown.search with ⟨found, others, shape', taken⟩ | ⟨first, empty, -⟩
  · rw [shape] at shape'
    cases shape'
    exact taken
  · rw [shape] at empty
    nomatch empty

theorem Shows.filter_of_ok (shown : ctx.Shows isDir left)
    (taken : (ctx.search isDir).outcome = .ok name) :
    ∃ rest, ctx.candidates.filter left = name :: rest := by
  rcases shown.search with ⟨found, rest, shape, taken'⟩ | ⟨first, -, -, failed⟩
  · rw [taken] at taken'
    cases taken'
    exact ⟨rest, shape⟩
  · rw [taken] at failed
    nomatch failed

/-- What has been answered and what is still there make up what was there at first. -/
theorem Walk.accounts (walk : ctx.Walk built names left) :
    ctx.candidates.filter built = names ++ ctx.candidates.filter left := by
  induction walk with
  | start => rfl
  | next previous shown taken ih =>
    obtain ⟨rest, shape⟩ := shown.filter_of_ok taken
    rw [ih, filter_without ctx.nodup_candidates shape, shape, List.append_assoc]
    rfl

/-- Of two names that are the same path none can be taken away without the other one, so both
are there as long as there is a file system for what is left. -/
theorem Walk.keeps_pair {other : String} (walk : ctx.Walk built names left)
    (shown : ctx.Shows isDir left) (member : name ∈ ctx.candidates)
    (member' : other ∈ ctx.candidates)
    (same : joinPath ctx.appDir name = joinPath ctx.appDir other) (different : name ≠ other)
    (there : built name = true) : left name = true := by
  induction walk generalizing isDir with
  | start => exact there
  | @next names left isDir' taken previous before outcome ih =>
    have before' : left name = true := ih before
    have pair : left other = true := by
      rw [← before other member', ← same, before name member, before']
    have after : without left taken name = without left taken other := by
      rw [← shown name member, same, shown other member']
    rw [without, without, before', pair, Bool.true_and, Bool.true_and] at after
    by_cases gone : name = taken
    · rw [gone, bne_self_eq_false] at after
      have both : other = taken := by simpa using after.symm
      exact absurd (gone.trans both.symm) different
    · simp [without, before', gone]

/-- The next search of a walk answers the next one of the names that were there at first. -/
theorem Walk.answer_iff (walk : ctx.Walk built names left) (shown : ctx.Shows isDir left) :
    (ctx.search isDir).outcome = .ok name ↔ names ++ [name] <+: ctx.candidates.filter built := by
  rw [walk.accounts, List.prefix_append_right_inj]
  constructor
  · intro taken
    obtain ⟨rest, shape⟩ := shown.filter_of_ok taken
    exact ⟨rest, shape.symm⟩
  · rintro ⟨rest, shape⟩
    exact shown.search_of_cons shape.symm

/-- It fails if all of them have been answered. -/
theorem Walk.failure_iff {e : Failure} (walk : ctx.Walk built names left)
    (shown : ctx.Shows isDir left) :
    (ctx.search isDir).outcome = .error e ↔
      names = ctx.candidates.filter built ∧ names.length = ctx.candidates.countP built ∧
        ∃ first, ctx.candidates.head? = some first ∧
          e = .noValidBuildDirectory ctx.appDir first := by
  rw [List.countP_eq_length_filter, walk.accounts]
  rcases shown.search with ⟨name, rest, shape, taken⟩ | ⟨first, empty, head, failed⟩
  · simp [shape, taken]
  · simp [empty, head, failed, eq_comm]

/-- Names can be walked through only if none of them is the path of another candidate. -/
theorem Walk.apart (walk : ctx.Walk built (ctx.candidates.filter built) left)
    (shown : ctx.Shows isDir left) : ctx.Apart built := by
  intro name member other member' there same
  by_contra different
  have kept := walk.keeps_pair shown member member' same different there
  have none : ctx.candidates.filter left = [] := List.self_eq_append_right.mp walk.accounts
  exact List.filter_eq_nil_iff.mp none name member kept

section Apart

variable (apart : ctx.Apart left)
include apart

theorem exists_shows : ∃ isDir, ctx.Shows isDir left := by
  refine ⟨fun path => (ctx.candidates.filter left).any (joinPath ctx.appDir · == path),
    fun name member => ?_⟩
  rw [Bool.eq_iff_iff, List.any_eq_true]
  constructor
  · rintro ⟨other, member', same⟩
    obtain ⟨candidate, there⟩ := List.mem_filter.mp member'
    rwa [← apart other candidate name member there (beq_iff_eq.mp same)]
  · intro there
    exact ⟨name, List.mem_filter.mpr ⟨member, there⟩, beq_self_eq_true _⟩

theorem Apart.without (name : String) : ctx.Apart (without left name) := by
  intro other member third member' there same
  exact apart other member third member' (Bool.and_eq_true_iff.mp there).1 same

/-- To take away the directory that a candidate stands for concerns no other candidate. -/
theorem Shows.taken_away (shown : ctx.Shows isDir left) (member : name ∈ ctx.candidates)
    (there : left name = true) :
    ctx.Shows (without isDir (joinPath ctx.appDir name)) (without left name) := by
  intro other member'
  have parted : (joinPath ctx.appDir other != joinPath ctx.appDir name) = (other != name) := by
    rw [Bool.eq_iff_iff, bne_iff_ne, bne_iff_ne]
    exact not_congr ⟨fun same => (apart name member other member' there same.symm).symm,
      fun same => congrArg (joinPath ctx.appDir) same⟩
  rw [DutFixtures.without, DutFixtures.without, shown other member', parted]

/-- A walk goes on until no candidate is left. -/
theorem Walk.complete (walk : ctx.Walk built names left) (shown : ctx.Shows isDir left) :
    ∃ last isDir, ctx.Walk built (ctx.candidates.filter built) last ∧ ctx.Shows isDir last := by
  induction remaining : ctx.candidates.filter left generalizing names left isDir with
  | nil =>
    have all : ctx.candidates.filter built = names := by
      rw [walk.accounts, remaining, List.append_nil]
    rw [all]
    exact ⟨left, isDir, walk, shown⟩
  | cons name rest ih =>
    obtain ⟨member, there⟩ := List.mem_filter.mp (remaining ▸ List.mem_cons_self ..)
    exact ih (apart.without name) (walk.next shown (shown.search_of_cons remaining))
      (shown.taken_away apart member there) (filter_without ctx.nodup_candidates remaining)

end Apart

theorem apart_of_relative (chosen : ∀ dir ∈ ctx.chosenDir, dir.toList.head? ≠ some '/') :
    ctx.Apart built := by
  intro name member other member' _ same
  exact joinPath_injective (relative_of_chosen chosen member) (relative_of_chosen chosen member')
    same

/-- Searches one after the other, each of which takes the directory that it answers out of the
way, answer the candidates that were directories at first, each once and in the order of the
candidates, and fail after the last of them. A set of candidates can be walked through like that
if none of them is the same path as another candidate, and only then. None ever is unless an
absolute directory is chosen. -/
theorem walk_down (ctx : BuildContext) (built : String → Bool) :
    (∀ names left isDir, ctx.Walk built names left → ctx.Shows isDir left →
      names <+: ctx.candidates.filter built ∧
      names.Pairwise (fun a b => ctx.candidates.idxOf a < ctx.candidates.idxOf b) ∧
      (∀ name, (ctx.search isDir).outcome = .ok name ↔
        names ++ [name] <+: ctx.candidates.filter built) ∧
      ∀ e, (ctx.search isDir).outcome = .error e ↔
        names = ctx.candidates.filter built ∧ names.length = ctx.candidates.countP built ∧
          ∃ first, ctx.candidates.head? = some first ∧
            e = .noValidBuildDirectory ctx.appDir first) ∧
    ((∃ left isDir, ctx.Walk built (ctx.candidates.filter built) left ∧ ctx.Shows isDir left) ↔
      ctx.Apart built) ∧
    ((∀ dir ∈ ctx.chosenDir, dir.toList.head? ≠ some '/') → ctx.Apart built) := by
  refine ⟨?_, ⟨?_, ?_⟩, apart_of_relative⟩
  · intro names left isDir walk shown
    have answered : names <+: ctx.candidates.filter built := ⟨_, walk.accounts.symm⟩
    have inOrder : names.Sublist ctx.candidates := answered.sublist.trans List.filter_sublist
    exact ⟨answered, (pairwise_idxOf_of_nodup ctx.nodup_candidates).sublist inOrder,
      fun name => walk.answer_iff shown, fun e => walk.failure_iff shown⟩
  · rintro ⟨left, isDir, walk, shown⟩
    exact walk.apart shown
  · intro apart
    obtain ⟨isDir, shown⟩ := exists_shows apart
    exact Walk.start.complete apart shown

/-- Two of four candidates are there at first, and a directory that is no candidate. -/
theorem walk_down_twoOfFour :
    let ctx : BuildContext :=
      { appDir := "app", target := some "esp32", config := some "release" }
    let built : String → Bool := fun name => name ∈ ["build", "docs", "build_esp32"]
    ctx.candidates = ["build_esp32_release", "build_esp32", "build_release", "build"] ∧
    (∀ dir ∈ ctx.chosenDir, dir.toList.head? ≠ some '/') ∧
    ∃ left isDir, ctx.Walk built ["build_esp32", "build"] left ∧ ctx.Shows isDir left ∧
      (ctx.search isDir).outcome =
        .error (.noValidBuildDirectory "app" "build_esp32_release") := by
  intro ctx built
  have candidates :
      ctx.candidates = ["build_esp32_release", "build_esp32", "build_release", "build"] := by
    decide +kernel
  have dirs : ctx.candidates.filter built = ["build_esp32", "build"] := by
    rw [candidates]
    decide
  have relative : ∀ dir ∈ ctx.chosenDir, dir.toList.head? ≠ some '/' := fun _ none => nomatch none
  obtain ⟨calls, complete, apart⟩ := walk_down ctx built
  obtain ⟨left, isDir, walk, shown⟩ := complete.mpr (apart relative)
  rw [dirs] at walk
  obtain ⟨-, -, -, fails⟩ := calls _ left isDir walk shown
  refine ⟨candidates, relative, left, isDir, walk, shown, (fails _).mpr ⟨dirs.symm, ?_, ?_⟩⟩
  · rw [candidates]
    decide
  · exact ⟨"build_esp32_release", by rw [candidates]; rfl, rfl⟩

end BuildContext

end DutFixtures
