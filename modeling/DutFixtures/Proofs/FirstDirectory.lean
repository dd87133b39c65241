import DutFixtures.BuildSearch

namespace DutFixtures

/-- The report on a name under an application that is no directory. -/
def missingUnder (appDir name : String) : Report :=
  .missing (joinPath appDir name)

/-- No name stands for a directory under the application. -/
def NoDirectory (isDir : String → Bool) (appDir : String) (names : List String) : Prop :=
  ∀ name ∈ names, isDir (joinPath appDir name) = false

/-- A name is the first one of a list that stands for a directory under the application:
nothing before it does. Nothing is said about the names behind it. -/
structure FirstMatch (isDir : String → Bool) (appDir : String) (names before : List String)
    (name : String) (after : List String) : Prop where
  split : names = before ++ name :: after
  missing : NoDirectory isDir appDir before
  found : isDir (joinPath appDir name) = true

variable {isDir : String → Bool} {appDir name : String} {names before after : List String}

theorem firstDirectory_cons_of_found (found : isDir (joinPath appDir name) = true) :
    firstDirectory isDir appDir (name :: names) = ([.found (joinPath appDir name)], some name) := by
  simp only [firstDirectory, if_pos found]

theorem firstDirectory_cons_of_missing (missing : isDir (joinPath appDir name) = false) :
    firstDirectory isDir appDir (name :: names) =
      (missingUnder appDir name :: (firstDirectory isDir appDir names).1,
        (firstDirectory isDir appDir names).2) := by
  simp only [firstDirectory, missing, Bool.false_eq_true, if_false]
  rfl

theorem NoDirectory.head (none : NoDirectory isDir appDir (name :: names)) :
    isDir (joinPath appDir name) = false :=
  none name (List.mem_cons_self ..)

theorem NoDirectory.tail (none : NoDirectory isDir appDir (name :: names)) :
    NoDirectory isDir appDir names :=
  fun other member => none other (List.mem_cons_of_mem _ member)

theorem NoDirectory.cons (head : isDir (joinPath appDir name) = false)
    (tail : NoDirectory isDir appDir names) : NoDirectory isDir appDir (name :: names) := by
  intro other member
  rcases List.mem_cons.mp member with rfl | inside
  · exact head
  · exact tail other inside

/-- Names that are no directories are passed one by one, with a report on each. -/
theorem firstDirectory_append_of_missing (missing : NoDirectory isDir appDir before) :
    firstDirectory isDir appDir (before ++ names) =
      (before.map (missingUnder appDir) ++ (firstDirectory isDir appDir names).1,
        (firstDirectory isDir appDir names).2) := by
  induction before with
  | nil => rfl
  | cons first rest ih =>
    rw [List.cons_append, firstDirectory_cons_of_missing missing.head, ih missing.tail]
    rfl

theorem firstDirectory_of_match (first : FirstMatch isDir appDir names before name after) :
    firstDirectory isDir appDir names =
      (before.map (missingUnder appDir) ++ [.found (joinPath appDir name)], some name) := by
  rw [first.split, firstDirectory_append_of_missing first.missing,
    firstDirectory_cons_of_found first.found]

theorem firstDirectory_of_none (none : NoDirectory isDir appDir names) :
    firstDirectory isDir appDir names = (names.map (missingUnder appDir), .none) := by
  have passed : firstDirectory isDir appDir (names ++ []) =
      (names.map (missingUnder appDir) ++ [], .none) := firstDirectory_append_of_missing none
  simpa only [List.append_nil] using passed

theorem firstMatch_or_none (isDir : String → Bool) (appDir : String) (names : List String) :
    (∃ before name after, FirstMatch isDir appDir names before name after) ∨
      NoDirectory isDir appDir names := by
  have nothing : NoDirectory isDir appDir [] := fun _ member => by simp at member
  induction names with
  | nil => exact Or.inr nothing
  | cons first rest ih =>
    cases look : isDir (joinPath appDir first) with
    | true => exact Or.inl ⟨[], first, rest, rfl, nothing, look⟩
    | false =>
      rcases ih with ⟨before, name, after, split, missing, found⟩ | none
      · exact Or.inl ⟨first :: before, name, after, by rw [split, List.cons_append],
          .cons look missing, found⟩
      · exact Or.inr (.cons look none)

/-- There is always a name to try, so the failure never has to make one up. -/
theorem BuildContext.candidates_head (ctx : BuildContext) :
    ∃ first, ctx.candidates.head? = some first := by
  have nonempty : ctx.rawCandidates ≠ [] := by simp [BuildContext.rawCandidates]
  obtain ⟨first, rest, shape⟩ := List.exists_cons_of_ne_nil nonempty
  exact ⟨first, by rw [BuildContext.candidates, shape, List.eraseDups_cons, List.head?_cons]⟩

/-- The names to try by the way in which they come about. -/
theorem BuildContext.mem_candidates {ctx : BuildContext} {name : String} :
    name ∈ ctx.candidates ↔
      unlessEmpty ctx.chosenDir = some name ∨
      (∃ t, unlessEmpty ctx.target = some t ∧
        ∃ c, unlessEmpty ctx.config = some c ∧ "build_" ++ t ++ "_" ++ c = name) ∨
      (∃ t, unlessEmpty ctx.target = some t ∧ "build_" ++ t = name) ∨
      (∃ c, unlessEmpty ctx.config = some c ∧ "build_" ++ c = name) ∨ name = plainBuildDir := by
  simp only [candidates, List.mem_eraseDups, rawCandidates, List.mem_append, Option.mem_toList,
    Option.map_eq_some_iff, Option.bind_eq_some_iff, List.mem_singleton, or_assoc]

/-- The chosen directory is tried before all names that are made. -/
theorem BuildContext.candidates_of_chosen {ctx : BuildContext} {dir : String}
    (chosen : unlessEmpty ctx.chosenDir = some dir) : ∃ rest, ctx.candidates = dir :: rest := by
  rw [candidates, rawCandidates, chosen, Option.toList_some, List.append_assoc, List.append_assoc,
    List.append_assoc, List.singleton_append, List.eraseDups_cons]
  exact ⟨_, rfl⟩

theorem BuildContext.search_of_match {ctx : BuildContext}
    (first : FirstMatch isDir ctx.appDir ctx.candidates before name after) :
    ctx.search isDir =
      ⟨before.map (missingUnder ctx.appDir) ++ [.found (joinPath ctx.appDir name)], .ok name⟩ := by
  simp only [BuildContext.search, firstDirectory_of_match first]

theorem BuildContext.search_of_none {ctx : BuildContext} {first : String}
    (none : NoDirectory isDir ctx.appDir ctx.candidates)
    (head : ctx.candidates.head? = some first) :
    ctx.search isDir =
      ⟨ctx.candidates.map (missingUnder ctx.appDir),
        .error (.noValidBuildDirectory ctx.appDir first)⟩ := by
  simp only [BuildContext.search, firstDirectory_of_none none, List.headD_eq_head?_getD, head,
    Option.getD_some]

theorem BuildContext.search_ok_iff {ctx : BuildContext} {dir : String} :
    (ctx.search isDir).outcome = .ok dir ↔
      ∃ before after, FirstMatch isDir ctx.appDir ctx.candidates before dir after := by
  constructor
  · intro taken
    rcases firstMatch_or_none isDir ctx.appDir ctx.candidates with
      ⟨before, name, after, first⟩ | none
    · rw [search_of_match first] at taken
      cases taken
      exact ⟨before, after, first⟩
    · obtain ⟨first, head⟩ := ctx.candidates_head
      rw [search_of_none none head] at taken
      cases taken
  · intro split
    obtain ⟨before, after, first⟩ := split
    rw [search_of_match first]

theorem BuildContext.search_error_iff {ctx : BuildContext} :
    (∃ e, (ctx.search isDir).outcome = .error e) ↔
      NoDirectory isDir ctx.appDir ctx.candidates := by
  constructor
  · intro failure
    obtain ⟨e, failed⟩ := failure
    rcases firstMatch_or_none isDir ctx.appDir ctx.candidates with
      ⟨before, name, after, first⟩ | none
    · rw [search_of_match first] at failed
      cases failed
    · exact none
  · intro none
    obtain ⟨first, head⟩ := ctx.candidates_head
    exact ⟨_, by rw [search_of_none none head]⟩

/-- A search takes the first candidate that is a directory and fails if there is none.
It reports on each candidate up to the one it takes, and on no other one. -/
theorem BuildContext.search_first_match (ctx : BuildContext) (isDir : String → Bool) :
    (∀ dir, (ctx.search isDir).outcome = .ok dir ↔
      ∃ before after, FirstMatch isDir ctx.appDir ctx.candidates before dir after) ∧
    (∀ dir before after, FirstMatch isDir ctx.appDir ctx.candidates before dir after →
      (ctx.search isDir).reports =
        before.map (fun name => .missing (joinPath ctx.appDir name)) ++
          [.found (joinPath ctx.appDir dir)]) ∧
    ((∃ e, (ctx.search isDir).outcome = .error e) ↔
      ∀ name ∈ ctx.candidates, isDir (joinPath ctx.appDir name) = false) ∧
    ((∃ e, (ctx.search isDir).outcome = .error e) →
      ∃ first, ctx.candidates.head? = some first ∧
        (ctx.search isDir).outcome = .error (.noValidBuildDirectory ctx.appDir first) ∧
        (ctx.search isDir).reports =
          ctx.candidates.map fun name => .missing (joinPath ctx.appDir name)) := by
  refine ⟨fun dir => search_ok_iff, ?_, search_error_iff, ?_⟩
  · intro dir before after first
    rw [search_of_match first]
    rfl
  · intro failed
    obtain ⟨first, head⟩ := ctx.candidates_head
    rw [search_of_none (search_error_iff.mp failed) head]
    exact ⟨first, head, rfl, rfl⟩

end DutFixtures
