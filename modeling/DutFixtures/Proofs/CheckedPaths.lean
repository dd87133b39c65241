import DutFixtures.Proofs.CandidateOrder
import DutFixtures.Proofs.FirstDirectory

namespace DutFixtures

/-- What is put between a base and a name under it. -/
def slashBehind (base : String) : String :=
  if base = "" ∨ base.toList.getLast? = some '/' then "" else "/"

/-- A path is the text of a base followed by one of some names. -/
def StandsUnder (base : String) (names : List String) (path : String) : Prop :=
  ∃ name ∈ names, path = base ++ slashBehind base ++ name

instance (base : String) (names : List String) (path : String) :
    Decidable (StandsUnder base names path) :=
  inferInstanceAs (Decidable (∃ name ∈ names, path = _))

section Joined

variable {base name : String}

theorem isAbsolute_iff {path : String} : isAbsolute path = true ↔ path.toList.head? = some '/' :=
  beq_iff_eq

theorem joinPath_of_absolute (absolute : isAbsolute name = true) : joinPath base name = name :=
  if_pos absolute

theorem joinPath_of_relative (relative : isAbsolute name = false) :
    joinPath base name = base ++ slashBehind base ++ name := by
  rw [joinPath, if_neg (by rw [relative]; exact Bool.false_ne_true), slashBehind]
  cases last : base.toList.getLast? with
  | none =>
    have empty : base = "" := String.toList_eq_nil_iff.mp (List.getLast?_eq_none_iff.mp last)
    simp [empty]
  | some c =>
    have filled : base ≠ "" := by
      rintro rfl
      nomatch last
    by_cases slash : c = '/' <;> simp [slash, filled]

/-- Under one base different names stay different, whether a slash is put in between or not. -/
theorem joinPath_injective {other : String} (relative : isAbsolute name = false)
    (relative' : isAbsolute other = false) (same : joinPath base name = joinPath base other) :
    name = other := by
  rw [joinPath_of_relative relative, joinPath_of_relative relative'] at same
  exact (String.append_right_inj _).mp same

end Joined

namespace BuildContext

variable {ctx : BuildContext}

theorem nodup_candidates (ctx : BuildContext) : ctx.candidates.Nodup :=
  (firstOccurrences_eraseDups ctx.rawCandidates).nodup

/-- A name that is not the chosen one is made by the program: it begins in the same way
whatever target and configuration are. -/
theorem candidate_origin {name : String} (member : name ∈ ctx.candidates) :
    ctx.chosenDir = some name ∨ ∃ rest, name = "build" ++ rest := by
  rcases mem_candidates.mp member with
    chosen | ⟨t, -, c, -, rfl⟩ | ⟨t, -, rfl⟩ | ⟨c, -, rfl⟩ | plain
  · exact Or.inl (Option.filter_eq_some_iff.mp chosen).1
  · exact Or.inr ⟨"_" ++ t ++ "_" ++ c, by rw [← String.toList_inj]; simp⟩
  · exact Or.inr ⟨"_" ++ t, by rw [← String.toList_inj]; simp⟩
  · exact Or.inr ⟨"_" ++ c, by rw [← String.toList_inj]; simp⟩
  · exact Or.inr ⟨"", plain⟩

theorem chosen_of_absolute {name : String} (member : name ∈ ctx.candidates)
    (absolute : isAbsolute name = true) : ctx.chosenDir = some name := by
  refine (candidate_origin member).resolve_right ?_
  rintro ⟨rest, rfl⟩
  simp [isAbsolute] at absolute

theorem relative_of_chosen (relative : ∀ dir ∈ ctx.chosenDir, dir.toList.head? ≠ some '/')
    {name : String} (member : name ∈ ctx.candidates) : isAbsolute name = false := by
  rw [Bool.eq_false_iff]
  intro absolute
  exact relative name (chosen_of_absolute member absolute) (isAbsolute_iff.mp absolute)

/-- An absolute candidate is the chosen directory, and it is the first one. -/
theorem absolute_candidate {name : String} {i : Nat} (atIndex : ctx.candidates[i]? = some name)
    (absolute : isAbsolute name = true) : i = 0 ∧ ctx.chosenDir = some name := by
  have chosen := chosen_of_absolute (List.mem_of_getElem? atIndex) absolute
  have filled : name ≠ "" := by
    rintro rfl
    nomatch absolute
  have kept : unlessEmpty ctx.chosenDir = some name := by simp [unlessEmpty, chosen, filled]
  obtain ⟨rest, shape⟩ := candidates_of_chosen kept
  have first : ctx.candidates[0]? = some name := by rw [shape]; rfl
  obtain ⟨bound, -⟩ := List.getElem?_eq_some_iff.mp atIndex
  exact ⟨(List.getElem?_inj bound ctx.nodup_candidates).mp (atIndex.trans first.symm), chosen⟩

/-- A search looks at the paths of the candidates, in their order and none of them again. -/
theorem looked_paths (ctx : BuildContext) (isDir : String → Bool) :
    ∃ looked, looked <+: ctx.candidates ∧
      (ctx.search isDir).reports.map Report.path = looked.map (joinPath ctx.appDir) := by
  have passed (names : List String) :
      (names.map (missingUnder ctx.appDir)).map Report.path = names.map (joinPath ctx.appDir) := by
    rw [List.map_map]
    rfl
  rcases firstMatch_or_none isDir ctx.appDir ctx.candidates with
    ⟨before, name, after, first⟩ | none
  · refine ⟨before ++ [name], ⟨after, ?_⟩, ?_⟩
    · rw [first.split, List.append_assoc, List.singleton_append]
    · rw [search_of_match first, List.map_append, List.map_append, passed]
      rfl
  · obtain ⟨first, head⟩ := ctx.candidates_head
    exact ⟨ctx.candidates, List.prefix_rfl, by rw [search_of_none none head, passed]⟩

/-- Relative candidates stand for different paths. -/
theorem nodup_paths (chosen : ∀ dir ∈ ctx.chosenDir, dir.toList.head? ≠ some '/') :
    ctx.paths.Nodup :=
  ctx.nodup_candidates.map_on fun _ member _ member' =>
    joinPath_injective (relative_of_chosen chosen member) (relative_of_chosen chosen member')

/-- A relative candidate is looked for under the application, and an absolute one is looked for
at itself. -/
theorem candidate_path {name : String} {i : Nat} (atIndex : ctx.candidates[i]? = some name) :
    StandsUnder ctx.appDir ctx.candidates (joinPath ctx.appDir name) ∨
      (i = 0 ∧ ctx.chosenDir = some (joinPath ctx.appDir name) ∧
        (joinPath ctx.appDir name).toList.head? = some '/') := by
  cases absolute : isAbsolute name with
  | false =>
    exact Or.inl ⟨name, List.mem_of_getElem? atIndex, joinPath_of_relative absolute⟩
  | true =>
    rw [joinPath_of_absolute absolute]
    obtain ⟨first, chosen⟩ := absolute_candidate atIndex absolute
    exact Or.inr ⟨first, chosen, isAbsolute_iff.mp absolute⟩

/-- A search reports on paths that are the text of the application followed by a candidate,
and on no path twice, unless an absolute directory is chosen. In any case, whatever target and
configuration hold, only the first report can be on another path, which is the absolute
directory itself. -/
theorem checked_paths (ctx : BuildContext) (isDir : String → Bool) :
    let paths := (ctx.search isDir).reports.map Report.path
    ((∀ dir ∈ ctx.chosenDir, dir.toList.head? ≠ some '/') →
      (∀ path ∈ paths, StandsUnder ctx.appDir ctx.candidates path) ∧ paths.Nodup) ∧
    ∀ i path, paths[i]? = some path → StandsUnder ctx.appDir ctx.candidates path ∨
      (i = 0 ∧ ctx.chosenDir = some path ∧ path.toList.head? = some '/') := by
  intro paths
  obtain ⟨looked, inOrder, joined⟩ : ∃ looked, looked <+: ctx.candidates ∧
      paths = looked.map (joinPath ctx.appDir) := ctx.looked_paths isDir
  constructor
  · intro chosen
    constructor
    · intro path reported
      rw [joined] at reported
      obtain ⟨name, member, rfl⟩ := List.mem_map.mp reported
      have candidate := inOrder.mem member
      exact ⟨name, candidate, joinPath_of_relative (relative_of_chosen chosen candidate)⟩
    · rw [joined]
      exact (nodup_paths chosen).sublist (inOrder.sublist.map _)
  · intro i path reported
    rw [joined, List.getElem?_map, Option.map_eq_some_iff] at reported
    obtain ⟨name, atIndex, rfl⟩ := reported
    obtain ⟨bound, value⟩ := List.getElem?_eq_some_iff.mp atIndex
    refine candidate_path ?_
    rw [List.prefix_iff_getElem?.mp inOrder i bound, value]

/-- Slashes and dots in target, configuration and a relative choice do not lead out of the text
of the application. An absolute choice does. -/
theorem checked_paths_slashes :
    let ctx : BuildContext :=
      { appDir := "app/", target := some "/esp32", config := some "..", chosenDir := some "./build" }
    let paths := (ctx.search fun _ => false).reports.map Report.path
    let outside : BuildContext := { ctx with chosenDir := some "/out" }
    let outsidePaths := (outside.search fun _ => false).reports.map Report.path
    ((∀ dir ∈ ctx.chosenDir, dir.toList.head? ≠ some '/') ∧ paths[4]? = some "app/build" ∧
      (∀ path ∈ paths, StandsUnder "app/" ctx.candidates path) ∧ paths.Nodup) ∧
    outsidePaths[0]? = some "/out" ∧ ¬ StandsUnder "app/" outside.candidates "/out" ∧
      outside.chosenDir = some "/out" := by
  intro ctx paths outside outsidePaths
  have relative : ∀ dir ∈ ctx.chosenDir, dir.toList.head? ≠ some '/' := by
    rintro dir ⟨⟩
    decide
  have first : outsidePaths[0]? = some "/out" := by decide +kernel
  have apart : ¬ StandsUnder "app/" outside.candidates "/out" := by decide +kernel
  obtain ⟨whenRelative, -⟩ := checked_paths ctx fun _ => false
  obtain ⟨under, different⟩ := whenRelative relative
  obtain ⟨-, anyway⟩ := checked_paths outside fun _ => false
  obtain ⟨-, chosen, -⟩ := (anyway 0 "/out" first).resolve_left apart
  exact ⟨⟨relative, by decide +kernel, under, different⟩, first, apart, chosen⟩

end BuildContext

end DutFixtures
