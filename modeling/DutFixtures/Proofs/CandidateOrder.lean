import DutFixtures.Proofs.EmptyTexts
import Mathlib.Data.List.Nodup
import Mathlib.Data.List.Perm.Subperm

namespace DutFixtures

/-- A list without its repetitions: each element stands once, and any two of them in the order
in which they first stand in the list. -/
structure FirstOccurrences (raw names : List String) : Prop where
  nodup : names.Nodup
  mem_iff : ∀ name, name ∈ names ↔ name ∈ raw
  order : ∀ a ∈ raw, ∀ b ∈ raw, names.idxOf a < names.idxOf b ↔ raw.idxOf a < raw.idxOf b

section Occurrences

variable {raw names : List String} {name : String}

theorem eraseDups_append_repeated (known : name ∈ raw) :
    (raw ++ [name]).eraseDups = raw.eraseDups := by
  simp [List.eraseDups_append, List.removeAll, known]

theorem eraseDups_append_fresh (fresh : name ∉ raw) :
    (raw ++ [name]).eraseDups = raw.eraseDups ++ [name] := by
  simp [List.eraseDups_append, List.eraseDups_cons, List.removeAll, fresh]

theorem FirstOccurrences.repeated (first : FirstOccurrences raw names) (known : name ∈ raw) :
    FirstOccurrences (raw ++ [name]) names := by
  have same (other : String) : other ∈ raw ++ [name] ↔ other ∈ raw := by
    rw [List.mem_append, List.mem_singleton]
    exact or_iff_left_of_imp fun equal => equal ▸ known
  refine ⟨first.nodup, fun other => (first.mem_iff other).trans (same other).symm, ?_⟩
  intro a inA b inB
  rw [List.idxOf_append_of_mem ((same a).mp inA), List.idxOf_append_of_mem ((same b).mp inB)]
  exact first.order a ((same a).mp inA) b ((same b).mp inB)

theorem idxOf_append_singleton (fresh : name ∉ raw) : (raw ++ [name]).idxOf name = raw.length := by
  rw [List.idxOf_append_of_notMem fresh, List.idxOf_cons_self, Nat.add_zero]

theorem FirstOccurrences.fresh (first : FirstOccurrences raw names) (fresh : name ∉ raw) :
    FirstOccurrences (raw ++ [name]) (names ++ [name]) := by
  have fresh' : name ∉ names := fun member => fresh ((first.mem_iff name).mp member)
  have last := idxOf_append_singleton fresh
  have last' := idxOf_append_singleton fresh'
  have earlier (other : String) (inside : other ∈ raw) :
      (raw ++ [name]).idxOf other = raw.idxOf other ∧
        (names ++ [name]).idxOf other = names.idxOf other ∧
        raw.idxOf other < raw.length ∧ names.idxOf other < names.length := by
    have inside' := (first.mem_iff other).mpr inside
    exact ⟨List.idxOf_append_of_mem inside, List.idxOf_append_of_mem inside',
      List.idxOf_lt_length_of_mem inside, List.idxOf_lt_length_of_mem inside'⟩
  refine ⟨?_, ?_, ?_⟩
  · rw [← List.concat_eq_append]
    exact first.nodup.concat fresh'
  · intro other
    simp only [List.mem_append, first.mem_iff]
  · intro a inA b inB
    rw [List.mem_append, List.mem_singleton] at inA inB
    -- The new name comes behind all others in both lists.
    rcases inA with inA | rfl
    · obtain ⟨atA, atA', beforeA, beforeA'⟩ := earlier a inA
      rcases inB with inB | rfl
      · obtain ⟨atB, atB', -, -⟩ := earlier b inB
        rw [atA, atA', atB, atB']
        exact first.order a inA b inB
      · rw [atA, atA', last, last']
        exact iff_of_true beforeA' beforeA
    · rcases inB with inB | rfl
      · obtain ⟨atB, atB', beforeB, beforeB'⟩ := earlier b inB
        rw [atB, atB', last, last']
        omega
      · simp

theorem firstOccurrences_eraseDups (raw : List String) : FirstOccurrences raw raw.eraseDups := by
  induction raw using List.reverseRecOn with
  | nil => exact ⟨List.nodup_nil, fun _ => Iff.rfl, fun _ _ _ _ => Iff.rfl⟩
  | append_singleton raw name ih =>
    by_cases known : name ∈ raw
    · rw [eraseDups_append_repeated known]
      exact ih.repeated known
    · rw [eraseDups_append_fresh known]
      exact ih.fresh known

theorem FirstOccurrences.length_le (first : FirstOccurrences raw names) :
    names.length ≤ raw.length :=
  (first.nodup.subperm fun name => (first.mem_iff name).mp).length_le

end Occurrences

/-- The names that are made of a target and a configuration. An empty text makes none. -/
def generatedDirs (t c : String) : List String :=
  (if t ≠ "" ∧ c ≠ "" then ["build_" ++ t ++ "_" ++ c] else []) ++
    (if t ≠ "" then ["build_" ++ t] else []) ++ (if c ≠ "" then ["build_" ++ c] else [])

/-- The chosen directory, the names made of target and configuration and the plain name, with
their repetitions. -/
def priorityList (o t c : String) : List String :=
  (if o ≠ "" then [o] else []) ++ generatedDirs t c ++ ["build"]

section Names

variable {o t c : String}

theorem named_ne_plain (name : String) : "build_" ++ name ≠ "build" := by
  intro same
  have lengths := congrArg String.length same
  rw [String.length_append] at lengths
  have longer : "build".length < "build_".length := by decide
  omega

/-- Whatever underscores the texts hold, the name of a pair is longer than those of its parts. -/
theorem pair_ne_named {name : String} (short : name.length ≤ t.length + c.length) :
    "build_" ++ t ++ "_" ++ c ≠ "build_" ++ name := by
  intro same
  have lengths := congrArg String.length same
  simp only [String.length_append] at lengths
  have underscore : 0 < "_".length := by decide
  omega

theorem pair_ne_plain (t c : String) : "build_" ++ t ++ "_" ++ c ≠ "build" := by
  rw [String.append_assoc, String.append_assoc]
  exact named_ne_plain _

/-- The plain name is never made of a target or a configuration. -/
theorem plain_not_mem_generatedDirs (t c : String) : "build" ∉ generatedDirs t c := by
  by_cases noTarget : t = "" <;> by_cases noConfig : c = "" <;>
    simp [generatedDirs, noTarget, noConfig, (named_ne_plain _).symm, (pair_ne_plain _ _).symm]

theorem generatedDirs_eq_nil_iff : generatedDirs t c = [] ↔ t = "" ∧ c = "" := by
  by_cases noTarget : t = "" <;> by_cases noConfig : c = "" <;>
    simp [generatedDirs, noTarget, noConfig]

theorem length_priorityList_le (o t c : String) : (priorityList o t c).length ≤ 5 := by
  by_cases noTarget : t = "" <;> by_cases noConfig : c = "" <;> by_cases noDir : o = "" <;>
    simp [priorityList, generatedDirs, noTarget, noConfig, noDir]

/-- Of the names of a target and a configuration only those of the two alone can be the same. -/
theorem length_generatedDirs_eraseDups (target : t ≠ "") (config : c ≠ "") :
    (generatedDirs t c).eraseDups.length = if t = c then 2 else 3 := by
  have names : generatedDirs t c =
      ["build_" ++ t ++ "_" ++ c, "build_" ++ t, "build_" ++ c] := by
    simp [generatedDirs, target, config]
  have ofTarget : "build_" ++ t ≠ "build_" ++ t ++ "_" ++ c := (pair_ne_named (by omega)).symm
  have ofConfig : "build_" ++ c ≠ "build_" ++ t ++ "_" ++ c := (pair_ne_named (by omega)).symm
  rw [names]
  by_cases same : t = c
  · subst c
    simp [List.eraseDups_cons, ofTarget]
  · have apart : "build_" ++ c ≠ "build_" ++ t := fun equal =>
      same ((String.append_right_inj "build_").mp equal).symm
    simp [List.eraseDups_cons, ofTarget, ofConfig, apart, same]

/-- As long as the plain name is not chosen it comes after all others. -/
theorem priorityList_of_other (other : o ≠ "build") :
    (priorityList o t c).eraseDups =
      ((if o ≠ "" then [o] else []) ++ generatedDirs t c).eraseDups ++ ["build"] := by
  refine eraseDups_append_fresh ?_
  rw [List.mem_append, not_or]
  refine ⟨?_, plain_not_mem_generatedDirs t c⟩
  split
  · simpa using other.symm
  · exact List.not_mem_nil

theorem priorityList_of_plain :
    (priorityList "build" t c).eraseDups = "build" :: (generatedDirs t c).eraseDups := by
  have others : ∀ name ∈ generatedDirs t c, name ≠ "build" := fun name member equal =>
    plain_not_mem_generatedDirs t c (equal ▸ member)
  have kept : (generatedDirs t c).filter (fun name => !name == "build") = generatedDirs t c :=
    List.filter_eq_self.mpr fun name member => by simp [others name member]
  rw [priorityList, if_pos (by decide), List.append_assoc, List.singleton_append,
    List.eraseDups_cons, List.filter_append, kept]
  simp

/-- Chosen, the plain name is at the end only if it is alone. -/
theorem getLast?_priorityList_of_plain :
    (priorityList "build" t c).eraseDups.getLast? = some "build" ↔ t = "" ∧ c = "" := by
  rw [priorityList_of_plain, ← generatedDirs_eq_nil_iff]
  constructor
  · intro last
    by_contra more
    obtain ⟨name, rest, shape⟩ := List.exists_cons_of_ne_nil more
    have filled : (generatedDirs t c).eraseDups ≠ [] := by
      rw [shape, List.eraseDups_cons]
      exact List.cons_ne_nil _ _
    rw [List.getLast?_cons_of_ne_nil filled] at last
    exact plain_not_mem_generatedDirs t c (List.mem_eraseDups.mp (List.mem_of_getLast? last))
  · intro empty
    rw [empty]
    rfl

end Names

theorem unlessEmpty_eq (value : Option String) :
    unlessEmpty value = if value.getD "" ≠ "" then some (value.getD "") else none := by
  cases value with
  | none => rfl
  | some text => by_cases empty : text = "" <;> simp [unlessEmpty, empty]

namespace BuildContext

theorem candidates_eq (ctx : BuildContext) : ctx.candidates =
    (priorityList (ctx.chosenDir.getD "") (ctx.target.getD "") (ctx.config.getD "")).eraseDups := by
  rw [candidates, rawCandidates, unlessEmpty_eq, unlessEmpty_eq, unlessEmpty_eq]
  by_cases noTarget : ctx.target.getD "" = "" <;> by_cases noConfig : ctx.config.getD "" = "" <;>
    by_cases noDir : ctx.chosenDir.getD "" = "" <;>
    simp [priorityList, generatedDirs, noTarget, noConfig, noDir, plainBuildDir]

/-- Of the names made of a target and a configuration and the plain one, only those of an equal
target and configuration coincide. -/
structure CollideAlone (t c : String) : Prop where
  pair : "build_" ++ t ++ "_" ++ c ∉ ["build_" ++ t, "build_" ++ c, "build"]
  plain : "build" ∉ ["build_" ++ t, "build_" ++ c]
  single : "build_" ++ t = "build_" ++ c ↔ t = c

theorem collideAlone (t c : String) : CollideAlone t c where
  pair := by
    simp only [List.mem_cons, List.not_mem_nil, or_false, not_or]
    exact ⟨pair_ne_named (by omega), pair_ne_named (by omega), pair_ne_plain t c⟩
  plain := by
    simp only [List.mem_cons, List.not_mem_nil, or_false, not_or]
    exact ⟨(named_ne_plain t).symm, (named_ne_plain c).symm⟩
  single := String.append_right_inj "build_"

/-- The names to try are the chosen directory, the names made of target and configuration and
the plain one, without repetitions, where an absent text is as good as an empty one. The plain
name stands at the end, unless it is chosen and there is a target or a configuration: then it
stands at the beginning only. -/
structure Prioritized (ctx : BuildContext) (o t c : String) : Prop where
  first : FirstOccurrences (priorityList o t c) ctx.candidates
  length_le : ctx.candidates.length ≤ 5
  plain_mem : "build" ∈ ctx.candidates
  empty_eq_absent : ∀ part : NamePart,
    (ctx.withPart part (some "")).candidates = (ctx.withPart part none).candidates
  collide : CollideAlone t c
  length_unchosen :
    o = "" → t ≠ "" → c ≠ "" → ctx.candidates.length = if t = c then 3 else 4
  last_iff : ctx.candidates.getLast? = some "build" ↔ ¬ (o = "build" ∧ (t ≠ "" ∨ c ≠ ""))
  plain_first : o = "build" → ∃ rest, ctx.candidates = "build" :: rest ∧ "build" ∉ rest

theorem candidates_priority (ctx : BuildContext) :
    ctx.Prioritized (ctx.chosenDir.getD "") (ctx.target.getD "") (ctx.config.getD "") := by
  have candidates := ctx.candidates_eq
  -- From here on only the three texts matter, and not whether one of them was absent.
  generalize ctx.chosenDir.getD "" = o, ctx.target.getD "" = t, ctx.config.getD "" = c
    at candidates ⊢
  have first : FirstOccurrences (priorityList o t c) ctx.candidates :=
    candidates ▸ firstOccurrences_eraseDups (priorityList o t c)
  refine
    { first := first
      length_le := first.length_le.trans (length_priorityList_le o t c)
      plain_mem :=
        (first.mem_iff "build").mpr (List.mem_append_right _ (List.mem_singleton_self _))
      empty_eq_absent := fun part => candidates_of_cleaned (ctx.cleaned_withPart_empty part)
      collide := collideAlone t c
      length_unchosen := ?_
      last_iff := ?_
      plain_first := ?_ }
  · intro noDir target config
    have other : o ≠ "build" := by
      rw [noDir]
      decide
    rw [candidates, priorityList_of_other other, if_neg (not_not_intro noDir), List.nil_append,
      List.length_append, length_generatedDirs_eraseDups target config, List.length_singleton]
    split <;> rfl
  · rw [candidates]
    by_cases plain : o = "build"
    · rw [plain, getLast?_priorityList_of_plain]
      tauto
    · rw [priorityList_of_other plain, List.getLast?_concat]
      exact iff_of_true rfl fun asked => plain asked.1
  · intro plain
    rw [candidates, plain]
    refine ⟨_, priorityList_of_plain, fun member => ?_⟩
    exact plain_not_mem_generatedDirs t c (List.mem_eraseDups.mp member)

/-- A chosen directory of the plain name moves that name from the end to the beginning. -/
theorem candidates_priority_plainFirst :
    let ctx : BuildContext :=
      { appDir := "app", target := some "esp32", chosenDir := some "build" }
    ctx.candidates = ["build", "build_esp32"] ∧ ctx.candidates.getLast? ≠ some "build" := by
  intro ctx
  have asked : ctx.chosenDir.getD "" = "build" ∧
      (ctx.target.getD "" ≠ "" ∨ ctx.config.getD "" ≠ "") := by decide
  exact ⟨by decide +kernel, fun atEnd => (candidates_priority ctx).last_iff.mp atEnd asked⟩

end BuildContext

end DutFixtures
