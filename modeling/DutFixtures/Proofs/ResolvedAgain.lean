import DutFixtures.Proofs.DutFaults
import DutFixtures.Proofs.JoinedTexts
import Mathlib.Data.List.Forall2

namespace DutFixtures

/-- A record that names everything in a text that is read back as it is, and whose build
directory is there. -/
structure ResolvedDut.Settled (dut : ResolvedDut) (isDir : String → Bool) : Prop where
  appDir : IsPlain dut.appDir
  target : ∀ target ∈ dut.target, IsPlainName target
  config : IsPlainName dut.config
  buildDir : IsPlainName dut.buildDir
  built : isDir (joinPath dut.appDir dut.buildDir) = true

theorem IsPlainName.unlessEmpty_some {name : String} (named : IsPlainName name) :
    unlessEmpty (some name) = some name :=
  Option.filter_some_pos (by simpa using named.nonempty)

theorem isPlainName_of_unlessEmpty {value : Option String} (plain : ∀ text ∈ value, IsPlain text)
    {name : String} (member : name ∈ unlessEmpty value) : IsPlainName name := by
  obtain ⟨given, filled⟩ := Option.mem_filter_iff.mp member
  exact ⟨plain name given, by simpa using filled⟩

theorem BuildContext.isPlainName_of_mem_candidates {ctx : BuildContext}
    (target : ∀ text ∈ ctx.target, IsPlain text) (config : ∀ text ∈ ctx.config, IsPlain text)
    (chosenDir : ∀ text ∈ ctx.chosenDir, IsPlain text) {name : String}
    (member : name ∈ ctx.candidates) : IsPlainName name := by
  have start : IsPlainName "build_" := ⟨⟨by decide, by decide +kernel⟩, by decide⟩
  have between : IsPlainName "_" := ⟨⟨by decide, by decide +kernel⟩, by decide⟩
  have plainBuild : IsPlainName plainBuildDir := ⟨⟨by decide, by decide +kernel⟩, by decide⟩
  -- One case for each kind of name, from the chosen one down to the fallback.
  rcases mem_candidates.mp member with
    chosen | ⟨t, ofTarget, c, ofConfig, rfl⟩ | ⟨t, ofTarget, rfl⟩ | ⟨c, ofConfig, rfl⟩ | rfl
  · exact isPlainName_of_unlessEmpty chosenDir chosen
  · have t' := isPlainName_of_unlessEmpty target ofTarget
    have c' := isPlainName_of_unlessEmpty config ofConfig
    exact ((start.append t').append between).append c'
  · exact start.append (isPlainName_of_unlessEmpty target ofTarget)
  · exact start.append (isPlainName_of_unlessEmpty config ofConfig)
  · exact plainBuild

section Records

variable {r : DutRequest} {isDir : String → Bool} {index : Nat}

theorem isPlain_of_mem_map_partFor {value : Option String} {count : Nat}
    (fits : ∀ text ∈ value, PartsFit text count) (inRange : index < count) :
    ∀ part ∈ value.map fun text => partFor text index, IsPlain part := by
  intro part member
  obtain ⟨text, given, rfl⟩ := Option.map_eq_some_iff.mp member
  exact isPlain_of_mem_dutParts (partFor_mem (fits text given) inRange)

theorem DutRequest.configFor_isPlainName (admissible : r.Admissible) (inRange : index < r.count) :
    IsPlainName (r.configFor index) := by
  have fallback : IsPlainName fallbackConfig := ⟨⟨by decide, by decide +kernel⟩, by decide⟩
  have parts := isPlain_of_mem_map_partFor admissible.config inRange
  rw [configFor, effectiveConfig]
  cases named : unlessEmpty (r.config.map fun value => partFor value index) with
  | none => exact fallback
  | some config => exact isPlainName_of_unlessEmpty parts named

/-- The directory that a search takes is one of its candidates, and those are made of the
parts of the request. -/
theorem DutRequest.recordFor_settled (admissible : r.Admissible) (inRange : index < r.count)
    {dir : String} (found : ((r.contextFor index).search isDir).outcome = .ok dir) :
    (r.recordFor index dir).Settled isDir := by
  have targets := isPlain_of_mem_map_partFor admissible.target inRange
  have dirs := isPlain_of_mem_map_partFor admissible.buildDir inRange
  have config := configFor_isPlainName admissible inRange
  obtain ⟨before, after, first⟩ := BuildContext.search_ok_iff.mp found
  have candidate : dir ∈ (r.contextFor index).candidates := by
    rw [first.split]
    exact List.mem_append_right before (List.mem_cons_self ..)
  refine ⟨?_, ?_, config, ?_, first.found⟩
  · exact isPlain_of_mem_dutParts (partFor_mem admissible.appDir inRange)
  · exact fun target => isPlainName_of_unlessEmpty targets
  · refine BuildContext.isPlainName_of_mem_candidates ?_ ?_ ?_ candidate
    · exact fun target member => (isPlainName_of_unlessEmpty targets member).toIsPlain
    · rintro _ ⟨⟩
      exact config.toIsPlain
    · exact fun buildDir member => (isPlainName_of_unlessEmpty dirs member).toIsPlain

/-- A run that does not fail has found a directory for each DUT, in order. -/
theorem DutRequest.resolved_run {indices : List Nat} {duts : List ResolvedDut}
    (inRange : ∀ i ∈ indices, i < r.count)
    (resolved : (r.partValues.run isDir r.count indices).outcome = .ok duts) :
    List.Forall₂ (fun i dut => ∃ dir, ((r.contextFor i).search isDir).outcome = .ok dir ∧
      dut = r.recordFor i dir) indices duts := by
  induction indices generalizing duts with
  | nil =>
    cases resolved
    exact .nil
  | cons index rest ih =>
    have here := inRange index (List.mem_cons_self ..)
    cases outcome : ((r.contextFor index).search isDir).outcome with
    | error e =>
      obtain ⟨-, failed⟩ := run_cons_of_failed rest here outcome
      rw [failed] at resolved
      nomatch resolved
    | ok dir =>
      obtain ⟨-, result⟩ := run_cons_of_found rest here outcome
      rw [result] at resolved
      cases later : (r.partValues.run isDir r.count rest).outcome with
      | error e => rw [later] at resolved; nomatch resolved
      | ok others =>
        rw [later] at resolved
        cases resolved
        exact .cons ⟨dir, outcome, rfl⟩
          (ih (fun i member => inRange i (List.mem_cons_of_mem _ member)) later)

/-- A run that finds each DUT at the first look makes no other looks. -/
theorem DutRequest.run_of_first_looks {indices : List Nat} {duts : List ResolvedDut}
    (each : List.Forall₂ (fun i dut => i < r.count ∧
      (r.contextFor i).search isDir =
        ⟨[.found (joinPath dut.appDir dut.buildDir)], .ok dut.buildDir⟩ ∧
      r.recordFor i dut.buildDir = dut) indices duts) :
    (r.partValues.run isDir r.count indices).outcome = .ok duts ∧
      (r.partValues.run isDir r.count indices).reports =
        duts.map fun dut => .found (joinPath dut.appDir dut.buildDir) := by
  induction each with
  | nil => exact ⟨rfl, rfl⟩
  | @cons index dut rest others here _ ih =>
    obtain ⟨inRange, search, record⟩ := here
    have found : ((r.contextFor index).search isDir).outcome = .ok dut.buildDir := by rw [search]
    obtain ⟨reports, outcome⟩ := run_cons_of_found rest inRange found
    rw [outcome, reports, ih.1, ih.2, search, record]
    exact ⟨rfl, rfl⟩

end Records

/-- The request that names for each DUT what it was resolved to. -/
def DutRequest.ofResolved (duts : List ResolvedDut) : DutRequest where
  count := duts.length
  appDir := joinPerDut (duts.map ResolvedDut.appDir)
  target := some (joinPerDut (duts.map fun dut => dut.target.getD ""))
  config := some (joinPerDut (duts.map ResolvedDut.config))
  buildDir := some (joinPerDut (duts.map ResolvedDut.buildDir))

/-- The context of a record in which its build directory is the chosen one. -/
def ResolvedDut.context (dut : ResolvedDut) : BuildContext where
  appDir := dut.appDir
  target := dut.target
  config := some dut.config
  chosenDir := some dut.buildDir

/-- The directory of the record comes before all other candidates, also if one of them has
the same name. -/
theorem ResolvedDut.Settled.search_eq {dut : ResolvedDut} {isDir : String → Bool}
    (settled : dut.Settled isDir) :
    dut.context.search isDir = ⟨[.found (joinPath dut.appDir dut.buildDir)], .ok dut.buildDir⟩ := by
  have chosen : unlessEmpty dut.context.chosenDir = some dut.buildDir :=
    settled.buildDir.unlessEmpty_some
  obtain ⟨others, candidates⟩ := BuildContext.candidates_of_chosen chosen
  have first : FirstMatch isDir dut.context.appDir dut.context.candidates [] dut.buildDir others :=
    ⟨candidates, fun _ member => absurd member List.not_mem_nil, settled.built⟩
  exact BuildContext.search_of_match first

/-- An absent target is joined as an empty text, which is plain as well. -/
theorem ResolvedDut.Settled.targetText {dut : ResolvedDut} {isDir : String → Bool}
    (settled : dut.Settled isDir) : IsPlain (dut.target.getD "") := by
  cases named : dut.target with
  | none => exact ⟨by decide, by decide +kernel⟩
  | some target => exact (settled.target target named).toIsPlain

theorem unlessEmpty_of_isPlainName {value : Option String}
    (named : ∀ text ∈ value, IsPlainName text) : unlessEmpty (some (value.getD "")) = value := by
  cases given : value with
  | none => rfl
  | some text => exact (named text given).unlessEmpty_some

section Joined

variable {duts : List ResolvedDut} {isDir : String → Bool}

theorem partsFit_joined {text : ResolvedDut → String} (plain : ∀ dut ∈ duts, IsPlain (text dut))
    (positive : 0 < duts.length) : PartsFit (joinPerDut (duts.map text)) duts.length := by
  have fits := partsFit_joinPerDut (List.forall_mem_map.mpr plain)
    (by simpa using List.ne_nil_of_length_pos positive)
  rwa [List.length_map] at fits

theorem partFor_joined {text : ResolvedDut → String} (plain : ∀ dut ∈ duts, IsPlain (text dut))
    {index : Nat} (inRange : index < duts.length) :
    partFor (joinPerDut (duts.map text)) index = text duts[index] := by
  rw [partFor_joinPerDut (List.forall_mem_map.mpr plain) (by simpa using inRange),
    List.getElem_map]

variable (settled : ∀ dut ∈ duts, dut.Settled isDir)
include settled

theorem DutRequest.ofResolved_admissible (positive : 0 < duts.length)
    (limited : duts.length ≤ dutLimit) : (ofResolved duts).Admissible where
  positive := positive
  limited := limited
  appDir := partsFit_joined (fun dut member => (settled dut member).appDir) positive
  target := by
    rintro _ ⟨⟩
    exact partsFit_joined (fun dut member => (settled dut member).targetText) positive
  config := by
    rintro _ ⟨⟩
    exact partsFit_joined (fun dut member => (settled dut member).config.toIsPlain) positive
  buildDir := by
    rintro _ ⟨⟩
    exact partsFit_joined (fun dut member => (settled dut member).buildDir.toIsPlain) positive

/-- Each DUT of the joined request is the DUT of its record again. -/
theorem DutRequest.fields_ofResolved {index : Nat} (inRange : index < duts.length)
    (numbered : duts[index].index = index) :
    (ofResolved duts).contextFor index = duts[index].context ∧
      (ofResolved duts).recordFor index duts[index].buildDir = duts[index] := by
  have here := settled duts[index] (List.getElem_mem inRange)
  have appDir : partFor (ofResolved duts).appDir index = duts[index].appDir :=
    partFor_joined (fun dut member => (settled dut member).appDir) inRange
  have target : unlessEmpty ((ofResolved duts).target.map fun value => partFor value index) =
      duts[index].target := by
    simp only [ofResolved, Option.map_some,
      partFor_joined (fun dut member => (settled dut member).targetText) inRange]
    exact unlessEmpty_of_isPlainName here.target
  have config : (ofResolved duts).configFor index = duts[index].config := by
    simp only [configFor, ofResolved, Option.map_some,
      partFor_joined (fun dut member => (settled dut member).config.toIsPlain) inRange]
    rw [effectiveConfig, here.config.unlessEmpty_some, Option.getD_some]
  have buildDir : unlessEmpty ((ofResolved duts).buildDir.map fun value => partFor value index) =
      some duts[index].buildDir := by
    simp only [ofResolved, Option.map_some,
      partFor_joined (fun dut member => (settled dut member).buildDir.toIsPlain) inRange]
    exact here.buildDir.unlessEmpty_some
  constructor
  · rw [contextFor, appDir, target, config, buildDir]
    rfl
  · rw [recordFor, appDir, target, config]
    calc (⟨index, duts[index].appDir, duts[index].target, duts[index].config,
          duts[index].buildDir⟩ : ResolvedDut)
        = ⟨duts[index].index, duts[index].appDir, duts[index].target, duts[index].config,
          duts[index].buildDir⟩ := by rw [numbered]
      _ = duts[index] := rfl

end Joined

theorem DutRequest.run_ofResolved_of_settled {duts : List ResolvedDut} {isDir : String → Bool}
    (positive : 0 < duts.length) (limited : duts.length ≤ dutLimit)
    (settled : ∀ dut ∈ duts, dut.Settled isDir)
    (numbered : ∀ index (inRange : index < duts.length), duts[index].index = index) :
    ((ofResolved duts).run isDir).outcome = .ok duts ∧
      ((ofResolved duts).run isDir).reports =
        duts.map fun dut => .found (joinPath dut.appDir dut.buildDir) := by
  rw [run_of_admissible (ofResolved_admissible settled positive limited)]
  refine run_of_first_looks (List.forall₂_iff_get.mpr ⟨List.length_range, ?_⟩)
  intro index _ inRange
  obtain ⟨context, record⟩ := fields_ofResolved settled inRange (numbered index inRange)
  have search := (settled _ (List.getElem_mem inRange)).search_eq
  rw [← context] at search
  simp only [List.get_eq_getElem, List.getElem_range]
  exact ⟨inRange, search, record⟩

/-- The records of a run that does not fail are settled and numbered in order. -/
theorem DutRequest.settled_of_resolved {r : DutRequest} {isDir : String → Bool}
    {duts : List ResolvedDut} (resolved : (r.run isDir).outcome = .ok duts) :
    (0 < duts.length ∧ duts.length ≤ dutLimit) ∧ (∀ dut ∈ duts, dut.Settled isDir) ∧
      ∀ index (inRange : index < duts.length), duts[index].index = index := by
  have sound : ¬ r.Faulty := by
    intro faulty
    obtain ⟨e, fault⟩ := exists_fault_of_faulty faulty
    rw [run_of_fault fault] at resolved
    nomatch resolved
  have admissible := admissible_of_sound sound
  rw [run_of_admissible admissible] at resolved
  obtain ⟨length, each⟩ := List.forall₂_iff_get.mp
    (resolved_run (fun index => List.mem_range.mp) resolved)
  rw [List.length_range] at length
  have record (index : Nat) (inRange : index < duts.length) :
      ∃ dir, ((r.contextFor index).search isDir).outcome = .ok dir ∧
        duts[index] = r.recordFor index dir := by
    have here := each index (by rw [List.length_range]; omega) inRange
    simpa only [List.get_eq_getElem, List.getElem_range] using here
  refine ⟨?_, ?_, ?_⟩
  · rw [← length]
    exact ⟨admissible.positive, admissible.limited⟩
  · intro dut member
    obtain ⟨index, inRange, rfl⟩ := List.getElem_of_mem member
    obtain ⟨dir, found, here⟩ := record index inRange
    rw [here]
    exact recordFor_settled admissible (by omega) found
  · intro index inRange
    obtain ⟨dir, -, here⟩ := record index inRange
    rw [here]
    rfl

/-- Resolved parameters are a fixed point: the request that joins them, an absent target as
an empty text, is resolved to the same records by one look for each DUT. For their texts can
be joined: they hold no separator and no blank at an end, and none but that of the
application path is empty. -/
theorem DutRequest.run_ofResolved (r : DutRequest) (isDir : String → Bool)
    {duts : List ResolvedDut} (resolved : (r.run isDir).outcome = .ok duts) :
    ((ofResolved duts).run isDir).outcome = .ok duts ∧
      ((ofResolved duts).run isDir).reports =
        duts.map (fun dut => .found (joinPath dut.appDir dut.buildDir)) ∧
      ∀ dut ∈ duts,
        (∀ text ∈ [dut.appDir, dut.target.getD "", dut.config, dut.buildDir],
          '|' ∉ text.toList ∧ (∀ c ∈ text.toList.head?, isBlank c = false) ∧
            ∀ c ∈ text.toList.getLast?, isBlank c = false) ∧
        dut.config ≠ "" ∧ dut.buildDir ≠ "" ∧ dut.target ≠ some "" := by
  obtain ⟨⟨positive, limited⟩, settled, numbered⟩ := settled_of_resolved resolved
  obtain ⟨outcome, reports⟩ := run_ofResolved_of_settled positive limited settled numbered
  refine ⟨outcome, reports, fun dut member => ?_⟩
  have here := settled dut member
  have clean (text : String) (plain : IsPlain text) :
      '|' ∉ text.toList ∧ (∀ c ∈ text.toList.head?, isBlank c = false) ∧
        ∀ c ∈ text.toList.getLast?, isBlank c = false :=
    ⟨plain.undivided, plain.unpadded.first, plain.unpadded.last⟩
  refine ⟨?_, here.config.nonempty, here.buildDir.nonempty, ?_⟩
  · simp only [List.forall_mem_cons]
    exact ⟨clean _ here.appDir, clean _ here.targetText, clean _ here.config.toIsPlain,
      clean _ here.buildDir.toIsPlain, List.forall_mem_nil _⟩
  · intro empty
    exact (here.target "" empty).nonempty rfl

/-- The second DUT has a blank target and a directory of its own, whose name is that of a
candidate further down. -/
theorem DutRequest.run_ofResolved_mixed :
    let r : DutRequest :=
      { count := 2, appDir := " app", target := some "esp32 | ", buildDir := some "|build_default" }
    let isDir : String → Bool := fun path => path == "app/build_esp32" || path == "app/build_default"
    let duts : List ResolvedDut :=
      [⟨0, "app", some "esp32", "default", "build_esp32"⟩,
        ⟨1, "app", none, "default", "build_default"⟩]
    (r.run isDir).outcome = .ok duts ∧
      ((ofResolved duts).run isDir).outcome = .ok duts ∧
      ((ofResolved duts).run isDir).reports =
        [.found "app/build_esp32", .found "app/build_default"] := by
  intro r isDir duts
  have resolved : (r.run isDir).outcome = .ok duts := by decide +kernel
  obtain ⟨outcome, reports, -⟩ := run_ofResolved r isDir resolved
  exact ⟨resolved, outcome, reports⟩

end DutFixtures
