import DutFixtures.Proofs.FirstDirectory
import DutFixtures.Proofs.SingleDutRuns

namespace DutFixtures

/-- A field that a request gives, under the name that failures use for it. -/
structure GivenField where
  name : String
  value : String
  deriving DecidableEq, Repr

/-- The fields of a request in the order in which they are split. -/
def DutRequest.givenFields (r : DutRequest) : List GivenField :=
  [⟨"app_path", r.appDir⟩] ++ ((r.target.map (GivenField.mk "target")).toList ++
    ((r.config.map (GivenField.mk "config")).toList ++
      (r.buildDir.map (GivenField.mk "build_dir")).toList))

def GivenField.separators (f : GivenField) : Nat :=
  f.value.toList.count '|'

/-- A field has neither one value for all DUTs nor one for each. -/
def GivenField.Misfits (f : GivenField) (count : Nat) : Prop :=
  f.separators ≠ 0 ∧ f.separators + 1 ≠ count

instance (f : GivenField) (count : Nat) : Decidable (f.Misfits count) :=
  inferInstanceAs (Decidable (_ ∧ _))

def GivenField.mismatch? (f : GivenField) (count : Nat) : Option Failure :=
  if f.Misfits count then some (.dutCountMismatch f.name count (1 + f.separators)) else none

/-- What is wrong with a request by itself. The number of DUTs comes before all fields. -/
def DutRequest.fault? (r : DutRequest) : Option Failure :=
  if r.count = 0 then some .noDut
  else if dutLimit < r.count then some (.tooManyDuts r.count)
  else r.givenFields.findSome? fun field => field.mismatch? r.count

/-- No run can be made of a request: it asks for no DUT or for too many, or one of its
fields does not fit their number. -/
def DutRequest.Faulty (r : DutRequest) : Prop :=
  r.count = 0 ∨ 64 < r.count ∨ ∃ field ∈ r.givenFields, field.Misfits r.count

theorem Failure.tooManyDuts_eq (count : Nat) :
    Failure.tooManyDuts count =
      .invalidParameter ("DUT count " ++ toString count ++ " exceeds the maximum of 64") := by
  have ending : " exceeds the maximum of " ++ toString dutLimit =
      " exceeds the maximum of 64" := by decide +kernel
  rw [tooManyDuts, String.append_assoc, ending]

section Splitting

variable {field value : String} {count : Nat}

theorem length_splitOn (a : Char) (cs : List Char) :
    (cs.splitOn a).length = cs.count a + 1 := by
  induction cs with
  | nil => rfl
  | cons c cs ih =>
    rw [List.splitOn_cons_eq_if_modifyHead, List.count_cons]
    by_cases same : c = a
    · simp [same, ih]
    · simp [same, ih]

/-- A text has one part more than it has separators. -/
theorem length_dutParts (name value : String) :
    (dutParts value).length = 1 + (GivenField.mk name value).separators := by
  rw [dutParts, List.length_map, length_splitOn, Nat.add_comm]
  rfl

theorem partsFit_iff (name : String) :
    PartsFit value count ↔ ¬ (GivenField.mk name value).Misfits count := by
  have parts := length_dutParts name value
  simp only [PartsFit, GivenField.Misfits]
  omega

/-- A value, unless there is a fault. -/
def faultOr {α : Type} (fault : Option Failure) (value : α) : Except Failure α :=
  match fault with
  | some e => .error e
  | none => .ok value

theorem faultOr_bind {α β : Type} {fault later : Option Failure} {a : α} {b : β}
    {next : α → Except Failure β} (rest : next a = faultOr later b) :
    (faultOr fault a >>= next) = faultOr (fault.or later) b := by
  cases fault with
  | some e => rfl
  | none => exact rest

theorem faultOr_bind_ok {α β : Type} {fault : Option Failure} {a : α} {b : β}
    {next : α → Except Failure β} (rest : next a = .ok b) :
    (faultOr fault a >>= next) = faultOr fault b := by
  cases fault with
  | some e => rfl
  | none => exact rest

theorem faultOr_map {α β : Type} (fault : Option Failure) (a : α) (f : α → β) :
    (faultOr fault a).map f = faultOr fault (f a) := by
  cases fault <;> rfl

theorem splitPerDut_eq (positive : 0 < count) (limited : count ≤ dutLimit) :
    splitPerDut field value count =
      faultOr ((GivenField.mk field value).mismatch? count)
        ((List.range count).map (partFor value)) := by
  by_cases misfits : (GivenField.mk field value).Misfits count
  · have parts := length_dutParts field value
    have nonzero : count ≠ 0 := by omega
    have below : ¬ dutLimit < count := by omega
    rw [GivenField.mismatch?, if_pos misfits]
    simp only [splitPerDut, if_neg nonzero, if_neg below]
    obtain ⟨several, differs⟩ := misfits
    split
    · rename_i part single
      rw [single, List.length_singleton] at parts
      omega
    · rw [if_neg (by omega), parts]
      rfl
  · rw [splitPerDut_of_fits positive limited ((partsFit_iff field).mpr misfits),
      GivenField.mismatch?, if_neg misfits]
    rfl

/-- A field that is not given has no fault. -/
theorem splitIfGiven_eq {value : Option String} (positive : 0 < count)
    (limited : count ≤ dutLimit) :
    splitIfGiven field value count =
      faultOr ((value.map (GivenField.mk field)).toList.findSome? fun f => f.mismatch? count)
        ((List.range count).map fun index =>
          unlessEmpty (value.map fun text => partFor text index)) := by
  cases value with
  | none => exact splitIfGiven_of_fits positive limited (fun _ given => nomatch given)
  | some text =>
    rw [splitIfGiven, splitPerDut_eq positive limited, faultOr_map, List.map_map]
    simp only [Option.map_some, Option.toList_some, List.findSome?_singleton]
    rfl

end Splitting

namespace DutRequest

variable {r : DutRequest} {isDir : String → Bool}

theorem targets_eq (positive : 0 < r.count) (limited : r.count ≤ dutLimit) :
    (r.target.mapM fun value => splitPerDut "target" value r.count) =
      faultOr ((r.target.map (GivenField.mk "target")).toList.findSome? fun f =>
          f.mismatch? r.count) r.partValues.targets := by
  cases given : r.target with
  | none => simp [partValues, given]; rfl
  | some value =>
    rw [Option.mapM_some, splitPerDut_eq positive limited]
    simp only [partValues, given, Option.map_some, Option.toList_some, List.findSome?_singleton]
    exact faultOr_map _ _ _

/-- The fields are split if there is no fault, and else the first fault is what comes
of them. -/
theorem values_eq (r : DutRequest) : r.values = faultOr r.fault? r.partValues := by
  by_cases zero : r.count = 0
  · rw [fault?, if_pos zero, values, splitPerDut, if_pos zero]
    rfl
  by_cases above : dutLimit < r.count
  · rw [fault?, if_neg zero, if_pos above, values, splitPerDut, if_neg zero, if_pos above]
    rfl
  have positive : 0 < r.count := Nat.pos_of_ne_zero zero
  have limited : r.count ≤ dutLimit := Nat.le_of_not_lt above
  rw [fault?, if_neg zero, if_neg above, givenFields, List.findSome?_append,
    List.findSome?_append, List.findSome?_append, List.findSome?_singleton, values,
    splitPerDut_eq positive limited, targets_eq positive limited,
    splitIfGiven_eq positive limited, splitIfGiven_eq positive limited]
  -- Each field is split only if those before it are sound, so the first fault stays.
  exact faultOr_bind (faultOr_bind (faultOr_bind (faultOr_bind_ok rfl)))

theorem run_of_fault {e : Failure} (fault : r.fault? = some e) (isDir : String → Bool) :
    r.run isDir = ⟨[], .error e⟩ := by
  rw [run, values_eq, fault]
  rfl

theorem run_of_no_fault (sound : r.fault? = none) (isDir : String → Bool) :
    r.run isDir = r.partValues.run isDir r.count (List.range r.count) := by
  rw [run, values_eq, sound]
  rfl

theorem fault?_eq_none_iff : r.fault? = none ↔ ¬ r.Faulty := by
  unfold fault? Faulty
  by_cases zero : r.count = 0
  · simp [zero]
  by_cases above : dutLimit < r.count
  · have above' : 64 < r.count := above
    simp [zero, above, above']
  have below : ¬ 64 < r.count := above
  simp [zero, above, below, GivenField.mismatch?]

theorem admissible_of_sound (sound : ¬ r.Faulty) : r.Admissible := by
  have nonzero : r.count ≠ 0 := fun zero => sound (Or.inl zero)
  have limited : ¬ 64 < r.count := fun above => sound (Or.inr (Or.inl above))
  have fits : ∀ field ∈ r.givenFields, PartsFit field.value r.count := fun field member =>
    (partsFit_iff field.name).mpr fun misfits => sound (Or.inr (Or.inr ⟨field, member, misfits⟩))
  refine ⟨Nat.pos_of_ne_zero nonzero, Nat.le_of_not_lt limited, ?_, ?_, ?_, ?_⟩
  · exact fits ⟨"app_path", r.appDir⟩ (by simp [givenFields])
  · intro value given
    exact fits ⟨"target", value⟩ (by simp [givenFields, Option.mem_def.mp given])
  · intro value given
    exact fits ⟨"config", value⟩ (by simp [givenFields, Option.mem_def.mp given])
  · intro value given
    exact fits ⟨"build_dir", value⟩ (by simp [givenFields, Option.mem_def.mp given])

/-- A DUT without a build ends the run, and the looks that were made at its candidates
are reported. Nothing else ends a run over DUTs whose values have been split. -/
theorem failed_run {indices : List Nat} {e : Failure} (inRange : ∀ i ∈ indices, i < r.count)
    (failed : (r.partValues.run isDir r.count indices).outcome = .error e) :
    (∃ appDir first, e = .noValidBuildDirectory appDir first) ∧
      (r.partValues.run isDir r.count indices).reports ≠ [] := by
  induction indices with
  | nil => nomatch failed
  | cons index rest ih =>
    have here := inRange index (List.mem_cons_self ..)
    cases outcome : ((r.contextFor index).search isDir).outcome with
    | error other =>
      -- No candidate is a directory, and there is always one to look at.
      obtain ⟨reports, result⟩ := run_cons_of_failed rest here outcome
      have none := BuildContext.search_error_iff.mp ⟨other, outcome⟩
      obtain ⟨first, head⟩ := (r.contextFor index).candidates_head
      have search := BuildContext.search_of_none none head
      rw [search] at outcome reports
      rw [result] at failed
      cases outcome
      cases failed
      refine ⟨⟨_, _, rfl⟩, ?_⟩
      rw [reports]
      intro empty
      rw [List.map_eq_nil_iff.mp empty] at head
      cases head
    | ok dir =>
      obtain ⟨reports, result⟩ := run_cons_of_found rest here outcome
      have failedLater : (r.partValues.run isDir r.count rest).outcome = .error e := by
        cases later : (r.partValues.run isDir r.count rest).outcome with
        | error other => rw [result, later] at failed; exact failed
        | ok duts => rw [result, later] at failed; nomatch failed
      obtain ⟨cause, looked⟩ := ih (fun i member => inRange i (List.mem_cons_of_mem _ member))
        failedLater
      refine ⟨cause, ?_⟩
      rw [reports]
      exact List.append_ne_nil_of_right_ne_nil _ looked

theorem exists_fault_of_faulty (faulty : r.Faulty) : ∃ e, r.fault? = some e :=
  Option.ne_none_iff_exists'.mp fun sound => fault?_eq_none_iff.mp sound faulty

/-- A request without a fault fails only at a DUT without a build. -/
theorem failure_of_sound {e : Failure} (sound : ¬ r.Faulty)
    (failed : (r.run isDir).outcome = .error e) :
    (∃ appDir first, e = .noValidBuildDirectory appDir first) ∧ (r.run isDir).reports ≠ [] := by
  rw [run_of_no_fault (fault?_eq_none_iff.mpr sound)] at failed ⊢
  exact failed_run (fun i => List.mem_range.mp) failed

theorem run_indices_congr {other : DutRequest} (count : r.count = other.count)
    (contexts : ∀ i, i < r.count → r.contextFor i = other.contextFor i) {indices : List Nat}
    (inRange : ∀ i ∈ indices, i < r.count) :
    r.partValues.run isDir r.count indices =
      other.partValues.run isDir other.count indices := by
  induction indices with
  | nil => rfl
  | cons index rest ih =>
    have here := inRange index (List.mem_cons_self ..)
    have there : index < other.count := by rwa [← count]
    have config : r.configFor index = other.configFor index :=
      Option.some.inj (congrArg BuildContext.config (contexts index here))
    rw [DutValues.run, DutValues.run, context_partValues here, context_partValues there,
      configOf_partValues here, configOf_partValues there, contexts index here, config,
      ih fun i member => inRange i (List.mem_cons_of_mem _ member)]

/-- A run depends on a request by its fault, if there is one, and by its searches. -/
theorem run_congr {other : DutRequest} (count : r.count = other.count)
    (fault : r.fault? = other.fault?)
    (contexts : ∀ i, i < r.count → r.contextFor i = other.contextFor i)
    (isDir : String → Bool) : r.run isDir = other.run isDir := by
  cases wrong : r.fault? with
  | some e => rw [run_of_fault wrong, run_of_fault (fault ▸ wrong)]
  | none =>
    rw [run_of_no_fault wrong, run_of_no_fault (fault ▸ wrong), ← count]
    exact (run_indices_congr count contexts fun i => List.mem_range.mp).trans (by rw [count])

/-- The first field that does not fit is the one that is reported. -/
theorem fault?_of_first_misfit (positive : 0 < r.count) (limited : r.count ≤ dutLimit)
    {before after : List GivenField} {field : GivenField}
    (split : r.givenFields = before ++ field :: after)
    (fitting : ∀ f ∈ before, ¬ f.Misfits r.count) (misfits : field.Misfits r.count) :
    r.fault? = some (.dutCountMismatch field.name r.count (1 + field.separators)) := by
  have nonzero : r.count ≠ 0 := by omega
  have below : ¬ dutLimit < r.count := by omega
  have earlier : (before.findSome? fun f => f.mismatch? r.count) = none := by
    rw [List.findSome?_eq_none_iff]
    intro f member
    rw [GivenField.mismatch?, if_neg (fitting f member)]
  have here : field.mismatch? r.count =
      some (.dutCountMismatch field.name r.count (1 + field.separators)) := by
    rw [GivenField.mismatch?, if_pos misfits]
  rw [fault?, if_neg nonzero, if_neg below, split, List.findSome?_append, earlier,
    Option.none_or, List.findSome?_cons, here]

end DutRequest

end DutFixtures
