import DutFixtures.Proofs.CallFields
import Mathlib.Data.List.Basic

namespace DutFixtures

/-- The values that a parameter of a shape may hold. -/
def Shape.Admits : Shape → Json → Prop
  | .text, value => ∃ s, value = .text s
  | .optionalText, value => value = .null ∨ ∃ s, value = .text s
  | .optionalCount, value => value = .null ∨ ∃ n : Nat, n < Nat.pow 2 64 ∧ value = .integer n

def Shape.expected : Shape → String
  | .text => "a string"
  | .optionalText => "a string"
  | .optionalCount => "usize"

/-- What is said of a value that does not suit a shape. A negative number that fits into a word
is of the right type for a count, but not a value of it. -/
inductive Complaint : Shape → Json → String → Prop
  | wrongType {shape value} :
      (∀ n, shape = .optionalCount → value = .integer n → -(Nat.pow 2 63 : Int) ≤ n → 0 ≤ n) →
      Complaint shape value ("invalid type: " ++ value.kind ++ ", expected " ++ shape.expected)
  | negative {n : Int} : -(Nat.pow 2 63 : Int) ≤ n → n < 0 →
      Complaint .optionalCount (.integer n)
        ("invalid value: integer `" ++ toString n ++ "`, expected usize")

/-- Every known key that is present holds a value that it may hold. -/
def Tool.Admits (tool : Tool) (fields : List (String × Json)) : Prop :=
  ∀ p ∈ tool.parameters, ∀ value, lookupField p.key fields = some value → p.shape.Admits value

structure Tool.Accepts (tool : Tool) (fields : List (String × Json)) : Prop where
  admitted : tool.Admits fields
  present : ∀ key ∈ tool.requiredKeys, ∃ value, lookupField key fields = some value

/-- Why some fields are rejected: because of the least known key whose value does not suit it,
or, if there is none, because of the first key that is required and missing. -/
inductive Tool.Rejects (tool : Tool) (fields : List (String × Json)) : String → Prop
  | unsuited {p value text} (known : p ∈ tool.parameters)
      (given : lookupField p.key fields = some value) (unfit : ¬ p.shape.Admits value)
      (least : ∀ q ∈ tool.parameters, q.key < p.key →
        ∀ other, lookupField q.key fields = some other → q.shape.Admits other)
      (complaint : Complaint p.shape value text) : Rejects tool fields text
  | missing {before key after} (admitted : tool.Admits fields)
      (required : tool.requiredKeys = before ++ key :: after)
      (present : ∀ earlier ∈ before, ∃ value, lookupField earlier fields = some value)
      (absent : lookupField key fields = none) :
      Rejects tool fields ("missing field `" ++ key ++ "`")

section Shapes

variable {shape : Shape} {value : Json} {fault : ParameterFault}

theorem Shape.fault?_eq_none_iff : shape.fault? value = none ↔ shape.Admits value := by
  cases shape with
  | text => cases value <;> simp [fault?, Admits]
  | optionalText => cases value <;> simp [fault?, Admits]
  | optionalCount =>
    cases value with
    | integer n =>
      rw [fault?, Admits]
      constructor
      · intro sound
        split at sound
        · cases sound
        rename_i sized
        split at sound
        · cases sound
        rename_i natural
        have exact : ((n.toNat : Nat) : Int) = n := Int.toNat_of_nonneg (by omega)
        refine Or.inr ⟨n.toNat, ?_, by rw [exact]⟩
        rw [← isWordSized_natCast, exact]
        simpa using sized
      · rintro (null | ⟨m, below, same⟩)
        · cases null
        · cases same
          rw [(isWordSized_natCast m).mpr below, Bool.not_true, if_neg Bool.false_ne_true,
            if_neg (by omega)]
    | null => simp [fault?, Admits]
    | bool _ => simp [fault?, Admits]
    | decimal _ => simp [fault?, Admits]
    | text _ => simp [fault?, Admits]
    | list _ => simp [fault?, Admits]
    | object _ => simp [fault?, Admits]

theorem Complaint.of_other (other : ∀ n, value ≠ .integer n) :
    Complaint shape value
      (ParameterFault.wrongType value shape.expected).message :=
  .wrongType fun n _ same _ => absurd same (other n)

theorem Complaint.of_text (text : shape ≠ .optionalCount) :
    Complaint shape value
      (ParameterFault.wrongType value shape.expected).message :=
  .wrongType fun _ count _ _ => absurd count text

/-- A number that does not suit a count is below zero or beyond a word. -/
theorem Shape.complaint_of_fault (wrong : shape.fault? value = some fault) :
    Complaint shape value fault.message := by
  cases shape with
  | text => cases value <;> cases wrong <;> exact .of_text (by decide)
  | optionalText => cases value <;> cases wrong <;> exact .of_text (by decide)
  | optionalCount =>
    cases value with
    | integer n =>
      rw [fault?] at wrong
      split at wrong
      · rename_i unsized
        cases wrong
        refine .wrongType fun m _ same lower => ?_
        cases same
        simp only [isWordSized, Bool.not_eq_true', Bool.and_eq_false_iff, decide_eq_false_iff_not]
          at unsized
        omega
      · rename_i sized
        split at wrong
        · rename_i below
          cases wrong
          simp only [isWordSized, Bool.not_eq_true', Bool.not_eq_false, Bool.and_eq_true,
            decide_eq_true_eq] at sized
          exact .negative sized.1 below
        · cases wrong
    | null => cases wrong
    | bool _ => cases wrong; exact .of_other (by simp)
    | decimal _ => cases wrong; exact .of_other (by simp)
    | text _ => cases wrong; exact .of_other (by simp)
    | list _ => cases wrong; exact .of_other (by simp)
    | object _ => cases wrong; exact .of_other (by simp)

end Shapes

section Faults

variable {tool : Tool} {fields other : List (String × Json)} {fault : ParameterFault}

theorem Parameter.admissible_iff {p : Parameter} :
    (lookupField p.key fields).bind p.shape.fault? = none ↔
      ∀ value, lookupField p.key fields = some value → p.shape.Admits value := by
  simp only [Option.bind_eq_none_iff, Shape.fault?_eq_none_iff]

theorem Tool.mem_requiredKeys {key : String} :
    key ∈ tool.requiredKeys ↔ ∃ p ∈ tool.parameters, p.shape = .text ∧ p.key = key := by
  simp only [requiredKeys, List.mem_map, List.mem_filter, decide_eq_true_eq, and_assoc]

theorem Tool.accepts_iff : faultIn? tool.parameters fields = none ↔ tool.Accepts fields := by
  rw [faultIn?_eq_none_iff]
  constructor
  · intro suited
    refine ⟨fun p member => Parameter.admissible_iff.mp (suited p member).admissible, ?_⟩
    intro key required
    obtain ⟨p, member, shape, rfl⟩ := mem_requiredKeys.mp required
    exact Option.isSome_iff_exists.mp ((suited p member).present shape)
  · intro accepted p member
    refine ⟨Parameter.admissible_iff.mpr (accepted.admitted p member), fun shape => ?_⟩
    exact Option.isSome_iff_exists.mpr
      (accepted.present p.key (mem_requiredKeys.mpr ⟨p, member, shape, rfl⟩))

/-- The parameters of every tool are looked at in the order of their keys. -/
theorem Tool.parameters_sorted (tool : Tool) :
    tool.parameters.Pairwise fun p q => p.key < q.key := by
  cases tool <;> decide

theorem Tool.mem_before {before after : List Parameter} {p q : Parameter}
    (split : tool.parameters = before ++ p :: after) (member : q ∈ tool.parameters)
    (less : q.key < p.key) : q ∈ before := by
  have sorted := tool.parameters_sorted
  rw [split] at sorted member
  rcases List.mem_append.mp member with early | late
  · exact early
  · obtain ⟨-, tail, -⟩ := List.pairwise_append.mp sorted
    rcases List.mem_cons.mp late with rfl | later
    · exact absurd less (String.lt_irrefl q.key)
    · exact absurd less (String.lt_asymm ((List.pairwise_cons.mp tail).1 q later))

theorem Tool.rejects_of_fault (rejected : faultIn? tool.parameters fields = some fault) :
    tool.Rejects fields fault.message := by
  rcases Option.or_eq_some_iff.mp rejected with unsuited | ⟨suited, missing⟩
  · obtain ⟨before, p, after, split, here, earlier⟩ := List.findSome?_eq_some_iff.mp unsuited
    obtain ⟨value, given, wrong⟩ := Option.bind_eq_some_iff.mp here
    have known : p ∈ tool.parameters := by rw [split]; simp
    have unfit : ¬ p.shape.Admits value := by
      rw [← Shape.fault?_eq_none_iff, wrong]
      nofun
    refine .unsuited known given unfit (fun q member less => ?_) (Shape.complaint_of_fault wrong)
    exact Parameter.admissible_iff.mp (earlier q (mem_before split member less))
  · obtain ⟨before, p, after, split, here, earlier⟩ := List.findSome?_eq_some_iff.mp missing
    have admitted : tool.Admits fields := fun q member =>
      Parameter.admissible_iff.mp (List.findSome?_eq_none_iff.mp suited q member)
    obtain ⟨⟨required, absent⟩, named⟩ := Option.ite_none_right_eq_some.mp here
    cases named
    have keys : tool.requiredKeys =
        (before.filter fun q => q.shape = .text).map Parameter.key ++
          p.key :: (after.filter fun q => q.shape = .text).map Parameter.key := by
      rw [requiredKeys, split, List.filter_append, List.filter_cons_of_pos (by simpa using required),
        List.map_append, List.map_cons]
    refine .missing admitted keys (fun key member => ?_) (Option.isNone_iff_eq_none.mp absent)
    obtain ⟨q, inside, rfl⟩ := List.mem_map.mp member
    obtain ⟨place, shape⟩ := List.mem_filter.mp inside
    have present := earlier q place
    simp only [ite_eq_right_iff, reduceCtorEq, imp_false, not_and, Option.isNone_iff_eq_none]
      at present
    exact Option.ne_none_iff_exists'.mp (present (of_decide_eq_true shape))

end Faults

/-- Some fields hold nothing for a parameter, or null. -/
def Parameter.BlankIn (p : Parameter) (fields : List (String × Json)) : Prop :=
  ∀ value, lookupField p.key fields = some value → value = .null

/-- Two lists of fields that a parameter does not tell apart. -/
def Parameter.SameIn (p : Parameter) (fields other : List (String × Json)) : Prop :=
  lookupField p.key fields = lookupField p.key other ∨
    p.shape ≠ .text ∧ p.BlankIn fields ∧ p.BlankIn other

section Same

variable {p : Parameter} {tool : Tool} {fields other : List (String × Json)}

theorem Parameter.BlankIn.lookup (blank : p.BlankIn fields) :
    lookupField p.key fields = none ∨ lookupField p.key fields = some .null := by
  cases found : lookupField p.key fields with
  | none => exact Or.inl rfl
  | some value => exact Or.inr (congrArg some (blank value found))

theorem Parameter.BlankIn.fault? (blank : p.BlankIn fields) (optional : p.shape ≠ .text) :
    (lookupField p.key fields).bind p.shape.fault? = none := by
  rcases blank.lookup with absent | null
  · rw [absent]
    rfl
  · rw [null, Option.bind_some]
    cases shape : p.shape with
    | text => exact absurd shape optional
    | optionalText => rfl
    | optionalCount => rfl

theorem Parameter.BlankIn.textParameter (blank : p.BlankIn fields) :
    textParameter p.key fields = none := by
  rcases blank.lookup with absent | null
  · rw [DutFixtures.textParameter, absent]
  · rw [DutFixtures.textParameter, null]

theorem Parameter.BlankIn.countParameter (blank : p.BlankIn fields) :
    countParameter p.key fields = none := by
  rcases blank.lookup with absent | null
  · rw [DutFixtures.countParameter, absent]
  · rw [DutFixtures.countParameter, null]

theorem Parameter.SameIn.fault? (same : p.SameIn fields other) :
    (lookupField p.key fields).bind p.shape.fault? =
      (lookupField p.key other).bind p.shape.fault? := by
  rcases same with equal | ⟨optional, blank, blank'⟩
  · rw [equal]
  · rw [blank.fault? optional, blank'.fault? optional]

theorem Parameter.SameIn.missing (same : p.SameIn fields other) :
    (p.shape = .text ∧ (lookupField p.key fields).isNone) ↔
      (p.shape = .text ∧ (lookupField p.key other).isNone) := by
  rcases same with equal | ⟨optional, -, -⟩
  · rw [equal]
  · exact ⟨fun both => absurd both.1 optional, fun both => absurd both.1 optional⟩

theorem Parameter.SameIn.textParameter (same : p.SameIn fields other) :
    textParameter p.key fields = textParameter p.key other := by
  rcases same with equal | ⟨-, blank, blank'⟩
  · rw [DutFixtures.textParameter, DutFixtures.textParameter, equal]
  · rw [blank.textParameter, blank'.textParameter]

theorem Parameter.SameIn.countParameter (same : p.SameIn fields other) :
    countParameter p.key fields = countParameter p.key other := by
  rcases same with equal | ⟨-, blank, blank'⟩
  · rw [DutFixtures.countParameter, DutFixtures.countParameter, equal]
  · rw [blank.countParameter, blank'.countParameter]

theorem faultIn?_congr {parameters : List Parameter}
    (same : ∀ p ∈ parameters, p.SameIn fields other) :
    faultIn? parameters fields = faultIn? parameters other := by
  have congr {f g : Parameter → Option ParameterFault} (equal : ∀ p ∈ parameters, f p = g p) :
      parameters.findSome? f = parameters.findSome? g := by
    rw [← List.head?_filterMap, ← List.head?_filterMap, List.filterMap_congr equal]
  exact congrArg₂ Option.or (congr fun p member => (same p member).fault?)
    (congr fun p member => if_congr (same p member).missing rfl rfl)

theorem searchParams_congr (same : ∀ p ∈ Tool.resolveBuildDir.parameters, p.SameIn fields other) :
    searchParams fields = searchParams other := by
  simp only [Tool.parameters, List.forall_mem_cons] at same
  obtain ⟨appDir, buildDir, config, target, -⟩ := same
  rw [searchParams, appDir.textParameter, buildDir.textParameter, config.textParameter,
    target.textParameter]
  rfl

theorem runParams_congr (same : ∀ p ∈ Tool.resolveDuts.parameters, p.SameIn fields other) :
    runParams fields = runParams other := by
  simp only [Tool.parameters, List.forall_mem_cons] at same
  obtain ⟨appDir, buildDir, config, count, target, -⟩ := same
  rw [runParams, appDir.textParameter, buildDir.textParameter, config.textParameter,
    count.countParameter, target.textParameter]
  rfl

theorem Tool.call_congr (same : ∀ p ∈ tool.parameters, p.SameIn fields other) :
    tool.call fields = tool.call other := by
  cases tool with
  | hostIp =>
    simp only [parameters, List.forall_mem_cons] at same
    rw [call, same.1.textParameter]
    rfl
  | listBuildCandidates => exact congrArg Call.listBuildCandidates (searchParams_congr same)
  | logPerformance =>
    simp only [parameters, List.forall_mem_cons] at same
    obtain ⟨item, value, -⟩ := same
    rw [call, item.textParameter, value.textParameter]
    rfl
  | resolveBuildDir => exact congrArg Call.resolveBuildDir (searchParams_congr same)
  | resolveDuts => exact congrArg Call.resolveDuts (runParams_congr same)
  | runnerIp =>
    simp only [parameters, List.forall_mem_cons] at same
    rw [call, same.1.textParameter]
    rfl

/-- An answer depends on the fields by what its parameters find there. -/
theorem answerCall_congr (same : ∀ p ∈ tool.parameters, p.SameIn fields other) (d : Defaults)
    (bench : Bench) :
    answerCall d bench tool.name fields = answerCall d bench tool.name other := by
  have decoded : tool.decode fields = tool.decode other := by
    rw [Tool.decode, Tool.decode, faultIn?_congr same, Tool.call_congr same]
  simp only [answerCall, Tool.ofName?_name, decoded]

theorem lookupField_filter (keep : String → Bool) (key : String) (fields : List (String × Json)) :
    lookupField key (fields.filter fun field => keep field.1) =
      if keep key then lookupField key fields else none := by
  induction fields with
  | nil => cases keep key <;> rfl
  | cons field rest ih =>
    obtain ⟨name, value⟩ := field
    by_cases kept : keep name = true
    · rw [List.filter_cons_of_pos (by exact kept), lookupField, lookupField, ih]
      cases wanted : keep key with
      | true => rfl
      | false =>
        have differs : name ≠ key := by
          rintro rfl
          rw [kept] at wanted
          cases wanted
        rw [if_neg Bool.false_ne_true, if_neg Bool.false_ne_true, if_neg differs]
    · rw [List.filter_cons_of_neg (by exact kept), ih, lookupField]
      cases wanted : keep key with
      | true =>
        have differs : name ≠ key := by
          rintro rfl
          exact kept wanted
        rw [if_pos rfl, if_pos rfl, if_neg differs]
        cases lookupField key rest <;> rfl
      | false => rfl

end Same

/-- The parameters of a call are checked exactly and before anything is done. A call is carried
out if every known key holds what it may hold and all required ones are there; else it is
refused because of the first fault, without an event, whatever the defaults and the bench are.
Keys that a tool does not know, and optional ones that hold null, may be left out or put in. -/
theorem parameters_checked (tool : Tool) (fields : List (String × Json)) :
    ((∃ call, tool.decode fields = .ok call) ↔ tool.Accepts fields) ∧
    (∀ call, tool.decode fields = .ok call →
      ∀ d bench, answerCall d bench tool.name fields = call.run d bench) ∧
    (¬ tool.Accepts fields → ∃ text, tool.Rejects fields text ∧
      ∀ d bench, answerCall d bench tool.name fields =
        ⟨[], .error ⟨.invalidParams, "failed to deserialize parameters: " ++ text⟩⟩) ∧
    (∀ keep : String → Bool,
      (∀ p ∈ tool.parameters, keep p.key = true ∨ p.shape ≠ .text ∧ p.BlankIn fields) →
      ∀ d bench, answerCall d bench tool.name (fields.filter fun field => keep field.1) =
        answerCall d bench tool.name fields) ∧
    ∀ p ∈ tool.parameters, p.shape =
      if p.key = "count" then .optionalCount
      else if p.key ∈ ["item", "value", "console"] then .text
      else .optionalText := by
  refine ⟨?_, fun call accepted => answerCall_of_decode accepted, ?_, ?_, ?_⟩
  · rw [← Tool.accepts_iff, Tool.decode]
    cases faultIn? tool.parameters fields with
    | none => simp
    | some fault => simp
  · intro refused
    obtain ⟨fault, found⟩ := Option.ne_none_iff_exists'.mp (mt Tool.accepts_iff.mp refused)
    exact ⟨_, Tool.rejects_of_fault found, answerCall_of_fault tool found⟩
  · intro keep kept
    refine answerCall_congr fun p member => ?_
    have found := lookupField_filter keep p.key fields
    rcases kept p member with stays | ⟨optional, blank⟩
    · rw [stays, if_pos rfl] at found
      exact Or.inl found
    · refine Or.inr ⟨optional, fun value given => ?_, blank⟩
      rw [found] at given
      exact blank value (Option.ite_none_right_eq_some.mp given).2
  · cases tool <;> decide

/-- Two values do not suit their keys, and the one of the lesser key is blamed. A key that the
tool does not know stands between them, and may be left out. -/
theorem parameters_checked_twoFaults :
    let fields := [("count", Json.integer (-3)), ("other", .list []), ("target", .bool true)]
    let known := fields.filter fun field => field.1 != "other"
    ¬ Tool.resolveDuts.Accepts fields ∧
      (∃ text, Tool.resolveDuts.Rejects fields text ∧
        ∀ d bench, answerCall d bench Tool.resolveDuts.name fields =
          ⟨[], .error ⟨.invalidParams, "failed to deserialize parameters: " ++ text⟩⟩) ∧
      ∀ d bench, answerCall d bench Tool.resolveDuts.name known =
        answerCall d bench Tool.resolveDuts.name fields := by
  intro fields known
  obtain ⟨-, -, refused, filtered, -⟩ := parameters_checked .resolveDuts fields
  have unfit : ¬ Tool.resolveDuts.Accepts fields := by
    rw [← Tool.accepts_iff]
    nofun
  refine ⟨unfit, refused unfit, filtered (fun key => key != "other") ?_⟩
  exact fun p member => Or.inl (by revert p; decide)

end DutFixtures
