import DutFixtures.Console
import DutFixtures.Proofs.CallFields

namespace DutFixtures

/-- The characters between the item and the value on a performance line. -/
def valueMark : List Char := "]: ".toList

/-- The text in front of the first mark and the text behind that mark. -/
def cutAtMark : List Char → Option (List Char × List Char)
  | [] => none
  | c :: rest =>
    match afterLiteral? valueMark (c :: rest) with
    | some after => some ([], after)
    | none => (cutAtMark rest).map fun cut => (c :: cut.1, cut.2)

/-- What a scraper takes from a line of a log: an item and its value. -/
def scraped? (line : String) : Option (String × String) :=
  ((afterLiteral? "[Performance][".toList line.toList).bind cutAtMark).map fun cut =>
    (String.ofList cut.1, String.ofList cut.2)

/-- A text is parted at the first place where the mark stands in it. -/
structure CutAtFirst (text before after : List Char) : Prop where
  split : text = before ++ (valueMark ++ after)
  first : ∀ other later, text = other ++ (valueMark ++ later) → before.length ≤ other.length

/-- A line shows an item up to the first mark behind its beginning, and the value behind that
mark. -/
def ShowsResult (line item value : String) : Prop :=
  ∃ text, line.toList = "[Performance][".toList ++ text ∧
    CutAtFirst text item.toList value.toList

/-- A text does not hold the mark. -/
def Unmarked (text : List Char) : Prop := ¬ valueMark <:+: text

instance (text : List Char) : Decidable (Unmarked text) :=
  inferInstanceAs (Decidable (¬ _))

section Cuts

variable {c : Char} {text before after rest value : List Char}

theorem not_cutAtFirst_nil : ¬ CutAtFirst [] before after := by
  intro cut
  have length := congrArg List.length cut.split
  simp [valueMark] at length

theorem cutAtFirst_of_mark :
    CutAtFirst (valueMark ++ rest) before after ↔ before = [] ∧ after = rest := by
  constructor
  · intro cut
    have empty : before = [] :=
      List.eq_nil_of_length_eq_zero (Nat.le_zero.mp (cut.first [] rest rfl))
    have split := cut.split
    rw [empty, List.nil_append] at split
    exact ⟨empty, (List.append_cancel_left split).symm⟩
  · rintro ⟨rfl, rfl⟩
    exact ⟨rfl, fun _ _ _ => Nat.zero_le _⟩

/-- Where no mark begins, the first one is found one character later. -/
theorem cutAtFirst_of_other (silent : afterLiteral? valueMark (c :: text) = none) :
    CutAtFirst (c :: text) before after ↔
      ∃ inner, before = c :: inner ∧ CutAtFirst text inner after := by
  have passed {other later : List Char} (split : c :: text = other ++ (valueMark ++ later)) :
      ∃ inner, other = c :: inner ∧ text = inner ++ (valueMark ++ later) := by
    cases other with
    | nil => exact nomatch silent.symm.trans (afterLiteral?_eq_some.mpr split)
    | cons d inner =>
      obtain ⟨rfl, shape⟩ := List.cons.inj split
      exact ⟨inner, rfl, shape⟩
  constructor
  · intro cut
    obtain ⟨inner, rfl, shape⟩ := passed cut.split
    refine ⟨inner, rfl, shape, fun other later split => ?_⟩
    exact Nat.le_of_succ_le_succ
      (cut.first (c :: other) later (by rw [split, List.cons_append]))
  · rintro ⟨inner, rfl, cut⟩
    refine ⟨by rw [cut.split, List.cons_append], fun other later split => ?_⟩
    obtain ⟨inner', rfl, shape⟩ := passed split
    exact Nat.succ_le_succ (cut.first inner' later shape)

theorem cutAtMark_eq_some_iff :
    cutAtMark text = some (before, after) ↔ CutAtFirst text before after := by
  induction text generalizing before with
  | nil => exact iff_of_false (fun found => nomatch found) not_cutAtFirst_nil
  | cons c text ih =>
    rw [cutAtMark]
    cases mark : afterLiteral? valueMark (c :: text) with
    | some rest =>
      rw [afterLiteral?_eq_some.mp mark, cutAtFirst_of_mark]
      simp [eq_comm]
    | none =>
      rw [cutAtFirst_of_other mark]
      simp only [Option.map_eq_some_iff, Prod.exists, Prod.mk.injEq]
      constructor
      · rintro ⟨inner, _, found, rfl, rfl⟩
        exact ⟨inner, rfl, ih.mp found⟩
      · rintro ⟨inner, rfl, cut⟩
        exact ⟨inner, after, ih.mpr cut, rfl, rfl⟩

/-- No mark begins in a text without one and runs on into the mark behind that text: the second
and the third character of the mark are not its first one. -/
theorem no_mark_across (unmarked : Unmarked (c :: text)) :
    afterLiteral? valueMark (c :: (text ++ (valueMark ++ value))) = none := by
  rw [Option.eq_none_iff_forall_ne_some]
  intro later found
  have split := afterLiteral?_eq_some.mp found
  match text with
  | [] => simp [valueMark] at split
  | [d] => simp [valueMark] at split
  | d :: e :: rest =>
    have inside : valueMark <+: c :: d :: e :: rest := by
      simp only [valueMark, String.reduceToList, List.cons_append, List.nil_append,
        List.cons.injEq] at split ⊢
      obtain ⟨rfl, rfl, rfl, -⟩ := split
      exact ⟨rest, rfl⟩
    exact unmarked inside.isInfix

theorem cutAtMark_append (unmarked : Unmarked text) :
    cutAtMark (text ++ (valueMark ++ value)) = some (text, value) := by
  induction text with
  | nil => rw [cutAtMark_eq_some_iff]; exact cutAtFirst_of_mark.mpr ⟨rfl, rfl⟩
  | cons c text ih =>
    have later : Unmarked text := fun inside => unmarked (List.infix_cons inside)
    rw [List.cons_append, cutAtMark, no_mark_across unmarked, ih later]
    rfl

end Cuts

theorem scraped?_eq_some_iff {line item value : String} :
    scraped? line = some (item, value) ↔ ShowsResult line item value := by
  simp only [scraped?, Option.map_eq_some_iff, Option.bind_eq_some_iff, Prod.exists,
    Prod.mk.injEq, ShowsResult]
  constructor
  · rintro ⟨before, after, ⟨text, shape, found⟩, rfl, rfl⟩
    refine ⟨text, afterLiteral?_eq_some.mp shape, ?_⟩
    rw [String.toList_ofList, String.toList_ofList]
    exact cutAtMark_eq_some_iff.mp found
  · rintro ⟨text, shape, cut⟩
    exact ⟨item.toList, value.toList,
      ⟨text, afterLiteral?_eq_some.mpr shape, cutAtMark_eq_some_iff.mpr cut⟩,
      String.ofList_toList, String.ofList_toList⟩

theorem toList_performanceLine (item value : String) :
    (performanceLine item value).toList =
      "[Performance][".toList ++ (item.toList ++ (valueMark ++ value.toList)) := by
  simp only [performanceLine, String.toList_append, List.append_assoc, valueMark]

theorem scraped?_performanceLine {item : String} (unmarked : Unmarked item.toList)
    (value : String) : scraped? (performanceLine item value) = some (item, value) := by
  rw [scraped?_eq_some_iff]
  exact ⟨_, toList_performanceLine item value, cutAtMark_eq_some_iff.mp (cutAtMark_append unmarked)⟩

theorem showsResult_performanceLine {item : String} (unmarked : Unmarked item.toList)
    (value : String) (i v : String) :
    ShowsResult (performanceLine item value) i v ↔ i = item ∧ v = value := by
  rw [← scraped?_eq_some_iff, scraped?_performanceLine unmarked value, Option.some.injEq,
    Prod.mk.injEq, eq_comm, @eq_comm _ value]

/-- The tool for results answers and logs the line of the item and the value that it is given. -/
theorem answerCall_logPerformance {fields : List (String × Json)} {item value : String}
    (givenItem : lookupField "item" fields = some (.text item))
    (givenValue : lookupField "value" fields = some (.text value)) (defaults : Defaults)
    (bench : Bench) :
    answerCall defaults bench "log_performance" fields =
      ⟨[⟨.info, .performance, performanceLine item value⟩],
        .ok (.line (performanceLine item value))⟩ := by
  have sound : faultIn? Tool.logPerformance.parameters fields = none := by
    rw [faultIn?_eq_none_iff]
    simp only [Tool.parameters, List.forall_mem_cons]
    exact ⟨.text rfl givenItem, .text rfl givenValue, List.forall_mem_nil _⟩
  have itemText : textParameter "item" fields = some item := textParameter_of_lookup givenItem
  have valueText : textParameter "value" fields = some value := textParameter_of_lookup givenValue
  have run := answerCall_of_sound .logPerformance sound defaults bench
  rw [Tool.call, itemText, valueText] at run
  exact run

/-- The line of an item without the mark shows that item and its value and nothing else,
whatever the value is. This is the line that the tool answers and the event that it logs. So
two lines are the same only for the same item and the same value. -/
theorem performanceLine_read_back {item : String} (unmarked : Unmarked item.toList)
    (value : String) :
    (∀ i v, ShowsResult (performanceLine item value) i v ↔ i = item ∧ v = value) ∧
    (∀ defaults bench fields, lookupField "item" fields = some (.text item) →
      lookupField "value" fields = some (.text value) →
      ∃ line, answerCall defaults bench "log_performance" fields =
          ⟨[⟨.info, .performance, line⟩], .ok (.line line)⟩ ∧
        (ToolResult.line line).json = .object [("line", .text line)] ∧
        ∀ i v, ShowsResult line i v ↔ i = item ∧ v = value) ∧
    ∀ item' value', Unmarked item'.toList →
      performanceLine item value = performanceLine item' value' →
      item = item' ∧ value = value' := by
  have shown := showsResult_performanceLine unmarked value
  refine ⟨shown, ?_, ?_⟩
  · intro defaults bench fields givenItem givenValue
    exact ⟨_, answerCall_logPerformance givenItem givenValue defaults bench, rfl, shown⟩
  · intro item' value' unmarked' same
    have there : ShowsResult (performanceLine item' value') item value := by
      rw [← same]
      exact (shown item value).mpr ⟨rfl, rfl⟩
    exact (showsResult_performanceLine unmarked' value' item value).mp there

/-- An item that ends in the beginning of the mark, and a value that holds the mark. -/
theorem performanceLine_read_back_seam :
    let fields : List (String × Json) := [("item", .text "heap]:"), ("value", .text "[1]: 2\n]")]
    Unmarked "heap]:".toList ∧ lookupField "item" fields = some (.text "heap]:") ∧
      lookupField "value" fields = some (.text "[1]: 2\n]") ∧
      ShowsResult "[Performance][heap]:]: [1]: 2\n]" "heap]:" "[1]: 2\n]" ∧
      ∀ defaults bench, ∃ line,
        answerCall defaults bench "log_performance" fields =
          ⟨[⟨.info, .performance, line⟩], .ok (.line line)⟩ ∧
        ShowsResult line "heap]:" "[1]: 2\n]" := by
  intro fields
  have unmarked : Unmarked "heap]:".toList := by decide
  obtain ⟨shown, answered, -⟩ := performanceLine_read_back unmarked "[1]: 2\n]"
  have line : performanceLine "heap]:" "[1]: 2\n]" = "[Performance][heap]:]: [1]: 2\n]" := by
    decide +kernel
  refine ⟨unmarked, rfl, rfl, ?_, fun defaults bench => ?_⟩
  · rw [← line]
    exact (shown _ _).mpr ⟨rfl, rfl⟩
  · obtain ⟨logged, answer, -, reads⟩ := answered defaults bench fields rfl rfl
    exact ⟨logged, answer, (reads _ _).mpr ⟨rfl, rfl⟩⟩

end DutFixtures
