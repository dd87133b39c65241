import DutFixtures.Proofs.GrowingConsole

namespace DutFixtures

/-- A text that ends with a line break. There may be more of them inside it. -/
def EndsLine (text : String) : Prop :=
  text.toList.getLast? = some '\n'

instance (text : String) : Decidable (EndsLine text) :=
  inferInstanceAs (Decidable (_ = _))

section Boundary

variable {cs suffix quad : List Char} {start stop : Nat}
  (boundary : cs = [] ∨ cs.getLast? = some '\n')
include boundary

/-- A line break can only be the character that ends an announcement, so none reaches into the
next line. -/
theorem AnnouncedAt.stop_le_boundary (announced : AnnouncedAt (cs ++ suffix) start quad stop)
    (before : start < cs.length) : stop ≤ cs.length := by
  refine Nat.le_of_not_lt fun across => ?_
  have last : cs[cs.length - 1]? = some '\n' := by
    rcases boundary with rfl | final
    · exact absurd before (Nat.not_lt_zero start)
    · rwa [← List.getLast?_eq_getElem?]
  have behind : start ≤ cs.length - 1 := by omega
  have inside : cs.length - 1 + 1 < stop := by omega
  have atBreak := announced.getElem?_inside behind inside
  rw [List.getElem?_append_left (by omega), last] at atBreak
  rcases List.mem_append.mp (List.mem_of_getElem? atBreak.symm) with inLabel | inQuad
  · exact absurd inLabel (by decide)
  · exact announced.isQuad.not_mem (by decide) (by decide) inQuad

/-- What is read from the beginning of a line on does not depend on the lines before it. -/
theorem findAddress_append_of_boundary :
    findAddress (cs ++ suffix) = (findAddress cs).or (findAddress suffix) := by
  have reading : Reading cs 0 (findAddress cs) := reading_iff.mpr rfl
  obtain ⟨resume, inside, silent, onward⟩ := reading.append (Nat.zero_le _) suffix
  -- Nothing is announced behind `resume` and before the boundary, with or without the suffix.
  have toBoundary : findAddress ((cs ++ suffix).drop resume) =
      findAddress ((cs ++ suffix).drop cs.length) := by
    refine findAddress_drop_of_silent inside ?_
    rintro other lower before ⟨quad, stop, announced⟩
    have ended := announced.stop_le_boundary boundary before
    exact silent other lower ⟨quad, stop, announced.of_append ended⟩
  rw [List.drop_zero, toBoundary, List.drop_left] at onward
  exact onward

end Boundary

variable {a : String} {lines : List String}

theorem dutAddress_append_of_boundary (boundary : a = "" ∨ EndsLine a) (b : String) :
    dutAddress (a ++ b) = (dutAddress a).or (dutAddress b) := by
  rw [dutAddress, String.toList_append]
  exact findAddress_append_of_boundary (boundary.imp_left fun empty => by rw [empty]; rfl)

theorem dutAddress_join_append (complete : ∀ line ∈ lines, EndsLine line) (b : String) :
    dutAddress (String.join lines ++ b) = (lines.findSome? dutAddress).or (dutAddress b) := by
  induction lines with
  | nil => rw [String.join_nil, String.empty_append, List.findSome?_nil, Option.none_or]
  | cons line rest ih =>
    have first := complete line (List.mem_cons_self ..)
    rw [String.join_cons, String.append_assoc, dutAddress_append_of_boundary (Or.inr first),
      ih fun other member => complete other (List.mem_cons_of_mem _ member), List.findSome?_cons]
    cases dutAddress line <;> rfl

/-- Each line of a console is read by itself: at a line break the reading of what comes before
it and of what comes behind it are independent, the address of several lines is the first one
that one of them shows alone, and lines without an address make no difference anywhere. -/
theorem dutAddress_linewise :
    (∀ a b : String, a = "" ∨ EndsLine a →
      dutAddress (a ++ b) = (dutAddress a).or (dutAddress b)) ∧
    (∀ lines : List String, (∀ line ∈ lines, EndsLine line) →
      dutAddress (String.join lines) = lines.findSome? dutAddress) ∧
    (∀ (a b : String) (lines : List String), a = "" ∨ EndsLine a →
      (∀ line ∈ lines, EndsLine line ∧ dutAddress line = none) →
      dutAddress (a ++ String.join lines ++ b) = dutAddress (a ++ b)) := by
  refine ⟨fun a b boundary => dutAddress_append_of_boundary boundary b, ?_, ?_⟩
  · intro lines complete
    have joined := dutAddress_join_append complete ""
    have nothing : dutAddress "" = none := findAddress_nil
    rwa [String.append_empty, nothing, Option.or_none] at joined
  · intro a b lines boundary silent
    have none : lines.findSome? dutAddress = none :=
      List.findSome?_eq_none_iff.mpr fun line member => (silent line member).2
    rw [String.append_assoc, dutAddress_append_of_boundary boundary,
      dutAddress_append_of_boundary boundary,
      dutAddress_join_append fun line member => (silent line member).1, none, Option.none_or]

/-- Labels and quads that a line break cuts in two are no address, whatever stands around them. -/
theorem dutAddress_linewise_cut :
    let a := "IPv4 address: 300.1.1.1\nIPv4 addr\n"
    let lines := ["ess: 10.2.2.2\n", "IPv4 address: 10.3.3\n.3,\n"]
    let b := "IPv4 address: 10.1.1.1, IPv4"
    (a = "" ∨ EndsLine a) ∧ (∀ line ∈ lines, EndsLine line ∧ dutAddress line = none) ∧
      dutAddress (a ++ String.join lines ++ b) = some ⟨10, 1, 1, 1⟩ := by
  intro a lines b
  have boundary : a = "" ∨ EndsLine a := Or.inr (by decide +kernel)
  have silent : ∀ line ∈ lines, EndsLine line ∧ dutAddress line = none := by decide +kernel
  have address : dutAddress (a ++ b) = some ⟨10, 1, 1, 1⟩ := by decide +kernel
  exact ⟨boundary, silent, (dutAddress_linewise.2.2 a b lines boundary silent).trans address⟩

end DutFixtures
