import DutFixtures.Ipv4
import DutFixtures.Text.DecimalDigit

namespace DutFixtures

/-- The words that announce the address of a DUT on its console. -/
def announcementLabel : List Char := "IPv4 address: ".toList

/-- What follows a given beginning of a text. -/
def afterLiteral? : List Char → List Char → Option (List Char)
  | [], cs => some cs
  | _ :: _, [] => none
  | expected :: more, c :: cs => if c = expected then afterLiteral? more cs else none

/-- A run of decimal digits, as long as possible and not empty, and what follows it. -/
def digitRun? (cs : List Char) : Option (List Char × List Char) :=
  let digits := cs.takeWhile isDecimalDigit
  if digits = [] then none else some (digits, cs.dropWhile isDecimalDigit)

/-- A run of decimal digits and the point behind it. -/
def pointedRun? (cs : List Char) : Option (List Char × List Char) :=
  match digitRun? cs with
  | some (digits, '.' :: rest) => some (digits ++ ['.'], rest)
  | _ => none

/-- Four runs of digits with points between them and one more character, which is
taken as well. The end of the text does not end a quad. -/
def quad? (cs : List Char) : Option (List Char × List Char) := do
  let (a, cs) ← pointedRun? cs
  let (b, cs) ← pointedRun? cs
  let (c, cs) ← pointedRun? cs
  let (d, cs) ← digitRun? cs
  match cs with
  | [] => none
  | _ :: rest => some (a ++ b ++ c ++ d, rest)

/-- The quad announced at the start of a text and the text after the announcement. -/
def announcement? (cs : List Char) : Option (List Char × List Char) :=
  (afterLiteral? announcementLabel cs).bind quad?

theorem afterLiteral?_eq_some {literal cs rest : List Char} :
    afterLiteral? literal cs = some rest ↔ cs = literal ++ rest := by
  induction literal generalizing cs with
  | nil => simp [afterLiteral?]
  | cons expected more ih =>
    cases cs with
    | nil => simp [afterLiteral?]
    | cons c cs =>
      by_cases same : c = expected
      · simp [afterLiteral?, same, ih]
      · simp [afterLiteral?, same]

theorem digitRun?_append {cs digits rest : List Char} (run : digitRun? cs = some (digits, rest)) :
    cs = digits ++ rest := by
  simp only [digitRun?] at run
  split at run
  · simp at run
  · simp only [Option.some.injEq, Prod.mk.injEq] at run
    obtain ⟨rfl, rfl⟩ := run
    exact List.takeWhile_append_dropWhile.symm

theorem pointedRun?_append {cs digits rest : List Char}
    (run : pointedRun? cs = some (digits, rest)) : cs = digits ++ rest := by
  unfold pointedRun? at run
  split at run
  · rename_i run' tail found
    simp only [Option.some.injEq, Prod.mk.injEq] at run
    obtain ⟨rfl, rfl⟩ := run
    simp [digitRun?_append found]
  · simp at run

/-- A quad and the one character behind it are taken off the text, and no more. -/
theorem quad?_append {cs quad rest : List Char} (found : quad? cs = some (quad, rest)) :
    ∃ last, cs = quad ++ last :: rest := by
  simp only [quad?, Option.bind_eq_bind, Option.bind_eq_some_iff, Prod.exists] at found
  obtain ⟨a, _, runA, b, _, runB, c, _, runC, d, tail, runD, close⟩ := found
  cases tail with
  | nil => simp at close
  | cons last tail =>
    simp only [Option.some.injEq, Prod.mk.injEq] at close
    obtain ⟨rfl, rfl⟩ := close
    refine ⟨last, ?_⟩
    rw [pointedRun?_append runA, pointedRun?_append runB, pointedRun?_append runC,
      digitRun?_append runD]
    simp

theorem announcement?_append {cs quad rest : List Char}
    (found : announcement? cs = some (quad, rest)) :
    ∃ last, cs = announcementLabel ++ (quad ++ last :: rest) := by
  obtain ⟨tail, label, inner⟩ := Option.bind_eq_some_iff.mp found
  obtain ⟨last, shape⟩ := quad?_append inner
  exact ⟨last, by rw [afterLiteral?_eq_some.mp label, shape]⟩

theorem announcement?_length {cs quad rest : List Char}
    (found : announcement? cs = some (quad, rest)) : rest.length < cs.length := by
  obtain ⟨last, shape⟩ := announcement?_append found
  simp only [shape, List.length_append, List.length_cons]
  omega

/-- The first announced quad that is an address. The search goes on behind a quad
that is none, so the character that ended it is not looked at again. -/
def findAddress (cs : List Char) : Option Ipv4 :=
  match _found : announcement? cs with
  | some (quad, rest) =>
    match Ipv4.ofChars? quad with
    | some ip => some ip
    | none => findAddress rest
  | none =>
    match cs with
    | [] => none
    | _ :: rest => findAddress rest
  termination_by cs.length
  decreasing_by
    · exact announcement?_length _found
    · simp

theorem findAddress_nil : findAddress [] = none := by
  rw [findAddress]
  rfl

/-- A quad that is an address is the answer, and any other one is passed over. -/
theorem findAddress_announced {cs quad rest : List Char}
    (found : announcement? cs = some (quad, rest)) :
    findAddress cs = (Ipv4.ofChars? quad).or (findAddress rest) := by
  rw [findAddress]
  split
  · rename_i quad' rest' same
    have pair := Option.some.inj (found.symm.trans same)
    simp only [Prod.mk.injEq] at pair
    obtain ⟨rfl, rfl⟩ := pair
    cases Ipv4.ofChars? quad <;> rfl
  · rename_i missing
    simp [found] at missing

/-- Where nothing is announced the search goes on one character later. -/
theorem findAddress_skip {c : Char} {cs : List Char} (silent : announcement? (c :: cs) = none) :
    findAddress (c :: cs) = findAddress cs := by
  rw [findAddress]
  split
  · rename_i found
    simp [silent] at found
  · rfl

/-- The address that a DUT reports on its console. -/
def dutAddress (console : String) : Option Ipv4 :=
  findAddress console.toList

end DutFixtures
