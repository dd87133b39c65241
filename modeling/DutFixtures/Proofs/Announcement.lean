import DutFixtures.Console

namespace DutFixtures

/-- Decimal digits of any script, and at least one of them. -/
def IsDigitRun (cs : List Char) : Prop :=
  cs ≠ [] ∧ ∀ c ∈ cs, isDecimalDigit c = true

/-- Four runs of digits with single points between them. -/
def IsQuad (cs : List Char) : Prop :=
  ∃ a b c d, cs = a ++ '.' :: (b ++ '.' :: (c ++ '.' :: d)) ∧
    IsDigitRun a ∧ IsDigitRun b ∧ IsDigitRun c ∧ IsDigitRun d

/-- A quad is announced at a position of a text, with one more character behind it that
is no digit. The text goes on at `stop`, which is the position after that character. -/
def AnnouncedAt (cs : List Char) (start : Nat) (quad : List Char) (stop : Nat) : Prop :=
  ∃ before last after, cs = before ++ (announcementLabel ++ (quad ++ last :: after)) ∧
    IsQuad quad ∧ isDecimalDigit last = false ∧ before.length = start ∧
    stop = start + announcementLabel.length + quad.length + 1

variable {cs quad rest : List Char} {start stop : Nat}

theorem IsDigitRun.not_mem {c : Char} (run : IsDigitRun cs) (noDigit : isDecimalDigit c = false) :
    c ∉ cs :=
  fun member => absurd (run.2 c member) (by simp [noDigit])

theorem IsQuad.not_mem {c : Char} (isQuad : IsQuad cs) (noDigit : isDecimalDigit c = false)
    (noPoint : c ≠ '.') : c ∉ cs := by
  obtain ⟨a, b, d, e, rfl, runA, runB, runD, runE⟩ := isQuad
  simp [runA.not_mem noDigit, runB.not_mem noDigit, runD.not_mem noDigit, runE.not_mem noDigit,
    noPoint]

/-- A run is taken as a whole exactly if what follows does not go on with a digit. -/
theorem digitRun?_eq_some_iff {digits : List Char} :
    digitRun? cs = some (digits, rest) ↔
      IsDigitRun digits ∧ cs = digits ++ rest ∧
        ∀ c, rest.head? = some c → isDecimalDigit c = false := by
  constructor
  · intro run
    refine ⟨?_, digitRun?_append run, ?_⟩
    · simp only [digitRun?] at run
      split at run
      · cases run
      · rename_i nonempty
        cases Option.some.inj run
        exact ⟨nonempty, fun c member => by simpa using List.all_eq_true.mp List.all_takeWhile c member⟩
    · simp only [digitRun?] at run
      split at run
      · cases run
      · cases Option.some.inj run
        intro c head
        have stopped := List.head?_dropWhile_not isDecimalDigit cs
        rw [head] at stopped
        exact stopped
  · intro shape
    obtain ⟨⟨nonempty, digit⟩, rfl, stopped⟩ := shape
    have noMore : rest.takeWhile isDecimalDigit = [] ∧ rest.dropWhile isDecimalDigit = rest := by
      cases rest with
      | nil => exact ⟨rfl, rfl⟩
      | cons c tail =>
        have other := stopped c rfl
        exact ⟨by simp [other], by simp [other]⟩
    have taken : (digits ++ rest).takeWhile isDecimalDigit = digits := by
      rw [List.takeWhile_append_of_pos digit, noMore.1, List.append_nil]
    have dropped : (digits ++ rest).dropWhile isDecimalDigit = rest := by
      rw [List.dropWhile_append_of_pos digit, noMore.2]
    simp only [digitRun?, taken, dropped, if_neg nonempty]

theorem point_not_digit : isDecimalDigit '.' = false := by
  decide

theorem pointedRun?_eq_some_iff {run : List Char} :
    pointedRun? cs = some (run, rest) ↔
      ∃ digits, IsDigitRun digits ∧ run = digits ++ ['.'] ∧ cs = digits ++ '.' :: rest := by
  constructor
  · intro found
    unfold pointedRun? at found
    split at found
    · rename_i digits tail taken
      cases Option.some.inj found
      obtain ⟨digit, shape, _⟩ := digitRun?_eq_some_iff.mp taken
      exact ⟨digits, digit, rfl, shape⟩
    · cases found
  · intro shape
    obtain ⟨digits, digit, rfl, rfl⟩ := shape
    have taken : digitRun? (digits ++ '.' :: rest) = some (digits, '.' :: rest) := by
      refine digitRun?_eq_some_iff.mpr ⟨digit, rfl, ?_⟩
      rintro c ⟨⟩
      exact point_not_digit
    simp only [pointedRun?, taken]

/-- The reader of quads needs no second try: it finds whatever quad there is. -/
theorem quad?_eq_some_iff :
    quad? cs = some (quad, rest) ↔
      ∃ last, IsQuad quad ∧ isDecimalDigit last = false ∧ cs = quad ++ last :: rest := by
  constructor
  · intro found
    simp only [quad?, Option.bind_eq_bind, Option.bind_eq_some_iff, Prod.exists] at found
    obtain ⟨_, _, readA, _, _, readB, _, _, readC, d, tail, readD, close⟩ := found
    obtain ⟨a, runA, rfl, rfl⟩ := pointedRun?_eq_some_iff.mp readA
    obtain ⟨b, runB, rfl, rfl⟩ := pointedRun?_eq_some_iff.mp readB
    obtain ⟨c, runC, rfl, rfl⟩ := pointedRun?_eq_some_iff.mp readC
    obtain ⟨runD, rfl, stopped⟩ := digitRun?_eq_some_iff.mp readD
    cases tail with
    | nil => cases close
    | cons last tail =>
      cases Option.some.inj close
      exact ⟨last, ⟨a, b, c, d, by simp, runA, runB, runC, runD⟩, stopped last rfl, by simp⟩
  · intro shape
    obtain ⟨last, ⟨a, b, c, d, rfl, runA, runB, runC, runD⟩, noDigit, rfl⟩ := shape
    have pointed {run tail : List Char} (digits : IsDigitRun run) :
        pointedRun? (run ++ '.' :: tail) = some (run ++ ['.'], tail) :=
      pointedRun?_eq_some_iff.mpr ⟨run, digits, rfl, rfl⟩
    have closed : digitRun? (d ++ last :: rest) = some (d, last :: rest) := by
      refine digitRun?_eq_some_iff.mpr ⟨runD, rfl, ?_⟩
      rintro x ⟨⟩
      exact noDigit
    simp only [quad?, List.append_assoc, List.cons_append, pointed runA, pointed runB,
      pointed runC, closed, Option.bind_eq_bind, Option.bind_some, List.nil_append]

theorem announcement?_eq_some_iff :
    announcement? cs = some (quad, rest) ↔
      ∃ last, IsQuad quad ∧ isDecimalDigit last = false ∧
        cs = announcementLabel ++ (quad ++ last :: rest) := by
  rw [announcement?, Option.bind_eq_some_iff]
  constructor
  · intro parts
    obtain ⟨tail, label, inner⟩ := parts
    obtain ⟨last, isQuad, noDigit, rfl⟩ := quad?_eq_some_iff.mp inner
    exact ⟨last, isQuad, noDigit, afterLiteral?_eq_some.mp label⟩
  · intro shape
    obtain ⟨last, isQuad, noDigit, rfl⟩ := shape
    exact ⟨_, afterLiteral?_eq_some.mpr rfl, quad?_eq_some_iff.mpr ⟨last, isQuad, noDigit, rfl⟩⟩

/-- At the position of an announcement the reader takes its quad and goes on behind it. -/
theorem AnnouncedAt.announcement? (announced : AnnouncedAt cs start quad stop) :
    announcement? (cs.drop start) = some (quad, cs.drop stop) := by
  obtain ⟨before, last, after, rfl, isQuad, noDigit, rfl, rfl⟩ := announced
  refine announcement?_eq_some_iff.mpr ⟨last, isQuad, noDigit, ?_⟩
  have behind : (before ++ (announcementLabel ++ (quad ++ last :: after))).drop
      (before.length + announcementLabel.length + quad.length + 1) = after := by
    have text : before ++ (announcementLabel ++ (quad ++ last :: after)) =
        (before ++ announcementLabel ++ quad ++ [last]) ++ after := by simp
    rw [text]
    exact List.drop_left' (by simp only [List.length_append, List.length_singleton])
  rw [behind, List.drop_left]

theorem announcedAt_of_announcement? (found : announcement? (cs.drop start) = some (quad, rest)) :
    ∃ stop, AnnouncedAt cs start quad stop := by
  obtain ⟨last, isQuad, noDigit, shape⟩ := announcement?_eq_some_iff.mp found
  have inside : start ≤ cs.length := by
    refine Nat.le_of_not_lt fun beyond => ?_
    rw [List.drop_eq_nil_of_le (by omega)] at shape
    simp at shape
  refine ⟨_, cs.take start, last, rest, ?_, isQuad, noDigit, List.length_take_of_le inside, rfl⟩
  rw [← shape, List.take_append_drop]

theorem AnnouncedAt.unique {quad' : List Char} {stop' : Nat}
    (announced : AnnouncedAt cs start quad stop) (again : AnnouncedAt cs start quad' stop') :
    quad = quad' ∧ stop = stop' := by
  have same := announced.announcement?.symm.trans again.announcement?
  obtain ⟨rfl, _⟩ := Prod.mk.inj (Option.some.inj same)
  obtain ⟨_, _, _, _, _, _, _, place⟩ := announced
  obtain ⟨_, _, _, _, _, _, _, place'⟩ := again
  exact ⟨rfl, place.trans place'.symm⟩

theorem AnnouncedAt.isQuad (announced : AnnouncedAt cs start quad stop) : IsQuad quad := by
  obtain ⟨_, _, _, _, isQuad, _⟩ := announced
  exact isQuad

/-- The characters of an announcement, but for the one that ends it, are those of the label and
the quad. -/
theorem AnnouncedAt.getElem?_inside {pos : Nat} (announced : AnnouncedAt cs start quad stop)
    (behind : start ≤ pos) (inside : pos + 1 < stop) :
    cs[pos]? = (announcementLabel ++ quad)[pos - start]? := by
  obtain ⟨before, last, after, rfl, _, _, rfl, rfl⟩ := announced
  rw [List.getElem?_append_right behind, ← List.append_assoc,
    List.getElem?_append_left (by rw [List.length_append]; omega)]

theorem AnnouncedAt.start_lt_stop (announced : AnnouncedAt cs start quad stop) : start < stop := by
  obtain ⟨_, _, _, _, _, _, _, rfl⟩ := announced
  omega

theorem AnnouncedAt.stop_le_length (announced : AnnouncedAt cs start quad stop) :
    stop ≤ cs.length := by
  obtain ⟨before, last, after, rfl, _, _, rfl, rfl⟩ := announced
  simp only [List.length_append, List.length_cons]
  omega

end DutFixtures
