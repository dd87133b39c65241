import DutFixtures.Proofs.ConsoleReading

namespace DutFixtures

/-- The label, the text of an address and a character that is no digit stand at a position. -/
def AddressAt (cs : List Char) (start : Nat) (ip : Ipv4) : Prop :=
  ∃ before text last after, cs = before ++ (announcementLabel ++ (text ++ last :: after)) ∧
    before.length = start ∧ IsAddressText text ip ∧ isDecimalDigit last = false

/-- The character at a position is the one that ends an announcement which is read, so it
is taken together with that announcement and nothing is found at this position. -/
def Swallowed (cs : List Char) (pos : Nat) : Prop :=
  ∃ start, ∃ _ : start < pos, (∃ quad, AnnouncedAt cs start quad (pos + 1)) ∧ ¬ Swallowed cs start
  termination_by pos

/-- The least position from `pos` on of an address that is not swallowed. -/
structure FirstKept (cs : List Char) (pos start : Nat) (ip : Ipv4) : Prop where
  behind : pos ≤ start
  address : AddressAt cs start ip
  kept : ¬ Swallowed cs start
  least : ∀ other ip', pos ≤ other → other < start → AddressAt cs other ip' → Swallowed cs other

/-- The least position of an address. -/
structure FirstAddress (cs : List Char) (start : Nat) (ip : Ipv4) : Prop where
  address : AddressAt cs start ip
  least : ∀ other ip', other < start → ¬ AddressAt cs other ip'

/-- Every announcement that reaches across a position begins at a swallowed one. -/
def CleanAt (cs : List Char) (pos : Nat) : Prop :=
  ∀ start quad stop, start < pos → AnnouncedAt cs start quad stop → pos < stop → Swallowed cs start

variable {cs quad : List Char} {pos start stop other : Nat} {ip : Ipv4} {answer : Option Ipv4}

theorem isDecimalDigit_of_isDigit {c : Char} (digit : c.isDigit = true) :
    isDecimalDigit c = true := by
  obtain ⟨lower, upper⟩ := isDigit_bounds digit
  refine List.any_eq_true.mpr ⟨0x30, by decide, ?_⟩
  simp only [Bool.and_eq_true, decide_eq_true_eq]
  omega

theorem IsOctetText.isDigitRun {cs : List Char} {n : UInt8} (text : IsOctetText cs n) :
    IsDigitRun cs :=
  ⟨text.nonempty, fun c member => isDecimalDigit_of_isDigit (text.digits c member)⟩

theorem IsAddressText.isQuad (text : IsAddressText cs ip) : IsQuad cs := by
  obtain ⟨a, b, c, d, shape, textA, textB, textC, textD⟩ := text
  exact ⟨a, b, c, d, shape, textA.isDigitRun, textB.isDigitRun, textC.isDigitRun, textD.isDigitRun⟩

theorem addressAt_iff :
    AddressAt cs start ip ↔ ∃ quad stop, AnnouncedAt cs start quad stop ∧ IsAddressText quad ip := by
  constructor
  · intro address
    obtain ⟨before, text, last, after, shape, place, isText, noDigit⟩ := address
    exact ⟨text, _, ⟨before, last, after, shape, isText.isQuad, noDigit, place, rfl⟩, isText⟩
  · intro announced
    obtain ⟨quad, stop, ⟨before, last, after, shape, _, noDigit, place, _⟩, isText⟩ := announced
    exact ⟨before, quad, last, after, shape, place, isText, noDigit⟩

theorem AddressAt.announces (address : AddressAt cs start ip) : Announces cs start := by
  obtain ⟨quad, stop, announced, _⟩ := addressAt_iff.mp address
  exact ⟨quad, stop, announced⟩

theorem AddressAt.unique {ip' : Ipv4} (address : AddressAt cs start ip)
    (again : AddressAt cs start ip') : ip = ip' := by
  obtain ⟨quad, stop, announced, text⟩ := addressAt_iff.mp address
  obtain ⟨quad', stop', announced', text'⟩ := addressAt_iff.mp again
  obtain ⟨rfl, _⟩ := announced.unique announced'
  exact Option.some.inj ((ofChars?_eq_some_iff.mpr text).symm.trans (ofChars?_eq_some_iff.mpr text'))

theorem announcementLabel_cons : ∃ more, announcementLabel = 'I' :: more ∧ 'I' ∉ more :=
  ⟨announcementLabel.tail, rfl, by decide⟩

theorem AnnouncedAt.first_char (announced : AnnouncedAt cs start quad stop) :
    cs[start]? = some 'I' := by
  obtain ⟨before, last, after, rfl, _, _, rfl, _⟩ := announced
  obtain ⟨more, label, _⟩ := announcementLabel_cons
  rw [label, List.getElem?_append_right le_rfl, Nat.sub_self]
  rfl

/-- Between its first character and the one that ends it no announcement can begin. -/
theorem AnnouncedAt.inner_char (announced : AnnouncedAt cs start quad stop) (after : start < pos)
    (inside : pos + 1 < stop) : cs[pos]? ≠ some 'I' := by
  obtain ⟨more, label, plain⟩ := announcementLabel_cons
  have inner : 'I' ∉ more ++ quad := by
    rw [List.mem_append, not_or]
    exact ⟨plain, announced.isQuad.not_mem (by decide) (by decide)⟩
  obtain ⟨offset, place⟩ : ∃ offset, pos - start = offset + 1 := ⟨pos - start - 1, by omega⟩
  rw [announced.getElem?_inside (Nat.le_of_lt after) inside, label, place, List.cons_append,
    List.getElem?_cons_succ]
  exact fun atPos => inner (List.mem_of_getElem? atPos)

/-- Announcements have no more than one character in common, the one that ends the
first of them. -/
theorem AnnouncedAt.overlap {quad' : List Char} {stop' : Nat}
    (announced : AnnouncedAt cs start quad stop) (later : AnnouncedAt cs other quad' stop')
    (after : start < other) (inside : other < stop) : other + 1 = stop := by
  have last : ¬ other + 1 < stop := fun inner => announced.inner_char after inner later.first_char
  omega

theorem swallowed_iff :
    Swallowed cs pos ↔
      ∃ start < pos, (∃ quad, AnnouncedAt cs start quad (pos + 1)) ∧ ¬ Swallowed cs start := by
  rw [Swallowed]
  simp only [exists_prop]

theorem cleanAt_zero (cs : List Char) : CleanAt cs 0 :=
  fun start _ _ before => absurd before start.not_lt_zero

theorem CleanAt.not_swallowed (clean : CleanAt cs pos) : ¬ Swallowed cs pos := by
  intro swallowed
  obtain ⟨start, before, ⟨quad, announced⟩, kept⟩ := swallowed_iff.mp swallowed
  exact kept (clean start quad (pos + 1) before announced (Nat.lt_succ_self pos))

theorem CleanAt.at_start (clean : CleanAt cs pos) (next : NextAnnouncement cs pos start quad stop) :
    CleanAt cs start := by
  intro other quad' stop' before announced across
  by_cases earlier : other < pos
  · have behind := next.behind
    exact clean other quad' stop' earlier announced (by omega)
  · exact absurd ⟨quad', stop', announced⟩ (next.least other (by omega) before)

/-- What begins inside of an announcement that is read is swallowed by it. -/
theorem AnnouncedAt.swallowed {quad' : List Char} {stop' : Nat}
    (announced : AnnouncedAt cs start quad stop) (kept : ¬ Swallowed cs start)
    (later : AnnouncedAt cs other quad' stop') (after : start < other) (inside : other < stop) :
    Swallowed cs other := by
  have close := announced.overlap later after inside
  exact swallowed_iff.mpr ⟨start, after, ⟨quad, close ▸ announced⟩, kept⟩

theorem CleanAt.at_stop (clean : CleanAt cs start) (announced : AnnouncedAt cs start quad stop) :
    CleanAt cs stop := by
  intro other quad' stop' before later across
  have further := announced.start_lt_stop
  rcases Nat.lt_trichotomy other start with earlier | same | inside
  · exact clean other quad' stop' earlier later (by omega)
  · subst other
    have equal := (announced.unique later).2
    omega
  · exact announced.swallowed clean.not_swallowed later inside before

/-- Nothing that is passed together with a rejected announcement could have been kept. -/
theorem NextAnnouncement.passed_swallowed (next : NextAnnouncement cs pos start quad stop)
    (clean : CleanAt cs pos) (noText : ∀ ip, ¬ IsAddressText quad ip) (lower : pos ≤ other)
    (upper : other < stop) (address : AddressAt cs other ip) : Swallowed cs other := by
  obtain ⟨quad', stop', announced, text⟩ := addressAt_iff.mp address
  rcases Nat.lt_trichotomy other start with earlier | same | inside
  · exact absurd address.announces (next.least other lower earlier)
  · subst other
    obtain ⟨rfl, _⟩ := next.announced.unique announced
    exact absurd text (noText ip)
  · exact next.announced.swallowed (clean.at_start next).not_swallowed announced inside upper

theorem Reading.firstKept (reading : Reading cs pos answer) (clean : CleanAt cs pos)
    (found : answer = some ip) : ∃ start, FirstKept cs pos start ip := by
  induction reading with
  | @address pos start quad stop ip' next text =>
    cases Option.some.inj found
    refine ⟨start, next.behind, addressAt_iff.mpr ⟨quad, stop, next.announced, text⟩,
      (clean.at_start next).not_swallowed, ?_⟩
    intro other _ lower before address
    exact absurd address.announces (next.least other lower before)
  | @passed pos start quad stop answer next noText rest ih =>
    obtain ⟨later, keptLater⟩ := ih ((clean.at_start next).at_stop next.announced) found
    have behind := next.behind
    have further := next.announced.start_lt_stop
    have onward := keptLater.behind
    refine ⟨later, by omega, keptLater.address, keptLater.kept, ?_⟩
    intro other ip' lower before address
    by_cases passed : other < stop
    · exact next.passed_swallowed clean noText lower passed address
    · exact keptLater.least other ip' (by omega) before address
  | silent => cases found

theorem Reading.all_swallowed (reading : Reading cs pos answer) (clean : CleanAt cs pos)
    (nothing : answer = none) (lower : pos ≤ other) (address : AddressAt cs other ip) :
    Swallowed cs other := by
  induction reading with
  | address => cases nothing
  | @passed pos start quad stop answer next noText rest ih =>
    by_cases passed : other < stop
    · exact next.passed_swallowed clean noText lower passed address
    · exact ih ((clean.at_start next).at_stop next.announced) nothing (by omega)
  | silent noMore => exact absurd address.announces (noMore other lower)

theorem FirstKept.unique {start' : Nat} {ip' : Ipv4} (first : FirstKept cs pos start ip)
    (again : FirstKept cs pos start' ip') : ip = ip' := by
  rcases Nat.lt_trichotomy start start' with earlier | same | later
  · exact absurd (again.least start ip first.behind earlier first.address) first.kept
  · subst start'
    exact first.address.unique again.address
  · exact absurd (first.least start' ip' again.behind later again.address) again.kept

theorem dutAddress_eq_some_iff {console : String} :
    dutAddress console = some ip ↔ ∃ start, FirstKept console.toList 0 start ip := by
  have reading : Reading console.toList 0 (dutAddress console) := reading_iff.mpr rfl
  have clean := cleanAt_zero console.toList
  constructor
  · exact fun found => reading.firstKept clean found
  · intro kept
    obtain ⟨start, first⟩ := kept
    cases found : dutAddress console with
    | none =>
      have swallowed := reading.all_swallowed clean found (Nat.zero_le start) first.address
      exact absurd swallowed first.kept
    | some ip' =>
      obtain ⟨start', first'⟩ := reading.firstKept clean found
      rw [first.unique first']

theorem dutAddress_eq_none_iff {console : String} :
    dutAddress console = none ↔
      ∀ start ip, AddressAt console.toList start ip → Swallowed console.toList start := by
  have reading : Reading console.toList 0 (dutAddress console) := reading_iff.mpr rfl
  constructor
  · intro nothing start ip address
    exact reading.all_swallowed (cleanAt_zero _) nothing (Nat.zero_le start) address
  · intro swallowed
    refine Option.eq_none_iff_forall_ne_some.mpr fun ip found => ?_
    obtain ⟨start, first⟩ := dutAddress_eq_some_iff.mp found
    exact first.kept (swallowed start ip first.address)

/-- The address of a console is the first one on it that is not swallowed, and there is none
only if all are. So the first address on a console is what is found, except where it is
swallowed and the first one that is not is a different one. -/
theorem dutAddress_eq_first_kept (console : String) :
    (∀ ip, dutAddress console = some ip ↔ ∃ start, FirstKept console.toList 0 start ip) ∧
    (dutAddress console = none ↔
      ∀ start ip, AddressAt console.toList start ip → Swallowed console.toList start) ∧
    ((∀ start ip, FirstAddress console.toList start ip → dutAddress console = some ip) ↔
      ∀ start ip, FirstAddress console.toList start ip → Swallowed console.toList start →
        ∃ later, FirstKept console.toList 0 later ip) := by
  refine ⟨fun ip => dutAddress_eq_some_iff, dutAddress_eq_none_iff, ?_⟩
  constructor
  · intro nothingOverlooked start ip first _
    exact dutAddress_eq_some_iff.mp (nothingOverlooked start ip first)
  · intro sameLater start ip first
    refine dutAddress_eq_some_iff.mpr ?_
    by_cases swallowed : Swallowed console.toList start
    · exact sameLater start ip first swallowed
    · refine ⟨start, Nat.zero_le start, first.address, swallowed, ?_⟩
      intro other ip' _ before address
      exact absurd address (first.least other ip' before)

example : dutAddress "IPv4 address: 300.1.1.1\nIPv4 address: 10.1.1.1\n" = some ⟨10, 1, 1, 1⟩ := by
  decide +kernel

/-- Without the line break the first character of the second label ends the first quad, and
the address behind it is not found. -/
theorem adjacent_address_overlooked :
    AddressAt "IPv4 address: 300.1.1.1IPv4 address: 10.1.1.1\n".toList 23 ⟨10, 1, 1, 1⟩ ∧
      dutAddress "IPv4 address: 300.1.1.1IPv4 address: 10.1.1.1\n" = none := by
  refine ⟨⟨"IPv4 address: 300.1.1.1".toList, "10.1.1.1".toList, '\n', [], ?_, ?_, ?_, ?_⟩, ?_⟩
  · decide +kernel
  · decide
  · exact isAddressText_iff.mpr (by decide)
  · decide
  · decide +kernel

end DutFixtures
