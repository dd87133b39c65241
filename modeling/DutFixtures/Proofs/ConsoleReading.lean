import DutFixtures.Proofs.Announcement
import DutFixtures.Proofs.Ipv4Text
import Mathlib.Data.Nat.Find

namespace DutFixtures

/-- Some quad is announced completely at a position. -/
def Announces (cs : List Char) (start : Nat) : Prop :=
  ∃ quad stop, AnnouncedAt cs start quad stop

/-- The announcement of least start at or behind a position. -/
structure NextAnnouncement (cs : List Char) (pos start : Nat) (quad : List Char) (stop : Nat) :
    Prop where
  behind : pos ≤ start
  announced : AnnouncedAt cs start quad stop
  least : ∀ other, pos ≤ other → other < start → ¬ Announces cs other

/-- What is read from a position of a console on: the next announcement gives the answer
if its quad is an address. Otherwise the reading goes on behind the character that ends
it, and where nothing more is announced there is no answer. -/
inductive Reading (cs : List Char) : Nat → Option Ipv4 → Prop
  | address {pos start quad stop ip} : NextAnnouncement cs pos start quad stop →
      IsAddressText quad ip → Reading cs pos (some ip)
  | passed {pos start quad stop answer} : NextAnnouncement cs pos start quad stop →
      (∀ ip, ¬ IsAddressText quad ip) → Reading cs stop answer → Reading cs pos answer
  | silent {pos} : (∀ start, pos ≤ start → ¬ Announces cs start) → Reading cs pos none

variable {cs quad : List Char} {pos start stop : Nat} {answer : Option Ipv4}

theorem announcement?_eq_none_of_silent (silent : ¬ Announces cs start) :
    announcement? (cs.drop start) = none := by
  cases found : announcement? (cs.drop start) with
  | none => rfl
  | some taken =>
    obtain ⟨stop, announced⟩ := announcedAt_of_announcement? found
    exact absurd ⟨taken.1, stop, announced⟩ silent

theorem findAddress_drop_succ (silent : ¬ Announces cs pos) :
    findAddress (cs.drop pos) = findAddress (cs.drop (pos + 1)) := by
  by_cases inside : pos < cs.length
  · have nothing := announcement?_eq_none_of_silent silent
    rw [List.drop_eq_getElem_cons inside] at nothing ⊢
    exact findAddress_skip nothing
  · rw [List.drop_eq_nil_of_le (by omega), List.drop_eq_nil_of_le (by omega)]

/-- Text without an announcement is passed over. -/
theorem findAddress_drop_of_silent (behind : pos ≤ start)
    (silent : ∀ other, pos ≤ other → other < start → ¬ Announces cs other) :
    findAddress (cs.drop pos) = findAddress (cs.drop start) := by
  induction start, behind using Nat.le_induction with
  | base => rfl
  | succ start behind ih =>
    rw [ih fun other lower upper => silent other lower (by omega)]
    exact findAddress_drop_succ (silent start behind (Nat.lt_succ_self start))

theorem NextAnnouncement.findAddress (next : NextAnnouncement cs pos start quad stop) :
    findAddress (cs.drop pos) = (Ipv4.ofChars? quad).or (findAddress (cs.drop stop)) := by
  rw [findAddress_drop_of_silent next.behind next.least,
    findAddress_announced next.announced.announcement?]

/-- The search without a second try finds what the reading says. -/
theorem Reading.answer_eq (reading : Reading cs pos answer) : answer = findAddress (cs.drop pos) := by
  induction reading with
  | address next text =>
    rw [next.findAddress, ofChars?_eq_some_iff.mpr text]
    rfl
  | passed next other _ ih =>
    rw [next.findAddress, ofChars?_eq_none other, ih]
    rfl
  | @silent pos nothing =>
    have toEnd : findAddress (cs.drop pos) = findAddress (cs.drop (pos + cs.length)) :=
      findAddress_drop_of_silent (Nat.le_add_right _ _) fun other lower _ => nothing other lower
    rw [toEnd, List.drop_eq_nil_of_le (Nat.le_add_left _ _), findAddress_nil]

theorem nextAnnouncement_or_silent (cs : List Char) (pos : Nat) :
    (∃ start quad stop, NextAnnouncement cs pos start quad stop) ∨
      ∀ start, pos ≤ start → ¬ Announces cs start := by
  classical
  by_cases some : ∃ start, pos ≤ start ∧ Announces cs start
  · obtain ⟨behind, quad, stop, announced⟩ := Nat.find_spec some
    refine Or.inl ⟨Nat.find some, quad, stop, behind, announced, ?_⟩
    intro other lower before announces
    exact Nat.find_min some before ⟨lower, announces⟩
  · exact Or.inr fun start behind announces => some ⟨start, behind, announces⟩

/-- Each reading comes to an end, since every announcement leaves less of the text. -/
theorem exists_reading (cs : List Char) (pos : Nat) : ∃ answer, Reading cs pos answer := by
  induction left : cs.length - pos using Nat.strongRecOn generalizing pos with
  | _ left ih =>
    rcases nextAnnouncement_or_silent cs pos with ⟨start, quad, stop, next⟩ | silent
    · by_cases text : ∃ ip, IsAddressText quad ip
      · obtain ⟨ip, text⟩ := text
        exact ⟨some ip, .address next text⟩
      · have behind := next.behind
        have further := next.announced.start_lt_stop
        have inside := next.announced.stop_le_length
        obtain ⟨answer, rest⟩ := ih (cs.length - stop) (by omega) stop rfl
        exact ⟨answer, .passed next (fun ip other => text ⟨ip, other⟩) rest⟩
    · exact ⟨none, .silent silent⟩

theorem reading_iff : Reading cs pos answer ↔ answer = findAddress (cs.drop pos) := by
  constructor
  · exact Reading.answer_eq
  · rintro rfl
    obtain ⟨answer, reading⟩ := exists_reading cs pos
    rw [← reading.answer_eq]
    exact reading

/-- An answer that is read has been announced as it is written. -/
theorem Reading.announced {ip : Ipv4} (reading : Reading cs pos answer) (found : answer = some ip) :
    ∃ start stop, AnnouncedAt cs start ip.chars stop := by
  induction reading with
  | address next text =>
    cases Option.some.inj found
    exact ⟨_, _, isAddressText_iff.mp text ▸ next.announced⟩
  | passed _ _ _ ih => exact ih found
  | silent => cases found

/-- Announcements are unique at each position, and the address of a console is what is read
from its beginning. An address that is found stands on the console, as it is written. -/
theorem dutAddress_eq_reading (console : String) :
    (∀ start quad stop quad' stop', AnnouncedAt console.toList start quad stop →
      AnnouncedAt console.toList start quad' stop' → quad = quad' ∧ stop = stop') ∧
    (∀ answer, Reading console.toList 0 answer ↔ answer = dutAddress console) ∧
    (∀ ip, dutAddress console = some ip →
      ∃ before last after, console.toList =
          before ++ ("IPv4 address: ".toList ++ (ip.text.toList ++ last :: after)) ∧
        isDecimalDigit last = false) := by
  refine ⟨fun _ _ _ _ _ one other => one.unique other, fun answer => reading_iff, ?_⟩
  intro ip found
  have reading : Reading console.toList 0 (dutAddress console) := reading_iff.mpr rfl
  obtain ⟨_, _, before, last, after, text, _, noDigit, _⟩ := reading.announced found
  have written : ip.text.toList = ip.chars := String.toList_ofList
  exact ⟨before, last, after, by rw [written]; exact text, noDigit⟩

end DutFixtures
