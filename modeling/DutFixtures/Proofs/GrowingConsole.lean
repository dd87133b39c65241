import DutFixtures.Proofs.SwallowedAddress

namespace DutFixtures

variable {cs quad suffix : List Char} {pos start stop : Nat} {answer : Option Ipv4}

/-- What is announced completely stays so when more text follows. -/
theorem AnnouncedAt.append (announced : AnnouncedAt cs start quad stop) (suffix : List Char) :
    AnnouncedAt (cs ++ suffix) start quad stop := by
  obtain ⟨before, last, after, rfl, isQuad, noDigit, place, behind⟩ := announced
  exact ⟨before, last, after ++ suffix, by simp, isQuad, noDigit, place, behind⟩

/-- An announcement that has ended before the text goes on does not need what follows. -/
theorem AnnouncedAt.of_append (announced : AnnouncedAt (cs ++ suffix) start quad stop)
    (ended : stop ≤ cs.length) : AnnouncedAt cs start quad stop := by
  obtain ⟨before, last, after, text, isQuad, noDigit, rfl, rfl⟩ := announced
  have length : (before ++ announcementLabel ++ quad ++ [last]).length =
      before.length + announcementLabel.length + quad.length + 1 := by simp [Nat.add_assoc]
  have shape : cs ++ suffix = (before ++ announcementLabel ++ quad ++ [last]) ++ after := by
    rw [text]
    simp
  obtain ⟨rest, split⟩ : before ++ announcementLabel ++ quad ++ [last] <+: cs :=
    List.prefix_of_prefix_length_le (shape ▸ List.prefix_append _ after)
      (List.prefix_append cs suffix) (by rw [length]; exact ended)
  exact ⟨before, last, rest, by simp [← split], isQuad, noDigit, rfl, rfl⟩

/-- What follows completes no announcement in front of the next one: it would have been cut off
at the end of the text, and so reach across the next one. -/
theorem NextAnnouncement.append (next : NextAnnouncement cs pos start quad stop)
    (suffix : List Char) : NextAnnouncement (cs ++ suffix) pos start quad stop := by
  refine ⟨next.behind, next.announced.append suffix, ?_⟩
  rintro other lower before ⟨quad', stop', open'⟩
  have further := next.announced.start_lt_stop
  have inside := next.announced.stop_le_length
  by_cases ended : stop' ≤ cs.length
  · exact next.least other lower before ⟨quad', stop', open'.of_append ended⟩
  · -- In the longer text both are announced, and they have no more than one character in common.
    have close := open'.overlap (next.announced.append suffix) before (by omega)
    omega

/-- When more text follows, a reading gives the answer that it gave. If there was none it goes
on from a position behind all that was announced. -/
theorem Reading.append (reading : Reading cs pos answer) (inside : pos ≤ cs.length)
    (suffix : List Char) :
    ∃ resume ≤ cs.length, (∀ other, resume ≤ other → ¬ Announces cs other) ∧
      findAddress ((cs ++ suffix).drop pos) =
        answer.or (findAddress ((cs ++ suffix).drop resume)) := by
  induction reading with
  | address next text =>
    -- The answer is settled, and any position without an announcement behind it serves.
    refine ⟨cs.length, le_rfl, ?_, ?_⟩
    · rintro other beyond ⟨quad, stop, announced⟩
      have further := announced.start_lt_stop
      have ended := announced.stop_le_length
      omega
    · rw [(next.append suffix).findAddress, ofChars?_eq_some_iff.mpr text]
      rfl
  | passed next other _ ih =>
    obtain ⟨resume, ended, silent, onward⟩ := ih next.announced.stop_le_length
    refine ⟨resume, ended, silent, ?_⟩
    rw [(next.append suffix).findAddress, ofChars?_eq_none other, onward]
    rfl
  | silent nothing => exact ⟨_, inside, nothing, rfl⟩

theorem findAddress_append_of_some {ip : Ipv4} (found : findAddress cs = some ip)
    (suffix : List Char) : findAddress (cs ++ suffix) = some ip := by
  have reading : Reading cs 0 (some ip) := reading_iff.mpr found.symm
  obtain ⟨resume, _, _, longer⟩ := reading.append (Nat.zero_le _) suffix
  exact longer

theorem dutAddress_of_prefix {console stream : String} {ip : Ipv4}
    (found : dutAddress console = some ip) (captured : console.toList <+: stream.toList) :
    dutAddress stream = some ip := by
  obtain ⟨suffix, text⟩ := captured
  rw [dutAddress, ← text]
  exact findAddress_append_of_some found suffix

/-- An address that is found stays the address of the console, whatever it prints later. So two
captures of one output agree as soon as both show an address, wherever they were cut off. -/
theorem dutAddress_append_of_some {console : String} {ip : Ipv4}
    (found : dutAddress console = some ip) :
    (∀ suffix, dutAddress (console ++ suffix) = some ip) ∧
    (∀ (stream other : String) (ip' : Ipv4), console.toList <+: stream.toList →
      other.toList <+: stream.toList → dutAddress other = some ip' → ip' = ip) := by
  constructor
  · intro suffix
    exact dutAddress_of_prefix found (String.toList_append ▸ List.prefix_append _ _)
  · intro stream other ip' captured captured' found'
    have whole := dutAddress_of_prefix found captured
    have whole' := dutAddress_of_prefix found' captured'
    exact Option.some.inj (whole'.symm.trans whole)

/-- The capture ends inside of a label, and the address that follows comes too late. -/
theorem dutAddress_append_of_some_cutLabel :
    let console := "IPv4 address: 300.1.1.1\nIPv4 address: 10.1.1.1,IPv4 add"
    dutAddress console = some ⟨10, 1, 1, 1⟩ ∧
      dutAddress (console ++ "ress: 10.2.2.2\n") = some ⟨10, 1, 1, 1⟩ := by
  intro console
  have found : dutAddress console = some ⟨10, 1, 1, 1⟩ := by decide +kernel
  exact ⟨found, (dutAddress_append_of_some found).1 _⟩

end DutFixtures
