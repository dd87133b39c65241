import DutFixtures.Ipv4
import DutFixtures.Proofs.DigitTexts

namespace DutFixtures

/-- A decimal number below 256 without needless zeros in front. -/
structure IsOctetText (cs : List Char) (n : UInt8) : Prop where
  nonempty : cs ≠ []
  digits : ∀ c ∈ cs, c.isDigit = true
  noLeadingZero : cs.head? = some '0' → cs.length = 1
  value : Nat.ofDigitChars 10 cs 0 = n.toNat

/-- Four such numbers with points between them. -/
def IsAddressText (cs : List Char) (ip : Ipv4) : Prop :=
  ∃ a b c d, cs = a ++ '.' :: (b ++ '.' :: (c ++ '.' :: d)) ∧
    IsOctetText a ip.a ∧ IsOctetText b ip.b ∧ IsOctetText c ip.c ∧ IsOctetText d ip.d

theorem isOctetText_iff {cs : List Char} {n : UInt8} :
    IsOctetText cs n ↔ IsNumeral cs ∧ Nat.ofDigitChars 10 cs 0 = n.toNat :=
  ⟨fun text => ⟨⟨⟨text.nonempty, text.digits⟩, text.noLeadingZero⟩, text.value⟩,
    fun text => ⟨text.1.nonempty, text.1.digits, text.1.noLeadingZero, text.2⟩⟩

theorem IsOctetText.eq_octetText {cs : List Char} {n : UInt8} (text : IsOctetText cs n) :
    cs = octetText n := by
  rw [octetText, ← text.value]
  exact (isOctetText_iff.mp text).1.toDigits_ofDigitChars.symm

theorem isOctetText_octetText (n : UInt8) : IsOctetText (octetText n) n :=
  isOctetText_iff.mpr ⟨isNumeral_toDigits _, Nat.ofDigitChars_ten_toDigits⟩

theorem octetText_length (n : UInt8) : (octetText n).length ≤ 3 := by
  have below := n.toNat_lt
  exact (Nat.length_toDigits_le_iff (by decide) (by decide)).mpr (by omega)

theorem octet?_eq_some_iff {cs : List Char} {n : UInt8} :
    octet? cs = some n ↔ IsOctetText cs n := by
  unfold octet?
  constructor
  · intro read
    split at read
    · cases read
    · rename_i shape
      obtain ⟨nonempty, _, digits⟩ : cs ≠ [] ∧ cs.length ≤ 3 ∧ cs.all Char.isDigit = true := by
        simpa only [not_or, Nat.not_lt, Bool.not_eq_false] using shape
      split at read
      · cases read
      · rename_i noZero
        dsimp only at read
        split at read
        · rename_i below
          cases Option.some.inj read
          refine ⟨nonempty, List.all_eq_true.mp digits, ?_, ?_⟩
          · intro zero
            have positive := List.length_pos_iff.mpr nonempty
            have atMostOne : ¬ 1 < cs.length := fun more => noZero ⟨zero, more⟩
            omega
          · exact (UInt8.toNat_ofNat_of_lt' below).symm
        · cases read
  · intro text
    have length : ¬ 3 < cs.length := by
      rw [text.eq_octetText]
      exact Nat.not_lt.mpr (octetText_length n)
    have shape : ¬ (cs = [] ∨ 3 < cs.length ∨ cs.all Char.isDigit = false) := by
      rintro (empty | long | other)
      · exact text.nonempty empty
      · exact length long
      · rw [List.all_eq_true.mpr text.digits] at other
        cases other
    have noZero : ¬ (cs.head? = some '0' ∧ 1 < cs.length) := by
      intro both
      obtain ⟨zero, more⟩ := both
      have one := text.noLeadingZero zero
      omega
    rw [if_neg shape, if_neg noZero, text.value, if_pos n.toNat_lt, UInt8.ofNat_toNat]

theorem IsOctetText.no_point {cs : List Char} {n : UInt8} (text : IsOctetText cs n) :
    '.' ∉ cs :=
  fun member => absurd (text.digits '.' member) (by decide)

/-- Reading accepts the texts of addresses, and nothing else. -/
theorem ofChars?_eq_some_iff {cs : List Char} {ip : Ipv4} :
    Ipv4.ofChars? cs = some ip ↔ IsAddressText cs ip := by
  unfold Ipv4.ofChars?
  constructor
  · intro read
    split at read
    · rename_i a b c d parts
      have joined : cs = a ++ '.' :: (b ++ '.' :: (c ++ '.' :: d)) := by
        have whole : ['.'].intercalate (cs.splitOn '.') = cs := List.intercalate_splitOn '.'
        rw [← whole, parts]
        simp
      obtain ⟨na, readA, read⟩ := Option.bind_eq_some_iff.mp read
      obtain ⟨nb, readB, read⟩ := Option.bind_eq_some_iff.mp read
      obtain ⟨nc, readC, read⟩ := Option.bind_eq_some_iff.mp read
      obtain ⟨nd, readD, read⟩ := Option.bind_eq_some_iff.mp read
      cases Option.some.inj read
      exact ⟨a, b, c, d, joined, octet?_eq_some_iff.mp readA, octet?_eq_some_iff.mp readB,
        octet?_eq_some_iff.mp readC, octet?_eq_some_iff.mp readD⟩
    · cases read
  · intro text
    obtain ⟨a, b, c, d, rfl, textA, textB, textC, textD⟩ := text
    rw [List.splitOn_append_cons_self_of_not_mem textA.no_point,
      List.splitOn_append_cons_self_of_not_mem textB.no_point,
      List.splitOn_append_cons_self_of_not_mem textC.no_point,
      List.splitOn_eq_singleton textD.no_point]
    simp only [octet?_eq_some_iff.mpr textA, octet?_eq_some_iff.mpr textB,
      octet?_eq_some_iff.mpr textC, octet?_eq_some_iff.mpr textD]
    rfl

theorem ofChars?_eq_none {cs : List Char} (noText : ∀ ip, ¬ IsAddressText cs ip) :
    Ipv4.ofChars? cs = none :=
  Option.eq_none_iff_forall_ne_some.mpr fun ip read => noText ip (ofChars?_eq_some_iff.mp read)

/-- An address has only one text. -/
theorem isAddressText_iff {cs : List Char} {ip : Ipv4} : IsAddressText cs ip ↔ cs = ip.chars := by
  constructor
  · intro text
    obtain ⟨a, b, c, d, rfl, textA, textB, textC, textD⟩ := text
    rw [textA.eq_octetText, textB.eq_octetText, textC.eq_octetText, textD.eq_octetText]
    rfl
  · rintro rfl
    exact ⟨_, _, _, _, rfl, isOctetText_octetText _, isOctetText_octetText _,
      isOctetText_octetText _, isOctetText_octetText _⟩

end DutFixtures
