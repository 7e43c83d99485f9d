import JobDashboard.Json.Reader
import JobDashboard.Json.Wire
import JobDashboard.Proofs.Binary64.Shortest
import JobDashboard.Proofs.Text.Utf8

/-!
# Numbers as they are written and read

A number is written as digits before and after a point and an exponent, of which the latter two may
be missing. It is scanned as the literal that these digits spell, whatever follows it, as long as
the number cannot go on there. The literal of a written double is read as the double.
-/
namespace JobDashboard.Json

open Utf8 (encodeChars)

/-! ## Digits -/

/-- Nothing but decimal digits. -/
def IsDigits (cs : List Char) : Prop := ∀ c ∈ cs, c.isDigit = true

theorem isDigits_toDigits (n : Nat) : IsDigits (Nat.toDigits 10 n) := fun _ hc =>
  Nat.isDigit_of_mem_toDigits (by decide) (by decide) hc

theorem isDigits_replicate (n : Nat) : IsDigits (List.replicate n '0') := fun c hc => by
  rw [List.eq_of_mem_replicate hc]
  rfl

theorem IsDigits.append {cs ds : List Char} (h : IsDigits cs) (h' : IsDigits ds) :
    IsDigits (cs ++ ds) := fun c hc => (List.mem_append.mp hc).elim (h c) (h' c)

theorem toNat_of_isDigit {c : Char} (h : c.isDigit = true) : 48 ≤ c.toNat ∧ c.toNat ≤ 57 := by
  rw [Char.isDigit, Bool.and_eq_true, decide_eq_true_iff, decide_eq_true_iff] at h
  exact ⟨UInt32.le_iff_toNat_le.mp h.1, UInt32.le_iff_toNat_le.mp h.2⟩

theorem isDigit_byte {c : Char} (h : c.isDigit = true) :
    isDigit (UInt8.ofNat c.toNat) = true ∧ digitValue (UInt8.ofNat c.toNat) = c.toNat - 48 := by
  obtain ⟨hlow, hhigh⟩ := toNat_of_isDigit h
  have hbyte : (UInt8.ofNat c.toNat).toNat = c.toNat := Utf8.toNat_byte (by omega)
  rw [isDigit, digitValue, Bool.and_eq_true, decide_eq_true_iff, decide_eq_true_iff,
    UInt8.le_iff_toNat_le, UInt8.le_iff_toNat_le, hbyte]
  exact ⟨⟨hlow, hhigh⟩, rfl⟩

section

variable {cs : List Char}

theorem encodeChars_digits (h : IsDigits cs) :
    encodeChars cs = cs.map fun c => UInt8.ofNat c.toNat :=
  Utf8.encodeChars_of_ascii fun c hc => by
    have hhigh := (toNat_of_isDigit (h c hc)).2
    omega

theorem length_encodeChars (h : IsDigits cs) : (encodeChars cs).length = cs.length := by
  rw [encodeChars_digits h, List.length_map]

theorem isDigit_of_mem_encodeChars (h : IsDigits cs) :
    ∀ b ∈ encodeChars cs, isDigit b = true := by
  rw [encodeChars_digits h, List.forall_mem_map]
  exact fun c hc => (isDigit_byte (h c hc)).1

theorem digitsValue_encodeChars (h : IsDigits cs) :
    digitsValue (encodeChars cs) = Nat.ofDigitChars 10 cs 0 := by
  rw [encodeChars_digits h, digitsValue, Nat.ofDigitChars_eq_foldl, List.foldl_map]
  generalize 0 = init
  induction cs generalizing init with
  | nil => rfl
  | cons c cs ih =>
    obtain ⟨hc, hcs⟩ := List.forall_mem_cons.mp h
    rw [List.foldl_cons, List.foldl_cons, (isDigit_byte hc).2]
    exact ih hcs _

end

theorem head?_toDigits {n : Nat} (h : n ≠ 0) : (Nat.toDigits 10 n).head? ≠ some '0' := by
  induction n using Nat.strongRecOn with
  | _ n ih =>
    by_cases hsmall : n < 10
    · rw [Nat.toDigits_of_lt_base hsmall, List.head?_cons, ne_eq, Option.some.injEq,
        Nat.digitChar_eq_zero]
      exact h
    · have hfront := ih (n / 10) (by omega) (by omega)
      rw [Nat.toDigits_of_base_le (by decide) (Nat.not_lt.mp hsmall)]
      cases hdigits : Nat.toDigits 10 (n / 10) with
      | nil => exact absurd hdigits Nat.toDigits_ne_nil
      | cons c cs => rwa [hdigits] at hfront

/-! ## The form of a number -/

/-- A number as it is spelled, without its sign. -/
structure Numeral where
  whole : List Char
  fraction : List Char := []
  exponent : Option Int := none

namespace Numeral

def exponentChars : Option Int → List Char
  | none => []
  | some e => 'e' :: (if e < 0 then '-' else '+') :: Nat.toDigits 10 e.natAbs

def fractionChars (fraction : List Char) : List Char :=
  if fraction.isEmpty then [] else '.' :: fraction

def chars (m : Numeral) : List Char :=
  m.whole ++ (fractionChars m.fraction ++ exponentChars m.exponent)

/-- The literal that a numeral is. -/
def literal (m : Numeral) (negative : Bool) : NumberLiteral :=
  ⟨negative, Nat.ofDigitChars 10 (m.whole ++ m.fraction) 0, m.fraction.length, m.exponent⟩

/-- There is a digit before the point, and a zero in front stands there alone. -/
structure IsValid (m : Numeral) : Prop where
  ne_nil : m.whole ≠ []
  leading : m.whole.head? = some '0' → m.whole.length = 1
  whole : IsDigits m.whole
  fraction : IsDigits m.fraction

end Numeral

/-- Bytes with which no number goes on. -/
def EndsNumber (rest : Bytes) : Prop :=
  ∀ b ∈ rest.head?, isDigit b = false ∧ b ≠ 0x2E ∧ b ≠ 0x65 ∧ b ≠ 0x45

/-! ## Scanning -/

theorem scanDigits_append {ds rest : Bytes} (hds : ∀ b ∈ ds, isDigit b = true)
    (hrest : ∀ b ∈ rest.head?, isDigit b = false) : scanDigits (ds ++ rest) = (ds, rest) := by
  have hstop : rest.takeWhile isDigit = [] ∧ rest.dropWhile isDigit = rest := by
    cases rest with
    | nil => exact ⟨rfl, rfl⟩
    | cons b rest =>
      have hb := hrest b rfl
      exact ⟨List.takeWhile_cons_of_neg (by simp [hb]), List.dropWhile_cons_of_neg (by simp [hb])⟩
  rw [scanDigits, List.takeWhile_append_of_pos hds, List.dropWhile_append_of_pos hds, hstop.1,
    hstop.2, List.append_nil]

theorem scanFraction_numeral {fraction : List Char} {rest : Bytes} (h : IsDigits fraction)
    (hrest : ∀ b ∈ rest.head?, isDigit b = false ∧ b ≠ 0x2E) :
    scanFraction (encodeChars (Numeral.fractionChars fraction) ++ rest) =
      some (encodeChars fraction, rest) := by
  cases fraction with
  | nil =>
    show scanFraction rest = some ([], rest)
    unfold scanFraction
    split
    · exact absurd rfl (hrest _ rfl).2
    · rfl
  | cons c cs =>
    have hsplit : encodeChars (Numeral.fractionChars (c :: cs)) ++ rest =
        0x2E :: (encodeChars (c :: cs) ++ rest) := rfl
    have hne : (encodeChars (c :: cs)).isEmpty = false := by
      rw [encodeChars_digits h]
      rfl
    rw [hsplit, scanFraction, scanDigits_append (isDigit_of_mem_encodeChars h)
      fun b hb => (hrest b hb).1]
    simp only [hne, Bool.false_eq_true, if_false]

theorem scanExponentDigits_toDigits (negative : Bool) (n : Nat) {rest : Bytes}
    (hrest : EndsNumber rest) :
    scanExponentDigits negative (encodeChars (Nat.toDigits 10 n) ++ rest) =
      some (some (if negative then -(n : Int) else n), rest) := by
  have hdigits := isDigits_toDigits n
  have hne : (encodeChars (Nat.toDigits 10 n)).isEmpty = false := by
    rw [encodeChars_digits hdigits, List.isEmpty_map, List.isEmpty_eq_false_iff]
    exact Nat.toDigits_ne_nil
  rw [scanExponentDigits, scanDigits_append (isDigit_of_mem_encodeChars hdigits)
    fun b hb => (hrest b hb).1]
  simp only [hne, Bool.false_eq_true, if_false, digitsValue_encodeChars hdigits,
    Nat.ofDigitChars_ten_toDigits]

theorem scanExponent_numeral (e : Option Int) {rest : Bytes} (hrest : EndsNumber rest) :
    scanExponent (encodeChars (Numeral.exponentChars e) ++ rest) = some (e, rest) := by
  cases e with
  | none =>
    show scanExponent rest = some (none, rest)
    cases rest with
    | nil => rfl
    | cons b rest =>
      obtain ⟨-, -, hlower, hupper⟩ := hrest b rfl
      simp [scanExponent, hlower, hupper]
  | some e =>
    by_cases he : e < 0
    · have hsplit : encodeChars (Numeral.exponentChars (some e)) ++ rest =
          0x65 :: 0x2D :: (encodeChars (Nat.toDigits 10 e.natAbs) ++ rest) := by
        rw [Numeral.exponentChars, if_pos he]
        rfl
      have hvalue : -(e.natAbs : Int) = e := by omega
      rw [hsplit]
      show scanExponentDigits true _ = _
      rw [scanExponentDigits_toDigits _ _ hrest, if_pos rfl, hvalue]
    · have hsplit : encodeChars (Numeral.exponentChars (some e)) ++ rest =
          0x65 :: 0x2B :: (encodeChars (Nat.toDigits 10 e.natAbs) ++ rest) := by
        rw [Numeral.exponentChars, if_neg he]
        rfl
      have hvalue : (e.natAbs : Int) = e := by omega
      rw [hsplit]
      show scanExponentDigits false _ = _
      rw [scanExponentDigits_toDigits _ _ hrest, if_neg Bool.false_ne_true, hvalue]

/-- The digits before the point are as a number needs them. -/
theorem Numeral.IsValid.whole_bytes {m : Numeral} (h : m.IsValid) :
    ((encodeChars m.whole).isEmpty || ((encodeChars m.whole).head? == some 0x30 &&
      (encodeChars m.whole).length ≠ 1)) = false := by
  have hleading := h.leading
  rw [encodeChars_digits h.whole, List.length_map]
  cases hwhole : m.whole with
  | nil => exact absurd hwhole h.ne_nil
  | cons c cs =>
    have hc : c.isDigit = true := h.whole c (hwhole ▸ List.mem_cons_self)
    rw [hwhole] at hleading
    by_cases hzero : c = '0'
    · simp [hleading (congrArg some hzero)]
    · have hbyte : UInt8.ofNat c.toNat ≠ 0x30 := fun heq => hzero <| by
        have hval := congrArg UInt8.toNat heq
        rw [Utf8.toNat_byte (Nat.lt_of_le_of_lt (toNat_of_isDigit hc).2 (by decide))] at hval
        exact Char.toNat_inj.mp hval
      simp [hbyte]

/-- A numeral is scanned as its literal. -/
theorem scanMagnitude_numeral {m : Numeral} (h : m.IsValid) (negative : Bool) {rest : Bytes}
    (hrest : EndsNumber rest) :
    scanMagnitude negative (encodeChars m.chars ++ rest) = some (m.literal negative, rest) := by
  have hexponent : ∀ b ∈ (encodeChars (Numeral.exponentChars m.exponent) ++ rest).head?,
      isDigit b = false ∧ b ≠ 0x2E := by
    cases m.exponent with
    | none => exact fun b hb => ⟨(hrest b hb).1, (hrest b hb).2.1⟩
    | some e =>
      rintro b ⟨⟩
      decide
  have hfraction : ∀ b ∈ (encodeChars (Numeral.fractionChars m.fraction) ++
      (encodeChars (Numeral.exponentChars m.exponent) ++ rest)).head?, isDigit b = false := by
    cases m.fraction with
    | nil => exact fun b hb => (hexponent b hb).1
    | cons c cs =>
      rintro b ⟨⟩
      decide
  have hsplit : encodeChars m.chars ++ rest = encodeChars m.whole ++
      (encodeChars (Numeral.fractionChars m.fraction) ++
        (encodeChars (Numeral.exponentChars m.exponent) ++ rest)) := by
    simp only [Numeral.chars, encodeChars, List.flatMap_append, List.append_assoc]
  have hvalue : digitsValue (encodeChars m.whole ++ encodeChars m.fraction) =
      Nat.ofDigitChars 10 (m.whole ++ m.fraction) 0 := by
    rw [← digitsValue_encodeChars (h.whole.append h.fraction), encodeChars, encodeChars,
      ← List.flatMap_append]
    rfl
  rw [hsplit, scanMagnitude, scanDigits_append (isDigit_of_mem_encodeChars h.whole) hfraction]
  simp only [h.whole_bytes, Bool.false_eq_true, if_false, scanFraction_numeral h.fraction hexponent,
    scanExponent_numeral m.exponent hrest, Option.bind_eq_bind, Option.bind_some, hvalue,
    length_encodeChars h.fraction]
  rfl

/-! ## What is written -/

namespace Numeral

/-- A natural is its digits. -/
def ofNat (n : Nat) : Numeral := ⟨Nat.toDigits 10 n, [], none⟩

/-- The numeral of a decimal, with the point among the digits or an exponent. -/
def ofDecimal (d : Decimal) : Numeral :=
  let digits := Nat.toDigits 10 d.digits
  let point := d.exponent + digits.length
  if d.digits = 0 then ⟨['0'], ['0'], none⟩
  else if 0 ≤ d.exponent ∧ point ≤ 16 then
    ⟨digits ++ List.replicate d.exponent.toNat '0', ['0'], none⟩
  else if 0 < point ∧ point ≤ 16 then ⟨digits.take point.toNat, digits.drop point.toNat, none⟩
  else if -5 < point ∧ point ≤ 0 then ⟨['0'], List.replicate (-point).toNat '0' ++ digits, none⟩
  else ⟨digits.take 1, digits.drop 1, some (point - 1)⟩

theorem isValid_ofNat (n : Nat) : (ofNat n).IsValid where
  ne_nil := Nat.toDigits_ne_nil
  leading h := by
    obtain rfl | hn := Nat.eq_zero_or_pos n
    · rfl
    · exact absurd h (head?_toDigits (Nat.ne_of_gt hn))
  whole := isDigits_toDigits n
  fraction := nofun

theorem chars_ofDecimal (d : Decimal) : (ofDecimal d).chars = Wire.decimalChars d := by
  have hpos : 0 < (Nat.toDigits 10 d.digits).length := Nat.length_toDigits_pos
  unfold ofDecimal Wire.decimalChars
  dsimp only
  split
  · rfl
  split
  · simp [chars, fractionChars, exponentChars]
  split
  · next hexponent hpoint =>
    have hdrop : ((Nat.toDigits 10 d.digits).drop
        (d.exponent + (Nat.toDigits 10 d.digits).length).toNat).isEmpty = false := by
      rw [List.isEmpty_eq_false_iff, ne_eq, List.drop_eq_nil_iff]
      omega
    simp [chars, fractionChars, exponentChars, hdrop]
  split
  · simp [chars, fractionChars, exponentChars, Nat.toDigits_ne_nil]
  · simp [chars, fractionChars, exponentChars]

/-- A numeral that begins like a number above zero has no zero in front. -/
theorem isValid_of_head? {n : Nat} (hn : n ≠ 0) {m : Numeral}
    (hhead : m.whole.head? = (Nat.toDigits 10 n).head?) (hwhole : IsDigits m.whole)
    (hfraction : IsDigits m.fraction) : m.IsValid where
  ne_nil h := by
    rw [h, List.head?_nil, eq_comm, List.head?_eq_none_iff] at hhead
    exact Nat.toDigits_ne_nil hhead
  leading h := absurd (hhead ▸ h) (head?_toDigits hn)
  whole := hwhole
  fraction := hfraction

theorem isValid_ofDecimal (d : Decimal) : (ofDecimal d).IsValid := by
  have hdigits := isDigits_toDigits d.digits
  have hpos : 0 < (Nat.toDigits 10 d.digits).length := Nat.length_toDigits_pos
  have hzero : IsDigits ['0'] := isDigits_replicate 1
  have htake : ∀ k, IsDigits ((Nat.toDigits 10 d.digits).take k) := fun k c hc =>
    hdigits c (List.mem_of_mem_take hc)
  have hdrop : ∀ k, IsDigits ((Nat.toDigits 10 d.digits).drop k) := fun k c hc =>
    hdigits c (List.mem_of_mem_drop hc)
  unfold ofDecimal
  dsimp only
  split
  · exact ⟨nofun, fun _ => rfl, hzero, hzero⟩
  next hd =>
  split
  · refine isValid_of_head? hd ?_ (hdigits.append (isDigits_replicate _)) hzero
    cases hlist : Nat.toDigits 10 d.digits with
    | nil => exact absurd hlist Nat.toDigits_ne_nil
    | cons c cs => rfl
  split
  · refine isValid_of_head? hd ?_ (htake _) (hdrop _)
    rw [List.head?_take, if_neg (by omega)]
  split
  · exact ⟨nofun, fun _ => rfl, hzero, (isDigits_replicate _).append hdigits⟩
  · refine isValid_of_head? hd ?_ (htake _) (hdrop _)
    rw [List.head?_take, if_neg (by decide)]

/-- The literal of a decimal has its value. -/
theorem toBinary64_ofDecimal (d : Decimal) (negative : Bool) :
    ((ofDecimal d).literal negative).toBinary64 =
      Binary64.ofDecimal negative d.digits d.exponent := by
  have hvalue := Nat.ofDigitChars_ten_toDigits (n := d.digits)
  have hpos : 0 < (Nat.toDigits 10 d.digits).length := Nat.length_toDigits_pos
  unfold ofDecimal
  dsimp only
  split
  · next hd =>
    rw [hd, Binary64.ofDecimal_zero]
    exact Binary64.ofDecimal_zero negative _
  split
  · have hmoved := Binary64.ofDecimal_mul_pow negative d.digits (-1) (d.exponent.toNat + 1)
    have hexponent : -1 + ((d.exponent.toNat + 1 : Nat) : Int) = d.exponent := by omega
    rw [hexponent] at hmoved
    rw [← hmoved, NumberLiteral.toBinary64, literal, List.append_assoc, ← List.replicate_succ',
      Nat.ofDigitChars_append, hvalue, Nat.ofDigitChars_replicate_zero, Nat.mul_comm]
    rfl
  split
  · rw [NumberLiteral.toBinary64, literal, List.take_append_drop, hvalue]
    refine congrArg _ ?_
    simp only [Option.getD_none, List.length_drop]
    omega
  split
  · next hpoint =>
    have hzeros : ['0'] ++ (List.replicate (-(d.exponent +
        (Nat.toDigits 10 d.digits).length)).toNat '0' ++ Nat.toDigits 10 d.digits) =
        List.replicate ((-(d.exponent + (Nat.toDigits 10 d.digits).length)).toNat + 1) '0' ++
          Nat.toDigits 10 d.digits := rfl
    rw [NumberLiteral.toBinary64, literal, hzeros, Nat.ofDigitChars_append,
      Nat.ofDigitChars_replicate_zero, Nat.mul_zero, hvalue]
    refine congrArg _ ?_
    simp only [Option.getD_none, List.length_append, List.length_replicate]
    omega
  · rw [NumberLiteral.toBinary64, literal, List.take_append_drop, hvalue]
    refine congrArg _ ?_
    simp only [Option.getD_some, List.length_drop]
    omega

theorem literal_ofNat (n : Nat) (negative : Bool) :
    (ofNat n).literal negative = ⟨negative, n, 0, none⟩ := by
  rw [literal, ofNat, List.append_nil, Nat.ofDigitChars_ten_toDigits]
  rfl

/-- An integer is taken for the number nearest to it. -/
theorem toBinary64_ofNat {n : Int} (hn : n.natAbs < 2 ^ 64) :
    ((ofNat n.natAbs).literal (n < 0)).toBinary64 = Binary64.ofInt n := by
  rw [literal_ofNat, NumberLiteral.toBinary64, Binary64.ofInt]
  obtain rfl | hne := Decidable.em (n = 0)
  · decide
  · have hplaces : Decimal.places n.natAbs ≤ 20 :=
      (Nat.length_toDigits_le_iff (by decide) (by decide)).mpr (Nat.lt_trans hn (by decide))
    have hone : Decimal.tens 0 = 1 ∧ Decimal.tenths 0 = 1 := ⟨rfl, rfl⟩
    show Binary64.ofDecimal _ n.natAbs 0 = _
    rw [Binary64.ofDecimal_eq_ofUnitRatio (by omega) (by omega) (by omega), hone.1, hone.2,
      Nat.mul_one]

/-- The literal of an integer that fits into 64 bits is the integer. -/
theorem toInt?_ofNat {n : Int} (hlow : Int64.minValue.toInt ≤ n) (hhigh : n < UInt64.size) :
    ((ofNat n.natAbs).literal (n < 0)).toInt? = some n := by
  have hmin : Int64.minValue.toInt = -9223372036854775808 := rfl
  rw [literal_ofNat, NumberLiteral.toInt?]
  by_cases hneg : n < 0
  · have hshift : 1 <<< 63 = 9223372036854775808 := rfl
    have hdigits : (decide (n.natAbs = 0) || decide (1 <<< 63 < n.natAbs)) = false := by
      rw [Bool.or_eq_false_iff, decide_eq_false_iff_not, decide_eq_false_iff_not]
      omega
    have hvalue : -(n.natAbs : Int) = n := by omega
    simp only [NumberLiteral.isIntegral, hneg, hdigits, hvalue, decide_true, beq_self_eq_true,
      Option.isNone_none, Bool.and_self, Bool.not_true, Bool.false_eq_true, if_false, if_true]
  · have hdigits : n.natAbs < UInt64.size := by omega
    have hvalue : (n.natAbs : Int) = n := by omega
    simp only [NumberLiteral.isIntegral, hneg, hvalue, decide_false, beq_self_eq_true,
      Option.isNone_none, Bool.and_self, Bool.not_true, Bool.false_eq_true, if_false, if_pos hdigits]

end Numeral

end JobDashboard.Json
