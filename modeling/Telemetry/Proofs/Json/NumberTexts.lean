import Telemetry.Json.Writer
import Telemetry.Proofs.Decimal.ReadBack

/-!
# The texts of JSON numbers

Every number that is written, but those that are not finite, has a text of the grammar: digits that
do not start with a zero unless it stands alone, then digits behind a point and an exponent where
there are any. Such a text is read up to its end, whatever stands behind it that does not go on
with a number.
-/

namespace Telemetry.Json

open Text

/-- One or more digits. -/
def IsDigits (ds : List Char) : Prop := ds ≠ [] ∧ ∀ c ∈ ds, isDigit c = true

/-- What does not go on with a number. -/
def EndsNumber (rest : List Char) : Prop :=
  ∀ c ∈ rest.head?, isDigit c = false ∧ c ≠ '.' ∧ c ≠ 'e' ∧ c ≠ 'E'

/-- A number is written in digits. -/
theorem isDigits_digits (n : Nat) : IsDigits (digits n) :=
  ⟨digits_ne_nil n, fun _ => isDigit_of_mem_digits⟩

/-- Zeros are digits. -/
theorem isDigit_of_mem_zeros {n : Nat} {c : Char} (hc : c ∈ List.replicate n '0') :
    isDigit c = true := by
  rw [List.eq_of_mem_replicate hc]
  rfl

/-- One zero or more are a row of digits. -/
theorem isDigits_zeros {n : Nat} (hn : n ≠ 0) : IsDigits (List.replicate n '0') :=
  ⟨by simpa using hn, fun _ => isDigit_of_mem_zeros⟩

/-- Zeros may stand behind digits. -/
theorem IsDigits.append_zeros {ds : List Char} (hds : IsDigits ds) (n : Nat) :
    IsDigits (ds ++ List.replicate n '0') :=
  ⟨List.append_ne_nil_of_left_ne_nil hds.1 _,
    fun c hc => (List.mem_append.mp hc).elim (hds.2 c) isDigit_of_mem_zeros⟩

/-- Zeros may stand in front of digits. -/
theorem IsDigits.zeros_append {ds : List Char} (hds : IsDigits ds) (n : Nat) :
    IsDigits (List.replicate n '0' ++ ds) :=
  ⟨List.append_ne_nil_of_right_ne_nil _ hds.1,
    fun c hc => (List.mem_append.mp hc).elim isDigit_of_mem_zeros (hds.2 c)⟩

/-- A row of digits begins with a row of digits. -/
theorem IsDigits.take {ds : List Char} {n : Nat} (hds : IsDigits ds) (hn : n ≠ 0) :
    IsDigits (ds.take n) :=
  ⟨by simp [List.take_eq_nil_iff, hn, hds.1], fun c hc => hds.2 c (List.mem_of_mem_take hc)⟩

/-- A row of digits ends with a row of digits. -/
theorem IsDigits.drop {ds : List Char} {n : Nat} (hds : IsDigits ds) (hn : n < ds.length) :
    IsDigits (ds.drop n) :=
  ⟨by simpa [List.drop_eq_nil_iff] using hn, fun c hc => hds.2 c (List.mem_of_mem_drop hc)⟩

/-- Digits are taken up to what is no digit. -/
theorem digits?_append {ds rest : List Char} (hds : IsDigits ds)
    (hrest : ∀ c ∈ rest.head?, isDigit c = false) : digits? (ds ++ rest) = some (ds, rest) := by
  have htake : rest.takeWhile isDigit = [] := by
    cases rest with
    | nil => rfl
    | cons c rest => simp [hrest c rfl]
  have hdrop : rest.dropWhile isDigit = rest := by
    cases rest with
    | nil => rfl
    | cons c rest => simp [hrest c rfl]
  have hne : ds.isEmpty = false := by simpa using hds.1
  rw [digits?, List.takeWhile_append_of_pos hds.2, List.dropWhile_append_of_pos hds.2, htake, hdrop,
    List.append_nil]
  simp [hne]

/-- The digits before the point are taken if no zero leads them. -/
theorem whole?_append {ds rest : List Char} (hds : IsDigits ds)
    (hzero : ds.head? = some '0' → ds.length = 1) (hrest : ∀ c ∈ rest.head?, isDigit c = false) :
    whole? (ds ++ rest) = some (ds, rest) := by
  rw [whole?, digits?_append hds hrest]
  by_cases hhead : ds.head? = some '0'
  · simp [hzero hhead]
  · simp [hhead]

/-! ## The parts of a number -/

/-- The minus sign in front, if there is one. -/
def minus : List Char → Bool × List Char
  | '-' :: rest => (true, rest)
  | cs => (false, cs)

/-- The digits behind the point, if there is a point. -/
def places? : List Char → Option (Option (List Char) × List Char)
  | '.' :: rest => (digits? rest).map fun (ds, rest) => (some ds, rest)
  | cs => some (none, cs)

/-- The sign of an exponent, if there is one. -/
def exponentSign : List Char → Bool × List Char
  | '-' :: rest => (true, rest)
  | '+' :: rest => (false, rest)
  | cs => (false, cs)

/-- The exponent, if there is one. -/
def exponent? : List Char → Option (Option (Bool × List Char) × List Char)
  | 'e' :: rest | 'E' :: rest =>
    (digits? (exponentSign rest).2).map fun (ds, rest') =>
      (some ((exponentSign rest).1, ds), rest')
  | cs => some (none, cs)

/-- A number is read part by part. -/
theorem readNumber?_eq (cs : List Char) : readNumber? cs =
    (whole? (minus cs).2).bind fun whole =>
      (places? whole.2).bind fun places =>
        (exponent? places.2).bind fun exponent =>
          some (⟨(minus cs).1, whole.1, places.1, exponent.1⟩, exponent.2) := by
  have hplaces : ∀ (f : Option (List Char) × List Char → Option (NumberText × List Char)) cs,
      (match cs with
      | '.' :: rest => ((digits? rest).map fun (ds, rest) => (some ds, rest)).bind f
      | cs => (some (none, cs)).bind f) = (places? cs).bind f := by
    intro f cs
    unfold places?
    split <;> rfl
  have hexponent : ∀ (f : Option (Bool × List Char) × List Char →
      Option (NumberText × List Char)) cs,
      (match cs with
      | 'e' :: rest | 'E' :: rest =>
        ((digits? (exponentSign rest).2).map fun (ds, rest') =>
          (some ((exponentSign rest).1, ds), rest')).bind f
      | cs => (some (none, cs)).bind f) = (exponent? cs).bind f := by
    intro f cs
    unfold exponent?
    split <;> rfl
  refine Option.bind_congr fun _ _ => ?_
  exact (hplaces _ _).trans (Option.bind_congr fun _ _ => hexponent _ _)

namespace NumberText

/-- The digits behind the point, with the point. -/
def placesChars : Option (List Char) → List Char
  | none => []
  | some ds => '.' :: ds

/-- The exponent, always with a sign. -/
def exponentChars : Option (Bool × List Char) → List Char
  | none => []
  | some (negative, ds) => 'e' :: (if negative then '-' else '+') :: ds

/-- The number as it is written, with a sign in every exponent. -/
def chars (t : NumberText) : List Char :=
  (if t.negative then ['-'] else []) ++
    (t.whole ++ (placesChars t.places ++ exponentChars t.exponent))

/-- The parts are as the grammar has them. -/
structure IsProper (t : NumberText) : Prop where
  whole : IsDigits t.whole
  /-- A leading zero stands alone. -/
  zero : t.whole.head? = some '0' → t.whole.length = 1
  places : ∀ ds ∈ t.places, IsDigits ds
  exponent : ∀ e ∈ t.exponent, IsDigits e.2

variable {places : Option (List Char)} {exponent : Option (Bool × List Char)} {rest : List Char}

/-- The minus sign in front of digits is read as one, and is not read where there is none. -/
theorem minus_append {ds : List Char} (hds : IsDigits ds) (negative : Bool) :
    minus ((if negative then ['-'] else []) ++ (ds ++ rest)) = (negative, ds ++ rest) := by
  cases negative with
  | true => rfl
  | false =>
    obtain ⟨c, ds, rfl⟩ := List.exists_cons_of_ne_nil hds.1
    have hc : c ≠ '-' := by
      rintro rfl
      exact absurd (hds.2 _ List.mem_cons_self) (by decide)
    simp [minus, hc]

/-- The places of a number are read up to what is no digit. -/
theorem places?_append (h : ∀ ds ∈ places, IsDigits ds)
    (hrest : ∀ c ∈ rest.head?, isDigit c = false ∧ c ≠ '.') :
    places? (placesChars places ++ rest) = some (places, rest) := by
  cases places with
  | none =>
    rw [placesChars, List.nil_append, places?]
    exact fun cs heq => (hrest '.' (heq ▸ rfl)).2 rfl
  | some ds => simp [placesChars, places?, digits?_append (h ds rfl) fun c hc => (hrest c hc).1]

/-- The exponent of a number is read up to what ends the number. -/
theorem exponent?_append (h : ∀ e ∈ exponent, IsDigits e.2) (hrest : EndsNumber rest) :
    exponent? (exponentChars exponent ++ rest) = some (exponent, rest) := by
  cases exponent with
  | none =>
    rw [exponentChars, List.nil_append, exponent?]
    · exact fun cs heq => (hrest 'e' (heq ▸ rfl)).2.2.1 rfl
    · exact fun cs heq => (hrest 'E' (heq ▸ rfl)).2.2.2 rfl
  | some e =>
    obtain ⟨negative, ds⟩ := e
    have hds := digits?_append (h (negative, ds) rfl) fun c hc => (hrest c hc).1
    cases negative with
    | true => simp [exponentChars, exponent?, exponentSign, hds]
    | false => simp [exponentChars, exponent?, exponentSign, hds]

/-- A number starts with a digit or a minus sign. -/
theorem IsProper.exists_chars_eq_cons {t : NumberText} (ht : t.IsProper) :
    ∃ c cs, t.chars = c :: cs ∧ (isDigit c = true ∨ c = '-') := by
  obtain ⟨c, ws, hwhole⟩ := List.exists_cons_of_ne_nil ht.whole.1
  unfold chars
  cases t.negative with
  | true => exact ⟨_, _, rfl, .inr rfl⟩
  | false => exact ⟨c, _, by rw [hwhole]; rfl, .inl (ht.whole.2 c (hwhole ▸ List.mem_cons_self))⟩

/-- Behind the whole digits there is the point, or what follows the number. -/
theorem head?_placesChars {c : Char} (hc : c ∈ (placesChars places ++ rest).head?) :
    c = '.' ∨ c ∈ rest.head? := by
  cases places with
  | none => exact .inr hc
  | some ds => exact .inl (Option.some.inj hc).symm

/-- Behind the places there is the mark of an exponent, or what follows the number. -/
theorem head?_exponentChars {c : Char} (hc : c ∈ (exponentChars exponent ++ rest).head?) :
    c = 'e' ∨ c ∈ rest.head? := by
  cases exponent with
  | none => exact .inr hc
  | some e => exact .inl (Option.some.inj hc).symm

/-- A number of the grammar is read up to its end. -/
theorem readNumber?_chars {t : NumberText} (ht : t.IsProper) (hrest : EndsNumber rest) :
    readNumber? (t.chars ++ rest) = some (t, rest) := by
  have hexponent : ∀ c ∈ (exponentChars t.exponent ++ rest).head?,
      isDigit c = false ∧ c ≠ '.' := by
    intro c hc
    obtain rfl | hc := head?_exponentChars hc
    · decide
    · exact ⟨(hrest c hc).1, (hrest c hc).2.1⟩
  have hplaces : ∀ c ∈ (placesChars t.places ++ (exponentChars t.exponent ++ rest)).head?,
      isDigit c = false := by
    intro c hc
    obtain rfl | hc := head?_placesChars hc
    · decide
    · exact (hexponent c hc).1
  rw [readNumber?_eq, chars, List.append_assoc, List.append_assoc, List.append_assoc,
    minus_append ht.whole, whole?_append ht.whole ht.zero hplaces, Option.bind_some,
    places?_append ht.places hexponent, Option.bind_some, exponent?_append ht.exponent hrest,
    Option.bind_some]

end NumberText

/-! ## The numbers that are written -/

/-- A point between digits makes a text of the grammar, unless the digits start with a zero too
many. -/
theorem exists_pointText {whole places : List Char} (hwhole : IsDigits whole)
    (hzero : whole.head? = some '0' → whole.length = 1) (hplaces : IsDigits places) :
    ∃ t : NumberText, t.IsProper ∧ t.negative = false ∧ t.chars = whole ++ '.' :: places := by
  refine ⟨⟨false, whole, some places, none⟩, ⟨hwhole, hzero, ?_, nofun⟩, rfl, ?_⟩
  · rintro ds ⟨⟩
    exact hplaces
  · simp [NumberText.chars, NumberText.placesChars, NumberText.exponentChars]

/-- A decimal without an exponent has a text of the grammar. -/
theorem exists_positionalText {d : Decimal} (hd : d.digits = 0 → d.exponent = 0) :
    ∃ t : NumberText, t.IsProper ∧ t.negative = false ∧
      t.chars = Decimal.Layout.positionalText true d := by
  have hdigits : IsDigits (digits d.digits) := isDigits_digits d.digits
  have hone : IsDigits ['0'] := isDigits_zeros (n := 1) one_ne_zero
  have hzero : (digits d.digits).head? = some '0' → d.digits = 0 ∧ d.exponent = 0 := fun h =>
    have h0 := eq_zero_of_head?_digits h
    ⟨h0, hd h0⟩
  unfold Decimal.Layout.positionalText
  by_cases he : 0 ≤ d.exponent
  · -- zeros fill up the digits, and nothing stands behind the point
    rw [if_pos he]
    refine exists_pointText (hdigits.append_zeros _) (fun h => ?_) hone
    rw [List.head?_append_of_ne_nil _ hdigits.1] at h
    obtain ⟨h0, he0⟩ := hzero h
    rw [h0, he0]
    rfl
  · rw [if_neg he]
    dsimp only
    generalize hplaces : (-d.exponent).toNat = places
    split
    · -- the point stands among the digits
      rename_i hlt
      have hwhole : (digits d.digits).length - places ≠ 0 := by omega
      refine exists_pointText (hdigits.take hwhole) (fun h => ?_) (hdigits.drop (by omega))
      rw [List.head?_take, if_neg hwhole] at h
      have := (hzero h).2
      omega
    · -- zeros stand between the point and the digits
      exact exists_pointText hone (fun _ => rfl) (hdigits.zeros_append _)

/-- A decimal with an exponent has a text of the grammar. -/
theorem exists_exponentText (d : Decimal) :
    ∃ t : NumberText, t.IsProper ∧ t.negative = false ∧
      t.chars = Decimal.Layout.exponentText true d := by
  have hsign : (if d.leading < 0 then ['-'] else ['+']) = [if d.leading < 0 then '-' else '+'] := by
    split <;> rfl
  have hexponent : ∀ e ∈ some (decide (d.leading < 0), digits d.leading.natAbs),
      IsDigits e.2 := by
    rintro e ⟨⟩
    exact isDigits_digits _
  have hdigits := isDigits_digits d.digits
  unfold Decimal.Layout.exponentText
  dsimp only
  match h : digits d.digits with
  | [] => exact absurd h hdigits.1
  | [first] =>
    refine ⟨⟨false, [first], none, some (decide (d.leading < 0), digits d.leading.natAbs)⟩,
      ⟨h ▸ hdigits, fun _ => rfl, nofun, hexponent⟩, rfl, ?_⟩
    simp [NumberText.chars, NumberText.placesChars, NumberText.exponentChars, hsign]
  | first :: second :: rest =>
    rw [h] at hdigits
    refine ⟨⟨false, [first], some (second :: rest),
      some (decide (d.leading < 0), digits d.leading.natAbs)⟩,
      ⟨hdigits.take one_ne_zero, fun _ => rfl, ?_, hexponent⟩, rfl, ?_⟩
    · rintro ds ⟨⟩
      exact hdigits.drop (n := 1) (by simp)
    · simp [NumberText.chars, NumberText.placesChars, NumberText.exponentChars, hsign]

/-- A finite number is written as a number text. -/
theorem exists_realText {x : Float} (hx : x.isFinite = true) :
    ∃ t : NumberText, t.IsProper ∧ t.chars = (realText x).toList := by
  obtain ⟨negative, m, e, hof, hm⟩ := BinaryValue.exists_canonical_of_isFinite hx
  have hdecimal : ∃ t : NumberText, t.IsProper ∧ t.negative = false ∧
      t.chars = numberLayout.decimalText (Decimal.shortest .even m e) := by
    unfold Decimal.Layout.decimalText
    split
    · exact exists_positionalText (Decimal.exponent_shortest hm)
    · exact exists_exponentText _
  obtain ⟨t, ht, hsign, hchars⟩ := hdecimal
  refine ⟨{ t with negative := negative }, ⟨ht.whole, ht.zero, ht.places, ht.exponent⟩, ?_⟩
  rw [realText, if_pos hx, Decimal.Layout.render, hof]
  dsimp only
  have htie : numberLayout.tie = .even := rfl
  rw [String.toList_ofList, htie, ← hchars, NumberText.chars, NumberText.chars, hsign]
  rfl

namespace Number

/-- The text of a number, if it has one. -/
def written? (n : Number) : Option NumberText := (readNumber? n.text.toList).map Prod.fst

/-- An integer has its digits as its text. -/
def integerText (n : Int) : NumberText := ⟨decide (n < 0), digits n.natAbs, none, none⟩

/-- The text of an integer is as numbers are to be written. -/
theorem isProper_integerText (n : Int) : (integerText n).IsProper :=
  ⟨isDigits_digits _, fun h => by
    change (digits n.natAbs).length = 1
    rw [eq_zero_of_head?_digits h]
    rfl, nofun, nofun⟩

/-- The text of an integer has the characters of the integer. -/
theorem chars_integerText (n : Int) : (integerText n).chars = (toString n).toList := by
  rw [toList_toString_int]
  by_cases hn : n < 0 <;>
    simp [hn, integerText, NumberText.chars, NumberText.placesChars, NumberText.exponentChars]

/-- A number is written in a form that is as numbers are to be written, if there is one of its
text. -/
theorem written?_of_chars {n : Number} {t : NumberText} (ht : t.IsProper)
    (h : t.chars = n.text.toList) : n.written? = some t := by
  have hend : EndsNumber [] := nofun
  have hread := NumberText.readNumber?_chars ht hend
  rw [List.append_nil, h] at hread
  rw [written?, hread]
  rfl

/-- An integer is written in the form of its text. -/
theorem written?_integer (n : Int) : (integer n).written? = some (integerText n) :=
  written?_of_chars (isProper_integerText n) (chars_integerText n)

/-- A number is written as a text of the grammar, or as `null` if it is not finite. -/
theorem text_cases (n : Number) :
    (∃ t, n.written? = some t ∧ t.IsProper ∧ n.text.toList = t.chars) ∨
      n.written? = none ∧ n.text = "null" := by
  have hproper : ∀ t : NumberText, t.IsProper → t.chars = n.text.toList →
      ∃ t, n.written? = some t ∧ t.IsProper ∧ n.text.toList = t.chars := fun t ht h =>
    ⟨t, written?_of_chars ht h, ht, h.symm⟩
  cases n with
  | integer n => exact .inl (hproper _ (isProper_integerText n) (chars_integerText n))
  | real x =>
    by_cases hx : x.isFinite = true
    · obtain ⟨t, ht, h⟩ := exists_realText hx
      exact .inl (hproper t ht h)
    · have htext : (real x).text = "null" := if_neg hx
      refine .inr ⟨?_, htext⟩
      rw [written?, htext]
      rfl

/-! ## Integers are read back -/

/-- As long as the digits fit 64 bits, none is left out. -/
theorem ofDigits_of_lt {value : Nat} {ds : List Char}
    (h : value * 10 ^ ds.length + digitsValue ds < UInt64.size) :
    Significand.ofDigits value ds = ⟨value * 10 ^ ds.length + digitsValue ds, false, 0⟩ := by
  induction ds generalizing value with
  | nil => simp [Significand.ofDigits, digitsValue]
  | cons d ds ih =>
    have hvalue : value * 10 ^ (d :: ds).length + digitsValue (d :: ds) =
        (value * 10 + digitValue d) * 10 ^ ds.length + digitsValue ds := by
      have hone : digitsValue [d] = digitValue d := by simp [digitsValue]
      rw [← List.singleton_append, digitsValue_append, hone, List.singleton_append,
        List.length_cons, Nat.pow_succ]
      ring
    rw [hvalue] at h ⊢
    have hnext : ¬ UInt64.size ≤ value * 10 + digitValue d := by
      have := Nat.le_mul_of_pos_right (value * 10 + digitValue d)
        (Nat.pow_pos (n := ds.length) (by decide : 0 < 10))
      omega
    have hpush : Significand.push ⟨value, false, 0⟩ d = ⟨value * 10 + digitValue d, false, 0⟩ := by
      simp [Significand.push, hnext]
    rw [← ih h, Significand.ofDigits, List.foldl_cons, hpush, Significand.ofDigits]

/-- An integer that fits 64 bits is read back. -/
theorem ofText?_integerText {n : Int} (hlow : Int64.minValue.toInt ≤ n)
    (hhigh : n < UInt64.size) : ofText? (integerText n) = some (integer n) := by
  have hmin : Int64.minValue.toInt = -9223372036854775808 := rfl
  have hsize : UInt64.size = 18446744073709551616 := rfl
  have hwhole : Significand.ofDigits 0 (digits n.natAbs) = ⟨n.natAbs, false, 0⟩ := by
    rw [ofDigits_of_lt (by rw [digitsValue_digits]; omega), digitsValue_digits, Nat.zero_mul,
      Nat.zero_add]
  unfold ofText? integerText
  simp only [hwhole, Bool.false_eq_true, if_false]
  by_cases hn : n < 0
  · have hbound : ¬ (n.natAbs = 0 ∨ n < Int64.minValue.toInt) := by omega
    have hneg : -(n.natAbs : Int) = n := by omega
    simp only [hn, decide_true, Bool.not_true, Bool.false_eq_true, if_false, hneg, if_neg hbound]
  · have habs : (n.natAbs : Int) = n := by omega
    simp only [hn, decide_false, Bool.not_false, if_true, habs]

end Number

end Telemetry.Json
