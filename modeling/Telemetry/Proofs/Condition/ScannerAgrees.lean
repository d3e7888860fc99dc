import Telemetry.Proofs.Condition.NumberLiterals
import Telemetry.Proofs.Condition.Scanner

/-!
# The scanner reads the tokens of a text

Between two characters the scanner finds the token that the reader of tokens finds there, and moves
behind its characters; or both refuse the text for the same fault at the same place.
-/

namespace Telemetry.Condition

/-! ## Tests for ASCII characters -/

/-- Digits are ASCII characters. -/
theorem isAscii_isDigit : IsAscii Text.isDigit := by
  intro c hc
  simp only [Text.isDigit, Bool.and_eq_true, decide_eq_true_eq] at hc
  have hhigh : c.toNat ≤ '9'.toNat := hc.2
  exact Nat.lt_of_le_of_lt hhigh (by decide)

/-- Numbers go on with ASCII characters alone. -/
theorem isAscii_isNumberChar : IsAscii isNumberChar :=
  isAscii_isDigit.or (isAscii_eq (by decide))

/-- Letters, as words have them, are ASCII characters. -/
theorem isAscii_isAlpha : IsAscii Char.isAlpha := by
  intro c hc
  simp only [Char.isAlpha, Char.isUpper, Char.isLower, Bool.or_eq_true, Bool.and_eq_true,
    decide_eq_true_eq] at hc
  rcases hc with ⟨-, hhigh⟩ | ⟨-, hhigh⟩
  · exact Nat.lt_of_le_of_lt hhigh (by decide)
  · exact Nat.lt_of_le_of_lt hhigh (by decide)

/-- Words begin with ASCII characters. -/
theorem isAscii_isWordStart : IsAscii isWordStart :=
  ((isAscii_eq (by decide)).or (isAscii_eq (by decide))).or isAscii_isAlpha

/-- Words go on with ASCII characters. -/
theorem isAscii_isWordChar : IsAscii isWordChar :=
  isAscii_isWordStart.or isAscii_isDigit

/-- The blanks of conditions are ASCII characters. -/
theorem isAscii_isAsciiBlank : IsAscii Text.isAsciiBlank :=
  ((((isAscii_eq (by decide)).or (isAscii_eq (by decide))).or (isAscii_eq (by decide))).or
    (isAscii_eq (by decide))).or (isAscii_eq (by decide))

/-- The byte of an ASCII character stands only for this character. -/
theorem lead_eq_iff {c d : Char} (hd : d.toNat < 128) : lead c = d ↔ c = d := by
  have h := (isAscii_eq hd).lead c
  rwa [Bool.eq_iff_iff, beq_iff_eq, beq_iff_eq] at h

namespace Scanner

variable {source before rest cs : List Char} {c : Char}

/-- Whether the byte at a position passes a test for ASCII characters. -/
theorem look_any {p : Char → Bool} (hp : IsAscii p) (before rest : List Char) :
    (look (before ++ rest) (width before)).any p = rest.head?.any p := by
  rw [look_append]
  cases rest with
  | nil => rfl
  | cons c cs => exact hp.lead c

/-- A digit in front is what the reader of characters looks for. -/
theorem head?_any_isDigit (cs : List Char) : cs.head?.any Text.isDigit = startsWithDigit cs := by
  cases cs <;> rfl

/-- Behind an ASCII character the next one starts. -/
theorem behind (hc : c.toNat < 128) (before cs : List Char) :
    before ++ c :: cs = (before ++ [c]) ++ cs ∧ width before + 1 = width (before ++ [c]) := by
  rw [width_append, width_cons, width_nil, utf8Size_of_lt hc, List.append_assoc]
  exact ⟨rfl, rfl⟩

/-- Behind an ASCII character, a test of the next byte is the test of the next character. -/
theorem look_any_behind {p : Char → Bool} (hp : IsAscii p) (hc : c.toNat < 128)
    (before cs : List Char) :
    (look (before ++ c :: cs) (width before + 1)).any p = cs.head?.any p := by
  obtain ⟨hsource, hpos⟩ := behind hc before cs
  rw [hsource, hpos, look_any hp]

/-- A byte is that of an ASCII character exactly if this is the character at its place. -/
theorem look_eq_some_iff {d : Char} (hd : d.toNat < 128) :
    look (before ++ c :: cs) (width before) = some d ↔ c = d := by
  rw [look_append, List.head?_cons, Option.map_some, Option.some_inj, lead_eq_iff hd]

/-- There is no byte behind the end. -/
theorem look_end (before : List Char) : look before (width before) = none := by
  have hend := look_append before []
  rwa [List.append_nil] at hend

/-! ## Numbers -/

/-- The end of a text that may be missing. -/
def endOf? (start : Nat) (text : List Char) : Option Nat :=
  if text = [] then none else some (start + width text)

/-- A text that may be missing ends where it starts if it is. -/
theorem endOf?_getD (start : Nat) (text : List Char) :
    (endOf? start text).getD start = start + width text := by
  unfold endOf?
  split
  · rename_i htext
    rw [htext, width_nil]
    rfl
  · rfl

/-- A text has an end exactly if it is not empty. -/
theorem endOf?_isSome (start : Nat) (text : List Char) :
    (endOf? start text).isSome = !text.isEmpty := by
  cases text <;> rfl

/-- The end of a fraction in bytes is the end of the characters that are read as one. -/
theorem fractionEnd?_eq (before rest : List Char) :
    fractionEnd? (before ++ rest) (width before) = endOf? (width before) (fractionText rest) := by
  cases rest with
  | nil => simp [fractionEnd?, look_end, fractionText, endOf?]
  | cons c cs =>
    by_cases hc : c = '.'
    · subst hc
      obtain ⟨hsource, hpos⟩ := behind (c := '.') (by decide) before cs
      have hpoint : look (before ++ '.' :: cs) (width before) = some '.' :=
        (look_eq_some_iff (by decide)).mpr rfl
      rw [fractionEnd?, hpoint, look_any_behind isAscii_isDigit (by decide), head?_any_isDigit,
        fractionText]
      cases startsWithDigit cs with
      | false => rfl
      | true =>
        rw [hsource, hpos, scan_append isAscii_isNumberChar]
        simp [endOf?, width_cons, Nat.add_assoc]
    · have hpoint : ¬look (before ++ c :: cs) (width before) = some '.' :=
        mt (look_eq_some_iff (by decide)).mp hc
      simp [fractionEnd?, hpoint, fractionText, endOf?, hc]

/-- The end of an exponent in bytes is the end of the characters that are read as one. -/
theorem exponentEnd?_eq (before rest : List Char) :
    exponentEnd? (before ++ rest) (width before) = endOf? (width before) (exponentText rest) := by
  have hmark : IsAscii fun c => c == 'e' || c == 'E' :=
    (isAscii_eq (by decide)).or (isAscii_eq (by decide))
  have hsign : IsAscii fun c => c == '+' || c == '-' :=
    (isAscii_eq (by decide)).or (isAscii_eq (by decide))
  cases rest with
  | nil => simp [exponentEnd?, look_end, exponentText, endOf?]
  | cons e cs =>
    rw [exponentEnd?, look_any hmark, List.head?_cons, Option.any_some, signCount]
    by_cases he : (e == 'e' || e == 'E') = true
    · obtain ⟨hsource, hpos⟩ := behind (hmark e he) before cs
      rw [hsource, hpos, look_any hsign, he, Bool.true_and]
      cases cs with
      | nil =>
        rw [List.head?_nil, Option.any_none, if_neg Bool.false_ne_true, Nat.add_zero,
          List.append_nil, look_end]
        simp [exponentText, endOf?]
      | cons s ds =>
        rw [List.head?_cons, Option.any_some]
        by_cases hs : (s == '+' || s == '-') = true
        · obtain ⟨hsource', hpos'⟩ := behind (hsign s hs) (before ++ [e]) ds
          rw [if_pos hs, hsource', hpos', look_any isAscii_isDigit, head?_any_isDigit]
          have hdigit : startsWithDigit (s :: ds) = false := by
            simp only [Bool.or_eq_true, beq_iff_eq] at hs
            rcases hs with rfl | rfl <;> rfl
          cases hds : startsWithDigit ds with
          | false => simp [exponentText, hds, hdigit, endOf?]
          | true =>
            rw [if_pos rfl, scan_append isAscii_isDigit]
            simp [exponentText, he, hs, hds, endOf?, width_cons, Nat.add_assoc]
        · rw [if_neg hs, Nat.add_zero, look_any isAscii_isDigit, head?_any_isDigit]
          cases hds : startsWithDigit (s :: ds) with
          | false => simp [exponentText, hs, hds, endOf?]
          | true =>
            rw [if_pos rfl, scan_append isAscii_isDigit]
            simp [exponentText, he, hs, hds, endOf?, width_cons, Nat.add_assoc]
    · simp [exponentText, he, endOf?]

/-- A token that is read behind so many bytes, with the position behind it. -/
def placed (start : Nat) : Except LexFault Lexeme → Except Stop (Token × Nat)
  | .ok l => .ok (l.token, start + width l.text)
  | .error (place, fault) => .error (.refused ⟨start + place, fault⟩)

/-- A number literal has a digit in front of its exponent. -/
theorem literal_digits (hc : Text.isDigit c = true ∨ (c = '.' ∧ startsWithDigit cs = true)) :
    plainDigits ((c :: cs).takeWhile isNumberChar) ++
      plainDigits (fractionText ((c :: cs).drop ((c :: cs).takeWhile isNumberChar).length)) ≠
        [] := by
  rcases hc with hdigit | ⟨rfl, hdigit⟩
  · have hnumber : isNumberChar c = true := by simp [isNumberChar, hdigit]
    rw [List.takeWhile_cons_of_pos hnumber, plainDigits, List.filter_cons_of_pos hdigit]
    exact List.cons_ne_nil _ _
  · have hpoint : ('.' :: cs).takeWhile isNumberChar = [] := rfl
    cases cs with
    | nil => exact absurd hdigit Bool.false_ne_true
    | cons d ds =>
      have hd : Text.isDigit d = true := hdigit
      have hnumber : isNumberChar d = true := by simp [isNumberChar, hd]
      rw [hpoint, List.length_nil, List.drop_zero, fractionText, if_pos hdigit,
        List.takeWhile_cons_of_pos hnumber, plainDigits, plainDigits, List.filter_nil,
        List.filter_cons_of_neg (by decide), List.filter_cons_of_pos hd]
      exact List.cons_ne_nil _ _

/-- The token of a number literal in its parts. -/
theorem numberToken_eq (start : Nat) {whole fraction exponent : List Char}
    (hwhole : ∀ c ∈ whole, isNumberChar c = true) (hfraction : IsFraction fraction)
    (hexponent : IsExponent exponent) (hdigits : plainDigits whole ++ plainDigits fraction ≠ []) :
    numberToken start (!fraction.isEmpty || !exponent.isEmpty)
        ((whole ++ fraction ++ exponent).filter (· != '_')) =
      if fraction.isEmpty && exponent.isEmpty then
        match exactInt64? (Text.digitsValue (plainDigits whole)) with
        | some n => .ok (.int n)
        | none => .error (.refused ⟨start, .integerTooLarge (String.ofList (plainDigits whole))⟩)
      else
        .ok (.float (Decimal.ofPlaces (plainDigits whole) (plainDigits fraction)
          (exponentValue exponent)).toFloat) := by
  rw [← Bool.not_and, numberToken]
  cases hparts : fraction.isEmpty && exponent.isEmpty with
  | false =>
    rw [Bool.not_false, if_pos rfl, readFloat?_literal hwhole hfraction hexponent hdigits,
      if_neg Bool.false_ne_true]
  | true =>
    rw [Bool.and_eq_true, List.isEmpty_iff, List.isEmpty_iff] at hparts
    obtain ⟨rfl, rfl⟩ := hparts
    have hread : Text.readInt? (plainDigits whole) =
        some (Text.digitsValue (plainDigits whole) : Int) := by
      refine Text.ShowsInteger.readInt?_eq (.digits (fun c => isDigit_of_mem_plainDigits) ?_)
      simpa [plainDigits] using hdigits
    rewrite [Bool.not_true, if_neg Bool.false_ne_true, if_pos rfl, List.append_nil, List.append_nil,
      filter_isNumberChar hwhole, hread]
    cases hexact : exactInt64? (Text.digitsValue (plainDigits whole)) with
    | some n => simp only [hexact]
    | none => simp only [hexact]

/-- The scanner finds the number that is read. -/
theorem number_eq (before : List Char)
    (hc : Text.isDigit c = true ∨ (c = '.' ∧ startsWithDigit cs = true)) :
    number (before ++ c :: cs) (width before) = placed (width before) (readNumber (c :: cs)) := by
  have hwhole := List.prefix_iff_eq_append.mp
    (List.takeWhile_prefix isNumberChar (l := c :: cs))
  have hwhole' : ∀ d ∈ (c :: cs).takeWhile isNumberChar, isNumberChar d = true :=
    List.all_eq_true.mp List.all_takeWhile
  have hdigits := literal_digits hc
  rw [number, scan_append isAscii_isNumberChar, readNumber]
  dsimp only
  generalize (c :: cs).takeWhile isNumberChar = whole at hwhole hwhole' hdigits
  generalize (c :: cs).drop whole.length = afterWhole at hwhole hdigits
  have hfraction := List.prefix_iff_eq_append.mp (fractionText_isPrefix afterWhole)
  have hfraction' := fractionText_isFraction afterWhole
  have hsource : before ++ c :: cs = (before ++ whole) ++ afterWhole := by
    rw [List.append_assoc, hwhole]
  rw [hsource, ← width_append, fractionEnd?_eq, endOf?_getD, endOf?_isSome]
  generalize fractionText afterWhole = fraction at hfraction hfraction' hdigits
  generalize afterWhole.drop fraction.length = afterFraction at hfraction
  have hexponent := List.prefix_iff_eq_append.mp (exponentText_isPrefix afterFraction)
  have hexponent' := exponentText_isExponent afterFraction
  have hsource' :
      (before ++ whole) ++ afterWhole = (before ++ whole ++ fraction) ++ afterFraction := by
    rw [List.append_assoc (before ++ whole), hfraction]
  rw [hsource', ← width_append, exponentEnd?_eq, endOf?_getD, endOf?_isSome]
  generalize exponentText afterFraction = exponent at hexponent hexponent'
  generalize afterFraction.drop exponent.length = rest at hexponent
  have hcut : slice? (before ++ whole ++ fraction ++ afterFraction) (width before)
      (width (before ++ whole ++ fraction) + width exponent) =
        some (whole ++ fraction ++ exponent) := by
    have hslice := slice?_append before (whole ++ fraction ++ exponent) rest
    simpa [← hexponent, Nat.add_assoc] using hslice
  rw [hcut]
  dsimp only
  rw [numberToken_eq (width before) hwhole' hfraction' hexponent' hdigits]
  have hstop : width (before ++ whole ++ fraction) + width exponent =
      width before + width (whole ++ fraction ++ exponent) := by
    simp [Nat.add_assoc]
  rw [hstop]
  cases fraction.isEmpty && exponent.isEmpty with
  | false => rfl
  | true =>
    rw [if_pos rfl, if_pos rfl]
    cases exactInt64? (Text.digitsValue (plainDigits whole)) with
    | some n => rfl
    | none => rfl

/-! ## Texts, words and marks -/

/-- What is read up to the closing quote, with the place of the quote. -/
def closed (place : Nat) (read : Except LexFault (Option (List Char × List Char × List Char))) :
    Except LexFault (Option (List Char × Nat)) :=
  match read with
  | .error (at_, fault) => .error (place + at_, fault)
  | .ok found => .ok (found.map fun (value, text, _) => (value, place + width text - 1))

/-- Characters up to the closing quote are read in the same way, and the quote is the last of the
characters that are read. -/
theorem quotedFrom_eq {quote : Char} (hquote : quote.toNat < 128) (place : Nat) (cs : List Char) :
    quotedFrom quote place cs = closed place (readQuoted quote cs) := by
  fun_induction readQuoted quote cs generalizing place with
  | case1 => rfl
  | case2 => rfl
  | case3 c cs hescape =>
    rw [quotedFrom, hescape]
    rfl
  | case4 c cs d hescape at_ fault herror ih =>
    have hplace : place + width ['\\', c] + at_ = place + (at_ + width ['\\', c]) := by omega
    rw [quotedFrom, hescape]
    dsimp only
    rw [ih, herror]
    exact congrArg (fun n => Except.error (n, fault)) hplace
  | case5 c cs d hescape found hfound ih =>
    rw [quotedFrom, hescape]
    dsimp only
    rw [ih, hfound]
    cases found with
    | none => rfl
    | some found =>
      obtain ⟨value, text, rest⟩ := found
      have hplace : place + width ['\\', c] + width text - 1 =
          place + width ('\\' :: c :: text) - 1 := by
        rw [show '\\' :: c :: text = ['\\', c] ++ text from rfl, width_append, Nat.add_assoc]
      exact congrArg (fun n => Except.ok (some (d :: value, n))) hplace
  | case6 c cs hnone hescaped hq =>
    have hc := ne_backslash hnone hescaped
    have hwidth : width [c] = 1 := by
      rw [eq_of_beq hq, width_cons, width_nil, utf8Size_of_lt hquote]
    rw [quotedFrom]
    · rw [if_pos hq]
      refine congrArg (fun n => Except.ok (some ([], n))) ?_
      rw [hwidth, Nat.add_sub_cancel]
    all_goals simp [hc]
  | case7 c cs hnone hescaped hq at_ fault herror ih =>
    have hc := ne_backslash hnone hescaped
    have hplace : place + c.utf8Size + at_ = place + (at_ + width [c]) := by
      rw [width_cons, width_nil]
      omega
    rw [quotedFrom]
    · rw [if_neg hq, ih, herror]
      exact congrArg (fun n => Except.error (n, fault)) hplace
    all_goals simp [hc]
  | case8 c cs hnone hescaped hq found hfound ih =>
    have hc := ne_backslash hnone hescaped
    rw [quotedFrom]
    · rw [if_neg hq, ih, hfound]
      cases found with
      | none => rfl
      | some found =>
        obtain ⟨value, text, rest⟩ := found
        have hplace : place + c.utf8Size + width text - 1 = place + width (c :: text) - 1 := by
          rw [width_cons, Nat.add_assoc]
        exact congrArg (fun n => Except.ok (some (c :: value, n))) hplace
    all_goals simp [hc]

/-- What is read up to the closing quote has the quote. -/
theorem width_readQuoted {quote : Char} {value text rest : List Char}
    (h : readQuoted quote cs = .ok (some (value, text, rest))) : 0 < width text := by
  have hpos : ∀ (c : Char) (cs : List Char), 0 < width (c :: cs) := by
    intro c cs
    rw [width_cons]
    exact Nat.add_pos_left c.utf8Size_pos _
  unfold readQuoted at h
  split at h
  · cases h
  · cases h
  · split at h
    · cases h
    split at h
    · cases h
    · obtain ⟨found, -, hfound⟩ := Option.map_eq_some_iff.mp (Except.ok.inj h)
      cases hfound
      exact hpos _ _
  · split at h
    · cases h
      exact hpos _ _
    split at h
    · cases h
    · obtain ⟨found, -, hfound⟩ := Option.map_eq_some_iff.mp (Except.ok.inj h)
      cases hfound
      exact hpos _ _

/-- The scanner finds the text in quotes that is read. -/
theorem quoted_eq {quote : Char} (hquote : quote.toNat < 128) (before cs : List Char) :
    quoted (before ++ quote :: cs) quote (width before) =
      placed (width before) (readText quote cs) := by
  obtain ⟨hsource, hpos⟩ := behind hquote before cs
  have hfrom : from? (before ++ quote :: cs) (width before + 1) = some cs := by
    rw [hsource, hpos, from?_append]
  have hwidth : width [quote] = 1 := by rw [width_cons, width_nil, utf8Size_of_lt hquote]
  rw [quoted, hfrom, readText]
  dsimp only
  rw [quotedFrom_eq hquote]
  cases hread : readQuoted quote cs with
  | error fault =>
    obtain ⟨at_, fault⟩ := fault
    have hplace : width before + 1 + (0 + at_) = width before + (at_ + width [quote]) := by omega
    exact congrArg (fun n => Except.error (Stop.refused ⟨n, fault⟩)) hplace
  | ok found =>
    cases found with
    | none => rfl
    | some found =>
      obtain ⟨value, text, rest⟩ := found
      have htext := width_readQuoted hread
      have hplace : width before + 1 + (0 + width text - 1 + 1) =
          width before + width (quote :: text) := by
        rw [width_cons, utf8Size_of_lt hquote]
        omega
      exact congrArg (fun n => Except.ok (Token.text (String.ofList value), n)) hplace

/-- The scanner finds the word that is read. -/
theorem word_eq (before rest : List Char) :
    word (before ++ rest) (width before) = placed (width before) (.ok (readWord rest)) := by
  have hrun := List.prefix_iff_eq_append.mp (List.takeWhile_prefix isWordChar (l := rest))
  rw [word, scan_append isAscii_isWordChar]
  have hslice := slice?_append before (rest.takeWhile isWordChar)
    (rest.drop (rest.takeWhile isWordChar).length)
  rw [hrun] at hslice
  rw [hslice]
  rfl

/-- No mark begins with a byte that is not ASCII. -/
theorem mark?_of_le (hc : 128 ≤ c.toNat) (next : Option Char) : mark? c next = none := by
  unfold mark?
  split
  case h_25 => rfl
  all_goals exact absurd hc (by decide)

/-- No mark goes on with a byte that is not ASCII. -/
theorem mark?_some_of_le {d : Char} (hd : 128 ≤ d.toNat) (c : Char) :
    mark? c (some d) = mark? c none := by
  unfold mark?
  split
  case h_25 =>
    split
    case h_25 => rfl
    case h_1 | h_5 | h_6 => exact absurd ‹none = some _› (by simp)
    all_goals
      exfalso
      solve_by_elim
  case h_1 | h_2 | h_3 | h_4 | h_5 | h_6 | h_7 | h_8 =>
    cases ‹some d = some _›
    exact absurd hd (by decide)
  all_goals rfl

/-- A mark is told by first bytes as by characters. -/
theorem mark?_lead (c : Char) (next : Option Char) :
    mark? (lead c) (next.map lead) = mark? c next := by
  by_cases hc : c.toNat < 128
  · rw [lead_of_lt hc]
    cases next with
    | none => rfl
    | some d =>
      by_cases hd : d.toNat < 128
      · rw [Option.map_some, lead_of_lt hd]
      · have hlead := le_lead (Nat.not_lt.mp hd)
        rw [Option.map_some, mark?_some_of_le hlead, mark?_some_of_le (Nat.not_lt.mp hd)]
  · have hlead := le_lead (Nat.not_lt.mp hc)
    rw [mark?_of_le hlead, mark?_of_le (Nat.not_lt.mp hc)]

/-- A mark is made from its characters, and takes so many of them. -/
theorem readMark_eq (c : Char) (cs : List Char) :
    readMark (c :: cs) = (mark? c cs.head?).map fun (found, size) =>
      if found = .questionDot && startsWithDigit (cs.drop 1) then ⟨.question, [c], cs⟩
      else ⟨found, (c :: cs).take size, (c :: cs).drop size⟩ := by
  unfold readMark
  split
  case h_8 rest heq =>
    obtain ⟨rfl, rfl⟩ := List.cons.inj heq
    rw [List.head?_cons, mark?, Option.map_some, List.drop_one, List.tail_cons]
    cases startsWithDigit rest <;> rfl
  case h_9 rest hdouble hpoint heq =>
    obtain ⟨rfl, rfl⟩ := List.cons.inj heq
    cases cs with
    | nil => rfl
    | cons d ds =>
      have hd : d ≠ '?' ∧ d ≠ '.' := by
        refine ⟨?_, ?_⟩ <;> rintro rfl
        · exact hdouble ds rfl
        · exact hpoint ds rfl
      simp [mark?, hd]
  case h_10 rest hequal heq | h_11 rest hequal heq | h_12 rest hequal heq =>
    obtain ⟨rfl, rfl⟩ := List.cons.inj heq
    cases cs with
    | nil => rfl
    | cons d ds =>
      have hd : d ≠ '=' := by
        rintro rfl
        exact hequal ds rfl
      simp [mark?, hd]
  case h_25 =>
    -- what no row of the one table reads is in no row of the other
    have hnone : mark? c cs.head? = none := by
      unfold mark?
      split
      case h_25 => rfl
      case h_1 | h_2 | h_3 | h_4 | h_5 | h_6 | h_7 | h_8 =>
        obtain ⟨ds, rfl⟩ := List.head?_eq_some_iff.mp ‹cs.head? = some _›
        exfalso
        solve_by_elim
      all_goals
        exfalso
        solve_by_elim
    rw [hnone]
    rfl
  all_goals
    rename_i heq
    cases heq
    rfl

/-- A question mark and a point are the first two characters. -/
theorem eq_of_mark?_questionDot {next : Option Char} {size : Nat}
    (h : mark? c next = some (.questionDot, size)) : c = '?' ∧ next = some '.' := by
  unfold mark? at h
  split at h
  case h_8 => exact ⟨rfl, rfl⟩
  all_goals cases h

/-- The size of a mark is the width of its characters. -/
theorem width_of_mark? {found : Token} {size : Nat} (h : mark? c cs.head? = some (found, size)) :
    width ((c :: cs).take size) = size := by
  unfold mark? at h
  split at h
  case h_25 => cases h
  case h_1 | h_2 | h_3 | h_4 | h_5 | h_6 | h_7 | h_8 =>
    obtain ⟨ds, rfl⟩ := List.head?_eq_some_iff.mp ‹cs.head? = some _›
    cases h
    rfl
  all_goals
    cases h
    rfl

/-- The scanner finds the mark that is read, or refuses the character. -/
theorem mark_eq (before : List Char) (c : Char) (cs : List Char) :
    mark (before ++ c :: cs) (width before) = placed (width before)
      (match readMark (c :: cs) with
        | some lexeme => .ok lexeme
        | none => .error (0, .unexpectedCharacter c)) := by
  have hmark : mark? (lead c) (look (before ++ c :: cs) (width before + 1)) = mark? c cs.head? := by
    by_cases hc : c.toNat < 128
    · obtain ⟨hsource, hpos⟩ := behind hc before cs
      rw [hsource, hpos, look_append, mark?_lead]
    · rw [mark?_of_le (le_lead (Nat.not_lt.mp hc)), mark?_of_le (Nat.not_lt.mp hc)]
  rw [mark, look_append, List.head?_cons, Option.map_some]
  dsimp only
  rw [hmark, readMark_eq, from?_append]
  cases hfound : mark? c cs.head? with
  | none => rfl
  | some found =>
    obtain ⟨found, size⟩ := found
    rw [Option.map_some]
    dsimp only
    by_cases hpoint : found = .questionDot
    · subst hpoint
      obtain ⟨rfl, hnext⟩ := eq_of_mark?_questionDot hfound
      obtain ⟨ds, rfl⟩ := List.head?_eq_some_iff.mp hnext
      obtain ⟨hsource, hpos⟩ := behind (c := '?') (by decide) before ('.' :: ds)
      have hdigit : (look (before ++ '?' :: '.' :: ds) (width before + 2)).any Text.isDigit =
          startsWithDigit ds := by
        rw [hsource, ← Nat.add_assoc (width before) 1 1, hpos,
          look_any_behind isAscii_isDigit (by decide), head?_any_isDigit]
      cases hfound
      rw [hdigit, List.drop_one, List.tail_cons]
      cases startsWithDigit ds <;> rfl
    · rw [decide_eq_false hpoint, Bool.false_and, Bool.false_and]
      have hwidth := width_of_mark? hfound
      exact congrArg (fun n => Except.ok (found, width before + n)) hwidth.symm

/-! ## All tokens -/

/-- The scanner finds the token that is read. -/
theorem token_eq (before : List Char) (c : Char) (cs : List Char) :
    token (before ++ c :: cs) (width before) (lead c) =
      placed (width before) (readLexeme c cs) := by
  have hquote : IsAscii fun c => c == '\'' || c == '"' :=
    (isAscii_eq (by decide)).or (isAscii_eq (by decide))
  have hpoint : (lead c == '.' && (look (before ++ c :: cs) (width before + 1)).any Text.isDigit) =
      (c == '.' && startsWithDigit cs) := by
    by_cases hc : c = '.'
    · subst hc
      rw [look_any_behind isAscii_isDigit (by decide), head?_any_isDigit]
      rfl
    · have hlead : lead c ≠ '.' := mt (lead_eq_iff (by decide)).mp hc
      rw [beq_false_of_ne hc, beq_false_of_ne hlead, Bool.false_and, Bool.false_and]
  rw [token, readLexeme, isAscii_isDigit.lead, hpoint, hquote.lead, isAscii_isWordStart.lead]
  by_cases hdigit : Text.isDigit c = true
  · rw [if_pos hdigit, if_pos (by rw [hdigit, Bool.true_or])]
    exact number_eq before (.inl hdigit)
  rw [if_neg hdigit]
  by_cases hdecimal : (c == '.' && startsWithDigit cs) = true
  · rw [if_pos hdecimal, if_pos (by rw [hdecimal, Bool.or_true])]
    rw [Bool.and_eq_true, beq_iff_eq] at hdecimal
    exact number_eq before (.inr hdecimal)
  have hnumber : ¬(Text.isDigit c || (c == '.' && startsWithDigit cs)) = true := by
    rw [Bool.or_eq_true]
    exact not_or.mpr ⟨hdigit, hdecimal⟩
  rw [if_neg hdecimal, if_neg hnumber]
  by_cases hq : (c == '\'' || c == '"') = true
  · rw [if_pos hq, if_pos hq, lead_of_lt (hquote c hq)]
    exact quoted_eq (hquote c hq) before cs
  rw [if_neg hq, if_neg hq]
  by_cases hword : isWordStart c = true
  · rw [if_pos hword, if_pos hword]
    exact word_eq before (c :: cs)
  · rw [if_neg hword, if_neg hword]
    exact mark_eq before c cs

/-- The tokens of a text that is read, or the fault for which it is refused. -/
def answered {α : Type} : Except SyntaxError α → Except Stop α
  | .ok a => .ok a
  | .error e => .error (.refused e)

section Steps

variable {c : Char}

/-- Behind the last character there is the end alone. -/
theorem tokensAt_nil (fuel : Nat) (before : List Char) :
    tokensAt (before ++ []) fuel (width before) = .ok [⟨.ending, width before⟩] := by
  have hscan := scan_append isAscii_isAsciiBlank before []
  rw [List.takeWhile_nil, width_nil, Nat.add_zero] at hscan
  unfold tokensAt
  dsimp only
  rw [hscan, look_append]
  rfl

/-- The scanner passes a blank. -/
theorem tokensAt_blank (hc : Text.isAsciiBlank c = true) (fuel : Nat) (before cs : List Char) :
    tokensAt (before ++ c :: cs) fuel (width before) =
      tokensAt (before ++ [c] ++ cs) fuel (width (before ++ [c])) := by
  have hsource : before ++ c :: cs = before ++ [c] ++ cs := by simp
  have hscan : scan Text.isAsciiBlank (before ++ c :: cs) (width before) =
      scan Text.isAsciiBlank (before ++ [c] ++ cs) (width (before ++ [c])) := by
    rw [scan_append isAscii_isAsciiBlank, scan_append isAscii_isAsciiBlank,
      List.takeWhile_cons_of_pos hc, width_cons, width_append, width_cons, width_nil, Nat.add_zero,
      Nat.add_assoc]
  rw [tokensAt.eq_def, tokensAt.eq_def _ _ (width (before ++ [c]))]
  dsimp only
  rw [hscan, hsource]

/-- The scanner goes on behind the token that is read. -/
theorem tokensAt_token (hc : Text.isAsciiBlank c = false) (fuel : Nat) (before cs : List Char) :
    tokensAt (before ++ c :: cs) (fuel + 1) (width before) =
      placed (width before) (readLexeme c cs) >>= fun found =>
        tokensAt (before ++ c :: cs) fuel found.2 >>= fun later =>
          .ok (⟨found.1, width before⟩ :: later) := by
  have hstop : ¬Text.isAsciiBlank c = true := by simp [hc]
  rw [tokensAt.eq_def]
  dsimp only
  rw [scan_append isAscii_isAsciiBlank, List.takeWhile_cons_of_neg hstop, width_nil, Nat.add_zero,
    look_append, List.head?_cons, Option.map_some]
  dsimp only
  rw [token_eq]

end Steps

/-- From between two characters on the scanner reads the tokens that are read there. -/
theorem tokensAt_eq {fuel fuel' : Nat} (before : List Char) {rest : List Char}
    (hfuel : rest.length ≤ fuel) (hfuel' : rest.length ≤ fuel') :
    tokensAt (before ++ rest) fuel (width before) =
      answered (tokensFrom fuel' (width before) rest) := by
  induction rest using lexing_induction generalizing fuel fuel' before with
  | nil =>
    rw [tokensAt_nil, tokensFrom_nil]
    rfl
  | blank c cs hc ih =>
    have hwidth : width (before ++ [c]) = width before + c.utf8Size := by
      rw [width_append, width_cons, width_nil, Nat.add_zero]
    rw [tokensAt_blank hc, tokensFrom_blank hc, ← hwidth]
    exact ih _ (Nat.le_of_succ_le hfuel) (Nat.le_of_succ_le hfuel')
  | token c cs hc ih =>
    obtain ⟨fuel, rfl⟩ := Nat.exists_eq_add_of_le' (Nat.le_of_add_left_le hfuel)
    obtain ⟨fuel', rfl⟩ := Nat.exists_eq_add_of_le' (Nat.le_of_add_left_le hfuel')
    rw [tokensAt_token hc, tokensFrom_token hc]
    cases hl : readLexeme c cs with
    | error fault => rfl
    | ok l =>
      have hsplits := readLexeme_splits hl
      have hshorter := hsplits.length_rest_lt
      have hlater := ih l hl (before ++ l.text)
        (Nat.le_of_lt_succ (Nat.lt_of_lt_of_le hshorter hfuel))
        (Nat.le_of_lt_succ (Nat.lt_of_lt_of_le hshorter hfuel'))
      rw [List.append_assoc, hsplits.eq, width_append] at hlater
      rw [placed]
      dsimp only
      change (tokensAt (before ++ c :: cs) fuel (width before + width l.text) >>= _) = _
      rw [hlater]
      cases tokensFrom fuel' (width before + width l.text) l.rest with
      | error e => rfl
      | ok later => rfl

/-- The scanner reads the tokens of every text, and never comes to a breach. -/
theorem tokens_eq (source : String) : tokens source.toList = answered (tokenize source) := by
  have hlength : source.toList.length ≤ (utf8 source.toList).length := by
    rw [length_utf8]
    induction source.toList with
    | nil => exact Nat.zero_le _
    | cons c cs ih =>
      have hpos := c.utf8Size_pos
      rw [List.length_cons, width_cons]
      omega
  exact tokensAt_eq [] hlength (Nat.le_refl _)

end Scanner

end Telemetry.Condition
