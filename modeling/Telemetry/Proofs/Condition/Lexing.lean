import Telemetry.Condition.Lexer
import Telemetry.Proofs.Fallible

/-!
# Reading the tokens of a text

A token is read from the characters that it takes and from the character behind them, which must
not continue it. So nothing changes about the tokens of a text if a blank or a closing parenthesis
is put behind it, and a text that goes on from there has the tokens of both parts.
-/

namespace Telemetry.Condition

/-- The characters that no token goes on with. -/
def separators : List Char := [' ', '\t', '\n', '\x0c', '\r', ')']

/-- What no token goes on with: the end of the text, a blank, or a closing parenthesis. -/
inductive Separated : List Char → Prop where
  | ending : Separated []
  | blank {c : Char} (hc : Text.isAsciiBlank c = true) (cs : List Char) : Separated (c :: cs)
  | closing (cs : List Char) : Separated (')' :: cs)

/-- A word goes on with digits. -/
theorem isWordChar_of_isDigit {c : Char} (h : Text.isDigit c = true) : isWordChar c = true := by
  simp [isWordChar, h]

/-- A word goes on with whatever a number goes on with. -/
theorem isWordChar_of_isNumberChar {c : Char} (h : isNumberChar c = true) :
    isWordChar c = true := by
  simp only [isNumberChar, Bool.or_eq_true, beq_iff_eq] at h
  rcases h with h | rfl
  · exact isWordChar_of_isDigit h
  · rfl

namespace Separated

variable {c d : Char} {cs rest : List Char}

/-- What no token goes on with begins with a separator. -/
theorem mem_separators (h : Separated (c :: cs)) : c ∈ separators := by
  cases h with
  | blank hc =>
    simp only [Text.isAsciiBlank, Bool.or_eq_true, beq_iff_eq] at hc
    rcases hc with (((rfl | rfl) | rfl) | rfl) | rfl <;> decide
  | closing => decide

/-- What no token goes on with begins with no other character. -/
theorem ne (h : Separated (c :: cs)) (hd : d ∉ separators) : c ≠ d :=
  fun heq => hd (heq ▸ h.mem_separators)

/-- A word does not go on into what no token goes on with. -/
theorem isWordChar_eq_false (h : Separated (c :: cs)) : isWordChar c = false := by
  have hnone : separators.all (!isWordChar ·) = true := rfl
  simpa using List.all_eq_true.mp hnone c h.mem_separators

/-- A run in front of what no token goes on with ends there at the latest. -/
theorem takeWhile_append (h : Separated rest) {p : Char → Bool}
    (hp : ∀ c, p c = true → isWordChar c = true) (cs : List Char) :
    (cs ++ rest).takeWhile p = cs.takeWhile p := by
  have hrest : rest.takeWhile p = [] := by
    cases rest with
    | nil => rfl
    | cons c rest =>
      refine List.takeWhile_cons_of_neg fun hc => ?_
      exact absurd (hp c hc) (by simp [h.isWordChar_eq_false])
  rw [List.takeWhile_append, hrest, List.append_nil]
  split
  · rename_i hall
    exact ((List.takeWhile_prefix p).eq_of_length hall).symm
  · rfl

/-- There is no digit in front of what no token goes on with. -/
theorem startsWithDigit_eq_false (h : Separated rest) : startsWithDigit rest = false := by
  cases rest with
  | nil => rfl
  | cons c rest =>
    refine Bool.eq_false_iff.mpr fun hc => ?_
    exact absurd (isWordChar_of_isDigit hc) (by simp [h.isWordChar_eq_false])

/-- In front of what no token goes on with, characters begin with a digit as they do alone. -/
theorem startsWithDigit_append (h : Separated rest) (cs : List Char) :
    startsWithDigit (cs ++ rest) = startsWithDigit cs := by
  cases cs with
  | nil => exact h.startsWithDigit_eq_false
  | cons => rfl

/-- No fraction stands in front of what no token goes on with. -/
theorem fractionText_eq_nil (h : Separated rest) : fractionText rest = [] := by
  cases rest with
  | nil => rfl
  | cons c rest => simp [fractionText, h.ne (d := '.') (by decide)]

/-- No exponent stands in front of what no token goes on with. -/
theorem exponentText_eq_nil (h : Separated rest) : exponentText rest = [] := by
  cases rest with
  | nil => rfl
  | cons c rest =>
    simp [exponentText, h.ne (d := 'e') (by decide), h.ne (d := 'E') (by decide)]

end Separated

/-! ## Single tokens -/

/-- A fraction stands in front of the characters in which it is found. -/
theorem fractionText_isPrefix (cs : List Char) : fractionText cs <+: cs := by
  unfold fractionText
  split
  · split
    · exact (List.prefix_cons_inj _).mpr (List.takeWhile_prefix _)
    · exact List.nil_prefix
  · exact List.nil_prefix

/-- A fraction does not go on into what no token goes on with. -/
theorem fractionText_append {tail : List Char} (htail : Separated tail) (cs : List Char) :
    fractionText (cs ++ tail) = fractionText cs := by
  cases cs with
  | nil => exact htail.fractionText_eq_nil
  | cons c cs =>
    by_cases hc : c = '.'
    · subst hc
      have hrun := htail.takeWhile_append (p := isNumberChar)
        (fun _ => isWordChar_of_isNumberChar) cs
      simp only [fractionText, List.cons_append, htail.startsWithDigit_append, hrun]
    · simp [fractionText, hc]

/-- An exponent stands in front of the characters in which it is found. -/
theorem exponentText_isPrefix (cs : List Char) : exponentText cs <+: cs := by
  unfold exponentText
  split
  · split
    · split
      · split
        · exact (List.prefix_cons_inj _).mpr
            ((List.prefix_cons_inj _).mpr (List.takeWhile_prefix _))
        · split
          · exact (List.prefix_cons_inj _).mpr (List.takeWhile_prefix _)
          · exact List.nil_prefix
      · exact List.nil_prefix
    · exact List.nil_prefix
  · exact List.nil_prefix

/-- An exponent does not go on into what no token goes on with. -/
theorem exponentText_append {tail : List Char} (htail : Separated tail) (cs : List Char) :
    exponentText (cs ++ tail) = exponentText cs := by
  cases cs with
  | nil => exact htail.exponentText_eq_nil
  | cons e cs =>
    cases cs with
    | nil =>
      cases tail with
      | nil => rfl
      | cons c tail =>
        have hsign : c ≠ '+' ∧ c ≠ '-' := ⟨htail.ne (by decide), htail.ne (by decide)⟩
        simp [exponentText, hsign, htail.startsWithDigit_eq_false]
    | cons s ds =>
      have hdigit : startsWithDigit (s :: (ds ++ tail)) = startsWithDigit (s :: ds) := rfl
      have hsigned := htail.takeWhile_append (p := Text.isDigit) (fun _ => isWordChar_of_isDigit) ds
      have hrun := htail.takeWhile_append (p := Text.isDigit) (fun _ => isWordChar_of_isDigit)
        (s :: ds)
      rw [List.cons_append] at hrun
      simp only [exponentText, List.cons_append, htail.startsWithDigit_append, hdigit, hrun,
        hsigned]

/-- What is read is a token, and its characters are those in front. -/
structure Lexeme.Splits (l : Lexeme) (cs : List Char) : Prop where
  token : l.token ≠ .ending
  text : l.text ≠ []
  eq : l.text ++ l.rest = cs

/-- What a token leaves is shorter. -/
theorem Lexeme.Splits.length_rest_lt {l : Lexeme} {cs : List Char} (h : l.Splits cs) :
    l.rest.length < cs.length := by
  have hpos : 0 < l.text.length := List.length_pos_iff.mpr h.text
  rw [← h.eq, List.length_append]
  omega

/-- A token with more characters behind it. -/
def Lexeme.before (l : Lexeme) (tail : List Char) : Lexeme := ⟨l.token, l.text, l.rest ++ tail⟩

/-- A number is read from the characters in front. -/
theorem readNumber_splits {c : Char} {cs : List Char} {l : Lexeme}
    (hc : Text.isDigit c = true ∨ (c = '.' ∧ startsWithDigit cs = true))
    (h : readNumber (c :: cs) = .ok l) : l.Splits (c :: cs) := by
  have hwhole := List.prefix_iff_eq_append.mp
    (List.takeWhile_prefix isNumberChar (l := c :: cs))
  unfold readNumber at h
  dsimp only at h
  generalize hw : (c :: cs).takeWhile isNumberChar = whole at h hwhole
  generalize ha : (c :: cs).drop whole.length = afterWhole at h hwhole
  have hfraction := List.prefix_iff_eq_append.mp (fractionText_isPrefix afterWhole)
  generalize hf : fractionText afterWhole = fraction at h hfraction
  generalize afterWhole.drop fraction.length = afterFraction at h hfraction
  have hexponent := List.prefix_iff_eq_append.mp (exponentText_isPrefix afterFraction)
  generalize exponentText afterFraction = exponent at h hexponent
  have htext : whole ++ fraction ++ exponent ≠ [] := by
    rcases hc with hdigit | ⟨rfl, hdigit⟩
    · have hne : whole ≠ [] := by
        rw [← hw, List.takeWhile_cons_of_pos (by simp [isNumberChar, hdigit])]
        exact List.cons_ne_nil _ _
      simp [hne]
    · have hpoint : whole = [] := by
        rw [← hw]
        rfl
      have hne : fraction ≠ [] := by
        rw [← hf, ← ha, hpoint]
        simp [fractionText, hdigit]
      simp [hne]
  have heq : whole ++ fraction ++ exponent ++ afterFraction.drop exponent.length = c :: cs := by
    rw [List.append_assoc, hexponent, List.append_assoc, hfraction, hwhole]
  split at h
  · split at h
    · cases h
      exact ⟨by simp, htext, heq⟩
    · cases h
  · cases h
    exact ⟨by simp, htext, heq⟩

/-- A number does not go on into what no token goes on with. -/
theorem readNumber_append {tail : List Char} (htail : Separated tail) {cs : List Char} {l : Lexeme}
    (h : readNumber cs = .ok l) : readNumber (cs ++ tail) = .ok (l.before tail) := by
  have hrun := htail.takeWhile_append (p := isNumberChar) (fun _ => isWordChar_of_isNumberChar) cs
  have hwhole := (List.takeWhile_prefix isNumberChar (l := cs)).length_le
  unfold readNumber at h ⊢
  dsimp only at h ⊢
  rw [hrun, List.drop_append_of_le_length hwhole]
  generalize cs.drop (cs.takeWhile isNumberChar).length = afterWhole at h ⊢
  have hfraction := (fractionText_isPrefix afterWhole).length_le
  rw [fractionText_append htail, List.drop_append_of_le_length hfraction]
  generalize afterWhole.drop (fractionText afterWhole).length = afterFraction at h ⊢
  have hexponent := (exponentText_isPrefix afterFraction).length_le
  rw [exponentText_append htail, List.drop_append_of_le_length hexponent]
  split at h
  · rename_i hwhole
    rw [if_pos hwhole]
    split at h
    · cases h
      rfl
    · cases h
  · rename_i hparts
    rw [if_neg hparts]
    cases h
    rfl

/-- A character that neither starts an escape nor ends the text as a backslash is none. -/
theorem ne_backslash {c : Char} {cs : List Char} (hlast : c = '\\' → cs = [] → False)
    (hescape : ∀ d ds, c = '\\' → cs = d :: ds → False) : c ≠ '\\' := by
  intro hc
  cases cs with
  | nil => exact hlast hc rfl
  | cons d ds => exact hescape d ds hc rfl

/-- A text in quotes ends at its closing quote, whatever stands behind it. -/
theorem readQuoted_append {quote : Char} {cs value text rest : List Char}
    (h : readQuoted quote cs = .ok (some (value, text, rest))) :
    text ++ rest = cs ∧
      ∀ tail, readQuoted quote (text ++ tail) = .ok (some (value, text, tail)) := by
  fun_induction readQuoted quote cs generalizing value text rest with
  | case1 => cases h
  | case2 => cases h
  | case3 => cases h
  | case4 => cases h
  | case5 c cs d hescape found hfound ih =>
    cases found with
    | none => cases h
    | some found =>
      cases h
      obtain ⟨htext, hread⟩ := ih hfound
      refine ⟨by simp [htext], fun tail => ?_⟩
      simp [readQuoted, hescape, hread]
  | case6 c cs hnone hescaped hquote =>
    cases h
    refine ⟨rfl, fun tail => ?_⟩
    have hc := ne_backslash hnone hescaped
    rw [List.cons_append, readQuoted]
    · simp [hquote]
    all_goals simp [hc]
  | case7 => cases h
  | case8 c cs hnone hescaped hquote found hfound ih =>
    cases found with
    | none => cases h
    | some found =>
      cases h
      obtain ⟨htext, hread⟩ := ih hfound
      refine ⟨by simp [htext], fun tail => ?_⟩
      have hc := ne_backslash hnone hescaped
      rw [List.cons_append, readQuoted]
      · simp [hquote, hread]
      all_goals simp [hc]

/-- A text in quotes is read from the characters in front, whatever stands behind the closing
quote. -/
theorem readText_append {quote : Char} {cs : List Char} {l : Lexeme}
    (h : readText quote cs = .ok l) :
    l.Splits (quote :: cs) ∧ ∃ text, l.text = quote :: text ∧
      ∀ tail, readText quote (text ++ tail) = .ok ⟨l.token, l.text, tail⟩ := by
  unfold readText at h
  split at h
  · cases h
  · cases h
  · rename_i value text rest hquoted
    cases h
    obtain ⟨htext, hread⟩ := readQuoted_append hquoted
    refine ⟨⟨by simp, List.cons_ne_nil _ _, congrArg _ htext⟩, text, rfl, fun tail => ?_⟩
    rw [readText, hread]

/-- A word is read from the characters in front. -/
theorem readWord_splits {c : Char} (hc : isWordStart c = true) (cs : List Char) :
    (readWord (c :: cs)).Splits (c :: cs) where
  token := by simp [readWord]
  text := by simp [readWord, isWordChar, hc]
  eq := List.prefix_iff_eq_append.mp (List.takeWhile_prefix _)

/-- A word does not go on into what no token goes on with. -/
theorem readWord_append {tail : List Char} (htail : Separated tail) (cs : List Char) :
    readWord (cs ++ tail) = (readWord cs).before tail := by
  have hrun := htail.takeWhile_append (p := isWordChar) (fun _ => id) cs
  have hlength := (List.takeWhile_prefix isWordChar (l := cs)).length_le
  simp only [readWord, hrun, List.drop_append_of_le_length hlength]
  rfl

/-- A mark is read from the characters in front. -/
theorem readMark_splits {cs : List Char} {l : Lexeme} (h : readMark cs = some l) : l.Splits cs := by
  unfold readMark at h
  split at h
  case h_8 =>
    split at h <;>
      · cases h
        exact ⟨by simp, by simp, rfl⟩
  case h_25 => cases h
  all_goals
    cases h
    exact ⟨by simp, by simp, rfl⟩

/-- A mark does not go on into what no token goes on with. -/
theorem readMark_append {tail : List Char} (htail : Separated tail) {cs : List Char} {l : Lexeme}
    (h : readMark cs = some l) : readMark (cs ++ tail) = some (l.before tail) := by
  unfold readMark at h
  split at h
  case h_8 rest =>
    rw [List.cons_append, List.cons_append, readMark, htail.startsWithDigit_append]
    split at h
    · rename_i hdigit
      cases h
      rw [if_pos hdigit]
      rfl
    · rename_i hdigit
      cases h
      rw [if_neg hdigit]
      rfl
  case h_25 => cases h
  case h_9 rest hdouble hpoint =>
    cases h
    cases rest with
    | nil =>
      cases tail with
      | nil => rfl
      | cons d tail =>
        have hd : d ≠ '?' ∧ d ≠ '.' := ⟨htail.ne (by decide), htail.ne (by decide)⟩
        simp [readMark, hd, Lexeme.before]
    | cons d rest =>
      have hd : d ≠ '?' ∧ d ≠ '.' := by
        refine ⟨?_, ?_⟩ <;> rintro rfl
        · exact hdouble rest rfl
        · exact hpoint rest rfl
      simp [readMark, hd, Lexeme.before]
  case h_10 rest hequal | h_11 rest hequal | h_12 rest hequal =>
    cases h
    cases rest with
    | nil =>
      cases tail with
      | nil => rfl
      | cons d tail =>
        have hd : d ≠ '=' := htail.ne (by decide)
        simp [readMark, hd, Lexeme.before]
    | cons d rest =>
      have hd : d ≠ '=' := by
        rintro rfl
        exact hequal rest rfl
      simp [readMark, hd, Lexeme.before]
  all_goals
    cases h
    rfl

/-- A token takes the characters in front of those that it leaves. -/
theorem readLexeme_splits {c : Char} {cs : List Char} {l : Lexeme}
    (h : readLexeme c cs = .ok l) : l.Splits (c :: cs) := by
  unfold readLexeme at h
  split at h
  · rename_i hnumber
    refine readNumber_splits ?_ h
    simpa [Bool.or_eq_true, Bool.and_eq_true] using hnumber
  split at h
  · exact (readText_append h).1
  split at h
  · rename_i hword
    cases h
    exact readWord_splits hword cs
  split at h
  · rename_i hmark
    cases h
    exact readMark_splits hmark
  · cases h

/-- A token is read in the same way in front of what no token goes on with. -/
theorem readLexeme_append {tail : List Char} (htail : Separated tail) {c : Char} {cs : List Char}
    {l : Lexeme} (h : readLexeme c cs = .ok l) :
    readLexeme c (cs ++ tail) = .ok (l.before tail) := by
  unfold readLexeme at h ⊢
  rw [htail.startsWithDigit_append]
  split at h
  · rename_i hnumber
    rw [if_pos hnumber]
    exact readNumber_append htail h
  rename_i hnumber
  rw [if_neg hnumber]
  split at h
  · rename_i hquote
    obtain ⟨hsplits, text, htext, hread⟩ := readText_append h
    have hcs : cs = text ++ l.rest := by simpa [htext] using hsplits.eq.symm
    rw [if_pos hquote, hcs, List.append_assoc]
    exact hread _
  rename_i hquote
  rw [if_neg hquote]
  split at h
  · rename_i hword
    cases h
    rw [if_pos hword, ← List.cons_append, readWord_append htail]
  rename_i hword
  rw [if_neg hword]
  split at h
  · rename_i hmark
    cases h
    rw [← List.cons_append, readMark_append htail hmark]
  · cases h

/-! ## Whole texts -/

/-- The characters are read as the tokens, with blanks between them. -/
inductive Lexes : List Char → List Token → Prop where
  | ending : Lexes [] []
  | blank {c : Char} (hc : Text.isAsciiBlank c = true) {cs : List Char} {ts : List Token}
      (h : Lexes cs ts) : Lexes (c :: cs) ts
  | token {c : Char} (hc : Text.isAsciiBlank c = false) {cs : List Char} {l : Lexeme}
      (hl : readLexeme c cs = .ok l) {ts : List Token} (h : Lexes l.rest ts) :
      Lexes (c :: cs) (l.token :: ts)

namespace Lexes

variable {cs ds : List Char} {ts us : List Token}

/-- The end is none of the tokens of a text. -/
theorem ne_ending (h : Lexes cs ts) : ∀ t ∈ ts, t ≠ .ending := by
  induction h with
  | ending => exact List.forall_mem_nil _
  | blank _ _ ih => exact ih
  | token _ hl _ ih => exact List.forall_mem_cons.mpr ⟨(readLexeme_splits hl).token, ih⟩

/-- Blanks in front of tokens are passed over. -/
theorem blanks (hcs : ∀ c ∈ cs, Text.isAsciiBlank c = true) (h : Lexes ds ts) :
    Lexes (cs ++ ds) ts := by
  induction cs with
  | nil => exact h
  | cons c cs ih =>
    obtain ⟨hc, hcs⟩ := List.forall_mem_cons.mp hcs
    exact .blank hc (ih hcs)

/-- A text that goes on with what no token goes on with has the tokens of both parts. -/
theorem append (h : Lexes cs ts) (hds : Separated ds) (hds' : Lexes ds us) :
    Lexes (cs ++ ds) (ts ++ us) := by
  induction h with
  | ending => exact hds'
  | blank hc _ ih => exact .blank hc ih
  | token hc hl _ ih => exact .token hc (readLexeme_append hds hl) ih

end Lexes

/-- The first character is as wide as its bytes are many, and the others stand behind it. -/
theorem width_cons (c : Char) (cs : List Char) : width (c :: cs) = c.utf8Size + width cs := by
  have hshift : ∀ (cs : List Char) (n k : Nat),
      cs.foldl (fun n c => n + c.utf8Size) (n + k) =
        n + cs.foldl (fun n c => n + c.utf8Size) k := by
    intro cs
    induction cs with
    | nil => exact fun _ _ => rfl
    | cons c cs ih =>
      intro n k
      rw [List.foldl_cons, List.foldl_cons, Nat.add_assoc, ih]
  rw [width, width, List.foldl_cons, Nat.zero_add, ← Nat.add_zero c.utf8Size, hshift]
  rfl

section Steps

variable {c : Char}

/-- At the end of the text there is the end alone. -/
theorem tokensFrom_nil (fuel start : Nat) :
    tokensFrom fuel start [] = .ok [⟨.ending, start⟩] := by
  unfold tokensFrom
  rfl

/-- A blank moves the tokens behind it. -/
theorem tokensFrom_blank (hc : Text.isAsciiBlank c = true) (fuel start : Nat) (cs : List Char) :
    tokensFrom fuel start (c :: cs) = tokensFrom fuel (start + c.utf8Size) cs := by
  unfold tokensFrom
  rw [List.takeWhile_cons_of_pos hc, List.dropWhile_cons_of_pos hc, width_cons, Nat.add_assoc]

/-- Any other character starts a token. -/
theorem tokensFrom_token (hc : Text.isAsciiBlank c = false) (fuel start : Nat) (cs : List Char) :
    tokensFrom (fuel + 1) start (c :: cs) =
      match readLexeme c cs with
      | .error (at_, fault) => .error ⟨start + at_, fault⟩
      | .ok l =>
        tokensFrom fuel (start + width l.text) l.rest >>= fun later =>
          .ok (⟨l.token, start⟩ :: later) := by
  have hstop : ¬Text.isAsciiBlank c = true := by simp [hc]
  rw [tokensFrom.eq_def]
  dsimp only
  rw [List.takeWhile_cons_of_neg hstop, List.dropWhile_cons_of_neg hstop]
  rfl

end Steps

/-- The characters, the first of which is at an offset, are read as the tokens at their offsets,
with blanks between them and the end behind them. -/
inductive LexesAt : Nat → List Char → List Located → Prop where
  | ending (start : Nat) : LexesAt start [] [⟨.ending, start⟩]
  | blank {start : Nat} {c : Char} (hc : Text.isAsciiBlank c = true) {cs : List Char}
      {all : List Located} (h : LexesAt (start + c.utf8Size) cs all) : LexesAt start (c :: cs) all
  | token {start : Nat} {c : Char} (hc : Text.isAsciiBlank c = false) {cs : List Char} {l : Lexeme}
      (hl : readLexeme c cs = .ok l) {later : List Located}
      (h : LexesAt (start + width l.text) l.rest later) :
      LexesAt start (c :: cs) (⟨l.token, start⟩ :: later)

/-- The places where reading tokens stops in a text: at its end, at a blank, and at any other
character, which starts a token in front of what it leaves. -/
@[elab_as_elim]
theorem lexing_induction {motive : List Char → Prop} (cs : List Char) (nil : motive [])
    (blank : ∀ c cs, Text.isAsciiBlank c = true → motive cs → motive (c :: cs))
    (token : ∀ c cs, Text.isAsciiBlank c = false →
      (∀ l, readLexeme c cs = .ok l → motive l.rest) → motive (c :: cs)) : motive cs := by
  induction hn : cs.length using Nat.strongRecOn generalizing cs with
  | ind n ih =>
    subst hn
    cases cs with
    | nil => exact nil
    | cons c cs =>
      cases hc : Text.isAsciiBlank c with
      | true => exact blank c cs hc (ih cs.length (Nat.lt_succ_self _) cs rfl)
      | false =>
        exact token c cs hc fun l hl => ih _ (readLexeme_splits hl).length_rest_lt l.rest rfl

/-- The tokens that are read are those at their offsets. -/
theorem tokensFrom_eq_ok_iff {fuel start : Nat} {cs : List Char} (hfuel : cs.length ≤ fuel)
    {all : List Located} : tokensFrom fuel start cs = .ok all ↔ LexesAt start cs all := by
  induction cs using lexing_induction generalizing fuel start all with
  | nil =>
    rw [tokensFrom_nil]
    constructor
    · rintro ⟨⟩
      exact .ending start
    · rintro ⟨⟩
      rfl
  | blank c cs hc ih =>
    rw [tokensFrom_blank hc, ih (Nat.le_of_succ_le hfuel)]
    constructor
    · exact .blank hc
    · intro h
      cases h with
      | blank _ h => exact h
      | token hc' => exact absurd (hc'.symm.trans hc) Bool.false_ne_true
  | token c cs hc ih =>
    obtain ⟨fuel, rfl⟩ := Nat.exists_eq_add_of_le' (Nat.le_of_add_left_le hfuel)
    have hrest : ∀ {l}, readLexeme c cs = .ok l → l.rest.length ≤ fuel := fun hl =>
      Nat.le_of_lt_succ (Nat.lt_of_lt_of_le (readLexeme_splits hl).length_rest_lt hfuel)
    rw [tokensFrom_token hc]
    constructor
    · intro h
      split at h
      · cases h
      · rename_i l hl
        obtain ⟨later, hlater, hall⟩ := Except.bind_eq_ok_iff.mp h
        cases hall
        exact .token hc hl ((ih l hl (hrest hl)).mp hlater)
    · intro h
      cases h with
      | blank hc' => exact absurd (hc.symm.trans hc') Bool.false_ne_true
      | @token _ _ _ _ l hl later hlater =>
        rw [hl]
        exact Except.bind_eq_ok_iff.mpr ⟨later, (ih l hl (hrest hl)).mpr hlater, rfl⟩

/-- Tokens at their offsets are those of the text, and their end stands behind them. -/
theorem LexesAt.lexes {start : Nat} {cs : List Char} {all : List Located}
    (h : LexesAt start cs all) :
    ∃ located ending, all = located ++ [⟨.ending, ending⟩] ∧
      Lexes cs (located.map (·.token)) := by
  induction h with
  | ending start => exact ⟨[], start, rfl, .ending⟩
  | blank hc _ ih =>
    obtain ⟨located, ending, hall, hlexes⟩ := ih
    exact ⟨located, ending, hall, .blank hc hlexes⟩
  | @token start c hc cs l hl later _ ih =>
    obtain ⟨located, ending, rfl, hlexes⟩ := ih
    exact ⟨⟨l.token, start⟩ :: located, ending, rfl, .token hc hl hlexes⟩

/-- The tokens of a text are at offsets. -/
theorem Lexes.located {cs : List Char} {ts : List Token} (h : Lexes cs ts) (start : Nat) :
    ∃ located ending, LexesAt start cs (located ++ [⟨.ending, ending⟩]) ∧
      located.map (·.token) = ts := by
  induction h generalizing start with
  | ending => exact ⟨[], start, .ending start, rfl⟩
  | @blank c hc cs ts _ ih =>
    obtain ⟨located, ending, hall, hts⟩ := ih (start + c.utf8Size)
    exact ⟨located, ending, .blank hc hall, hts⟩
  | @token c hc cs l hl ts _ ih =>
    obtain ⟨located, ending, hall, rfl⟩ := ih (start + width l.text)
    exact ⟨⟨l.token, start⟩ :: located, ending, .token hc hl hall, rfl⟩

/-- Tokenizing returns the tokens of the text at their offsets. -/
theorem tokenize_eq_ok_iff {source : String} {all : List Located} :
    tokenize source = .ok all ↔ LexesAt 0 source.toList all :=
  tokensFrom_eq_ok_iff (Nat.le_refl _)

/-- What tokenizing returns. -/
theorem tokenize_eq_ok {source : String} {all : List Located} (h : tokenize source = .ok all) :
    ∃ located ending, all = located ++ [⟨.ending, ending⟩] ∧
      Lexes source.toList (located.map (·.token)) :=
  (tokenize_eq_ok_iff.mp h).lexes

/-- The tokens of a text are what tokenizing returns. -/
theorem Lexes.tokenize {source : String} {ts : List Token} (h : Lexes source.toList ts) :
    ∃ located ending, tokenize source = .ok (located ++ [⟨.ending, ending⟩]) ∧
      located.map (·.token) = ts := by
  obtain ⟨located, ending, hall, hts⟩ := h.located 0
  exact ⟨located, ending, tokenize_eq_ok_iff.mpr hall, hts⟩

end Telemetry.Condition
