import Telemetry.Proofs.Condition.NumberLiterals
import Telemetry.Proofs.Condition.Offsets

/-!
# Texts cut into tokens

The tokens of a text cut it at their offsets. Each token takes its own characters, and behind them
there are only blanks up to the next token. A token is read in the same way when its own characters
stand alone, so it depends on nothing else, and no layout with a blank between any two tokens
changes a token or loses one.
-/

namespace Telemetry.Condition

/-! ## Tokens by themselves -/

section Alone

variable {c : Char} {cs es : List Char} {l : Lexeme}

/-- A token with nothing behind it. -/
def Lexeme.alone (l : Lexeme) : Lexeme := ⟨l.token, l.text, []⟩

/-- A row of digits and underscores keeps the digit that it starts with. -/
theorem startsWithDigit_run (h : startsWithDigit cs = true) (tail : List Char) :
    startsWithDigit (cs.takeWhile isNumberChar ++ tail) = true := by
  cases cs with
  | nil => exact absurd h Bool.false_ne_true
  | cons d cs =>
    have hd : isNumberChar d = true := by
      rw [isNumberChar, Bool.or_eq_true]
      exact .inl h
    rw [List.takeWhile_cons_of_pos hd]
    exact h

namespace IsExponent

/-- An exponent takes all of its own text. -/
theorem exponentText_eq (h : IsExponent es) : exponentText es = es := by
  have hrun : ∀ ds : List Char, (∀ c ∈ ds, Text.isDigit c = true) →
      ds.takeWhile Text.isDigit = ds := fun ds hds => List.takeWhile_eq_self_iff.mpr hds
  cases h with
  | none => rfl
  | @unsigned e ds he hds hne =>
    obtain ⟨d, ds, rfl⟩ := List.exists_cons_of_ne_nil hne
    have hd : Text.isDigit d = true := hds d List.mem_cons_self
    have hsign : d ≠ '+' ∧ d ≠ '-' := by
      constructor <;> rintro rfl <;> cases hd
    rcases he with rfl | rfl <;> simp [exponentText, startsWithDigit, hsign, hd, hrun _ hds]
  | @signed e s ds he hs hds hne =>
    obtain ⟨d, ds, rfl⟩ := List.exists_cons_of_ne_nil hne
    have hd : Text.isDigit d = true := hds d List.mem_cons_self
    rcases he with rfl | rfl <;> rcases hs with rfl | rfl <;>
      simp [exponentText, startsWithDigit, hd, hrun _ hds]

/-- An exponent does not begin as a number does. -/
theorem takeWhile_isNumberChar (h : IsExponent es) : es.takeWhile isNumberChar = [] := by
  cases h with
  | none => rfl
  | unsigned he => rcases he with rfl | rfl <;> rfl
  | signed he => rcases he with rfl | rfl <;> rfl

/-- An exponent does not begin with a fraction. -/
theorem fractionText_eq_nil (h : IsExponent es) : fractionText es = [] := by
  cases h with
  | none => rfl
  | unsigned he => rcases he with rfl | rfl <;> rfl
  | signed he => rcases he with rfl | rfl <;> rfl

/-- A fraction takes all of its own text in front of an exponent. -/
theorem fractionText_append (h : IsExponent es) (cs : List Char) :
    fractionText (fractionText cs ++ es) = fractionText cs := by
  fun_cases fractionText cs with
  | case1 ds hdigit =>
    have hall : ∀ c ∈ ds.takeWhile isNumberChar, isNumberChar c = true :=
      List.all_eq_true.mp List.all_takeWhile
    have hrun : (ds.takeWhile isNumberChar ++ es).takeWhile isNumberChar =
        ds.takeWhile isNumberChar := by
      rw [List.takeWhile_append_of_pos hall, h.takeWhile_isNumberChar, List.append_nil]
    rw [List.cons_append, fractionText, if_pos (startsWithDigit_run hdigit es), hrun]
  | case2 => exact h.fractionText_eq_nil
  | case3 => exact h.fractionText_eq_nil

end IsExponent

/-- Neither a fraction nor an exponent goes on with the digits in front of it. -/
theorem IsFraction.takeWhile_isNumberChar {fraction : List Char} (hfraction : IsFraction fraction)
    (hexponent : IsExponent es) : (fraction ++ es).takeWhile isNumberChar = [] := by
  cases hfraction with
  | none => exact hexponent.takeWhile_isNumberChar
  | point => rfl

/-- The text of a number has the parts that were read. -/
theorem readNumber_alone (h : readNumber cs = .ok l) : readNumber l.text = .ok l.alone := by
  have hwhole : ∀ c ∈ cs.takeWhile isNumberChar, isNumberChar c = true :=
    List.all_eq_true.mp List.all_takeWhile
  unfold readNumber at h
  dsimp only at h
  generalize cs.takeWhile isNumberChar = whole at h hwhole
  generalize cs.drop whole.length = afterWhole at h
  have hexponent := exponentText_isExponent (afterWhole.drop (fractionText afterWhole).length)
  generalize exponentText _ = exponent at h hexponent
  have hfraction := hexponent.fractionText_append afterWhole
  have hdigits := (fractionText_isFraction afterWhole).takeWhile_isNumberChar hexponent
  generalize fractionText afterWhole = fraction at h hfraction hdigits
  have hrun : (whole ++ (fraction ++ exponent)).takeWhile isNumberChar = whole := by
    rw [List.takeWhile_append_of_pos hwhole, hdigits, List.append_nil]
  have htext : l.text = whole ++ (fraction ++ exponent) := by
    rw [← List.append_assoc]
    split at h
    · split at h <;> cases h
      rfl
    · cases h
      rfl
  unfold readNumber
  dsimp only
  rw [htext, hrun, List.drop_left, hfraction, List.drop_left, hexponent.exponentText_eq,
    List.drop_length]
  split at h
  · rename_i hinteger
    rw [if_pos hinteger]
    split at h
    · cases h
      rfl
    · cases h
  · rename_i hreal
    rw [if_neg hreal]
    cases h
    rfl

/-- A word is read from its own text. -/
theorem readWord_alone (cs : List Char) : readWord (readWord cs).text = (readWord cs).alone := by
  have hrun : (cs.takeWhile isWordChar).takeWhile isWordChar = cs.takeWhile isWordChar :=
    List.takeWhile_eq_self_iff.mpr (List.all_eq_true.mp List.all_takeWhile)
  simp [readWord, hrun, Lexeme.alone]

/-- A mark is read from its own text. -/
theorem readMark_alone (h : readMark cs = some l) : readMark l.text = some l.alone := by
  unfold readMark at h
  split at h
  case h_8 =>
    split at h <;>
      · cases h
        rfl
  case h_25 => cases h
  all_goals
    cases h
    rfl

/-- A number that starts with a point has a digit behind it. -/
theorem startsWithDigit_of_readNumber (hdigit : startsWithDigit cs = true)
    (h : readNumber ('.' :: cs) = .ok l) {ds : List Char} (htext : l.text = '.' :: ds) :
    startsWithDigit ds = true := by
  have hfraction : fractionText ('.' :: cs) = '.' :: cs.takeWhile isNumberChar := by
    rw [fractionText, if_pos hdigit]
  have hwhole : ('.' :: cs).takeWhile isNumberChar = [] := rfl
  unfold readNumber at h
  dsimp only at h
  rw [hwhole, List.length_nil, List.drop_zero, hfraction] at h
  cases h
  obtain ⟨-, rfl⟩ := List.cons.inj htext
  exact startsWithDigit_run hdigit _

/-- The characters of a token are read as the token, with nothing left. -/
theorem readLexeme_alone (h : readLexeme c cs = .ok l) :
    ∃ ds, l.text = c :: ds ∧ readLexeme c ds = .ok l.alone := by
  have hsplits := readLexeme_splits h
  obtain ⟨d, ds, htext⟩ := List.exists_cons_of_ne_nil hsplits.text
  obtain ⟨rfl, hcs⟩ : d = c ∧ ds ++ l.rest = cs := by simpa [htext] using hsplits.eq
  refine ⟨ds, htext, ?_⟩
  have hdigits : startsWithDigit ds = true → startsWithDigit cs = true := by
    intro hds
    cases ds with
    | nil => exact absurd hds Bool.false_ne_true
    | cons => exact hcs ▸ hds
  unfold readLexeme at h ⊢
  split at h
  · rename_i hnumber
    have hnumber' : (Text.isDigit d || (d == '.' && startsWithDigit ds)) = true := by
      simp only [Bool.or_eq_true, Bool.and_eq_true, beq_iff_eq] at hnumber ⊢
      rcases hnumber with hd | ⟨rfl, hdigit⟩
      · exact .inl hd
      · exact .inr ⟨rfl, startsWithDigit_of_readNumber hdigit h htext⟩
    rw [if_pos hnumber', ← htext]
    exact readNumber_alone h
  rename_i hnumber
  have hnumber' : ¬(Text.isDigit d || (d == '.' && startsWithDigit ds)) = true := by
    simp only [Bool.or_eq_true, Bool.and_eq_true] at hnumber ⊢
    exact fun hd => hnumber (hd.imp_right (And.imp_right hdigits))
  rw [if_neg hnumber']
  split at h
  · rename_i hquote
    obtain ⟨-, text, htext', hread⟩ := readText_append h
    obtain ⟨-, rfl⟩ := List.cons.inj (htext.symm.trans htext')
    rw [if_pos hquote]
    simpa [Lexeme.alone] using hread []
  rename_i hquote
  rw [if_neg hquote]
  split at h
  · rename_i hword
    cases h
    rw [if_pos hword, ← htext, readWord_alone]
  rename_i hword
  rw [if_neg hword, ← htext]
  split at h
  · rename_i hmark
    cases h
    rw [readMark_alone hmark]
  · cases h

/-- The characters of a token are tokenized as the token. -/
theorem tokenize_text (hc : Text.isAsciiBlank c = false) (h : readLexeme c cs = .ok l) :
    tokenize (String.ofList l.text) = .ok [⟨l.token, 0⟩, ⟨.ending, width l.text⟩] := by
  obtain ⟨ds, htext, hl⟩ := readLexeme_alone h
  have hat : LexesAt 0 (c :: ds) _ := .token hc hl (.ending _)
  rw [tokenize_eq_ok_iff, String.toList_ofList, htext]
  simpa only [Lexeme.alone, htext, Nat.zero_add] using hat

/-- The characters of a token have the token as their only one. -/
theorem lexes_text (hc : Text.isAsciiBlank c = false) (h : readLexeme c cs = .ok l) :
    Lexes l.text [l.token] := by
  obtain ⟨ds, htext, hl⟩ := readLexeme_alone h
  rw [htext]
  exact .token hc hl .ending

end Alone

/-! ## Texts with blanks between them -/

/-- Whether there are only blanks. -/
def AllBlank (cs : List Char) : Prop := ∀ c ∈ cs, Text.isAsciiBlank c = true

/-- The texts in a row, with one blank or more between any two of them. -/
inductive Joined : List (List Char) → List Char → Prop where
  | none : Joined [] []
  | one (text : List Char) : Joined [text] text
  | more {blanks : List Char} (hne : blanks ≠ []) (hblanks : AllBlank blanks)
      {text next : List Char} {texts : List (List Char)} {joined : List Char}
      (h : Joined (next :: texts) joined) :
      Joined (text :: next :: texts) (text ++ (blanks ++ joined))

/-- The blanks may be the same everywhere. -/
theorem joined_intercalate {blanks : List Char} (hne : blanks ≠ []) (hblanks : AllBlank blanks)
    (texts : List (List Char)) : Joined texts (blanks.intercalate texts) := by
  induction texts with
  | nil => exact .none
  | cons text texts ih =>
    cases texts with
    | nil =>
      rw [List.intercalate_singleton]
      exact .one text
    | cons next texts =>
      rw [List.intercalate_cons_cons, List.append_assoc]
      exact .more hne hblanks ih

/-- Texts of single tokens have these tokens together. -/
theorem Joined.lexes {texts : List (List Char)} {joined : List Char} (h : Joined texts joined)
    {ts : List Token} (hts : List.Forall₂ (fun text t => Lexes text [t]) texts ts) :
    Lexes joined ts := by
  induction h generalizing ts with
  | none =>
    cases hts
    exact .ending
  | one text =>
    obtain ⟨t, ts, ht, hnil, rfl⟩ := List.forall₂_cons_left_iff.mp hts
    cases hnil
    exact ht
  | @more blanks hne hblanks text next texts joined _ ih =>
    obtain ⟨t, ts, ht, hnext, rfl⟩ := List.forall₂_cons_left_iff.mp hts
    have hseparated : Separated (blanks ++ joined) := by
      obtain ⟨c, blanks, rfl⟩ := List.exists_cons_of_ne_nil hne
      exact .blank (hblanks c List.mem_cons_self) _
    exact ht.append hseparated ((ih hnext).blanks hblanks)

/-! ## Tokens at their offsets -/

/-- The characters that the token at an offset takes. -/
def textAt (source : List Char) (offset : Nat) : List Char :=
  match from? source offset with
  | some (c :: cs) =>
    match readLexeme c cs with
    | .ok l => l.text
    | .error _ => []
  | _ => []

/-- The text between the offsets of a token is the one from which it was read. -/
theorem textAt_append (before : List Char) {c : Char} {cs : List Char} {l : Lexeme}
    (hl : readLexeme c cs = .ok l) : textAt (before ++ c :: cs) (width before) = l.text := by
  rw [textAt, from?_append]
  dsimp only
  rw [hl]

namespace LexesAt

variable {start : Nat} {cs : List Char} {all : List Located}

/-- Only blanks stand in front of the first token. -/
theorem front (h : LexesAt start cs all) : ∃ blanks rest first later,
    cs = blanks ++ rest ∧ AllBlank blanks ∧ all = first :: later ∧
      first.offset = start + width blanks := by
  induction h with
  | ending start =>
    exact ⟨[], [], ⟨.ending, start⟩, [], rfl, List.forall_mem_nil _, rfl, rfl⟩
  | @blank start c hc cs all _ ih =>
    obtain ⟨blanks, rest, first, later, rfl, hblanks, rfl, hoffset⟩ := ih
    refine ⟨c :: blanks, rest, first, later, rfl, List.forall_mem_cons.mpr ⟨hc, hblanks⟩, rfl, ?_⟩
    rw [hoffset, width_cons, Nat.add_assoc]
  | @token start c hc cs l hl later _ _ =>
    exact ⟨[], c :: cs, ⟨l.token, start⟩, later, rfl, List.forall_mem_nil _, rfl, rfl⟩

/-- Every token takes at least one byte, so the next one lies behind it. -/
theorem increasing (h : LexesAt start cs all) :
    (∀ t ∈ all, start ≤ t.offset) ∧ all.Pairwise fun t u => t.offset < u.offset := by
  induction h with
  | ending start =>
    exact ⟨List.forall_mem_singleton.mpr (Nat.le_refl _), List.pairwise_singleton _ _⟩
  | blank _ _ ih => exact ⟨fun t ht => Nat.le_of_add_right_le (ih.1 t ht), ih.2⟩
  | @token start c hc cs l hl later _ ih =>
    have hwidth : 0 < width l.text := by
      obtain ⟨d, ds, htext⟩ := List.exists_cons_of_ne_nil (readLexeme_splits hl).text
      rw [htext, width_cons]
      exact Nat.add_pos_left d.utf8Size_pos _
    refine ⟨List.forall_mem_cons.mpr ⟨Nat.le_refl _, fun t ht => ?_⟩,
      List.pairwise_cons.mpr ⟨fun t ht => ?_, ih.2⟩⟩
    · exact Nat.le_of_add_right_le (ih.1 t ht)
    · exact Nat.lt_of_lt_of_le (Nat.lt_add_of_pos_right hwidth) (ih.1 t ht)

/-- Every token but the end is read where it lies. -/
theorem read (h : LexesAt start cs all) (before : List Char) (hstart : start = width before) :
    ∀ t ∈ all, t.token ≠ .ending → ∃ c ds l, Text.isAsciiBlank c = false ∧
      readLexeme c ds = .ok l ∧ l.token = t.token ∧
      textAt (before ++ cs) t.offset = l.text := by
  induction h generalizing before with
  | ending start =>
    rintro t ht hne
    rw [List.mem_singleton.mp ht] at hne
    exact absurd rfl hne
  | @blank start c hc cs all _ ih =>
    have hnext : start + c.utf8Size = width (before ++ [c]) := by
      rw [hstart, width_append, width_cons, width_nil, Nat.add_zero]
    simpa using ih (before ++ [c]) hnext
  | @token start c hc cs l hl later _ ih =>
    have hnext : start + width l.text = width (before ++ l.text) := by
      rw [hstart, width_append]
    rintro t ht hne
    rcases List.mem_cons.mp ht with rfl | ht
    · exact ⟨c, cs, l, hc, hl, rfl, hstart ▸ textAt_append before hl⟩
    · rw [← (readLexeme_splits hl).eq, ← List.append_assoc]
      exact ih (before ++ l.text) hnext t ht hne

/-- Only blanks stand between a token and the next one. -/
theorem between (h : LexesAt start cs all) (before : List Char) (hstart : start = width before) :
    all.IsChain fun t u => ∃ blanks, AllBlank blanks ∧
      slice? (before ++ cs) t.offset u.offset =
        some (textAt (before ++ cs) t.offset ++ blanks) := by
  induction h generalizing before with
  | ending start => exact .singleton _
  | @blank start c hc cs all _ ih =>
    have hnext : start + c.utf8Size = width (before ++ [c]) := by
      rw [hstart, width_append, width_cons, width_nil, Nat.add_zero]
    simpa using ih (before ++ [c]) hnext
  | @token start c hc cs l hl later hlater ih =>
    subst hstart
    have hsplits := readLexeme_splits hl
    have hchain := ih (before ++ l.text) (width_append _ _).symm
    rw [List.append_assoc, hsplits.eq] at hchain
    obtain ⟨blanks, rest, first, later, hrest, hblanks, rfl, hoffset⟩ := hlater.front
    refine .cons_cons ⟨blanks, hblanks, ?_⟩ hchain
    have hslice := slice?_append before (l.text ++ blanks) rest
    rw [width_append, ← Nat.add_assoc, ← hoffset, List.append_assoc, ← hrest, hsplits.eq] at hslice
    rw [hslice, textAt_append before hl]

end LexesAt

/-- How the tokens cut a text. -/
structure Cuts (source : String) (all : List Located) : Prop where
  /-- Every token lies behind the one before it. -/
  increasing : all.Pairwise fun t u => t.offset < u.offset
  /-- The last one is the end, at the length of the text. -/
  ending : all.getLast? = some ⟨.ending, source.utf8ByteSize⟩
  /-- Only blanks stand in front of the first one. -/
  front : ∀ first ∈ all.head?, ∃ blanks, AllBlank blanks ∧
    upTo? source.toList first.offset = some blanks
  /-- Up to the next one, only blanks stand behind the characters of a token. -/
  between : all.IsChain fun t u => ∃ blanks, AllBlank blanks ∧
    slice? source.toList t.offset u.offset = some (textAt source.toList t.offset ++ blanks)
  /-- The characters of a token alone are tokenized as this token. -/
  alone : ∀ t ∈ all.dropLast, tokenize (String.ofList (textAt source.toList t.offset)) =
    .ok [⟨t.token, 0⟩, ⟨.ending, width (textAt source.toList t.offset)⟩]
  /-- The characters of all tokens have the same tokens, whatever blanks are put between them. -/
  rejoined : ∀ joined,
    Joined (all.dropLast.map fun t => textAt source.toList t.offset) joined →
      ∃ again, tokenize (String.ofList joined) = .ok again ∧
        again.map (·.token) = all.map (·.token)

/-- Tokenizing cuts the text, and no layout changes a token or loses one. -/
theorem tokenize_cuts {source : String} {all : List Located} (h : tokenize source = .ok all) :
    Cuts source all := by
  have hall := tokenize_eq_ok_iff.mp h
  obtain ⟨-, located, hlocated, hne⟩ := (tokenize_ends source).result_of_eq h
  have hdrop : all.dropLast = located := by rw [hlocated, List.dropLast_concat]
  have hread : ∀ t ∈ located, ∃ c ds l, Text.isAsciiBlank c = false ∧ readLexeme c ds = .ok l ∧
      l.token = t.token ∧ textAt source.toList t.offset = l.text := by
    intro t ht
    have hmem : t ∈ all := by
      rw [hlocated]
      exact List.mem_append_left _ ht
    exact hall.read [] rfl t hmem (hne t ht)
  constructor
  case increasing => exact hall.increasing.2
  case ending => rw [hlocated, List.getLast?_concat, width_toList]
  case front =>
    obtain ⟨blanks, rest, first, later, hsource, hblanks, rfl, hoffset⟩ := hall.front
    rintro _ ⟨⟩
    refine ⟨blanks, hblanks, ?_⟩
    rw [hsource, hoffset, Nat.zero_add, upTo?_append]
  case between => exact hall.between [] rfl
  case alone =>
    rw [hdrop]
    intro t ht
    obtain ⟨c, ds, l, hc, hl, htoken, htext⟩ := hread t ht
    rw [htext, ← htoken]
    exact tokenize_text hc hl
  case rejoined =>
    rw [hdrop]
    intro joined hjoined
    have hlexes : Lexes joined (located.map (·.token)) := by
      refine hjoined.lexes ?_
      rw [List.forall₂_map_left_iff, List.forall₂_map_right_iff, List.forall₂_same]
      intro t ht
      obtain ⟨c, ds, l, hc, hl, htoken, htext⟩ := hread t ht
      rw [htext, ← htoken]
      exact lexes_text hc hl
    rw [← String.toList_ofList (l := joined)] at hlexes
    obtain ⟨again, stop, hagain, htokens⟩ := hlexes.tokenize
    refine ⟨_, hagain, ?_⟩
    rw [hlocated, List.map_append, List.map_append, htokens]
    rfl

/-- A question mark in front of a fraction, cut and put together again with line feeds. -/
theorem tokenize_cuts_fraction :
    let all : List Located := [⟨.word "x", 0⟩, ⟨.question, 1⟩, ⟨.float 0.5, 2⟩, ⟨.colon, 4⟩,
      ⟨.int 1, 5⟩, ⟨.ending, 6⟩]
    tokenize "x?.5:1" = .ok all ∧ Cuts "x?.5:1" all ∧
      ∃ again, tokenize "x\n?\n.5\n:\n1" = .ok again ∧
        again.map (·.token) = all.map (·.token) := by
  intro all
  have htokens : tokenize "x?.5:1" = .ok all := by decide +kernel
  have hcuts := tokenize_cuts htokens
  have hblanks : AllBlank ['\n'] := List.forall_mem_singleton.mpr rfl
  have hagain := hcuts.rejoined _ (joined_intercalate (List.cons_ne_nil _ _) hblanks _)
  have htext : String.ofList (['\n'].intercalate
      (all.dropLast.map fun t => textAt "x?.5:1".toList t.offset)) = "x\n?\n.5\n:\n1" := by
    decide +kernel
  exact ⟨htokens, hcuts, htext ▸ hagain⟩

end Telemetry.Condition
