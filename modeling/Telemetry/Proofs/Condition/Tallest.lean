import Mathlib.Order.Bounds.Basic
import Telemetry.Proofs.Condition.Height
import Telemetry.Proofs.Condition.RoundTrip

/-!
# The highest conditions

The bounds on the heights of conditions are reached. A condition that takes all of its levels at
every place is a choice, whose test is a chain of operators behind a chain of members behind an
array, and the item of the array is such a condition for one level less.
-/

namespace Telemetry.Condition

namespace Expr

/-- An object with so many members behind it. -/
def withMembers (object : Expr) : Nat → Expr
  | 0 => object
  | n + 1 => .member (object.withMembers n) "a" false

/-- An operand with so many summands behind it. -/
def withSummands (left : Expr) : Nat → Expr
  | 0 => left
  | n + 1 => .binary .add (left.withSummands n) (.name "a")

/-- A condition that takes so many levels, and all of them at every place. -/
def highest : Nat → Expr
  | 0 => .name "a"
  | n + 1 =>
    .choice (((array [highest n]).withMembers (n + 1)).withSummands (n + 1)) (.name "a") (.name "a")

example : (highest 1).print '"' = "[ a ] . a + a ? a : a" := by decide

/-! ## Heights -/

/-- Each member adds one to the height of an object. -/
theorem withMembers_height (object : Expr) (n : Nat) :
    (object.withMembers n).height = object.height + n := by
  induction n with
  | zero => rfl
  | succ n ih =>
    simp only [withMembers, height, ih]
    omega

/-- Each summand adds one to the height of an operand. -/
theorem withSummands_height {left : Expr} (h : 1 ≤ left.height) (n : Nat) :
    (left.withSummands n).height = left.height + n := by
  induction n with
  | zero => rfl
  | succ n ih =>
    simp only [withSummands, height, ih]
    omega

/-- The highest condition has the greatest height that its levels allow. -/
theorem highest_height (n : Nat) : (highest n).height = tallest (n + 1) := by
  induction n with
  | zero => rfl
  | succ n ih =>
    have harray : (array [highest n]).height = tallest (n + 1) + 1 := by
      simp only [height, heightOfAll, ih]
      omega
    have htest : (((array [highest n]).withMembers (n + 1)).withSummands (n + 1)).height =
        tallest (n + 1) + 1 + (n + 1) + (n + 1) := by
      rw [withSummands_height (by rw [withMembers_height]; omega), withMembers_height, harray]
    rw [tallest_add_two, highest, height, htest]
    simp only [height]
    omega

/-! ## Texts -/

/-- Members of an object that can be written can be written. -/
theorem withMembers_isPrintable {object : Expr} (h : object.isPrintable = true) (n : Nat) :
    (object.withMembers n).isPrintable = true := by
  induction n with
  | zero => exact h
  | succ n ih =>
    rw [withMembers, isPrintable, ih]
    decide

/-- Summands behind an operand that can be written can be written. -/
theorem withSummands_isPrintable {left : Expr} (h : left.isPrintable = true) (n : Nat) :
    (left.withSummands n).isPrintable = true := by
  induction n with
  | zero => exact h
  | succ n ih =>
    rw [withSummands, isPrintable, ih]
    decide

/-- The highest condition can be written. -/
theorem highest_isPrintable (n : Nat) : (highest n).isPrintable = true := by
  induction n with
  | zero => decide
  | succ n ih =>
    have harray : (array [highest n]).isPrintable = true := by
      simp only [isPrintable, allPrintable, ih, Bool.and_self]
    rw [highest, isPrintable,
      withSummands_isPrintable (withMembers_isPrintable harray (n + 1)) (n + 1)]
    decide

/-! ## Levels -/

/-- No parentheses stand around an operand that binds tightly enough. -/
theorem enclosed_of_le {precedence least : Nat} (h : least ≤ precedence) (ts : List Token) :
    enclosed precedence least ts = ts :=
  if_neg (Nat.not_lt.mpr h)

/-- An object with members is an object still. -/
theorem withMembers_precedence {object : Expr} (h : object.precedence = 8) (n : Nat) :
    (object.withMembers n).precedence = 8 := by
  cases n with
  | zero => exact h
  | succ n => rfl

/-- An operand with summands is no looser than a sum. -/
theorem withSummands_precedence {left : Expr} (h : 5 ≤ left.precedence) (n : Nat) :
    5 ≤ (left.withSummands n).precedence := by
  cases n with
  | zero => exact h
  | succ n => exact Nat.le_refl 5

/-- A single name is an object that takes no levels. -/
theorem name_reads {ts : List Located} (hts : ts.map (·.token) = (name "a").tokens) :
    ReadsObject 0 (name "a") ts 0 := by
  obtain ⟨⟨token, offset⟩, rfl, rfl⟩ := List.map_eq_singleton_iff.mp hts
  refine readsObject_single (by simp) fun inner ending rest hcall => ?_
  rw [primary_word (by decide), if_neg hcall]

variable {levels : Nat}

/-- Each member takes a level of the spine, and none besides. -/
theorem withMembers_reads {object : Expr} (hprecedence : object.precedence = 8)
    (h : ∀ ts : List Located, ts.map (·.token) = object.tokens → ReadsObject levels object ts 0)
    (n : Nat) {ts : List Located} (hts : ts.map (·.token) = (object.withMembers n).tokens) :
    ReadsObject levels (object.withMembers n) ts n := by
  induction n generalizing ts with
  | zero => exact h ts hts
  | succ n ih =>
    rw [withMembers, tokens, enclosed_of_le (withMembers_precedence hprecedence n).ge] at hts
    obtain ⟨front, tail, rfl, hfront, htail⟩ := List.map_eq_append_iff.mp hts
    obtain ⟨mark, words, rfl, hmark, hwords⟩ := List.map_eq_cons_iff.mp htail
    obtain ⟨word, rfl, hword⟩ := List.map_eq_singleton_iff.mp hwords
    exact (ih hfront).member hmark hword

/-- Each summand takes a level of the spine, and none besides. -/
theorem withSummands_reads {left : Expr} (hprecedence : 5 ≤ left.precedence)
    (h : ∀ ts : List Located, ts.map (·.token) = left.tokens → ReadsUnary levels left ts)
    {n : Nat} (hn : n ≤ levels) {ts : List Located}
    (hts : ts.map (·.token) = (left.withSummands n).tokens) :
    ∃ bound, 5 < bound ∧ ReadsChain levels (left.withSummands n) ts n 5 bound := by
  induction n generalizing ts with
  | zero => exact ⟨7, by decide, (h ts hts).chain 5⟩
  | succ n ih =>
    have htight : BinaryOp.add.leftPrecedence ≤ (left.withSummands n).precedence :=
      withSummands_precedence hprecedence n
    rw [withSummands, tokens, enclosed_of_le htight] at hts
    obtain ⟨front, tail, rfl, hfront, htail⟩ := List.map_eq_append_iff.mp hts
    obtain ⟨mark, back, rfl, hmark, hback⟩ := List.map_eq_append_iff.mp htail
    obtain ⟨bound, hbound, hleft⟩ := ih (Nat.le_of_succ_le hn) hfront
    have hright : ReadsChain 0 (name "a") back 0 8 7 :=
      ((name_reads hback).unary (Nat.le_refl 0)).chain 8
    have hspelling : mark.map (·.token) ∈ BinaryOp.add.spellings := hmark ▸ List.mem_cons_self
    exact ⟨6, by decide, hleft.binary hright (Nat.le_refl 0) (by omega) hspelling (Nat.le_refl 5)
      hbound (by decide) (by decide)⟩

/-- The highest condition is read with the levels for which it is made. -/
theorem highest_reads (n : Nat) {ts : List Located} (hts : ts.map (·.token) = (highest n).tokens) :
    ReadsWhole n (highest n) ts := by
  induction n generalizing ts with
  | zero =>
    exact (((name_reads hts).unary (Nat.le_refl 0)).chain 8).whole (Nat.le_refl 0) (by decide)
      (by decide)
  | succ n ih =>
    have harray : ∀ ts : List Located, ts.map (·.token) = (array [highest n]).tokens →
        ReadsObject (n + 1) (array [highest n]) ts 0 := by
      intro ts hts
      obtain ⟨first, inner, last, rfl, hfirst, hinner, hlast⟩ := bracketed_of_map hts
      have hlisting : Listing ([((highest n).tokens, highest n)].map (·.1))
          (inner.map (·.token)) := by
        rw [hinner]
        exact .last _
      refine readsObject_array (fun m hm i hi => ?_) hfirst hlisting hlast
      obtain rfl := List.mem_singleton.mp hi
      exact ⟨tokens_starts _, fun ts ending rest hts hrest => (ih hts).inner hm hrest⟩
    have hmembers : ∀ ts : List Located,
        ts.map (·.token) = ((array [highest n]).withMembers (n + 1)).tokens →
        ReadsUnary (n + 1) ((array [highest n]).withMembers (n + 1)) ts :=
      fun ts hts => (withMembers_reads rfl harray (n + 1) hts).unary (Nat.le_refl _)
    have hprecedence : 5 ≤ ((array [highest n]).withMembers (n + 1)).precedence := by
      rw [withMembers_precedence rfl]
      decide
    have hloose := withSummands_precedence hprecedence (n + 1)
    rw [highest, tokens, enclosed_of_le (by omega)] at hts
    obtain ⟨front, tail, rfl, hfront, htail⟩ := List.map_eq_append_iff.mp hts
    obtain ⟨question, later, rfl, hquestion, hlater⟩ := List.map_eq_cons_iff.mp htail
    obtain ⟨middle, others, rfl, hmiddle, hothers⟩ := List.map_eq_append_iff.mp hlater
    obtain ⟨colon, back, rfl, hcolon, hback⟩ := List.map_eq_cons_iff.mp hothers
    obtain ⟨bound, -, htest⟩ :=
      withSummands_reads hprecedence hmembers (Nat.le_refl (n + 1)) hfront
    have hname : ∀ ts : List Located, ts.map (·.token) = (name "a").tokens →
        ReadsWhole 0 (name "a") ts :=
      fun ts hts => ((name_reads hts).reads (Nat.le_refl 0)).whole
    exact htest.choice (Nat.le_refl _) (by decide) (hname middle hmiddle) (hname back hback)
      (by omega) hquestion hcolon

end Expr

/-- The highest condition for so many levels is accepted with them. -/
theorem parseWithin_highest (n : Nat) :
    parseWithin (n + 1) ((Expr.highest n).print '"') = .ok (Expr.highest n) := by
  obtain ⟨located, ending, hmap, hread⟩ :=
    parseWithin_print (.inr rfl) (Expr.highest_isPrintable n)
  rw [hread]
  exact (Expr.highest_reads n hmap).readWithin (Nat.lt_succ_self n) ending

/-- The highest trees of conditions that may open so many levels are as high as the levels and their
square together, less one. -/
theorem parseWithin_height_isGreatest {levels : Nat} (hlevels : 0 < levels) :
    IsGreatest {height | ∃ source e, parseWithin levels source = .ok e ∧ e.height = height}
      (levels * levels + levels - 1) := by
  obtain ⟨n, rfl⟩ : ∃ n, levels = n + 1 := ⟨levels - 1, by omega⟩
  constructor
  · exact ⟨_, Expr.highest n, parseWithin_highest n, Expr.highest_height n⟩
  · rintro height ⟨source, e, hparse, rfl⟩
    exact parseWithin_height hparse

/-- Conditions that may open so many levels are all no higher than the levels that there are exactly
if they may open no more than ten. -/
theorem parseWithin_height_le_iff (levels : Nat) :
    (∀ source e, parseWithin levels source = .ok e → e.height ≤ levelLimit) ↔ levels ≤ 10 := by
  constructor
  · intro h
    by_contra hmore
    have hread := parseWithin_mono (show 10 + 1 ≤ levels by omega) (parseWithin_highest 10)
    have hheight := h _ _ hread
    rw [Expr.highest_height] at hheight
    exact absurd hheight (by decide)
  · exact fun hfew source e hread => parseWithin_height_le_levelLimit hfew hread

end Telemetry.Condition
