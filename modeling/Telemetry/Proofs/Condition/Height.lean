import Telemetry.Proofs.Condition.Derivation

/-!
# The height of conditions

The levels that are open at once bound how deep a tree is nested, but not how high it is. A chain of
operators or members opens its levels only while it is read, and what stands in front of it has
closed its own levels by then. So the levels count again for each part in front, and what they bound
in the end is the square of their number.
-/

namespace Telemetry.Condition

namespace Expr

mutual

/-- The height of the tree; an operand without parts has height one. -/
def height : Expr → Nat
  | .array items => heightOfAll items + 1
  | .member object _ _ => object.height + 1
  | .index object position => max object.height position.height + 1
  | .call _ arguments => heightOfAll arguments + 1
  | .unary _ operand => operand.height + 1
  | .binary _ left right => max left.height right.height + 1
  | .choice test yes no => max test.height (max yes.height no.height) + 1
  | _ => 1

/-- The height of the highest of the trees. -/
def heightOfAll : List Expr → Nat
  | [] => 0
  | e :: others => max e.height (heightOfAll others)

end

mutual

/-- How deep the tree is nested, where a part in front is no deeper than the tree. -/
def nesting : Expr → Nat
  | .array items => nestingOfAll items + 1
  | .member object _ _ => max object.nesting 2
  | .index object position => max object.nesting (position.nesting + 1)
  | .call _ arguments => nestingOfAll arguments + 1
  | .unary _ operand => operand.nesting + 1
  | .binary _ left right => max left.nesting (right.nesting + 1)
  | .choice test yes no => max test.nesting (max yes.nesting no.nesting + 1)
  | _ => 1

/-- The nesting of the tree that is nested deepest. -/
def nestingOfAll : List Expr → Nat
  | [] => 0
  | e :: others => max e.nesting (nestingOfAll others)

end

mutual

/-- On one way down the tree, the most parts in front that have parts themselves: left operands,
objects of members and indices, and tests of choices. -/
def fronts : Expr → Nat
  | .array items => frontsOfAll items
  | .member object _ _ => if object.height = 1 then 0 else object.fronts + 1
  | .index object position =>
    max (if object.height = 1 then 0 else object.fronts + 1) position.fronts
  | .call _ arguments => frontsOfAll arguments
  | .unary _ operand => operand.fronts
  | .binary _ left right => max (if left.height = 1 then 0 else left.fronts + 1) right.fronts
  | .choice test yes no =>
    max (if test.height = 1 then 0 else test.fronts + 1) (max yes.fronts no.fronts)
  | _ => 0

/-- The most parts in front on one way down one of the trees. -/
def frontsOfAll : List Expr → Nat
  | [] => 0
  | e :: others => max e.fronts (frontsOfAll others)

end

/-- A measure of trees bounds the one of rows of trees that is the greatest of theirs. -/
private theorem ofAll_le {measure : Expr → Nat} {ofAll : List Expr → Nat} (hnil : ofAll [] = 0)
    (hcons : ∀ e es, ofAll (e :: es) = max (measure e) (ofAll es)) {es : List Expr} {n : Nat}
    (h : ∀ e ∈ es, measure e ≤ n) : ofAll es ≤ n := by
  induction es with
  | nil => exact hnil ▸ Nat.zero_le n
  | cons e es ih =>
    obtain ⟨he, hes⟩ := List.forall_mem_cons.mp h
    rw [hcons]
    exact Nat.max_le.mpr ⟨he, ih hes⟩

/-- Trees that are no higher than a bound make a row that is no higher. -/
theorem heightOfAll_le {es : List Expr} {n : Nat} (h : ∀ e ∈ es, e.height ≤ n) :
    heightOfAll es ≤ n :=
  ofAll_le rfl (fun _ _ => rfl) h

/-- Trees that are nested no deeper than a bound make a row that is nested no deeper. -/
theorem nestingOfAll_le {es : List Expr} {n : Nat} (h : ∀ e ∈ es, e.nesting ≤ n) :
    nestingOfAll es ≤ n :=
  ofAll_le rfl (fun _ _ => rfl) h

/-- An operand that is a single token has the height and the nesting one. -/
theorem eq_one_of_isAtom {e : Expr} (h : e.isAtom = true) : e.height = 1 ∧ e.nesting = 1 := by
  cases e <;> first | exact ⟨rfl, rfl⟩ | exact absurd h Bool.false_ne_true

/-- Every tree is nested at least once. -/
theorem nesting_pos (e : Expr) : 1 ≤ e.nesting := by
  induction e with
  | member object | index object | binary _ object | choice object =>
    simp only [nesting]
    omega
  | _ => simp [nesting]

/-- If parts in front make up for the height beyond the nesting in each tree, they do so in the
row. -/
theorem heightOfAll_le_nestingOfAll_add {es : List Expr}
    (h : ∀ e ∈ es, e.height ≤ e.nesting + e.fronts) :
    heightOfAll es ≤ nestingOfAll es + frontsOfAll es := by
  induction es with
  | nil => exact Nat.le_refl 0
  | cons e es ih =>
    obtain ⟨he, hes⟩ := List.forall_mem_cons.mp h
    have hrest := ih hes
    simp only [heightOfAll, nestingOfAll, frontsOfAll]
    omega

/-- A tree is higher than it is nested only by its parts in front. -/
theorem height_le_nesting_add_fronts (e : Expr) : e.height ≤ e.nesting + e.fronts := by
  induction e with
  | array items ih | call _ items ih =>
    have hall := heightOfAll_le_nestingOfAll_add ih
    simp only [height, nesting, fronts]
    omega
  | member object _ _ ih =>
    simp only [height, nesting, fronts]
    split <;> omega
  | index object position iho ihp | binary _ object position iho ihp =>
    have hpos := position.nesting_pos
    simp only [height, nesting, fronts]
    split <;> omega
  | choice test yes no iht ihy ihn =>
    have hpos := yes.nesting_pos
    simp only [height, nesting, fronts]
    split <;> omega
  | unary _ operand ih =>
    simp only [height, nesting, fronts]
    omega
  | _ => exact Nat.le_refl 1

end Expr

/-- The height of the highest tree that is read with so many levels. -/
def tallest (levels : Nat) : Nat := levels * levels + levels - 1

/-- How much one more level adds to the greatest height, where there are two at least. -/
theorem tallest_add_two (n : Nat) : tallest (n + 2) = tallest (n + 1) + 2 * n + 4 := by
  simp only [tallest, Nat.add_mul, Nat.mul_add]
  omega

/-- One more level adds at least two for each of the levels before, and one. -/
theorem tallest_add_le (n : Nat) : tallest n + 2 * n + 1 ≤ tallest (n + 1) := by
  cases n with
  | zero => decide
  | succ n =>
    rw [tallest_add_two]
    omega

/-- With more levels the greatest height is no less. -/
theorem tallest_mono {n k : Nat} (h : n ≤ k) : tallest n ≤ tallest k := by
  induction h with
  | refl => exact Nat.le_refl _
  | @step k _ ih =>
    have hstep : tallest k + 2 * k + 1 ≤ tallest k.succ := tallest_add_le k
    omega

/-! ## Bounds by places -/

namespace Place

/-- How deep a tree in a place is nested at most. -/
def deepest (levels : Nat) : Place → Nat
  | chain left => max left.nesting levels
  | suffixes object => max object.nesting levels
  | _ => levels

/-- How high a tree in a place is at most, by the levels beyond the one of the place. -/
def highest (further : Nat) : Place → Nat
  | whole => tallest (further + 1)
  | operand => tallest further + 2 * further + 1
  | chain left => max left.height (tallest further) + further
  | prefixed => tallest further + further + 1
  | primary => tallest further + 1
  | suffixes object => max object.height (tallest further) + further

end Place

namespace Derives

variable {n : Nat} {place : Place} {e : Expr}

/-- The levels bound how deep a tree is nested. -/
theorem nesting_le (h : Derives n place e) : e.nesting ≤ place.deepest n := by
  induction h with
  | test _ ih => exact ih
  | choice _ _ _ iht ihy ihn =>
    simp only [Place.deepest, Expr.nesting] at *
    omega
  | operand _ _ ihl ih | object _ _ ihl ih =>
    simp only [Place.deepest] at *
    omega
  | chainEnd | suffixesEnd => exact Nat.le_max_left _ _
  | operator _ _ ihr ih | index _ _ ihr ih =>
    simp only [Place.deepest, Expr.nesting] at *
    omega
  | unary _ _ ih => exact Nat.succ_le_succ ih
  | plus _ ih | parenthesised _ ih => exact Nat.le_succ_of_le ih
  | atom hatom =>
    rw [(Expr.eq_one_of_isAtom hatom).2]
    exact Nat.succ_pos _
  | array _ ih | call _ _ ih => exact Nat.succ_le_succ (Expr.nestingOfAll_le ih)
  | member h ih =>
    have hpos := h.levels_pos
    simp only [Place.deepest, Expr.nesting] at *
    omega

/-- The levels bound how high a tree is, and count again for each part in front. -/
theorem height_le (h : Derives n place e) : ∃ further, n = further + 1 ∧
    e.height ≤ place.highest further := by
  induction h with
  | test _ ih =>
    obtain ⟨k, rfl, hk⟩ := ih
    exact ⟨k, rfl, Nat.le_trans hk (tallest_add_le k)⟩
  | @choice n _ _ _ _ _ _ iht ihy ihn =>
    obtain ⟨j, hj, ht⟩ := iht
    obtain ⟨k, rfl, hy⟩ := ihy
    obtain ⟨l, hl, hn⟩ := ihn
    obtain rfl := Nat.succ.inj hj
    obtain rfl := Nat.succ.inj hl
    refine ⟨k + 1, rfl, ?_⟩
    have hstep : tallest (k + 1 + 1) = tallest (k + 1) + 2 * k + 4 := tallest_add_two k
    simp only [Place.highest, Expr.height] at *
    omega
  | operand _ _ ihl ih =>
    obtain ⟨k, rfl, hl⟩ := ihl
    obtain ⟨j, hj, h⟩ := ih
    obtain rfl := Nat.succ.inj hj
    refine ⟨k, rfl, ?_⟩
    simp only [Place.highest] at *
    omega
  | chainEnd | suffixesEnd =>
    refine ⟨_, rfl, ?_⟩
    simp only [Place.highest]
    omega
  | operator _ _ ihr ih =>
    obtain ⟨k, rfl, hr⟩ := ihr
    obtain ⟨j, hj, h⟩ := ih
    obtain rfl := Nat.succ.inj hj
    refine ⟨k + 1, rfl, ?_⟩
    have hstep := tallest_add_le k
    simp only [Place.highest, Expr.height] at *
    omega
  | unary _ _ ih | plus _ ih =>
    obtain ⟨k, rfl, h⟩ := ih
    refine ⟨k + 1, rfl, ?_⟩
    have hstep := tallest_add_le k
    simp only [Place.highest, Expr.height] at *
    omega
  | object _ _ iho ih =>
    obtain ⟨k, rfl, ho⟩ := iho
    obtain ⟨j, hj, h⟩ := ih
    obtain rfl := Nat.succ.inj hj
    refine ⟨k, rfl, ?_⟩
    simp only [Place.highest] at *
    omega
  | atom hatom =>
    refine ⟨_, rfl, ?_⟩
    rw [(Expr.eq_one_of_isAtom hatom).1]
    exact Nat.succ_pos _
  | @array n items _ ih | @call n _ items _ ih =>
    have hall : Expr.heightOfAll items ≤ tallest n := Expr.heightOfAll_le fun e he => by
      obtain ⟨k, rfl, h⟩ := ih e he
      exact h
    exact ⟨n, rfl, Nat.succ_le_succ hall⟩
  | parenthesised _ ih =>
    obtain ⟨k, rfl, h⟩ := ih
    exact ⟨k + 1, rfl, Nat.le_succ_of_le h⟩
  | member _ ih =>
    obtain ⟨k, rfl, h⟩ := ih
    refine ⟨k + 1, rfl, ?_⟩
    have hstep := tallest_add_le k
    simp only [Place.highest, Expr.height] at *
    omega
  | index _ _ ihp ih =>
    obtain ⟨k, rfl, hp⟩ := ihp
    obtain ⟨j, hj, h⟩ := ih
    obtain rfl := Nat.succ.inj hj
    refine ⟨k + 1 + 1, rfl, ?_⟩
    have hstep := tallest_add_le (k + 1)
    simp only [Place.highest, Expr.height] at *
    omega

end Derives

/-! ## Conditions -/

/-- A condition that may open so many levels is no higher than the levels allow. -/
theorem parseWithin_height {levels : Nat} {source : String} {e : Expr}
    (h : parseWithin levels source = .ok e) : e.height ≤ tallest levels := by
  obtain ⟨further, rfl, hheight⟩ := (derives_of_parseWithin h).height_le
  exact hheight

/-- A condition that ten levels are enough for is no higher than the levels are many. -/
theorem parseWithin_height_le_levelLimit {levels : Nat} (hlevels : levels ≤ 10) {source : String}
    {e : Expr} (h : parseWithin levels source = .ok e) : e.height ≤ levelLimit :=
  calc e.height ≤ tallest levels := parseWithin_height h
    _ ≤ tallest 10 := tallest_mono hlevels
    _ ≤ levelLimit := by decide

/-- The levels bound how deep an accepted condition is nested. They bound its height too where no
part in front has parts itself, and where ten levels are enough for the condition. Any other one is
higher by no more than its parts in front on one way down, and its height is less than the levels
and their square together. -/
theorem parse_height (source : String) (e : Expr) (h : parse source = .ok e) :
    e.nesting ≤ levelLimit ∧
      (e.fronts = 0 → e.height ≤ levelLimit) ∧
      (∀ levels ≤ 10, parseWithin levels source = .ok e → e.height ≤ levelLimit) ∧
      e.height ≤ levelLimit + e.fronts ∧
      e.height ≤ levelLimit * levelLimit + levelLimit - 1 := by
  rw [parse_eq_parseWithin] at h
  have hnesting : e.nesting ≤ levelLimit := (derives_of_parseWithin h).nesting_le
  have hheight := e.height_le_nesting_add_fronts
  exact ⟨hnesting, fun hfronts => by omega,
    fun levels hlevels hread => parseWithin_height_le_levelLimit hlevels hread, by omega,
    parseWithin_height h⟩

/-- A sum whose right operand is negated twice, for which four levels are enough. -/
theorem parse_height_sum : ∃ e, parse "a + !!b" = .ok e ∧ parseWithin 4 "a + !!b" = .ok e ∧
    e.fronts = 0 ∧ e.height = 4 ∧
    e.nesting ≤ levelLimit ∧
      (e.fronts = 0 → e.height ≤ levelLimit) ∧
      (∀ levels ≤ 10, parseWithin levels "a + !!b" = .ok e → e.height ≤ levelLimit) ∧
      e.height ≤ levelLimit + e.fronts ∧
      e.height ≤ levelLimit * levelLimit + levelLimit - 1 := by
  have hmeasures : (parseWithin 4 "a + !!b").toOption.map (fun e => (e.fronts, e.height)) =
      some (0, 4) := by
    decide +kernel
  obtain ⟨e, hread, hmeasure⟩ := Option.map_eq_some_iff.mp hmeasures
  obtain ⟨hfronts, hheight⟩ := Prod.mk.inj hmeasure
  have hread := Except.toOption_eq_some_iff.mp hread
  have hparse : parse "a + !!b" = .ok e := by
    rw [parse_eq_parseWithin]
    exact parseWithin_mono (by decide) hread
  exact ⟨e, hparse, hread, hfronts, hheight, parse_height _ e hparse⟩

/-- The negations have closed their levels where the sums open theirs, and the tree is higher than
the levels are many. -/
theorem parse_negations_then_sums : ∃ e,
    parse (String.ofList (List.replicate 64 '!' ++
      'a' :: (List.replicate 64 [' ', '+', ' ', '1']).flatten)) = .ok e ∧
    e.height = 129 ∧ levelLimit < e.height := by
  have hread : (parse (String.ofList (List.replicate 64 '!' ++
      'a' :: (List.replicate 64 [' ', '+', ' ', '1']).flatten))).toOption.map Expr.height =
        some 129 := by
    rw [parse, tokenize, String.toList_ofList]
    decide +kernel
  obtain ⟨e, hparse, hheight⟩ := Option.map_eq_some_iff.mp hread
  refine ⟨e, Except.toOption_eq_some_iff.mp hparse, hheight, ?_⟩
  rw [hheight]
  decide

end Telemetry.Condition
