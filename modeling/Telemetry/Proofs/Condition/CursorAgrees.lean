import Telemetry.Proofs.Condition.CursorSafety
import Telemetry.Proofs.Condition.Levels
import Telemetry.Proofs.Condition.Offsets
import Telemetry.Proofs.Condition.ScannerAgrees

/-!
# The cursor reads the trees of a text

Where the cursor stands, a part of the parser finds the tree that the reader of tokens finds in the
tokens from there on, and stops at the tokens that the reader leaves; or both refuse the condition
for the same fault at the same token. The reader is the one of the levels that may still be opened.
-/

namespace Telemetry.Condition.Cursor

variable {located : List Located} {ending : Nat} {α β : Type} {s : Cursor}

/-- Tokens with the end behind them, at an offset. -/
def withEnd (located : List Located) (ending : Nat) : List Located :=
  located ++ [⟨.ending, ending⟩]

/-- The end stands behind the other tokens. -/
theorem withEnd_terminated : Terminated (withEnd located ending) :=
  ⟨⟨.ending, ending⟩, List.getLast?_concat, rfl⟩

/-- The tokens from the cursor on, without the end of them. -/
def rest (located : List Located) (s : Cursor) : List Located := located.drop s.pos

/-- A token at a place, or the last one behind all of them, is the head of what is left from the
place on, or the end. -/
theorem getElem?_withEnd (n : Nat) :
    (withEnd located ending)[n]?.or (withEnd located ending).getLast? =
      some ((located.drop n).head?.getD ⟨.ending, ending⟩) := by
  have hlast : (withEnd located ending).getLast? = some ⟨.ending, ending⟩ := List.getLast?_concat
  rw [hlast, List.head?_drop]
  rcases Nat.lt_trichotomy n located.length with hlt | heq | hgt
  · rw [withEnd, List.getElem?_append_left hlt, List.getElem?_eq_getElem hlt]
    rfl
  · rw [withEnd, heq, List.getElem?_concat_length, List.getElem?_eq_none (Nat.le_refl _)]
    rfl
  · have hnone : (withEnd located ending)[n]? = none := by
      rw [withEnd, List.getElem?_eq_none_iff, List.length_append]
      exact hgt
    rw [hnone, List.getElem?_eq_none hgt.le]
    rfl

/-- The cursor sees ahead what the reader has in front behind so many tokens. -/
theorem ahead_withEnd (n : Nat) :
    ahead (withEnd located ending) n s = front ((rest located s).drop n) := by
  rw [ahead, getElem?_withEnd, rest, List.drop_drop]
  cases located.drop (s.pos + n) <;> rfl

/-- The cursor sees the token that the reader has in front. -/
theorem ahead_zero : ahead (withEnd located ending) 0 s = front (rest located s) :=
  ahead_withEnd 0

/-- A fault at the cursor is at the offset that the reader gives it. -/
theorem offset_withEnd :
    offset (withEnd located ending) s = frontOffset ending (rest located s) := by
  rw [offset, getElem?_withEnd, rest]
  cases located.drop s.pos <;> rfl

/-- A step of the cursor drops a token, also at the end, where none is left. -/
theorem rest_next (ending : Nat) :
    rest located (next (withEnd located ending) s) = (rest located s).drop 1 := by
  rw [rest, rest, next, List.drop_drop]
  split
  · rfl
  · rename_i hge
    rw [withEnd, List.length_append, List.length_singleton, Nat.not_lt] at hge
    rw [List.drop_of_length_le (by omega), List.drop_of_length_le (by omega)]

/-- Several steps of the cursor drop as many tokens. -/
theorem rest_nexts (ending n : Nat) :
    rest located ((next (withEnd located ending))^[n] s) = (rest located s).drop n := by
  induction n generalizing s with
  | zero => rfl
  | succ n ih =>
    rw [Function.iterate_succ_apply, ih, rest_next, List.drop_drop, Nat.add_comm]

/-- In front of a token other than the end the cursor moves on. -/
theorem next_of_front (ending : Nat) (h : front (rest located s) ≠ .ending) :
    s.pos < located.length ∧ next (withEnd located ending) s = { s with pos := s.pos + 1 } := by
  have hlt : s.pos < located.length := by
    by_contra hge
    rw [rest, List.drop_of_length_le (Nat.not_lt.mp hge)] at h
    exact h rfl
  refine ⟨hlt, ?_⟩
  rw [next, withEnd, List.length_append, List.length_singleton, if_pos (Nat.lt_add_right 1 hlt)]

/-! ## Agreement -/

/-- A part of the parser and a reader come to the same: to one result, with the cursor in front of
the tokens that the reader leaves; or to one fault. -/
inductive Same (located : List Located) :
    EStateM.Result Stop Cursor α → Except SyntaxError (α × List Located) → Prop where
  | ok {a : α} {s : Cursor} {ts : List Located} (h : ts = rest located s) :
    Same located (.ok a s) (.ok (a, ts))
  | refused (e : SyntaxError) (s : Cursor) : Same located (.error (.refused e) s) (.error e)

section Steps

variable {tokens : List Located} {depth : Nat} {P : Cursor → Prop}

/-- Sequences come to the same if their parts do. -/
theorem Same.bind {x : Walk α} {f : α → Walk β} {r : Except SyntaxError (α × List Located)}
    {g : α × List Located → Except SyntaxError (β × List Located)}
    (hx : Same located (x s) r) (hsound : Sound tokens depth P (x s))
    (hf : ∀ a s', P s' → Same located (f a s') (g (a, rest located s'))) :
    Same located ((x >>= f) s) (r >>= g) := by
  change Same located (EStateM.bind x f s) (r >>= g)
  rw [EStateM.bind]
  cases hr : x s with
  | ok a s' =>
    rw [hr] at hx hsound
    cases hx with
    | ok h =>
      cases hsound with
      | ok hs' =>
        rw [h]
        exact hf a s' hs'
  | error stop s' =>
    rw [hr] at hx
    cases hx with
    | refused e s' => exact .refused e s'

/-- To refuse the condition at the cursor is to refuse it at the token in front. -/
theorem refuse_same (fault : SyntaxFault) :
    Same located (refuse (α := α) (withEnd located ending) fault s)
      (failAt ending (rest located s) fault) := by
  rw [refuse, offset_withEnd]
  exact .refused _ s

/-- A result of a part of the parser behind which a level is closed. -/
theorem thenLeave_same {x : Walk α} {r : Except SyntaxError (α × List Located)} {pos : Nat}
    (hx : Same located (x s) r)
    (hsound : Sound tokens (depth + 1) (Reached tokens pos (depth + 1)) (x s)) :
    Same located (thenLeave x s) r := by
  cases hr : x s with
  | ok a s' =>
    rw [hr] at hx hsound
    cases hx with
    | ok h =>
      cases hsound with
      | ok hs' =>
        rw [thenLeave_ok hr (hs'.depth.ge.trans' (Nat.le_add_left _ _))]
        exact .ok h
  | error stop s' =>
    rw [hr] at hx hsound
    cases hx with
    | refused e s' =>
      cases hsound with
      | refused hpos hdepth hat =>
        rw [thenLeave_refused hr (hdepth.trans' (Nat.le_add_left _ _))]
        exact .refused e _

/-- Levels that are closed leave the tokens as they are. -/
theorem leave_same {n : Nat} (hs : s.depth = depth + n) (a : α) :
    Same located ((leave n >>= fun _ => pure a) s) (.ok (a, rest located s)) := by
  rw [leave_bind (hs ▸ Nat.le_add_left _ _)]
  exact .ok rfl

/-- A token that has to come is expected at the same place, and its lack is the same fault. -/
theorem expect_same (want : Token) (what : String) :
    Same located (expect (withEnd located ending) want what s)
      (Condition.expect want what ending (rest located s)) := by
  rw [expect, Condition.expect, peek_bind, ahead_zero]
  split
  · rw [advance_bind]
    exact .ok (rest_next ending).symm
  · exact refuse_same _

/-- The operator that the reader finds is the one of the first two tokens. -/
theorem operator?_eq (ts : List Located) :
    operator? ts = (operatorOf? (front ts) (front (ts.drop 1))).map
      fun (op, size) => (op, ts.drop size) := by
  cases ts with
  | nil => rfl
  | cons t ts =>
    obtain ⟨now, offset⟩ := t
    rw [front, List.drop_one, List.tail_cons]
    -- a token that is an operator by itself, `not` with and without `in`, or no operator
    fun_cases operatorOf? now (front ts) <;> first | rfl | simp_all [operator?]

/-- An operator takes a token at least, and the end is none. -/
theorem operatorOf?_some {now behind : Token} {op : BinaryOp} {size : Nat}
    (h : operatorOf? now behind = some (op, size)) : now ≠ .ending ∧ 0 < size := by
  refine ⟨fun hnow => ?_, ?_⟩
  · rw [hnow] at h
    cases h
  · unfold operatorOf? at h
    split at h
    case h_22 =>
      split at h
      · cases h
        decide
      · cases h
    case h_23 => cases h
    all_goals
      cases h
      decide

end Steps

/-! ## Levels -/

/-- The readers of the levels that may still be opened where so many are open. -/
def inside (depth : Nat) : Level := Level.opened (levelLimit - depth)

/-- Where all levels are open, the reader is the one that opens none. -/
theorem inside_limit : inside levelLimit = Level.closed := by
  rw [inside, Nat.sub_self]
  rfl

/-- Where levels are left to be opened, the reader is that of a level around the next one. -/
theorem inside_of_lt {depth : Nat} (h : depth < levelLimit) :
    inside depth = (inside (depth + 1)).around := by
  have hlevels : levelLimit - depth = levelLimit - (depth + 1) + 1 := by omega
  rw [inside, hlevels]
  rfl

/-- Behind a level that is opened, unless it is one too many. -/
theorem enter_same {tokens : List Located} {pos depth : Nat} {f : PUnit → Walk β}
    {r : Level → Except SyntaxError (β × List Located)}
    (hs : Reached tokens pos depth s) (hle : depth ≤ levelLimit)
    (hclosed : r Level.closed = failAt ending (rest located s) .tooDeep)
    (hf : depth < levelLimit → Reached tokens pos (depth + 1) { s with depth := s.depth + 1 } →
      Same located (f ⟨⟩ { s with depth := s.depth + 1 }) (r (inside (depth + 1)).around)) :
    Same located ((enter (withEnd located ending) >>= f) s) (r (inside depth)) := by
  change Same located (EStateM.bind (enter (withEnd located ending)) f s) _
  rw [EStateM.bind, enter, hs.depth]
  dsimp only
  rcases Nat.lt_or_eq_of_le hle with hlt | rfl
  · rw [if_neg (Nat.not_lt.mpr hlt), inside_of_lt hlt]
    have hin := hf hlt hs.opened
    rw [hs.depth] at hin
    exact hin
  · rw [if_pos (Nat.lt_succ_self _), inside_limit, hclosed]
    exact refuse_same (s := { s with depth := levelLimit + 1 }) _

/-- A part of the parser whose own levels are so many, and the reader that it follows where so many
rounds are enough for the tokens from the cursor on. -/
def Follows (located : List Located) (ending rounds own : Nat) (x : Walk α)
    (reader : Level → Reader α) : Prop :=
  ∀ {pos d s}, Reached (withEnd located ending) pos (d + own) s →
    (withEnd located ending).length < pos + rounds → d + own ≤ levelLimit →
    Same located (x s) (reader (inside (d + own)) ending (rest located s))

/-- The reader of items with those in front of them. -/
def itemsBehind (before : List Expr) (close : Token) (what : String) (fuel : Nat) (inner : Level) :
    Reader (List Expr) := fun ending ts => do
  let (others, ts) ← Level.listFrom inner.ternary close what fuel ending ts
  .ok (before ++ others, ts)

/-- Without items before them, the items behind are all items. -/
theorem itemsBehind_nil (close : Token) (what : String) (fuel : Nat) (inner : Level) :
    itemsBehind [] close what fuel inner = Level.listFrom inner.ternary close what fuel := by
  funext ending ts
  rw [itemsBehind]
  cases Level.listFrom inner.ternary close what fuel ending ts <;> rfl

/-- An item more in front of the others is read before them. -/
theorem itemsBehind_concat (before : List Expr) (item : Expr) (close : Token) (what : String)
    (fuel : Nat) (inner : Level) (ts : List Located) :
    itemsBehind (before ++ [item]) close what fuel inner ending ts =
      (do
        let (others, ts) ← Level.listFrom inner.ternary close what fuel ending ts
        .ok (before ++ item :: others, ts)) := by
  simp only [itemsBehind, List.append_assoc, List.singleton_append]

/-- Calls that keep the counters and follow the readers of tokens. -/
structure Faithful (located : List Located) (ending rounds : Nat) (c : Calls) : Prop where
  balanced : Balanced (withEnd located ending) c
  expression : Follows located ending rounds 0 c.expression Level.ternary
  binary : ∀ least,
    Follows located ending rounds 0 (c.binary least) fun inner => Level.binaryOf inner least
  chain : ∀ least left own,
    Follows located ending rounds own (c.chain least left own)
      fun inner => Level.chainOf inner least left
  unary : Follows located ending rounds 0 c.unary Level.unaryOf
  items : ∀ before close what {fuel pos depth s},
    Reached (withEnd located ending) pos depth s →
    (withEnd located ending).length + 1 < pos + rounds → depth ≤ levelLimit →
    (rest located s).length < fuel →
    Same located (c.items before close what s)
      (itemsBehind before close what fuel (inside depth) ending (rest located s))
  accesses : ∀ object own,
    Follows located ending rounds own (c.accesses object own)
      fun inner => Level.accesses inner object

/-! ## Parts -/

section Parts

variable {c : Calls} {rounds : Nat}

/-- Items are read as the list of the reader, by induction on the tokens that are left. -/
theorem items_same (h : Faithful located ending rounds c) (before : List Expr) (close : Token)
    (what : String) {fuel pos depth : Nat} (hs : Reached (withEnd located ending) pos depth s)
    (hrounds : (withEnd located ending).length < pos + rounds) (hle : depth ≤ levelLimit)
    (hfuel : (rest located s).length < fuel) :
    Same located (items (withEnd located ending) c before close what s)
      (itemsBehind before close what fuel (inside depth) ending (rest located s)) := by
  obtain ⟨fuel, rfl⟩ : ∃ n, fuel = n + 1 := ⟨fuel - 1, by omega⟩
  have hbehind := hs.behind
  replace hs : Reached (withEnd located ending) s.pos depth s :=
    ⟨hs.depth, Nat.le_refl _, hs.within⟩
  replace hrounds : (withEnd located ending).length < s.pos + rounds := by omega
  rw [itemsBehind, Level.listFrom, bind_assoc]
  refine (h.expression hs hrounds hle).bind (h.balanced.expression hs) fun item s' hs' => ?_
  rw [peek_bind, ahead_zero]
  dsimp only
  split
  · rw [advance_bind, peek_bind, ahead_zero, rest_next]
    split
    · rw [advance_bind]
      refine .ok ?_
      rw [rest_next, rest_next]
    · rename_i hcomma hclose
      -- the comma is a token, so that fewer of them are left behind it
      have hne : front (rest located s') ≠ .ending := hcomma ▸ nofun
      have hnext := hs'.next_pos withEnd_terminated (ahead_zero.trans_ne hne)
      have hfewer : (rest located (next (withEnd located ending) s')).length < fuel := by
        have hlt := (next_of_front ending hne).1
        have hbehind := hs'.behind
        rw [rest_next, List.length_drop, rest, List.length_drop]
        rw [rest, List.length_drop] at hfuel
        omega
      have hitems := h.items (before ++ [item]) close what hnext (by omega) hle hfewer
      rw [itemsBehind_concat, rest_next] at hitems
      rw [bind_assoc]
      exact hitems
  split
  · rw [advance_bind]
    exact .ok (rest_next ending).symm
  · exact refuse_same _

/-- A list in its brackets is read as the reader reads it. -/
theorem list_follows (h : Faithful located ending rounds c) (close : Token) (what : String) :
    Follows located ending rounds 0 (list (withEnd located ending) c close what)
      fun inner => Level.list inner.ternary close what := by
  intro pos depth s hs hrounds hle
  unfold Level.list
  dsimp only
  rw [list, peek_bind, ahead_zero]
  split
  · rw [advance_bind]
    exact .ok (rest_next ending).symm
  · have hitems := items_same h [] close what hs hrounds hle (Nat.lt_succ_self _)
    rw [itemsBehind_nil] at hitems
    exact hitems

/-- The word stands in front of the cursor, and may be an operator to which it steps back. -/
theorem wordOrCall_same (h : Faithful located ending rounds c) (w : String) {pos depth : Nat}
    (hs : Reached (withEnd located ending) pos depth { s with pos := s.pos + 1 })
    (hrounds : (withEnd located ending).length < pos + rounds) (hle : depth ≤ levelLimit) :
    Same located (wordOrCall (withEnd located ending) c w { s with pos := s.pos + 1 })
      (Level.wordAt (inside depth) (offset (withEnd located ending) s) w ending
        (rest located { s with pos := s.pos + 1 })) := by
  by_cases hconstant : w = "true" ∨ w = "false" ∨ w = "nil"
  · rcases hconstant with rfl | rfl | rfl <;> exact .ok rfl
  rw [not_or, not_or] at hconstant
  obtain ⟨htrue, hfalse, hnil⟩ := hconstant
  simp only [wordOrCall, Level.wordAt]
  split
  · exact .refused _ s
  rw [peek_bind, ahead_zero]
  split
  · rw [advance_bind, ← rest_next ending]
    refine (list_follows h .rightParen "')'" hs.next hrounds hle).bind
      (list_passes withEnd_terminated h.balanced (by decide) "')'" hs.next) ?_
    exact fun arguments s' hs' => .ok rfl
  · exact .ok rfl

/-- An operand without accesses is read as the reader reads it. -/
theorem primary_follows (hplain : ∀ t ∈ located, t.token ≠ .ending)
    (h : Faithful located ending rounds c) :
    Follows located ending (rounds + 1) 0 (primary (withEnd located ending) c) Level.primary := by
  intro pos depth s hs hrounds hle
  have hrest : rest located (next (withEnd located ending) s) = (rest located s).drop 1 :=
    rest_next ending
  rw [primary, advance_bind, ahead_zero]
  cases hfront : rest located s with
  | nil =>
    have hrefused : Same (α := Expr) located (refuse (withEnd located ending) .unexpectedEnd _) _ :=
      refuse_same (s := next (withEnd located ending) s) .unexpectedEnd
    rw [hrest, hfront] at hrefused
    exact hrefused
  | cons t ts =>
    have ht : t.token ≠ .ending := hplain t (List.mem_of_mem_drop (hfront ▸ List.mem_cons_self))
    have hfrontNe : front (rest located s) ≠ .ending := by rwa [hfront]
    have hmoved := hs.next_pos withEnd_terminated (ahead_zero.trans_ne hfrontNe)
    have hoffset : offset (withEnd located ending) s = t.offset := by
      rw [offset_withEnd, hfront]
      rfl
    rw [hfront, List.drop_one, List.tail_cons] at hrest
    rw [(next_of_front ending hfrontNe).2] at hmoved hrest ⊢
    obtain ⟨token, offset⟩ := t
    rw [front, ← hrest]
    cases token with
    | int n => exact .ok rfl
    | float x => exact .ok rfl
    | text t => exact .ok rfl
    | leftParen =>
      refine (h.expression hmoved (by omega) hle).bind (h.balanced.expression hmoved) ?_
      intro e s' hs'
      refine (expect_same _ _).bind (expect_sound withEnd_terminated hs' _ _) ?_
      exact fun _ s'' hs'' => .ok rfl
    | leftBracket =>
      refine (list_follows h .rightBracket "']'" hmoved (by omega) hle).bind
        (list_passes withEnd_terminated h.balanced (by decide) "']'" hmoved) ?_
      exact fun members s' hs' => .ok rfl
    | word w =>
      have hword := wordOrCall_same h w hmoved (by omega) hle
      rw [hoffset] at hword
      exact hword
    | ending => exact absurd rfl ht
    | _ =>
      have hrefused : ∀ fault,
          Same (α := Expr) located (refuse (withEnd located ending) fault s) _ :=
        fun fault => refuse_same fault
      rw [hfront] at hrefused
      exact hrefused _

/-- Behind a point, the reader takes a word for a member and goes on with accesses. -/
theorem accessOf_member (inner : Level) (object : Expr) {optional : Bool} {ts : List Located}
    (hmark : front ts = if optional then .questionDot else .dot) :
    Level.accessOf inner object ending ts =
      match front (ts.drop 1) with
      | .word key =>
        Level.accesses inner (.member object key optional) ending ((ts.drop 1).drop 1)
      | found => failAt ending (ts.drop 1) (.expected "member name" found) := by
  unfold Level.accessOf
  rw [hmark]
  cases optional <;> rfl

/-- Behind an opening bracket, the reader takes an expression and the closing one for an index and
goes on with accesses. -/
theorem accessOf_index (inner : Level) (object : Expr) {ts : List Located}
    (hmark : front ts = .leftBracket) :
    Level.accessOf inner object ending ts = (do
      let (index, ts) ← inner.ternary ending (ts.drop 1)
      let (_, ts) ← Condition.expect .rightBracket "']'" ending ts
      Level.accesses inner (.index object index) ending ts) := by
  unfold Level.accessOf
  rw [hmark]

/-- The name behind a dot, and the members and indices behind it. -/
theorem member_same (h : Faithful located ending rounds c) (object : Expr) {optional : Bool}
    {pos depth own : Nat} (hmark : front (rest located s) = if optional then .questionDot else .dot)
    (hs : Reached (withEnd located ending) pos (depth + own + 1) s)
    (hrounds : (withEnd located ending).length < pos + (rounds + 1))
    (hle : depth + own + 1 ≤ levelLimit) :
    Same located (member (withEnd located ending) c object optional own s)
      (Level.accessOf (inside (depth + own + 1)) object ending (rest located s)) := by
  have hne : front (rest located s) ≠ .ending := by
    rw [hmark]
    cases optional <;> decide
  have hmoved := hs.next_pos withEnd_terminated (ahead_zero.trans_ne hne)
  -- behind the dot there is a token at least, the end of the condition perhaps
  have hback : ∀ found, Same (α := Expr) located
      ((back >>= fun _ => refuse (withEnd located ending) (.expected "member name" found))
        (next (withEnd located ending) (next (withEnd located ending) s)))
      (failAt ending ((rest located s).drop 1) (.expected "member name" found)) := by
    intro found
    obtain ⟨hlt, hnext⟩ := next_of_front ending hne
    have hwithin : s.pos + 1 < (withEnd located ending).length := by
      rw [withEnd, List.length_append]
      exact Nat.succ_lt_succ hlt
    have htwice : next (withEnd located ending) { s with pos := s.pos + 1 } =
        { s with pos := s.pos + 1 + 1 } := if_pos hwithin
    rw [← rest_next ending, hnext, htwice]
    exact refuse_same (s := { s with pos := s.pos + 1 }) _
  rw [member, advance_bind, advance_bind, ahead_zero, rest_next, accessOf_member _ _ hmark]
  cases front ((rest located s).drop 1) with
  | word key =>
    have haccesses := h.accesses (.member object key optional) (own + 1) (d := depth) hmoved.next
      (by omega) hle
    rw [rest_next, rest_next] at haccesses
    exact haccesses
  | _ => exact hback _

/-- An index is read as the reader reads it, with the level of the object around it. -/
theorem index_same (h : Faithful located ending rounds c) (object : Expr) {pos depth own : Nat}
    (hmark : front (rest located s) = .leftBracket)
    (hs : Reached (withEnd located ending) pos (depth + own + 1) s)
    (hrounds : (withEnd located ending).length < pos + (rounds + 1))
    (hle : depth + own + 1 ≤ levelLimit) :
    Same located (index (withEnd located ending) c object own s)
      (Level.accessOf (inside (depth + own + 1)) object ending (rest located s)) := by
  have hne : front (rest located s) ≠ .ending := hmark ▸ nofun
  have hmoved := hs.next_pos withEnd_terminated (ahead_zero.trans_ne hne)
  rw [index, advance_bind, accessOf_index _ _ hmark, ← rest_next ending]
  refine (h.expression hmoved (by omega) hle).bind (h.balanced.expression hmoved) ?_
  intro index s₂ hs₂
  refine (expect_same _ _).bind (expect_sound withEnd_terminated hs₂ _ _) fun _ s₃ hs₃ => ?_
  exact h.accesses (.index object index) (own + 1) (d := depth) hs₃ (by omega) hle

/-- The accesses behind an object are read as the reader reads them. -/
theorem accesses_follows (h : Faithful located ending rounds c) (object : Expr) (own : Nat) :
    Follows located ending (rounds + 1) own (accesses (withEnd located ending) c object own)
      fun inner => Level.accesses inner object := by
  intro pos depth s hs hrounds hle
  have hopened : ∀ {x : Walk Expr}, (depth + own < levelLimit →
      Reached (withEnd located ending) pos (depth + own + 1) { s with depth := s.depth + 1 } →
      Same located (x { s with depth := s.depth + 1 })
        (Level.accessOf (inside (depth + own + 1)) object ending (rest located s))) →
      Same located ((enter (withEnd located ending) >>= fun _ => x) s)
        ((inside (depth + own)).access object ending (rest located s)) := by
    intro x
    exact enter_same (f := fun _ => x)
      (r := fun level => level.access object ending (rest located s)) hs hle rfl
  rw [accesses, peek_bind, ahead_zero]
  unfold Level.accesses
  dsimp only
  cases hmark : front (rest located s) with
  | dot => exact hopened fun hlt hin => member_same h object hmark hin hrounds hlt
  | questionDot => exact hopened fun hlt hin => member_same h object hmark hin hrounds hlt
  | leftBracket => exact hopened fun hlt hin => index_same h object hmark hin hrounds hlt
  | _ => exact leave_same hs.depth object

/-- An operator in front of an operand. -/
theorem operand_same (h : Faithful located ending rounds c) (op? : Option UnaryOp)
    {pos depth : Nat} (hne : front (rest located s) ≠ .ending)
    (hs : Reached (withEnd located ending) pos depth s)
    (hrounds : (withEnd located ending).length < pos + (rounds + 1)) (hle : depth ≤ levelLimit) :
    Same located (operand (withEnd located ending) c op? s)
      (do
        let (e, ts) ← (inside depth).unary ending ((rest located s).drop 1)
        .ok (op?.elim e fun op => .unary op e, ts)) := by
  have hmoved := hs.next_pos withEnd_terminated (ahead_zero.trans_ne hne)
  rw [operand, advance_bind, ← rest_next ending]
  refine enter_same (r := fun level => do
    let (e, ts) ← level.unary ending (rest located (next (withEnd located ending) s))
    .ok (op?.elim e fun op => .unary op e, ts)) hmoved hle rfl fun hlt hin => ?_
  refine (thenLeave_same (h.unary hin (by omega) hlt) (h.balanced.unary hin)).bind
    (thenLeave_sound (h.balanced.unary hin)) fun e s' hs' => ?_
  exact .ok rfl

/-- An operand with its signs is read as the reader reads it. -/
theorem unary_follows (hplain : ∀ t ∈ located, t.token ≠ .ending)
    (h : Faithful located ending rounds c) :
    Follows located ending (rounds + 1) 0 (unary (withEnd located ending) c) Level.unaryOf := by
  intro pos depth s hs hrounds hle
  have hoperand : ∀ op?, front (rest located s) ≠ .ending → _ :=
    fun op? hne => operand_same h op? hne hs hrounds hle
  have hobject := fun g hg => (primary_follows hplain h hs hrounds hle).bind (g := g)
    (f := fun e => accesses (withEnd located ending) c e 0)
    (primary_passes withEnd_terminated h.balanced hs) hg
  rw [unary, peek_bind, ahead_zero]
  unfold Level.unaryOf
  dsimp only
  generalize front (rest located s) = found at hoperand
  by_cases hoperator : found = .bang ∨ found = .word "not" ∨ found = .minus ∨ found = .plus
  · rcases hoperator with rfl | rfl | rfl | rfl
    · exact hoperand (some .not) (by decide)
    · exact hoperand (some .not) (by decide)
    · exact hoperand (some .negate) (by decide)
    · have hplus := hoperand none (by decide)
      change Same located _ ((inside depth).unary ending _ >>= pure) at hplus
      rw [bind_pure] at hplus
      exact hplus
  · simp only [not_or] at hoperator
    obtain ⟨hbang, hnot, hminus, hplus⟩ := hoperator
    simp only []
    refine hobject _ fun e s' hs' => ?_
    exact accesses_follows h e 0 hs' (by omega) hle

/-- The operators behind a left operand are read as the reader reads them. -/
theorem chain_follows (h : Faithful located ending rounds c) (least : Nat) (left : Expr)
    (own : Nat) :
    Follows located ending (rounds + 1) own (chain (withEnd located ending) c least left own)
      fun inner => Level.chainOf inner least left := by
  intro pos depth s hs hrounds hle
  unfold Level.chainOf
  dsimp only
  rw [chain, peekOperator_bind, ahead_zero, ahead_withEnd, operator?_eq]
  cases hop : operatorOf? (front (rest located s)) (front ((rest located s).drop 1)) with
  | none => exact leave_same hs.depth left
  | some found =>
    obtain ⟨op, size⟩ := found
    obtain ⟨hne, hsize⟩ := operatorOf?_some hop
    dsimp only [Option.map_some]
    split
    · exact leave_same hs.depth left
    have hpassed : Reached (withEnd located ending) (pos + 1) (depth + own)
        ((next (withEnd located ending))^[size] s) := by
      obtain ⟨n, rfl⟩ : ∃ n, size = n + 1 := ⟨size - 1, (Nat.sub_add_cancel hsize).symm⟩
      exact (hs.next_pos withEnd_terminated (ahead_zero.trans_ne hne)).nexts n
    rw [skip_bind, ← rest_nexts ending]
    generalize (next (withEnd located ending))^[size] s = s' at hpassed
    refine enter_same (r := fun level => do
      let (right, rest) ← level.binary op.rightPrecedence ending (rest located s')
      level.chain least (.binary op left right) ending rest) hpassed hle rfl fun hlt hin => ?_
    refine (h.binary _ hin (by omega) hlt).bind (h.balanced.binary _ hin) fun right s₂ hs₂ => ?_
    exact h.chain least (.binary op left right) (own + 1) (d := depth) hs₂ (by omega) hlt

/-- Operators of a least precedence are read as the reader reads them. -/
theorem binary_follows (hplain : ∀ t ∈ located, t.token ≠ .ending)
    (h : Faithful located ending rounds c) (least : Nat) :
    Follows located ending (rounds + 1) 0 (binary (withEnd located ending) c least)
      fun inner => Level.binaryOf inner least := by
  intro pos depth s hs hrounds hle
  refine (unary_follows hplain h hs hrounds hle).bind
    (unary_passes withEnd_terminated h.balanced hs) fun left s' hs' => ?_
  exact chain_follows h least left 0 hs' (by omega) hle

/-- A choice is read as the reader reads it. -/
theorem ternary_follows (hplain : ∀ t ∈ located, t.token ≠ .ending)
    (h : Faithful located ending rounds c) :
    Follows located ending (rounds + 1) 0 (ternary (withEnd located ending) c)
      Level.ternaryOf := by
  intro pos depth s hs hrounds hle
  refine (binary_follows hplain h 1 hs hrounds hle).bind
    (binary_passes withEnd_terminated h.balanced 1 hs) fun test s' hs' => ?_
  rw [peek_bind, ahead_zero]
  dsimp only
  split
  · rw [advance_bind, ← rest_next ending]
    refine (h.expression hs'.next (by omega) hle).bind (h.balanced.expression hs'.next) ?_
    intro yes s₂ hs₂
    refine (expect_same _ _).bind (expect_sound withEnd_terminated hs₂ _ _) fun _ s₃ hs₃ => ?_
    refine (h.expression hs₃ (by omega) hle).bind (h.balanced.expression hs₃) fun no s₄ hs₄ => ?_
    exact .ok rfl
  · exact .ok rfl

/-- An expression is read as the reader reads it at the level that is opened for it. -/
theorem expression_follows (hplain : ∀ t ∈ located, t.token ≠ .ending)
    (h : Faithful located ending rounds c) :
    Follows located ending (rounds + 1) 0 (expression (withEnd located ending) c)
      Level.ternary := by
  intro pos depth s hs hrounds hle
  refine enter_same (r := fun level => level.ternary ending (rest located s)) hs hle rfl ?_
  intro hlt hin
  exact thenLeave_same (ternary_follows hplain h hin hrounds hlt)
    (ternary_passes withEnd_terminated h.balanced hin)

/-- A round follows the readers if the calls that go round do. -/
theorem Faithful.around (hplain : ∀ t ∈ located, t.token ≠ .ending)
    (h : Faithful located ending rounds c) :
    Faithful located ending (rounds + 1) (c.around (withEnd located ending)) where
  balanced := h.balanced.around withEnd_terminated
  expression := expression_follows hplain h
  binary := binary_follows hplain h
  chain := chain_follows h
  unary := unary_follows hplain h
  items := fun before close what _ _ _ _ hs hrounds =>
    items_same h before close what hs (Nat.lt_of_succ_lt_succ hrounds)
  accesses := accesses_follows h

end Parts

/-- Calls with so many rounds left read as the readers of the levels do, by induction on the
rounds. -/
theorem calls_faithful (ending : Nat) (hplain : ∀ t ∈ located, t.token ≠ .ending)
    (rounds : Nat) : Faithful located ending rounds (calls (withEnd located ending) rounds) := by
  induction rounds with
  | zero =>
    -- the cursor stands in the tokens, so that no rounds at all are not enough
    have hnone : ∀ {pos depth s}, Reached (withEnd located ending) pos depth s →
        ¬ (withEnd located ending).length < pos := by
      intro pos depth s hs
      exact Nat.not_lt.mpr (hs.behind.trans hs.within)
    exact {
      balanced := calls_balanced withEnd_terminated 0
      expression := fun hs hrounds => absurd hrounds (hnone hs)
      binary := fun _ _ _ _ hs hrounds => absurd hrounds (hnone hs)
      chain := fun _ _ _ _ _ _ hs hrounds => absurd hrounds (hnone hs)
      unary := fun hs hrounds => absurd hrounds (hnone hs)
      items := fun _ _ _ _ _ _ _ hs hrounds =>
        absurd (Nat.lt_of_succ_lt hrounds) (hnone hs)
      accesses := fun _ _ _ _ _ hs hrounds => absurd hrounds (hnone hs) }
  | succ rounds ih => exact ih.around hplain

/-! ## Whole conditions -/

/-- A condition with the end behind it, and the tokens behind it. -/
def wholeCondition : Reader Expr := fun ending ts => do
  let (e, rest) ← (Level.opened levelLimit).ternary ending ts
  if front rest = .ending then .ok (e, rest)
  else failAt ending rest (.trailingToken (front rest))

/-- To read tokens is to read a whole condition and to forget the tokens behind it. -/
theorem readTokens_eq_wholeCondition (ts : List Located) :
    readTokens ending ts = (wholeCondition ending ts).map Prod.fst := by
  rw [readTokens_eq_readWithin, readWithin, wholeCondition]
  cases (Level.opened levelLimit).ternary ending ts with
  | error e => rfl
  | ok read =>
    change (if _ then _ else _) = Except.map _ (if _ then _ else _)
    split <;> rfl

/-- A condition is read as the reader reads it from the first token on. -/
theorem condition_same (ending : Nat) (hplain : ∀ t ∈ located, t.token ≠ .ending) :
    Same located (condition (withEnd located ending) ⟨0, 0⟩) (wholeCondition ending located) := by
  have hstart : Reached (withEnd located ending) 0 0 ⟨0, 0⟩ := ⟨rfl, Nat.le_refl _, Nat.zero_le _⟩
  have hfaithful := calls_faithful ending hplain ((withEnd located ending).length + 1)
  refine (hfaithful.expression hstart (by omega) (Nat.zero_le _)).bind
    (hfaithful.balanced.expression hstart) fun e s hs => ?_
  rw [peek_bind, ahead_zero]
  dsimp only
  split
  · exact .ok rfl
  · exact refuse_same _

/-- The cursor reads what the readers do, and never comes to a breach. -/
theorem parse_eq (source : String) :
    parse source = Scanner.answered (Condition.parse source) := by
  have hends := tokenize_ends source
  unfold parse Condition.parse
  rw [Scanner.tokens_eq]
  cases htokens : tokenize source with
  | error e => rfl
  | ok all =>
    obtain ⟨-, located, rfl, hplain⟩ := hends.result_of_eq htokens
    have hsame := condition_same (width source.toList) hplain
    change outcome (condition (withEnd located (width source.toList)) ⟨0, 0⟩) =
      Scanner.answered (readTokens (width source.toList)
        (located ++ [Located.mk .ending (width source.toList)]).dropLast)
    rw [List.dropLast_concat, readTokens_eq_wholeCondition]
    generalize condition (withEnd located (width source.toList)) ⟨0, 0⟩ = walked at hsame
    generalize wholeCondition (width source.toList) located = read at hsame
    cases hsame <;> rfl

/-- Compiling with the scanner and the cursor has a result for every text, the same as with the
readers. -/
theorem compile?_eq (env : Environment) (source : String) :
    compile? env source = some (Program.compile env source) := by
  rw [compile?, Program.compile, Program.compileNode, parse_eq]
  split
  · rfl
  cases Condition.parse source with
  | error e => rfl
  | ok e =>
    simp only [Scanner.answered]
    cases Node.ofCondition env e <;> rfl

end Telemetry.Condition.Cursor
