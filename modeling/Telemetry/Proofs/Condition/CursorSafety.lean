import Telemetry.Proofs.Condition.Cursor

/-!
# The counters of the cursor

A part of the parser that has a result leaves as many levels open as it has found, and has moved on.
One that refuses the condition does so at the offset of a token, with no fewer levels open. None
comes to a breach, so that no level is closed twice and no step leads back from the first token.
-/

namespace Telemetry.Condition.Cursor

variable {tokens : List Located} {α β : Type} {pos depth : Nat} {s : Cursor}

/-- The end stands behind the other tokens. -/
def Terminated (tokens : List Located) : Prop := ∃ t, tokens.getLast? = some t ∧ t.token = .ending

/-- The cursor stands in the tokens at a position or behind it, with so many levels open. -/
structure Reached (tokens : List Located) (pos depth : Nat) (s : Cursor) : Prop where
  depth : s.depth = depth
  behind : pos ≤ s.pos
  within : s.pos ≤ tokens.length

/-- How a part of the parser ends: with a result and a cursor of a sort; refused at a token, with so
many levels open at least; or for want of rounds. It does not end with a breach. -/
inductive Sound (tokens : List Located) (depth : Nat) (post : Cursor → Prop) :
    EStateM.Result Stop Cursor α → Prop where
  | ok {a : α} {s : Cursor} (h : post s) : Sound tokens depth post (.ok a s)
  | refused {e : SyntaxError} {s : Cursor} (hpos : s.pos ≤ tokens.length) (hdepth : depth ≤ s.depth)
    (hat : ∃ t ∈ tokens, e.offset = t.offset) : Sound tokens depth post (.error (.refused e) s)
  | unfinished {s : Cursor} : Sound tokens depth post (.error .unfinished s)

/-- A part of the parser that passes a token and leaves as many levels open as it finds. -/
def Passes (tokens : List Located) (x : Walk α) : Prop :=
  ∀ {pos depth s}, Reached tokens pos depth s →
    Sound tokens depth (Reached tokens (pos + 1) depth) (x s)

/-- A part of the parser that closes so many levels and does not step back. -/
def Closes (tokens : List Located) (n : Nat) (x : Walk α) : Prop :=
  ∀ {pos depth s}, Reached tokens pos (depth + n) s →
    Sound tokens depth (Reached tokens pos depth) (x s)

namespace Sound

variable {depth' : Nat} {P Q : Cursor → Prop}

/-- A sequence ends as its second part does behind the first one. -/
theorem bind {x : Walk α} {f : α → Walk β} (hx : Sound tokens depth' P (x s)) (hd : depth ≤ depth')
    (hf : ∀ a s', P s' → Sound tokens depth Q (f a s')) :
    Sound tokens depth Q ((x >>= f) s) := by
  change Sound tokens depth Q (EStateM.bind x f s)
  rw [EStateM.bind]
  cases hr : x s with
  | ok a s' =>
    rw [hr] at hx
    cases hx with
    | ok h => exact hf a s' h
  | error stop s' =>
    rw [hr] at hx
    cases hx with
    | refused hpos hdepth hat => exact .refused hpos (hd.trans hdepth) hat
    | unfinished => exact .unfinished

/-- An end with more levels open, and a cursor of a narrower sort, are an end of the wider sort. -/
theorem imp {r : EStateM.Result Stop Cursor α} (h : Sound tokens depth' P r) (hd : depth ≤ depth')
    (hP : ∀ s, P s → Q s) : Sound tokens depth Q r := by
  cases h with
  | ok h => exact .ok (hP _ h)
  | refused hpos hdepth hat => exact .refused hpos (hd.trans hdepth) hat
  | unfinished => exact .unfinished

end Sound

namespace Reached

/-- A cursor is reached from where it stands. -/
theorem start (hs : s.pos ≤ tokens.length) : Reached tokens s.pos s.depth s :=
  ⟨rfl, Nat.le_refl _, hs⟩

/-- A cursor behind a position is behind every earlier one. -/
theorem weaken {pos' : Nat} (h : Reached tokens pos depth s) (hle : pos' ≤ pos) :
    Reached tokens pos' depth s :=
  ⟨h.depth, hle.trans h.behind, h.within⟩

/-- Behind a token, or still at the end. -/
theorem next (h : Reached tokens pos depth s) : Reached tokens pos depth (next tokens s) := by
  unfold Cursor.next
  split
  · rename_i hlt
    exact ⟨h.depth, Nat.le_succ_of_le h.behind, hlt⟩
  · exact h

/-- Behind so many tokens, or at the end already. -/
theorem nexts (h : Reached tokens pos depth s) (n : Nat) :
    Reached tokens pos depth ((Cursor.next tokens)^[n] s) := by
  induction n generalizing s with
  | zero => exact h
  | succ n ih => exact ih h.next

/-- Behind a token other than the end the cursor has moved on. -/
theorem next_pos (hended : Terminated tokens) (h : Reached tokens pos depth s)
    (hne : ahead tokens 0 s ≠ .ending) : Reached tokens (pos + 1) depth (Cursor.next tokens s) := by
  have hlt : s.pos < tokens.length := by
    by_contra hge
    obtain ⟨t, ht, htoken⟩ := hended
    rw [ahead, Nat.add_zero, List.getElem?_eq_none (Nat.not_lt.mp hge), Option.none_or, ht] at hne
    exact hne htoken
  rw [Cursor.next, if_pos hlt]
  exact ⟨h.depth, Nat.succ_le_succ h.behind, hlt⟩

/-- A level further in. -/
theorem opened (h : Reached tokens pos depth s) :
    Reached tokens pos (depth + 1) { s with depth := s.depth + 1 } :=
  ⟨by rw [h.depth], h.behind, h.within⟩

end Reached

/-! ## Steps -/

section Steps

variable {post : Cursor → Prop}

/-- To look at the token in front leaves the cursor where it is. -/
theorem peek_bind (f : Token → Walk β) : (peek tokens >>= f) s = f (ahead tokens 0 s) s := rfl

/-- To take the token in front moves the cursor on. -/
theorem advance_bind (f : Token → Walk β) :
    (advance tokens >>= f) s = f (ahead tokens 0 s) (next tokens s) := rfl

/-- To look for an operator leaves the cursor where it is. -/
theorem peekOperator_bind (f : Option (BinaryOp × Nat) → Walk β) :
    (peekOperator tokens >>= f) s =
      f (operatorOf? (ahead tokens 0 s) (ahead tokens 1 s)) s := rfl

/-- Levels that are open can be closed. -/
theorem leave_bind {n : Nat} (hn : n ≤ s.depth) (f : PUnit → Walk β) :
    (leave n >>= f) s = f ⟨⟩ { s with depth := s.depth - n } := by
  change EStateM.bind (leave n) f s = _
  rw [EStateM.bind, leave, if_pos hn]

/-- Behind the first token, the cursor can step back. -/
theorem back_bind (hs : 0 < s.pos) (f : PUnit → Walk β) :
    (back >>= f) s = f ⟨⟩ { s with pos := s.pos - 1 } := by
  obtain ⟨pos, depth⟩ := s
  obtain ⟨pos, rfl⟩ : ∃ n, pos = n + 1 := ⟨pos - 1, (Nat.sub_add_cancel hs).symm⟩
  rfl

/-- To skip tokens is to move on as often. -/
theorem skip_bind (n : Nat) (f : PUnit → Walk β) :
    (skip tokens n >>= f) s = f ⟨⟩ ((next tokens)^[n] s) := by
  induction n generalizing s with
  | zero => rfl
  | succ n ih => exact ih

/-- The cursor stands at the offset of a token. -/
theorem offset_mem (hended : Terminated tokens) (s : Cursor) :
    ∃ t ∈ tokens, offset tokens s = t.offset := by
  obtain ⟨last, hlast, -⟩ := hended
  cases ht : tokens[s.pos]? with
  | some t => exact ⟨t, List.mem_of_getElem? ht, by rw [offset, ht]; rfl⟩
  | none => exact ⟨last, List.mem_of_getLast? hlast, by rw [offset, ht, hlast]; rfl⟩

/-- The condition is refused at a token wherever the cursor stands. -/
theorem refuse_sound {depth' : Nat} (hended : Terminated tokens) (hs : Reached tokens pos depth' s)
    (hd : depth ≤ depth') (fault : SyntaxFault) :
    Sound tokens depth post (refuse (α := α) tokens fault s) :=
  .refused hs.within (hd.trans hs.depth.ge) (offset_mem hended s)

/-- Behind a step back the condition is refused. -/
theorem back_refuse_sound {depth' : Nat} (hended : Terminated tokens)
    (hs : Reached tokens (pos + 1) depth' s) (hd : depth ≤ depth') (fault : SyntaxFault) :
    Sound tokens depth post ((back >>= fun _ => refuse (α := α) tokens fault) s) := by
  rw [back_bind (Nat.lt_of_lt_of_le (Nat.succ_pos pos) hs.behind)]
  have hback : Reached tokens pos depth' { s with pos := s.pos - 1 } :=
    ⟨hs.depth, Nat.le_sub_of_add_le hs.behind, (Nat.sub_le _ _).trans hs.within⟩
  exact refuse_sound hended hback hd fault

/-- Behind a level that is opened. -/
theorem enter_sound {depth' : Nat} (hended : Terminated tokens) (hs : Reached tokens pos depth' s)
    (hd : depth ≤ depth') {f : PUnit → Walk β}
    (hf : Reached tokens pos (depth' + 1) { s with depth := s.depth + 1 } →
      Sound tokens depth post (f ⟨⟩ { s with depth := s.depth + 1 })) :
    Sound tokens depth post ((enter tokens >>= f) s) := by
  change Sound tokens depth post (EStateM.bind (enter tokens) f s)
  rw [EStateM.bind, enter]
  dsimp only
  by_cases hlimit : levelLimit < s.depth + 1
  · rw [if_pos hlimit]
    exact .refused hs.within (Nat.le_succ_of_le (hd.trans hs.depth.ge)) (offset_mem hended _)
  · rw [if_neg hlimit]
    exact hf hs.opened

/-- Behind levels that are closed. -/
theorem leave_sound {n : Nat} (a : α) : Closes tokens n (leave n >>= fun _ => pure a) := by
  intro pos depth s hs
  have hn : n ≤ s.depth := by
    rw [hs.depth]
    exact Nat.le_add_left _ _
  rw [leave_bind hn]
  refine .ok ⟨?_, hs.behind, hs.within⟩
  rw [hs.depth]
  exact Nat.add_sub_cancel _ _

/-- Behind a part that has a result and a level open, the level is closed. -/
theorem thenLeave_ok {x : Walk α} {a : α} {s' : Cursor} (hx : x s = .ok a s')
    (hopen : 1 ≤ s'.depth) : thenLeave x s = .ok a { s' with depth := s'.depth - 1 } := by
  rw [thenLeave, hx]
  exact leave_bind hopen _

/-- Behind a part that refuses the condition with a level open, the level is closed, too. -/
theorem thenLeave_refused {x : Walk α} {e : SyntaxError} {s' : Cursor}
    (hx : x s = .error (.refused e) s') (hopen : 1 ≤ s'.depth) :
    thenLeave x s = .error (.refused e) { s' with depth := s'.depth - 1 } := by
  rw [thenLeave, hx]
  exact leave_bind hopen _

/-- A level that is closed behind a part of the parser. -/
theorem thenLeave_sound {x : Walk α}
    (hx : Sound tokens (depth + 1) (Reached tokens pos (depth + 1)) (x s)) :
    Sound tokens depth (Reached tokens pos depth) (thenLeave x s) := by
  cases hr : x s with
  | ok a s' =>
    rw [hr] at hx
    cases hx with
    | ok h =>
      rw [thenLeave_ok hr (h.depth.ge.trans' (Nat.le_add_left _ _))]
      exact .ok ⟨by rw [h.depth]; rfl, h.behind, h.within⟩
  | error stop s' =>
    rw [hr] at hx
    cases hx with
    | refused hpos hdepth hat =>
      rw [thenLeave_refused hr (hdepth.trans' (Nat.le_add_left _ _))]
      exact .refused hpos (Nat.le_sub_of_add_le hdepth) hat
    | unfinished =>
      rw [thenLeave, hr]
      exact .unfinished

/-- The expected token is passed. -/
theorem expect_sound (hended : Terminated tokens) (hs : Reached tokens pos depth s) (want : Token)
    (what : String) :
    Sound tokens depth (Reached tokens pos depth) (expect tokens want what s) := by
  rw [expect, peek_bind]
  split
  · rw [advance_bind]
    exact .ok hs.next
  · exact refuse_sound hended hs (Nat.le_refl _) _

end Steps

/-! ## Parts -/

/-- Calls that keep the counters. -/
structure Balanced (tokens : List Located) (c : Calls) : Prop where
  expression : Passes tokens c.expression
  binary : ∀ least, Passes tokens (c.binary least)
  chain : ∀ least left n, Closes tokens n (c.chain least left n)
  unary : Passes tokens c.unary
  items : ∀ before close what, Passes tokens (c.items before close what)
  accesses : ∀ object n, Closes tokens n (c.accesses object n)

section Parts

variable {c : Calls}

/-- Items pass the token that closes them, and no level is left open. -/
theorem items_passes (hended : Terminated tokens) (h : Balanced tokens c) (before : List Expr)
    (close : Token) (what : String) : Passes tokens (items tokens c before close what) := by
  intro pos depth s hs
  refine (h.expression hs).bind (Nat.le_refl _) fun item s' hs' => ?_
  rw [peek_bind]
  split
  · rw [advance_bind, peek_bind]
    split
    · rw [advance_bind]
      exact .ok hs'.next.next
    · exact (h.items _ _ _ hs'.next).imp (Nat.le_refl _) fun _ h => h.weaken (Nat.le_succ _)
  split
  · rw [advance_bind]
    exact .ok hs'.next
  · exact refuse_sound hended hs' (Nat.le_refl _) _

/-- A list in its brackets passes a token and leaves no level open. -/
theorem list_passes (hended : Terminated tokens) (h : Balanced tokens c) {close : Token}
    (hclose : close ≠ .ending) (what : String) : Passes tokens (list tokens c close what) := by
  intro pos depth s hs
  rw [list, peek_bind]
  split
  · rename_i hfound
    rw [advance_bind]
    exact .ok (hs.next_pos hended (hfound ▸ hclose))
  · exact items_passes hended h [] close what hs

/-- The word has been passed already. -/
theorem wordOrCall_sound (hended : Terminated tokens) (h : Balanced tokens c) (w : String)
    (hs : Reached tokens (pos + 1) depth s) :
    Sound tokens depth (Reached tokens (pos + 1) depth) (wordOrCall tokens c w s) := by
  unfold wordOrCall
  split
  · exact .ok hs
  · exact .ok hs
  · exact .ok hs
  split
  · exact back_refuse_sound hended hs (Nat.le_refl _) _
  rw [peek_bind]
  split
  · rw [advance_bind]
    refine (list_passes hended h (by decide) "')'" hs.next).bind (Nat.le_refl _) ?_
    exact fun arguments s' hs' => .ok (hs'.weaken (Nat.le_succ _))
  · exact .ok hs

/-- An operand without accesses passes a token and leaves no level open. -/
theorem primary_passes (hended : Terminated tokens) (h : Balanced tokens c) :
    Passes tokens (primary tokens c) := by
  intro pos depth s hs
  have hmoved := hs.next_pos hended
  rw [primary, advance_bind]
  generalize ahead tokens 0 s = found at hmoved
  cases found with
  | int n => exact .ok (hmoved nofun)
  | float x => exact .ok (hmoved nofun)
  | text t => exact .ok (hmoved nofun)
  | leftParen =>
    refine (h.expression hs.next).bind (Nat.le_refl _) fun e s' hs' => ?_
    refine (expect_sound hended hs' _ _).bind (Nat.le_refl _) fun _ s'' hs'' => ?_
    exact .ok hs''
  | leftBracket =>
    refine (list_passes hended h (by decide) "']'" hs.next).bind (Nat.le_refl _) ?_
    exact fun members s' hs' => .ok hs'
  | word w => exact wordOrCall_sound hended h w (hmoved nofun)
  | ending => exact refuse_sound hended hs.next (Nat.le_refl _) _
  | _ => exact back_refuse_sound hended (hmoved nofun) (Nat.le_refl _) _

/-- A member behind a dot that stands at the cursor. -/
theorem member_sound (hended : Terminated tokens) (h : Balanced tokens c) (object : Expr)
    (optional : Bool) {n : Nat} (hne : ahead tokens 0 s ≠ .ending)
    (hs : Reached tokens pos (depth + (n + 1)) s) :
    Sound tokens depth (Reached tokens pos depth) (member tokens c object optional n s) := by
  have hname := hs.next_pos hended hne
  rw [member, advance_bind, advance_bind]
  cases ahead tokens 0 (next tokens s) with
  | word key => exact h.accesses _ (n + 1) (hname.next.weaken (Nat.le_succ _))
  | _ => exact back_refuse_sound hended hname.next (Nat.le_add_right _ _) _

/-- An index passes its brackets and closes the levels of its object and its own. -/
theorem index_sound (hended : Terminated tokens) (h : Balanced tokens c) (object : Expr) {n : Nat}
    (hs : Reached tokens pos (depth + (n + 1)) s) :
    Sound tokens depth (Reached tokens pos depth) (index tokens c object n s) := by
  have hle : depth ≤ depth + (n + 1) := Nat.le_add_right _ _
  rw [index, advance_bind]
  refine (h.expression hs.next).bind hle fun index s' hs' => ?_
  refine (expect_sound hended hs' _ _).bind hle fun _ s'' hs'' => ?_
  exact h.accesses _ (n + 1) (hs''.weaken (Nat.le_succ _))

/-- The accesses behind an object close the levels that were opened for it. -/
theorem accesses_closes (hended : Terminated tokens) (h : Balanced tokens c) (object : Expr)
    (n : Nat) : Closes tokens n (accesses tokens c object n) := by
  intro pos depth s hs
  have hle : depth ≤ depth + n := Nat.le_add_right _ _
  rw [accesses, peek_bind]
  cases hmark : ahead tokens 0 s with
  | dot =>
    exact enter_sound hended hs hle fun hin =>
      member_sound hended h object false (hmark ▸ nofun) hin
  | questionDot =>
    exact enter_sound hended hs hle fun hin =>
      member_sound hended h object true (hmark ▸ nofun) hin
  | leftBracket => exact enter_sound hended hs hle fun hin => index_sound hended h object hin
  | _ => exact leave_sound object hs

/-- An operand behind a sign passes a token and leaves no level open. -/
theorem operand_passes (hended : Terminated tokens) (h : Balanced tokens c)
    (op? : Option UnaryOp) : Passes tokens (operand tokens c op?) := by
  intro pos depth s hs
  have hle := Nat.le_refl depth
  rw [operand, advance_bind]
  refine enter_sound hended hs.next hle fun hin => ?_
  exact (thenLeave_sound (h.unary hin)).bind hle fun e s' hs' => .ok hs'

/-- An operand with its signs passes a token and leaves no level open. -/
theorem unary_passes (hended : Terminated tokens) (h : Balanced tokens c) :
    Passes tokens (unary tokens c) := by
  intro pos depth s hs
  rw [unary, peek_bind]
  generalize ahead tokens 0 s = found
  split
  · exact operand_passes hended h _ hs
  · exact operand_passes hended h _ hs
  · exact operand_passes hended h _ hs
  · exact operand_passes hended h _ hs
  · refine (primary_passes hended h hs).bind (Nat.le_refl _) fun e s' hs' => ?_
    exact accesses_closes hended h e 0 hs'

/-- The operators behind a left operand close the levels that were opened for them. -/
theorem chain_closes (hended : Terminated tokens) (h : Balanced tokens c) (least : Nat)
    (left : Expr) (n : Nat) : Closes tokens n (chain tokens c least left n) := by
  intro pos depth s hs
  have hle : depth ≤ depth + n := Nat.le_add_right _ _
  rw [chain, peekOperator_bind]
  generalize operatorOf? _ _ = operator?
  split
  · exact leave_sound left hs
  split
  · exact leave_sound left hs
  rw [skip_bind]
  refine enter_sound hended (hs.nexts _) hle fun hin => ?_
  refine (h.binary _ hin).bind (Nat.le_succ_of_le hle) fun right s'' hs'' => ?_
  exact h.chain _ _ (n + 1) (hs''.weaken (Nat.le_succ _))

/-- Operators of a least precedence pass a token and leave no level open. -/
theorem binary_passes (hended : Terminated tokens) (h : Balanced tokens c) (least : Nat) :
    Passes tokens (binary tokens c least) := by
  intro pos depth s hs
  refine (unary_passes hended h hs).bind (Nat.le_refl _) fun left s' hs' => ?_
  exact chain_closes hended h least left 0 hs'

/-- A choice passes a token and leaves no level open. -/
theorem ternary_passes (hended : Terminated tokens) (h : Balanced tokens c) :
    Passes tokens (ternary tokens c) := by
  intro pos depth s hs
  have hle := Nat.le_refl depth
  refine (binary_passes hended h 1 hs).bind hle fun test s' hs' => ?_
  rw [peek_bind]
  split
  · rw [advance_bind]
    refine (h.expression hs'.next).bind hle fun yes s₂ hs₂ => ?_
    refine (expect_sound hended hs₂ _ _).bind hle fun _ s₃ hs₃ => ?_
    refine (h.expression hs₃).bind hle fun no s₄ hs₄ => ?_
    exact .ok (hs₄.weaken (by omega))
  · exact .ok hs'

/-- An expression passes a token and leaves no level open. -/
theorem expression_passes (hended : Terminated tokens) (h : Balanced tokens c) :
    Passes tokens (expression tokens c) := by
  intro pos depth s hs
  refine enter_sound hended hs (Nat.le_refl _) fun hin => ?_
  exact thenLeave_sound (ternary_passes hended h hin)

/-- A round keeps the counters if the calls that go round do. -/
theorem Balanced.around (hended : Terminated tokens) (h : Balanced tokens c) :
    Balanced tokens (c.around tokens) where
  expression := expression_passes hended h
  binary := binary_passes hended h
  chain := chain_closes hended h
  unary := unary_passes hended h
  items := items_passes hended h
  accesses := accesses_closes hended h

end Parts

/-- Calls are balanced whatever the number of rounds is, by induction on it. -/
theorem calls_balanced (hended : Terminated tokens) (n : Nat) :
    Balanced tokens (calls tokens n) := by
  induction n with
  | zero =>
    exact ⟨fun _ => .unfinished, fun _ _ _ _ _ => .unfinished, fun _ _ _ _ _ _ _ => .unfinished,
      fun _ => .unfinished, fun _ _ _ _ _ _ _ => .unfinished, fun _ _ _ _ _ _ => .unfinished⟩
  | succ n ih => exact ih.around hended

/-- A condition passes a token and leaves no level open. -/
theorem condition_passes (hended : Terminated tokens) : Passes tokens (condition tokens) := by
  intro pos depth s hs
  have hcalls := calls_balanced hended (tokens.length + 1)
  refine (hcalls.expression hs).bind (Nat.le_refl _) fun e s' hs' => ?_
  rw [peek_bind]
  split
  · exact .ok hs'
  · exact refuse_sound hended hs' (Nat.le_refl _) _

end Telemetry.Condition.Cursor
