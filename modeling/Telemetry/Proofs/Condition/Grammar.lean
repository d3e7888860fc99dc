import Telemetry.Proofs.Condition.Printer

/-!
# The grammar of conditions

Which tokens are a condition, and which tree they stand for, regardless of how they are read. The
rules are those of the table of precedences: a choice binds the least, `??` associates to the right,
the operators of the five levels behind it to the left, and members and indices bind the most.
-/

namespace Telemetry.Condition

/-! ## Tokens -/

/-- The tokens that an operator may be written as. -/
def UnaryOp.spellings : UnaryOp → List Token
  | not => [.bang, .word "not"]
  | negate => [.minus]

/-- The rows of tokens that an operator may be written as. -/
def BinaryOp.spellings (op : BinaryOp) : List (List Token) :=
  op.tokens :: match op with
    | or => [[.word "or"]]
    | and => [[.word "and"]]
    | _ => []

/-- The operand that a token is on its own. -/
def Token.operand? : Token → Option Expr
  | int n => some (.int n)
  | float x => some (.float x)
  | text s => some (.text s)
  | word "true" => some (.bool true)
  | word "false" => some (.bool false)
  | word "nil" => some .nil
  | word w => if keywords.contains w then none else some (.name w)
  | _ => none

/-! ## Lists -/

/-- Items with commas between them, none at all perhaps. One more comma may stand behind the last
item. -/
inductive Listing : List (List Token) → List Token → Prop where
  | empty : Listing [] []
  | last (item : List Token) : Listing [item] item
  | trailing (item : List Token) : Listing [item] (item ++ [.comma])
  | more (item : List Token) {next : List Token} {items : List (List Token)} {ts : List Token}
      (h : Listing (next :: items) ts) : Listing (item :: next :: items) (item ++ .comma :: ts)

/-- There are no more commas than tokens. -/
theorem Listing.length_le {items : List (List Token)} {ts : List Token} (h : Listing items ts) :
    items.length ≤ ts.length + 1 := by
  induction h with
  | empty => exact Nat.zero_le _
  | last item => exact Nat.succ_le_succ (Nat.zero_le _)
  | trailing item => exact Nat.succ_le_succ (Nat.zero_le _)
  | more item _ ih =>
    simp only [List.length_cons, List.length_append] at ih ⊢
    omega

/-- An item has no more tokens than its list. -/
theorem Listing.length_le_of_mem {items : List (List Token)} {ts : List Token}
    (h : Listing items ts) {item : List Token} (hitem : item ∈ items) :
    item.length ≤ ts.length := by
  induction h with
  | empty => exact absurd hitem List.not_mem_nil
  | last | trailing =>
    obtain rfl := List.mem_singleton.mp hitem
    simp
  | more first _ ih =>
    simp only [List.length_cons, List.length_append]
    rcases List.mem_cons.mp hitem with rfl | hitem
    · omega
    · have hle := ih hitem
      omega

/-! ## Phrases -/

/-- What tokens can be a phrase of. -/
inductive Category where
  /-- A whole condition. -/
  | whole
  /-- Operands with operators of at least this precedence between them; from seven on there are no
  such operators. -/
  | joined (least : Nat)
  /-- An operand with the operators in front of it. -/
  | prefixed
  /-- An operand with the members and indices behind it. -/
  | suffixed
  /-- An operand without operators, members and indices. -/
  | primary

/-- The tokens are a phrase of the category, and the tree is what they stand for. -/
inductive Phrase : Category → List Token → Expr → Prop where
  | test {ts : List Token} {e : Expr} (h : Phrase (.joined 1) ts e) : Phrase .whole ts e
  | choice {us vs ws : List Token} {test yes no : Expr} (ht : Phrase (.joined 1) us test)
      (hy : Phrase .whole vs yes) (hn : Phrase .whole ws no) :
      Phrase .whole (us ++ .question :: (vs ++ .colon :: ws)) (.choice test yes no)
  | tighter {n : Nat} (hn : 1 ≤ n) {ts : List Token} {e : Expr}
      (h : Phrase (.joined (n + 1)) ts e) : Phrase (.joined n) ts e
  /-- The one operator that associates to the right. -/
  | coalesce {us vs : List Token} {left right : Expr} (hl : Phrase (.joined 2) us left)
      (hr : Phrase (.joined 1) vs right) :
      Phrase (.joined 1) (us ++ .doubleQuestion :: vs) (.binary .coalesce left right)
  | operator {op : BinaryOp} (hop : op ≠ .coalesce) {mark us vs : List Token}
      (hmark : mark ∈ op.spellings) {left right : Expr}
      (hl : Phrase (.joined op.precedence) us left)
      (hr : Phrase (.joined (op.precedence + 1)) vs right) :
      Phrase (.joined op.precedence) (us ++ (mark ++ vs)) (.binary op left right)
  | operand {ts : List Token} {e : Expr} (h : Phrase .prefixed ts e) : Phrase (.joined 7) ts e
  | unary {op : UnaryOp} {mark : Token} (hmark : mark ∈ op.spellings) {ts : List Token} {e : Expr}
      (h : Phrase .prefixed ts e) : Phrase .prefixed (mark :: ts) (.unary op e)
  /-- A plus sign leaves no trace. -/
  | plus {ts : List Token} {e : Expr} (h : Phrase .prefixed ts e) :
      Phrase .prefixed (.plus :: ts) e
  | object {ts : List Token} {e : Expr} (h : Phrase .suffixed ts e) : Phrase .prefixed ts e
  | member {ts : List Token} {object : Expr} (h : Phrase .suffixed ts object) (key : String)
      (optional : Bool) :
      Phrase .suffixed (ts ++ [if optional then .questionDot else .dot, .word key])
        (.member object key optional)
  | index {us vs : List Token} {object position : Expr} (ho : Phrase .suffixed us object)
      (hp : Phrase .whole vs position) :
      Phrase .suffixed (us ++ .leftBracket :: (vs ++ [.rightBracket])) (.index object position)
  | bare {ts : List Token} {e : Expr} (h : Phrase .primary ts e) : Phrase .suffixed ts e
  | atom {t : Token} {e : Expr} (h : t.operand? = some e) : Phrase .primary [t] e
  | call {function : String} (hword : keywords.contains function = false)
      {items : List (List Token × Expr)} (h : ∀ i ∈ items, Phrase .whole i.1 i.2)
      {ts : List Token} (hts : Listing (items.map (·.1)) ts) :
      Phrase .primary (.word function :: .leftParen :: (ts ++ [.rightParen]))
        (.call function (items.map (·.2)))
  | array {items : List (List Token × Expr)} (h : ∀ i ∈ items, Phrase .whole i.1 i.2)
      {ts : List Token} (hts : Listing (items.map (·.1)) ts) :
      Phrase .primary (.leftBracket :: (ts ++ [.rightBracket])) (.array (items.map (·.2)))
  /-- Parentheses leave no trace. -/
  | parenthesised {ts : List Token} {e : Expr} (h : Phrase .whole ts e) :
      Phrase .primary (.leftParen :: (ts ++ [.rightParen])) e

/-- Operands with tighter operators between them may stand where looser ones may. -/
theorem Phrase.looser {n k : Nat} (hk : 1 ≤ k) (hle : k ≤ n) {ts : List Token} {e : Expr}
    (h : Phrase (.joined n) ts e) : Phrase (.joined k) ts e := by
  induction hle with
  | refl => exact h
  | step hle ih => exact ih (.tighter (Nat.le_trans hk hle) h)

/-- Every operator joins operands of the precedences that it asks for on its sides. -/
theorem Phrase.binary {op : BinaryOp} {mark us vs : List Token} (hmark : mark ∈ op.spellings)
    {left right : Expr} (hl : Phrase (.joined op.leftPrecedence) us left)
    (hr : Phrase (.joined op.rightPrecedence) vs right) :
    Phrase (.joined op.precedence) (us ++ (mark ++ vs)) (.binary op left right) := by
  by_cases hop : op = .coalesce
  · subst hop
    obtain rfl := List.mem_singleton.mp hmark
    exact .coalesce hl hr
  · rw [BinaryOp.leftPrecedence, if_neg hop] at hl
    rw [BinaryOp.rightPrecedence, if_neg hop] at hr
    exact .operator hop hmark hl hr

end Telemetry.Condition
