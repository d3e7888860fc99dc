import Telemetry.Proofs.Condition.Operands
import Telemetry.Proofs.Condition.Spelling

/-!
# Written conditions are read back

By induction on the tree, its tokens are read by every reader with two levels for each node. Fewer
levels than that either suffice as well or are too few, and a tree of at most fifty nodes has enough
of them.
-/

namespace Telemetry.Condition

open Level

namespace Expr

/-- Operators of at least this precedence do not stand behind the operand without parentheses around
it. -/
def bound : Expr → Nat
  | .binary op .. => op.rightPrecedence
  | _ => 7

/-- The tokens of the condition are read, with two levels for each node. -/
def IsRead (e : Expr) : Prop :=
  ∀ ts : List Located, ts.map (·.token) = e.tokens →
    Reads (2 * e.size - 2) e ts e.precedence e.bound

/-- An operand is read in its place, with parentheses or without. -/
theorem IsRead.enclosed {e : Expr} (h : e.IsRead) {least : Nat} (hleast : least ≤ 8)
    {ts : List Located} (hts : ts.map (·.token) = Expr.enclosed e.precedence least e.tokens) :
    ∃ precedence bound, Reads (2 * e.size - 1) e ts precedence bound ∧ least ≤ precedence ∧
      ((precedence = e.precedence ∧ bound = e.bound) ∨ bound = 7) := by
  have hsize := e.size_pos
  unfold Expr.enclosed at hts
  split at hts
  · obtain ⟨first, inner, last, rfl, hfirst, hinner, hlast⟩ := bracketed_of_map hts
    have hobject := (h inner hinner).whole.parenthesised hfirst hlast
    have hlevels : 2 * e.size - 2 + 1 = 2 * e.size - 1 := by omega
    rw [hlevels] at hobject
    exact ⟨8, 7, hobject.reads (Nat.zero_le _), hleast, .inr rfl⟩
  · rename_i htight
    have hreads := (h ts hts).mono (show 2 * e.size - 2 ≤ 2 * e.size - 1 by omega)
    exact ⟨e.precedence, e.bound, hreads, Nat.le_of_not_lt htight, .inl ⟨rfl, rfl⟩⟩

/-- An object is read in its place. -/
theorem IsRead.object {e : Expr} (h : e.IsRead) {ts : List Located}
    (hts : ts.map (·.token) = Expr.enclosed e.precedence 8 e.tokens) :
    ∃ spine < 2 * e.size, ReadsObject (2 * e.size - 1) e ts spine := by
  obtain ⟨precedence, bound, hreads, hle, -⟩ := h.enclosed (Nat.le_refl 8) hts
  obtain ⟨spine, hspine, hobject⟩ := hreads.object hle
  have hsize := e.size_pos
  exact ⟨spine, by omega, hobject⟩

/-! ## Trees -/

/-- A token that is an operand alone. -/
theorem isRead_single {e : Expr} {t : Token} (htokens : e.tokens = [t])
    (hprecedence : e.precedence = 8) (hbound : e.bound = 7)
    (ht : t ∉ [.bang, .word "not", .minus, .plus])
    (hprimary : ∀ inner ending offset rest, front rest ≠ .leftParen →
      primary inner ending (⟨t, offset⟩ :: rest) = .ok (e, rest)) : e.IsRead := by
  intro ts hts
  rw [htokens] at hts
  obtain ⟨⟨token, offset⟩, rfl, rfl⟩ := List.map_eq_singleton_iff.mp hts
  rw [hprecedence, hbound]
  have hobject : ReadsObject (2 * e.size - 2) e [⟨token, offset⟩] 0 :=
    readsObject_single ht fun inner ending rest => hprimary inner ending offset rest
  exact hobject.reads (Nat.zero_le _)

/-! ## Lists -/

/-- Parentheses do not turn an operand into the end of a list. -/
theorem Starts.enclosed {ts : List Token} (h : Starts ts) (precedence least : Nat) :
    Starts (Expr.enclosed precedence least ts) := by
  unfold Expr.enclosed
  split
  · exact ⟨.leftParen, _, rfl, by decide, by decide⟩
  · exact h

/-- No operand starts with a closing bracket. -/
theorem tokens_starts (e : Expr) : Starts e.tokens := by
  induction e with
  | member object _ _ ih | index object _ ih => exact (ih.enclosed _ _).append _
  | binary op left _ ih => exact (ih.enclosed _ _).append _
  | choice test _ _ ih => exact (ih.enclosed _ _).append _
  | unary op => cases op <;> exact ⟨_, _, rfl, by decide, by decide⟩
  | _ => exact ⟨_, _, rfl, by simp, by simp⟩

/-- The conditions of a list with their tokens. -/
def asItems (es : List Expr) : List (List Token × Expr) := es.map fun e => (e.tokens, e)

/-- The trees of items are the trees of which they are made. -/
theorem map_asItems (es : List Expr) : (asItems es).map (·.2) = es := by
  rw [asItems, List.map_map]
  exact List.map_id es

/-- Conditions are listed with commas between them. -/
theorem tokensOfAll_listing (es : List Expr) :
    Listing ((asItems es).map (·.1)) (tokensOfAll es) := by
  induction es with
  | nil => exact .empty
  | cons e es ih =>
    cases es with
    | nil => exact .last _
    | cons => exact .more _ ih

/-- A tree that is read is read as an item, with levels for its size. -/
theorem IsRead.item {e : Expr} (h : e.IsRead) {m : Nat} (hm : 2 * e.size - 2 < m) :
    ReadsItem (opened m).ternary e.tokens e where
  starts := tokens_starts e
  read ts _ _ hts hrest := (h ts hts).whole.inner hm hrest

/-- Items are read with the levels that are left for a list. -/
theorem readsItems {es : List Expr} (h : ∀ e ∈ es, e.IsRead) {m : Nat}
    (hm : 2 * sizeOfAll es ≤ m) :
    ∀ i ∈ asItems es, ReadsItem (opened m).ternary i.1 i.2 := by
  intro i hi
  obtain ⟨e, he, rfl⟩ := List.mem_map.mp hi
  have hpos := e.size_pos
  have hle := size_le_sizeOfAll he
  exact (h e he).item (by omega)

/-- An array is read if its items are. -/
theorem array_isRead {items : List Expr} (h : ∀ e ∈ items, e.IsRead) : (array items).IsRead := by
  intro ts hts
  obtain ⟨first, inner, last, rfl, hfirst, hinner, hlast⟩ := bracketed_of_map hts
  have hsize : 2 * (array items).size - 2 = 2 * sizeOfAll items := by
    simp only [size]
    omega
  have hlisting : Listing ((asItems items).map (·.1)) (inner.map (·.token)) := by
    rw [hinner]
    exact tokensOfAll_listing items
  have hobject := readsObject_array (fun m hm => readsItems h hm) hfirst hlisting hlast
  rw [map_asItems] at hobject
  rw [hsize]
  exact hobject.reads (Nat.zero_le _)

/-- A call is read if its arguments are and its word is no keyword. -/
theorem call_isRead {function : String} (hword : keywords.contains function = false)
    {arguments : List Expr} (h : ∀ e ∈ arguments, e.IsRead) :
    (call function arguments).IsRead := by
  intro ts hts
  obtain ⟨⟨token, offset⟩, later, rfl, rfl, hlater⟩ := List.map_eq_cons_iff.mp hts
  obtain ⟨first, inner, last, rfl, hfirst, hinner, hlast⟩ := bracketed_of_map hlater
  have hsize : 2 * (call function arguments).size - 2 = 2 * sizeOfAll arguments := by
    simp only [size]
    omega
  have hlisting : Listing ((asItems arguments).map (·.1)) (inner.map (·.token)) := by
    rw [hinner]
    exact tokensOfAll_listing arguments
  have hobject := readsObject_call hword (fun m hm => readsItems h hm) offset hfirst hlisting hlast
  rw [map_asItems] at hobject
  rw [hsize]
  exact hobject.reads (Nat.zero_le _)

/-- A member is read if its object is. -/
theorem member_isRead {object : Expr} (h : object.IsRead) (key : String) (optional : Bool) :
    (member object key optional).IsRead := by
  intro ts hts
  obtain ⟨front, tail, rfl, hfront, htail⟩ := List.map_eq_append_iff.mp hts
  obtain ⟨mark, words, rfl, hmark, hwords⟩ := List.map_eq_cons_iff.mp htail
  obtain ⟨word, rfl, hword⟩ := List.map_eq_singleton_iff.mp hwords
  obtain ⟨spine, hspine, hread⟩ := h.object hfront
  have hsize : 2 * (member object key optional).size - 2 = 2 * object.size := by
    simp only [size]
    omega
  rw [hsize]
  exact ((hread.member hmark hword).mono (by omega)).reads (by omega)

/-- An index is read if its object and its position are. -/
theorem index_isRead {object position : Expr} (ho : object.IsRead) (hp : position.IsRead) :
    (index object position).IsRead := by
  intro ts hts
  obtain ⟨front, tail, rfl, hfront, htail⟩ := List.map_eq_append_iff.mp hts
  obtain ⟨first, inner, last, rfl, hfirst, hinner, hlast⟩ := bracketed_of_map htail
  obtain ⟨spine, hspine, hread⟩ := ho.object hfront
  have hsize : 2 * (index object position).size - 2 = 2 * object.size + 2 * position.size := by
    simp only [size]
    omega
  have hpos := position.size_pos
  rw [hsize]
  have hobject : ReadsObject (2 * object.size + 2 * position.size) object front spine :=
    hread.mono (by omega)
  exact (hobject.index (hp inner hinner).whole (by omega) hfirst hlast).reads (by omega)

/-- An operand with a sign is read if the operand is. -/
theorem unary_isRead {operand : Expr} (h : operand.IsRead) (op : UnaryOp) :
    (unary op operand).IsRead := by
  intro ts hts
  obtain ⟨mark, later, rfl, hmark, hlater⟩ := List.map_eq_cons_iff.mp hts
  obtain ⟨precedence, bound, hreads, hle, -⟩ := h.enclosed (by decide) hlater
  have hsize : 2 * (unary op operand).size - 2 = 2 * operand.size - 1 + 1 := by
    have hpos := operand.size_pos
    simp only [size]
    omega
  rw [hsize]
  have hspelling : mark.token ∈ op.spellings := by
    rw [hmark]
    cases op <;> exact List.mem_cons_self
  exact ((hreads.unary hle).unary op hspelling).reads

/-- Only `??` binds as loosely as it does. -/
private theorem two_le_precedence {op : BinaryOp} (h : op ≠ .coalesce) : 2 ≤ op.precedence := by
  cases op with
  | coalesce => exact absurd rfl h
  | _ => decide

/-- Every operator binds less tightly than an operand without operators. -/
private theorem precedence_lt (op : BinaryOp) : op.precedence < 7 := by
  cases op <;> decide

/-- An operator does not belong to its left operand. -/
theorem precedence_lt_bound {op : BinaryOp} {e : Expr} (h : op.leftPrecedence ≤ e.precedence) :
    op.precedence < e.bound := by
  cases e with
  | binary inner =>
    simp only [precedence, BinaryOp.leftPrecedence] at h
    simp only [bound, BinaryOp.rightPrecedence]
    by_cases hop : op = .coalesce
    · rw [if_pos hop] at h
      have hinner : inner ≠ .coalesce := by
        rintro rfl
        exact absurd h (by rw [hop]; decide)
      rw [if_neg hinner]
      omega
    · rw [if_neg hop] at h
      have hle := two_le_precedence hop
      have hinner : inner ≠ .coalesce := by
        rintro rfl
        have hone : BinaryOp.coalesce.precedence = 1 := rfl
        omega
      rw [if_neg hinner]
      omega
  | _ => exact precedence_lt op

/-- What does not belong to a right operand in its place does not belong to the operand. -/
theorem le_bound {least : Nat} {e : Expr} (hleast : least ≤ 7) (h : least ≤ e.precedence) :
    least ≤ e.bound := by
  cases e with
  | binary op =>
    refine Nat.le_trans h ?_
    simp only [bound, precedence, BinaryOp.rightPrecedence]
    split <;> omega
  | _ => exact hleast

/-- An operation is read if its operands are, with the parentheses that precedences ask for. -/
theorem binary_isRead {left right : Expr} (hl : left.IsRead) (hr : right.IsRead) (op : BinaryOp) :
    (binary op left right).IsRead := by
  intro ts hts
  obtain ⟨front, tail, rfl, hfront, htail⟩ := List.map_eq_append_iff.mp hts
  obtain ⟨mark, back, rfl, hmark, hback⟩ := List.map_eq_append_iff.mp htail
  obtain ⟨p, b, hreads, hp, hb⟩ := hl.enclosed (by cases op <;> decide) hfront
  obtain ⟨q, c, hreads', hq, hc⟩ := hr.enclosed (by cases op <;> decide) hback
  have hsize : 2 * (binary op left right).size - 2 = 2 * left.size + 2 * right.size := by
    simp only [size]
    omega
  have hpos := left.size_pos
  have hpos' := right.size_pos
  have hop : 1 ≤ op.precedence ∧ op.precedence < 7 ∧ op.precedence ≤ op.leftPrecedence ∧
      1 ≤ op.rightPrecedence ∧ op.rightPrecedence ≤ 7 := by
    cases op <;> decide
  have hleft : op.precedence < b := by
    rcases hb with ⟨rfl, rfl⟩ | rfl
    · exact precedence_lt_bound hp
    · exact hop.2.1
  have hright : op.rightPrecedence ≤ c := by
    rcases hc with ⟨rfl, rfl⟩ | rfl
    · exact le_bound hop.2.2.2.2 hq
    · exact hop.2.2.2.2
  obtain ⟨spine, hspine, hchain⟩ := hreads.chain (by omega)
  obtain ⟨spine', hspine', hchain'⟩ := hreads'.chain (by omega)
  have hmore : ReadsChain (2 * left.size + 2 * right.size) left front spine p b :=
    hchain.mono (by omega)
  have hspelling : mark.map (·.token) ∈ op.spellings := hmark ▸ List.mem_cons_self
  rw [hsize]
  exact (hmore.binary hchain' hspine' (by omega) hspelling (by omega) hleft hq hright).reads
    (by omega) hop.1 hop.2.1 hop.2.2.2.1

/-- A choice is read if its test and its branches are. -/
theorem choice_isRead {test yes no : Expr} (ht : test.IsRead) (hy : yes.IsRead) (hn : no.IsRead) :
    (choice test yes no).IsRead := by
  intro ts hts
  obtain ⟨front, tail, rfl, hfront, htail⟩ := List.map_eq_append_iff.mp hts
  obtain ⟨question, later, rfl, hquestion, hlater⟩ := List.map_eq_cons_iff.mp htail
  obtain ⟨middle, others, rfl, hmiddle, hothers⟩ := List.map_eq_append_iff.mp hlater
  obtain ⟨colon, back, rfl, hcolon, hback⟩ := List.map_eq_cons_iff.mp hothers
  obtain ⟨p, b, hreads, hp, hb⟩ := ht.enclosed (by decide) hfront
  obtain ⟨spine, hspine, hchain⟩ := hreads.chain hp
  have hsize : 2 * (choice test yes no).size - 2 =
      2 * test.size + (2 * yes.size + 2 * no.size) := by
    simp only [size]
    omega
  have hpos := test.size_pos
  have htest : ReadsChain (2 * test.size + (2 * yes.size + 2 * no.size)) test front spine p b :=
    hchain.mono (by omega)
  have hyes : ReadsWhole (2 * yes.size + 2 * no.size) yes middle :=
    (hy middle hmiddle).whole.mono (by omega)
  have hno : ReadsWhole (2 * yes.size + 2 * no.size) no back :=
    (hn back hback).whole.mono (by omega)
  rw [hsize]
  exact (htest.choice (by omega) hp hyes hno (by omega) hquestion hcolon).reads

/-- The tokens of every tree that can be written are read. -/
theorem isRead (e : Expr) (he : e.isPrintable = true) : e.IsRead := by
  induction e with
  | nil => exact isRead_single rfl rfl rfl (by decide) fun _ _ _ _ _ => rfl
  | bool b =>
    cases b <;> exact isRead_single rfl rfl rfl (by decide) fun _ _ _ _ _ => rfl
  | int | text => exact isRead_single rfl rfl rfl (by simp) fun _ _ _ _ _ => rfl
  | float => exact absurd he (by simp [isPrintable])
  | array items ih =>
    rw [isPrintable, allPrintable_iff] at he
    exact array_isRead fun e hmem => ih e hmem (he e hmem)
  | name s =>
    simp only [isPrintable, Bool.and_eq_true, Bool.not_eq_true'] at he
    refine isRead_single rfl rfl rfl ?_ fun inner ending offset rest hcall => ?_
    · have hnot : s ≠ "not" := by
        rintro rfl
        exact absurd he.2 (by decide)
      simp [hnot]
    · rw [primary_word he.2, if_neg hcall]
  | member object key optional ih =>
    simp only [isPrintable, Bool.and_eq_true] at he
    exact member_isRead (ih he.1) key optional
  | index object position iho ihp =>
    simp only [isPrintable, Bool.and_eq_true] at he
    exact index_isRead (iho he.1) (ihp he.2)
  | call function arguments ih =>
    simp only [isPrintable, Bool.and_eq_true, Bool.not_eq_true', allPrintable_iff] at he
    exact call_isRead he.1.2 fun e hmem => ih e hmem (he.2 e hmem)
  | unary op operand ih => exact unary_isRead (ih he) op
  | binary op left right ihl ihr =>
    simp only [isPrintable, Bool.and_eq_true] at he
    exact binary_isRead (ihl he.1) (ihr he.2) op
  | choice test yes no iht ihy ihn =>
    simp only [isPrintable, Bool.and_eq_true] at he
    exact choice_isRead (iht he.1.1) (ihy he.1.2) (ihn he.2)

/-! ## Texts -/

/-- Parentheses can be spelled. -/
theorem enclosed_spellable {ts : List Token} (h : ∀ t ∈ ts, t.Spellable) (precedence least : Nat) :
    ∀ t ∈ enclosed precedence least ts, t.Spellable := by
  unfold enclosed
  split
  · simp only [List.forall_mem_cons, List.forall_mem_append]
    exact ⟨trivial, h, trivial, List.forall_mem_nil _⟩
  · exact h

/-- The tokens of a row can be spelled if those of each tree can. -/
theorem tokensOfAll_spellable {es : List Expr} (h : ∀ e ∈ es, ∀ t ∈ e.tokens, t.Spellable) :
    ∀ t ∈ tokensOfAll es, t.Spellable := by
  induction es with
  | nil => simp [tokensOfAll]
  | cons e es ih =>
    have hfirst := h e List.mem_cons_self
    have hlater := ih fun e he => h e (List.mem_cons_of_mem _ he)
    cases es with
    | nil => exact hfirst
    | cons e' es =>
      simp only [tokensOfAll, List.forall_mem_append, List.forall_mem_cons]
      exact ⟨hfirst, trivial, hlater⟩

/-- The tokens of every tree that can be written have spellings. -/
theorem tokens_spellable (e : Expr) (he : e.isPrintable = true) :
    ∀ t ∈ e.tokens, t.Spellable := by
  induction e with
  | nil => simpa [tokens, Token.Spellable] using show isIdentifier "nil" = true by decide
  | bool b =>
    cases b <;> simp only [tokens, List.forall_mem_singleton, Token.Spellable] <;> decide
  | int n => simpa [tokens, Token.Spellable, isPrintable] using he
  | text => simp [tokens, Token.Spellable]
  | float => exact absurd he (by simp [isPrintable])
  | array items ih =>
    rw [isPrintable, allPrintable_iff] at he
    have hitems := tokensOfAll_spellable fun e hmem => ih e hmem (he e hmem)
    simp only [tokens, List.forall_mem_cons, List.forall_mem_append]
    exact ⟨trivial, hitems, trivial, List.forall_mem_nil _⟩
  | name s =>
    simp only [isPrintable, Bool.and_eq_true] at he
    simpa [tokens, Token.Spellable] using he.1
  | member object key optional ih =>
    simp only [isPrintable, Bool.and_eq_true] at he
    have hobject := enclosed_spellable (ih he.1) object.precedence 8
    simp only [tokens, List.forall_mem_append, List.forall_mem_cons]
    refine ⟨hobject, ?_, he.2, List.forall_mem_nil _⟩
    cases optional <;> trivial
  | index object position iho ihp =>
    simp only [isPrintable, Bool.and_eq_true] at he
    have hobject := enclosed_spellable (iho he.1) object.precedence 8
    simp only [tokens, List.forall_mem_append, List.forall_mem_cons]
    exact ⟨hobject, trivial, ihp he.2, trivial, List.forall_mem_nil _⟩
  | call function arguments ih =>
    simp only [isPrintable, Bool.and_eq_true, allPrintable_iff] at he
    have harguments := tokensOfAll_spellable fun e hmem => ih e hmem (he.2 e hmem)
    simp only [tokens, List.forall_mem_cons, List.forall_mem_append]
    exact ⟨he.1.1, trivial, harguments, trivial, List.forall_mem_nil _⟩
  | unary op operand ih =>
    have hoperand := enclosed_spellable (ih he) operand.precedence 7
    simp only [tokens, List.forall_mem_cons]
    refine ⟨?_, hoperand⟩
    cases op <;> trivial
  | binary op left right ihl ihr =>
    simp only [isPrintable, Bool.and_eq_true] at he
    have hleft := enclosed_spellable (ihl he.1) left.precedence op.leftPrecedence
    have hright := enclosed_spellable (ihr he.2) right.precedence op.rightPrecedence
    simp only [tokens, List.forall_mem_append]
    exact ⟨hleft, op.tokens_spellable, hright⟩
  | choice test yes no iht ihy ihn =>
    simp only [isPrintable, Bool.and_eq_true] at he
    have htest := enclosed_spellable (iht he.1.1) test.precedence 1
    simp only [tokens, List.forall_mem_append, List.forall_mem_cons]
    exact ⟨htest, trivial, ihy he.1.2, trivial, ihn he.2⟩

end Expr

/-- A condition that is written is read back, unless it opens too many levels. -/
theorem readTokens_tokens {e : Expr} (he : e.isPrintable = true) {ts : List Located}
    (hts : ts.map (·.token) = e.tokens) (ending : Nat) :
    (readTokens ending ts = .ok e ∨ ∃ offset, readTokens ending ts = .error ⟨offset, .tooDeep⟩) ∧
      (e.size ≤ 50 → readTokens ending ts = .ok e) := by
  have hwhole := (e.isRead he ts hts).whole
  have hpos := e.size_pos
  constructor
  · exact readTokens_of_readWithin (hwhole.readWithin (Nat.lt_succ_self _) ending)
  · intro hsize
    rw [readTokens_eq_readWithin]
    exact hwhole.readWithin (by simp only [levelLimit]; omega) ending

/-- The text of a tree is read by its tokens. -/
theorem parseWithin_print {quote : Char} (hq : IsQuote quote) {e : Expr}
    (he : e.isPrintable = true) : ∃ located ending, located.map (·.token) = e.tokens ∧
      ∀ levels, parseWithin levels (e.print quote) = readWithin levels ending located := by
  obtain ⟨located, offset, htokens, hmap⟩ := tokenize_spelled hq (e.tokens_spellable he)
  refine ⟨located, width (e.print quote).toList, hmap, fun levels => ?_⟩
  rw [parseWithin, Expr.print, htokens]
  simp [bind, Except.bind]

/-- Reading undoes writing: the text of a tree reads as the tree or is nested too deeply, and the
text of a tree with at most fifty nodes reads as the tree. -/
theorem parse_print {quote : Char} (hq : IsQuote quote) (e : Expr) (he : e.isPrintable = true) :
    (parse (e.print quote) = .ok e ∨
      ∃ offset, parse (e.print quote) = .error ⟨offset, .tooDeep⟩) ∧
    (e.size ≤ 50 → parse (e.print quote) = .ok e) := by
  obtain ⟨located, ending, hmap, hparse⟩ := parseWithin_print hq he
  rw [parse_eq_parseWithin, hparse, ← readTokens_eq_readWithin]
  exact readTokens_tokens he hmap _

/-- A tree with a negated membership, a quote in a text and an operator word as a key. -/
theorem parse_print_membership :
    IsQuote '\'' ∧
    (Expr.unary .not (.binary .notIn (.text "it's") (.member (.name "tags") "in" true))).isPrintable
      = true ∧
    (Expr.unary .not (.binary .notIn (.text "it's") (.member (.name "tags") "in" true))).print '\''
      = "! ( 'it\\'s' not in tags ?. in )" ∧
    parse ((Expr.unary .not (.binary .notIn (.text "it's")
      (.member (.name "tags") "in" true))).print '\'') =
        .ok (.unary .not (.binary .notIn (.text "it's") (.member (.name "tags") "in" true))) := by
  have hprintable : (Expr.unary .not (.binary .notIn (.text "it's")
      (.member (.name "tags") "in" true))).isPrintable = true := by decide
  exact ⟨.inl rfl, hprintable, by decide, (parse_print (.inl rfl) _ hprintable).2 (by decide)⟩

end Telemetry.Condition
