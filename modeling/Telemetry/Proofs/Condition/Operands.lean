import Telemetry.Proofs.Condition.Reading

/-!
# How trees are read by how their parts are

For every kind of node, the tokens of a tree are read if those of its parts are, and the levels that
the tree takes follow from the levels that the parts take. An object in front of members or indices
and a left operand in front of operators leave to them the levels that they have closed.
-/

namespace Telemetry.Condition

open Level

namespace Expr

/-! ## Operands without operators -/

/-- A word that means nothing else is read as a name, or as a function in front of arguments. -/
theorem primary_word {w : String} (hw : keywords.contains w = false) (inner : Level)
    (ending offset : Nat) (rest : List Located) :
    primary inner ending (⟨.word w, offset⟩ :: rest) =
      if front rest = .leftParen then do
        let (arguments, rest) ← list inner.ternary .rightParen "')'" ending (rest.drop 1)
        .ok (.call w arguments, rest)
      else .ok (.name w, rest) := by
  have hword : operatorWords.contains w = false := by
    simp only [keywords, List.contains_append, Bool.or_eq_false_iff] at hw
    exact hw.2
  simp only [keywords, List.contains_append, List.contains_cons, Bool.or_eq_false_iff,
    beq_eq_false_iff_ne] at hw
  obtain ⟨⟨htrue, hfalse, hnil, -⟩, -⟩ := hw
  change wordAt inner offset w ending rest = _
  simp only [wordAt, hword]
  rfl

/-- What starts with no operator is an object and its members and indices. -/
theorem unaryOf_operand {t : Located} (ht : t.token ∉ [.bang, .word "not", .minus, .plus])
    (inner : Level) (ending : Nat) (rest : List Located) :
    unaryOf inner ending (t :: rest) = (do
      let (e, rest) ← primary inner ending (t :: rest)
      accesses inner e ending rest) := by
  simp only [List.mem_cons, List.not_mem_nil, or_false, not_or] at ht
  obtain ⟨hbang, hnot, hminus, hplus⟩ := ht
  simp only [unaryOf, front]

/-! ## Lists -/

/-- The first token of an operand closes no list. -/
def Starts (ts : List Token) : Prop :=
  ∃ t later, ts = t :: later ∧ t ≠ .rightParen ∧ t ≠ .rightBracket

/-- Tokens behind an operand do not change how it begins. -/
theorem Starts.append {ts : List Token} (h : Starts ts) (others : List Token) :
    Starts (ts ++ others) := by
  obtain ⟨t, later, rfl, ht⟩ := h
  exact ⟨t, later ++ others, rfl, ht⟩

/-- The closing bracket does not stand in front of an operand. -/
theorem Starts.front_ne {us : List Token} (h : Starts us) {close : Token}
    (hclose : close = .rightParen ∨ close = .rightBracket) {ts : List Located}
    (hts : ts.map (·.token) = us) (rest : List Located) : front (ts ++ rest) ≠ close := by
  obtain ⟨t, later, rfl, hparen, hbracket⟩ := h
  rw [front_append hts]
  rcases hclose with rfl | rfl
  · exact hparen
  · exact hbracket

/-- The tokens are read as an item, in front of a comma or of the end of the list. -/
structure ReadsItem (item : Reader Expr) (us : List Token) (e : Expr) : Prop where
  starts : Starts us
  read : ∀ (ts : List Located) ending rest, ts.map (·.token) = us → front rest ∈ endings →
    item ending (ts ++ rest) = .ok (e, rest)

/-- The closing bracket does not stand in front of items. -/
theorem starts_of_listing {item : Reader Expr} {first : List Token × Expr}
    {others : List (List Token × Expr)}
    (hitem : ∀ i ∈ first :: others, ReadsItem item i.1 i.2) {us : List Token}
    (hus : Listing ((first :: others).map (·.1)) us) : Starts us := by
  have hstarts := (hitem first List.mem_cons_self).starts
  cases others with
  | nil =>
    cases hus with
    | last => exact hstarts
    | trailing => exact hstarts.append _
  | cons =>
    cases hus with
    | more => exact hstarts.append _

/-- Items are read up to the closing bracket. -/
theorem listFrom_listing {item : Reader Expr} {close : Located}
    (hclose : close.token = .rightParen ∨ close.token = .rightBracket) (what : String)
    {first : List Token × Expr} {others : List (List Token × Expr)}
    (hitem : ∀ i ∈ first :: others, ReadsItem item i.1 i.2) {ts : List Located}
    (hts : Listing ((first :: others).map (·.1)) (ts.map (·.token))) {fuel : Nat}
    (hfuel : others.length < fuel) (ending : Nat) (rest : List Located) :
    listFrom item close.token what fuel ending (ts ++ close :: rest) =
      .ok ((first :: others).map (·.2), rest) := by
  obtain ⟨fuel, rfl⟩ : ∃ n, fuel = n + 1 := ⟨fuel - 1, by omega⟩
  have hread := (hitem first List.mem_cons_self).read
  have hending : close.token ∈ endings := by rcases hclose with h | h <;> simp [h, endings]
  have hcomma : close.token ≠ .comma := by rcases hclose with h | h <;> simp [h]
  induction others generalizing first ts fuel with
  | nil =>
    generalize hus : ts.map (·.token) = us at hts
    cases hts with
    | last =>
      simp [listFrom, hread ts ending (close :: rest) hus hending, hcomma, bind, Except.bind]
    | trailing =>
      obtain ⟨us, commas, rfl, htokens, hcommas⟩ := List.map_eq_append_iff.mp hus
      obtain ⟨comma, rfl, hmark⟩ := List.map_eq_singleton_iff.mp hcommas
      have hfirst := hread us ending (comma :: close :: rest) htokens (by simp [hmark, endings])
      simp [listFrom, hfirst, hmark, bind, Except.bind]
  | cons next others ih =>
    generalize hus : ts.map (·.token) = us at hts
    cases hts with
    | more _ hlater =>
      obtain ⟨us, tail, rfl, htokens, htail⟩ := List.map_eq_append_iff.mp hus
      obtain ⟨comma, later, rfl, hmark, rfl⟩ := List.map_eq_cons_iff.mp htail
      obtain ⟨fuel, rfl⟩ : ∃ n, fuel = n + 1 := ⟨fuel - 1, by
        simp only [List.length_cons] at hfuel
        omega⟩
      have hfirst := hread us ending (comma :: (later ++ close :: rest)) htokens
        (by simp [hmark, endings])
      have hitems : ∀ i ∈ next :: others, ReadsItem item i.1 i.2 :=
        fun i hi => hitem i (List.mem_cons_of_mem _ hi)
      have hnext := (starts_of_listing hitems hlater).front_ne hclose rfl (close :: rest)
      have hrest := ih hitems hlater fuel (by simp only [List.length_cons] at hfuel; omega)
        (hitems next List.mem_cons_self).read
      rw [listFrom, List.append_assoc, List.cons_append, hfirst]
      simp [hmark, hnext, hrest, bind, Except.bind]

/-- A list is read up to its closing bracket. -/
theorem list_listing {item : Reader Expr} {close : Located}
    (hclose : close.token = .rightParen ∨ close.token = .rightBracket) (what : String)
    {items : List (List Token × Expr)} (hitem : ∀ i ∈ items, ReadsItem item i.1 i.2)
    {ts : List Located} (hts : Listing (items.map (·.1)) (ts.map (·.token))) (ending : Nat)
    (rest : List Located) :
    list item close.token what ending (ts ++ close :: rest) = .ok (items.map (·.2), rest) := by
  cases items with
  | nil =>
    generalize hus : ts.map (·.token) = us at hts
    cases hts with
    | empty =>
      obtain rfl := List.map_eq_nil_iff.mp hus
      simp [list]
  | cons first others =>
    have hfront := (starts_of_listing hitem hts).front_ne hclose rfl (close :: rest)
    have hlength : others.length < (ts ++ close :: rest).length + 1 := by
      have hle := hts.length_le
      simp only [List.length_map, List.length_cons] at hle
      simp only [List.length_append]
      omega
    rw [list, if_neg hfront]
    exact listFrom_listing hclose what hitem hts hlength ending rest

end Expr

/-! ## Trees -/

variable {levels within spine spine' p q b c : Nat} {e : Expr} {ts : List Located}

/-- A token that is an operand alone. -/
theorem readsObject_single {t : Located} (ht : t.token ∉ [.bang, .word "not", .minus, .plus])
    (hprimary : ∀ inner ending rest, front rest ≠ .leftParen →
      primary inner ending (t :: rest) = .ok (e, rest)) : ReadsObject levels e [t] 0 := by
  intro m ending rest _ hcall
  rw [List.singleton_append, Expr.unaryOf_operand ht, hprimary _ ending rest hcall]
  rfl

/-- A list in brackets is read as an array, if its items are read with the levels that are left. -/
theorem readsObject_array {items : List (List Token × Expr)}
    (hitems : ∀ m, levels ≤ m → ∀ i ∈ items, Expr.ReadsItem (opened m).ternary i.1 i.2)
    {first last : Located} {inner : List Located} (hfirst : first.token = .leftBracket)
    (hinner : Listing (items.map (·.1)) (inner.map (·.token)))
    (hlast : last.token = .rightBracket) :
    ReadsObject levels (.array (items.map (·.2))) (first :: (inner ++ [last])) 0 := by
  intro m ending rest hm _
  have hlist := Expr.list_listing (.inr hlast) "']'" (hitems m hm) hinner ending rest
  rw [hlast] at hlist
  rw [List.cons_append, List.append_assoc, List.singleton_append,
    Expr.unaryOf_operand (by simp [hfirst])]
  simp [primary, hfirst, hlist, bind, Except.bind]

/-- A word in front of a list in parentheses is read as a call, if its arguments are read with the
levels that are left. -/
theorem readsObject_call {function : String} (hword : keywords.contains function = false)
    {arguments : List (List Token × Expr)}
    (harguments : ∀ m, levels ≤ m → ∀ i ∈ arguments, Expr.ReadsItem (opened m).ternary i.1 i.2)
    (offset : Nat) {first last : Located} {inner : List Located}
    (hfirst : first.token = .leftParen)
    (hinner : Listing (arguments.map (·.1)) (inner.map (·.token)))
    (hlast : last.token = .rightParen) :
    ReadsObject levels (.call function (arguments.map (·.2)))
      (⟨.word function, offset⟩ :: first :: (inner ++ [last])) 0 := by
  intro m ending rest hm _
  have hlist := Expr.list_listing (.inl hlast) "')'" (harguments m hm) hinner ending rest
  rw [hlast] at hlist
  have hnot : function ≠ "not" := by
    rintro rfl
    exact absurd hword (by decide)
  rw [List.cons_append, List.cons_append, List.append_assoc, List.singleton_append,
    Expr.unaryOf_operand (by simp [hnot]), Expr.primary_word hword]
  simp [hfirst, hlist, bind, Except.bind]

/-- A member takes the levels that its object has left over, and one level of them. -/
theorem ReadsObject.member (h : ReadsObject levels e ts spine) {key : String} {optional : Bool}
    {mark word : Located} (hmark : mark.token = if optional then .questionDot else .dot)
    (hword : word.token = .word key) :
    ReadsObject levels (.member e key optional) (ts ++ [mark, word]) (spine + 1) := by
  intro m ending rest hm _
  have hopen := h (m + 1) ending (mark :: word :: rest) (by omega)
    (by cases optional <;> simp [hmark])
  rw [List.append_assoc, show m + (spine + 1) = m + 1 + spine by omega]
  refine hopen.trans ?_
  cases optional <;> simp [accesses, hmark, opened, around, accessOf, hword]

/-- An object in front of a condition in brackets is read as an index, which takes a level more of
the spine. -/
theorem ReadsObject.index (h : ReadsObject levels e ts spine) {position : Expr}
    {inner : List Located} (hposition : ReadsWhole within position inner)
    (hwithin : within + spine + 2 ≤ levels) {first last : Located}
    (hfirst : first.token = .leftBracket) (hlast : last.token = .rightBracket) :
    ReadsObject levels (.index e position) (ts ++ first :: (inner ++ [last])) (spine + 1) := by
  intro m ending rest hm _
  have hopen := h (m + 1) ending (first :: (inner ++ last :: rest)) (by omega) (by simp [hfirst])
  have hinner : (opened m).ternary ending (inner ++ last :: rest) = .ok (position, last :: rest) :=
    hposition.inner (by omega) (by simp [hlast, endings])
  rw [List.append_assoc, List.cons_append, List.append_assoc, List.singleton_append,
    show m + (spine + 1) = m + 1 + spine by omega, hopen]
  simp [accesses, hfirst, opened, around, accessOf, hinner, expect, hlast, bind, Except.bind]

/-- A sign in front of an operand is read as its operator, with one more level. -/
theorem ReadsUnary.unary (h : ReadsUnary levels e ts) (op : UnaryOp) {mark : Located}
    (hmark : mark.token ∈ op.spellings) : ReadsUnary (levels + 1) (.unary op e) (mark :: ts) := by
  intro m ending rest hm hrest
  obtain ⟨m, rfl⟩ : ∃ k, m = k + 1 := ⟨m - 1, by omega⟩
  have hread : (opened (m + 1)).unary ending (ts ++ rest) = .ok (e, rest) :=
    h m ending rest (by omega) hrest
  cases op with
  | not =>
    have hspelling : mark.token = .bang ∨ mark.token = .word "not" := by
      simpa [UnaryOp.spellings] using hmark
    rcases hspelling with h | h <;> simp [unaryOf, h, hread, bind, Except.bind]
  | negate =>
    have hspelling : mark.token = .minus := List.mem_singleton.mp hmark
    simp [unaryOf, hspelling, hread, bind, Except.bind]

/-- A plus sign in front of an operand is passed over, but takes a level. -/
theorem ReadsUnary.plus (h : ReadsUnary levels e ts) {mark : Located}
    (hmark : mark.token = .plus) : ReadsUnary (levels + 1) e (mark :: ts) := by
  intro m ending rest hm hrest
  obtain ⟨m, rfl⟩ : ∃ k, m = k + 1 := ⟨m - 1, by omega⟩
  have hread : (opened (m + 1)).unary ending (ts ++ rest) = .ok (e, rest) :=
    h m ending rest (by omega) hrest
  simp [unaryOf, hmark, hread]

/-- An operator takes the levels that its left operand has left over, and one level of them; its
right operand takes the others. -/
theorem ReadsChain.binary {left right : Expr} {op : BinaryOp} {start mark back : List Located}
    (hl : ReadsChain levels left start spine p b) (hr : ReadsChain within right back spine' q c)
    (hspine : spine' ≤ within) (hwithin : within + spine + 1 ≤ levels)
    (hmark : mark.map (·.token) ∈ op.spellings) (hp : op.precedence ≤ p) (hb : op.precedence < b)
    (hq : op.rightPrecedence ≤ q) (hc : op.rightPrecedence ≤ c) :
    ReadsChain levels (.binary op left right) (start ++ (mark ++ back)) (spine + 1)
      op.precedence op.rightPrecedence := by
  intro m ending rest least hm hleast hrest
  have hfirst := hl (m + 1) ending (mark ++ (back ++ rest)) least (by omega) (by omega)
    (.of_operator hmark hb)
  have hsecond : (opened (m + 1)).binary op.rightPrecedence ending (back ++ rest) =
      .ok (right, rest) := by
    obtain ⟨m, rfl⟩ : ∃ k, m = k + spine' := ⟨m - spine', by omega⟩
    have hopened := hr m ending rest op.rightPrecedence (by omega) hq (hrest.mono hc)
    exact hopened.trans (chainOf_follows hrest right ending)
  rw [List.append_assoc, List.append_assoc, show m + (spine + 1) = m + 1 + spine by omega, hfirst,
    chainOf, operator?_spelling hmark]
  simp only [if_neg (Nat.not_lt.mpr hleast), hsecond]
  rfl

/-- A test, a question mark and two branches with a colon between them are read as a choice. -/
theorem ReadsChain.choice {test yes no : Expr} {start middle back : List Located}
    (ht : ReadsChain levels test start spine p b) (hspine : spine ≤ levels) (hp : 1 ≤ p)
    (hy : ReadsWhole within yes middle) (hn : ReadsWhole within no back)
    (hwithin : within + 1 ≤ levels) {question colon : Located}
    (hquestion : question.token = .question) (hcolon : colon.token = .colon) :
    ReadsWhole levels (.choice test yes no) (start ++ question :: (middle ++ colon :: back)) := by
  intro m ending rest hm hrest hnot
  have hthen : (opened m).ternary ending (middle ++ colon :: (back ++ rest)) =
      .ok (yes, colon :: (back ++ rest)) :=
    hy.inner (by omega) (by simp [hcolon, endings])
  have helse : (opened m).ternary ending (back ++ rest) = .ok (no, rest) := by
    obtain ⟨m, rfl⟩ : ∃ k, m = k + 1 := ⟨m - 1, by omega⟩
    exact hn m ending rest (by omega) hrest hnot
  obtain ⟨m, rfl⟩ : ∃ k, m = k + spine := ⟨m - spine, by omega⟩
  have hfollows : Follows 0 (question :: (middle ++ colon :: (back ++ rest))) :=
    .of_ending (by simp [hquestion])
  have hfirst := ht m ending _ 1 hm hp (hfollows.mono (Nat.zero_le _))
  rw [chainOf_follows (hfollows.mono (Nat.zero_le _))] at hfirst
  rw [List.append_assoc, List.cons_append, List.append_assoc, List.cons_append, ternaryOf, hfirst]
  simp [hquestion, hthen, expect, hcolon, helse, bind, Except.bind]

end Telemetry.Condition
