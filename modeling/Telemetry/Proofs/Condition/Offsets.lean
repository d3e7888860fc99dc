import Telemetry.Proofs.Condition.Slices

/-!
# Offsets of tokens and of their faults

Every token, and every fault of a text that is no sequence of tokens, lies at the start of a
character or at the end of the text; the end of the tokens lies at the end of the text.
-/

namespace Telemetry.Condition

variable {cs : List Char} {c : Char}

/-- Whether an offset lies so many bytes behind the start of the characters, between two of them or
at an end of them. -/
def LiesIn (start : Nat) (cs : List Char) (offset : Nat) : Prop :=
  ∃ before after, cs = before ++ after ∧ offset = start + width before

namespace LiesIn

variable {start offset : Nat}

/-- The start of the characters lies in them. -/
theorem first (start : Nat) (cs : List Char) : LiesIn start cs start :=
  ⟨[], cs, rfl, rfl⟩

/-- An offset behind the first characters. -/
theorem behind {before after : List Char} (hcs : before ++ after = cs)
    (h : LiesIn (start + width before) after offset) : LiesIn start cs offset := by
  obtain ⟨front, rest, rfl, rfl⟩ := h
  refine ⟨before ++ front, rest, ?_, ?_⟩
  · rw [← hcs, List.append_assoc]
  · rw [width_append, Nat.add_assoc]

/-- An offset in a text is a valid position of it. -/
theorem isValid {source : String} (h : LiesIn 0 source.toList offset) :
    offset ≤ source.utf8ByteSize ∧ (⟨offset⟩ : String.Pos.Raw).IsValid source := by
  obtain ⟨before, after, hsource, rfl⟩ := h
  rw [Nat.zero_add]
  refine ⟨?_, isValid_of_append hsource⟩
  rw [← width_toList, hsource, width_append]
  exact Nat.le_add_right _ _

end LiesIn

/-! ## Faults of single tokens -/

/-- A fault of a text in quotes lies in the characters up to its closing quote. -/
theorem readQuoted_error {quote : Char} {place : Nat} {fault : SyntaxFault}
    (h : readQuoted quote cs = .error (place, fault)) : LiesIn 0 cs place := by
  fun_induction readQuoted quote cs generalizing place fault with
  | case1 => cases h
  | case2 => cases h
  | case3 c cs hescape =>
    cases h
    exact .first _ _
  | case4 c cs d hescape place' fault' herror ih =>
    cases h
    refine .behind (show ['\\', c] ++ cs = '\\' :: c :: cs from rfl) ?_
    obtain ⟨before, after, rfl, rfl⟩ := ih herror
    exact ⟨before, after, rfl, by omega⟩
  | case5 => cases h
  | case6 => cases h
  | case7 c cs hnone hescaped hq place' fault' herror ih =>
    cases h
    refine .behind (show [c] ++ cs = c :: cs from rfl) ?_
    obtain ⟨before, after, rfl, rfl⟩ := ih herror
    exact ⟨before, after, rfl, by omega⟩
  | case8 => cases h

/-- A fault of a number is that of the whole number, and lies at its start. -/
theorem readNumber_error {place : Nat} {fault : SyntaxFault}
    (h : readNumber cs = .error (place, fault)) : place = 0 := by
  unfold readNumber at h
  dsimp only at h
  split at h
  · split at h
    · cases h
    · cases h
      rfl
  · cases h

/-- A fault of a text in quotes lies in it, or at the opening quote. -/
theorem readText_error {quote : Char} {place : Nat} {fault : SyntaxFault}
    (h : readText quote cs = .error (place, fault)) : LiesIn 0 (quote :: cs) place := by
  unfold readText at h
  split at h
  · rename_i hquoted
    cases h
    refine .behind (show [quote] ++ cs = quote :: cs from rfl) ?_
    obtain ⟨before, after, rfl, rfl⟩ := readQuoted_error hquoted
    exact ⟨before, after, rfl, by omega⟩
  · cases h
    exact .first _ _
  · cases h

/-- A token is refused at one of its characters. -/
theorem readLexeme_error {place : Nat} {fault : SyntaxFault}
    (h : readLexeme c cs = .error (place, fault)) : LiesIn 0 (c :: cs) place := by
  unfold readLexeme at h
  split at h
  · rw [readNumber_error h]
    exact .first _ _
  split at h
  · exact readText_error h
  split at h
  · cases h
  split at h
  · cases h
  · cases h
    exact .first _ _

/-! ## Whole texts -/

/-- The tokens of a text lie in it, the end of them at its end, and so does a fault. -/
theorem tokensFrom_ends {fuel : Nat} (start : Nat) (hfuel : cs.length ≤ fuel) :
    (tokensFrom fuel start cs).Ends
      (fun all => (∀ t ∈ all, LiesIn start cs t.offset) ∧
        ∃ located, all = located ++ [⟨.ending, start + width cs⟩])
      (fun e => LiesIn start cs e.offset) := by
  induction cs using lexing_induction generalizing fuel start with
  | nil =>
    rw [tokensFrom_nil]
    exact .ok ⟨List.forall_mem_singleton.mpr (.first _ _), [], rfl⟩
  | blank c cs hc ih =>
    have hends := ih (start + c.utf8Size) (Nat.le_of_succ_le hfuel)
    have hstep : ∀ {offset}, LiesIn (start + c.utf8Size) cs offset →
        LiesIn start (c :: cs) offset := by
      rintro _ ⟨before, after, rfl, rfl⟩
      exact ⟨c :: before, after, rfl, by rw [width_cons, Nat.add_assoc]⟩
    rw [tokensFrom_blank hc, width_cons, ← Nat.add_assoc]
    refine (hends.imp_fault fun e he => hstep he).imp ?_
    rintro all ⟨hall, hend⟩
    exact ⟨fun t ht => hstep (hall t ht), hend⟩
  | token c cs hc ih =>
    obtain ⟨fuel, rfl⟩ := Nat.exists_eq_add_of_le' (Nat.le_of_add_left_le hfuel)
    rw [tokensFrom_token hc]
    cases hl : readLexeme c cs with
    | error fault =>
      obtain ⟨place, fault⟩ := fault
      obtain ⟨before, after, htail, rfl⟩ := readLexeme_error hl
      exact .error ⟨before, after, htail, by rw [Nat.zero_add]⟩
    | ok l =>
      have hsplits := readLexeme_splits hl
      have hrest : l.rest.length ≤ fuel :=
        Nat.le_of_lt_succ (Nat.lt_of_lt_of_le hsplits.length_rest_lt hfuel)
      have hends := ih l hl (start + width l.text) hrest
      have hend : start + width l.text + width l.rest = start + width (c :: cs) := by
        rw [← hsplits.eq, width_append, Nat.add_assoc]
      dsimp only
      refine Except.Ends.bind (hends.imp_fault fun e he => .behind hsplits.eq he) ?_
      rintro later ⟨hlater, located, rfl⟩
      refine .ok ⟨List.forall_mem_cons.mpr ⟨.first _ _, fun t ht => ?_⟩,
        ⟨l.token, start⟩ :: located, by rw [hend]; rfl⟩
      exact .behind hsplits.eq (hlater t ht)

/-- What tokenizing a text comes to: its tokens, none of them the end, and the end of them at its
end, all in the text; or a fault in the text. -/
theorem tokenize_ends (source : String) : (tokenize source).Ends
    (fun all => (∀ t ∈ all, LiesIn 0 source.toList t.offset) ∧
      ∃ located, all = located ++ [⟨.ending, width source.toList⟩] ∧
        ∀ t ∈ located, t.token ≠ .ending)
    (fun e => LiesIn 0 source.toList e.offset) := by
  have hends := tokensFrom_ends 0 (Nat.le_refl source.toList.length)
  cases htokens : tokenize source with
  | error e => exact .error (hends.fault_of_eq htokens)
  | ok all =>
    obtain ⟨hlie, located, hall⟩ := hends.result_of_eq htokens
    obtain ⟨located', ending, hall', hlexes⟩ := tokenize_eq_ok htokens
    rw [Nat.zero_add] at hall
    obtain ⟨rfl, -⟩ := List.append_inj' (hall.symm.trans hall') rfl
    refine .ok ⟨hlie, located, hall, fun t ht => ?_⟩
    exact hlexes.ne_ending _ (List.mem_map_of_mem ht)

end Telemetry.Condition
