import Telemetry.Proofs.Condition.CursorAgrees

/-!
# Compiling breaches nothing

Compiling a condition cuts its text between characters only, keeps the cursor in the tokens and
closes only levels that are open, whatever the text is. A text that is refused is refused at the
start of a character or at its end.
-/

namespace Telemetry.Condition

open Cursor (Terminated Passes Closes)

/-- The tokens of a text lie in it, and the end of them stands behind the others. -/
theorem tokens_lie {source : String} {tokens : List Located}
    (h : Scanner.tokens source.toList = .ok tokens) :
    Terminated tokens ∧ ∀ t ∈ tokens, LiesIn 0 source.toList t.offset := by
  have hends := tokenize_ends source
  rw [Scanner.tokens_eq] at h
  cases htokens : tokenize source with
  | error e =>
    rw [htokens] at h
    cases h
  | ok all =>
    rw [htokens] at h
    cases h
    obtain ⟨hlie, located, rfl, -⟩ := hends.result_of_eq htokens
    exact ⟨Cursor.withEnd_terminated, hlie⟩

/-- A text that is refused is refused at one of its tokens, or where it has none. -/
theorem parse_error_lies {source : String} {e : SyntaxError} (h : parse source = .error e) :
    LiesIn 0 source.toList e.offset := by
  have hparse := Cursor.parse_eq source
  rw [h] at hparse
  unfold Cursor.parse at hparse
  cases htokens : tokenize source with
  | error e' =>
    rw [Scanner.tokens_eq, htokens] at hparse
    cases hparse
    exact (tokenize_ends source).fault_of_eq htokens
  | ok tokens =>
    have hscanned : Scanner.tokens source.toList = .ok tokens := by
      rw [Scanner.tokens_eq, htokens]
      rfl
    obtain ⟨hended, hlie⟩ := tokens_lie hscanned
    have hsound := Cursor.condition_passes hended
      (Cursor.Reached.start (s := ⟨0, 0⟩) (Nat.zero_le tokens.length))
    rw [hscanned] at hparse
    change Cursor.outcome (Cursor.condition tokens ⟨0, 0⟩) = Except.error (Stop.refused e) at hparse
    cases hwalk : Cursor.condition tokens ⟨0, 0⟩ with
    | ok read s =>
      rw [hwalk] at hparse
      cases hparse
    | error stop s =>
      rw [hwalk] at hparse hsound
      cases hparse
      cases hsound with
      | refused hpos hdepth hat =>
        obtain ⟨t, ht, hoffset⟩ := hat
        rw [hoffset]
        exact hlie t ht

/-- A condition that is refused for its syntax is refused by the parser. -/
theorem Program.parse_of_compile {env : Environment} {source : String} {e : SyntaxError}
    (h : compile env source = .error (.ofSyntax e)) : parse source = .error e := by
  rw [compile, compileNode] at h
  split at h
  · cases h
  cases hparse : parse source with
  | error e' =>
    rw [hparse] at h
    cases h
    rfl
  | ok read =>
    rw [hparse] at h
    dsimp only at h
    cases hnode : Node.ofCondition env read <;> rw [hnode] at h <;> cases h

/-- Compiling with the scanner and the cursor ends for every text and environment without a breach,
and as compiling does. Wherever it starts in the tokens, no part of the parser comes to a breach or
leaves the tokens; with a result it leaves as many levels open as it has found and has passed a
token, or behind an object has not stepped back. A syntax error lies between two characters of the
text or at an end of it. -/
theorem Program.compile_never_breaches (env : Environment) (source : String) :
    Cursor.compile? env source = some (compile env source) ∧
      (∀ tokens, Scanner.tokens source.toList = .ok tokens → ∀ rounds,
        let inner := Cursor.calls tokens rounds
        Passes tokens (Cursor.expression tokens inner) ∧
          Passes tokens (Cursor.ternary tokens inner) ∧
          (∀ least, Passes tokens (Cursor.binary tokens inner least)) ∧
          Passes tokens (Cursor.unary tokens inner) ∧
          Passes tokens (Cursor.primary tokens inner) ∧
          (∀ close what, close ≠ .ending → Passes tokens (Cursor.list tokens inner close what)) ∧
          ∀ object, Closes tokens 0 (Cursor.accesses tokens inner object 0)) ∧
      ∀ e, compile env source = .error (.ofSyntax e) →
        e.offset ≤ source.utf8ByteSize ∧ (⟨e.offset⟩ : String.Pos.Raw).IsValid source := by
  refine ⟨Cursor.compile?_eq env source, fun tokens htokens rounds => ?_, fun e he => ?_⟩
  · obtain ⟨hended, -⟩ := tokens_lie htokens
    have hinner := Cursor.calls_balanced hended rounds
    exact ⟨Cursor.expression_passes hended hinner, Cursor.ternary_passes hended hinner,
      Cursor.binary_passes hended hinner, Cursor.unary_passes hended hinner,
      Cursor.primary_passes hended hinner,
      fun close what hclose => Cursor.list_passes hended hinner hclose what,
      fun object => Cursor.accesses_closes hended hinner object 0⟩
  · exact (parse_error_lies (parse_of_compile he)).isValid

/-- A choice without its two ends is refused at the end of the text, of which one letter takes two
bytes. -/
theorem Program.compile_never_breaches_openChoice :
    ∃ tokens, Scanner.tokens "'é' ?".toList = .ok tokens ∧ tokens.length = 3 ∧
      Passes tokens (Cursor.expression tokens (Cursor.calls tokens 4)) ∧
      compile (.empty .standard) "'é' ?" = .error (.ofSyntax ⟨6, .unexpectedEnd⟩) ∧
      6 ≤ "'é' ?".utf8ByteSize ∧ (⟨6⟩ : String.Pos.Raw).IsValid "'é' ?" := by
  obtain ⟨-, hparts, herror⟩ := compile_never_breaches (.empty .standard) "'é' ?"
  have hscan : (Scanner.tokens "'é' ?".toList).toOption.map List.length = some 3 := by
    decide +kernel
  obtain ⟨tokens, hread, hlength⟩ := Option.map_eq_some_iff.mp hscan
  have htokens := Except.toOption_eq_some_iff.mp hread
  have hrefused : compile (.empty .standard) "'é' ?" = .error (.ofSyntax ⟨6, .unexpectedEnd⟩) := rfl
  exact ⟨tokens, htokens, hlength, (hparts tokens htokens 4).1, hrefused, herror _ hrefused⟩

end Telemetry.Condition
