import Telemetry.Proofs.Condition.Coherence
import Telemetry.Proofs.Condition.Disjunction
import Telemetry.Proofs.Condition.RoundTrip
import Telemetry.Proofs.KeyMap
import Telemetry.Proofs.Rules.Entries
import Telemetry.Proofs.Rules.Reachability

/-!
# Conditions on the keys of a message

`'key' in tags` holds for a message with a tag of this key. The condition is sanitised before it is
compiled, and so are the keys of tags and meta entries before conditions see them. The keys of
fields are not: a field whose key has the hyphen is not found by any such condition.
-/

namespace Telemetry

open Condition

/-! ## The condition -/

/-- The part of the message that a condition names. -/
def Location.variable : Location → Variable
  | tags => .tags
  | metadata => .metadata
  | fields => .fields

/-- The parts of a message are variables with entries. -/
theorem Location.variable_mem_maps (l : Location) : l.variable ∈ Variable.maps := by
  cases l <;> decide

namespace Condition

/-- The condition that a part of the message has an entry of a key. -/
def membership (key : String) (l : Location) : String := "'" ++ key ++ "' in " ++ l.plural

/-- A key that stands between quotes as it is. -/
structure IsPlain (key : String) : Prop where
  quote : '\'' ∉ key.toList
  backslash : '\\' ∉ key.toList

/-- The characters of the condition, with the key between quotes. -/
theorem toList_membership (key : String) (l : Location) :
    (membership key l).toList =
      '\'' :: (key.toList ++ '\'' :: (" in ".toList ++ l.plural.toList)) := by
  simp [membership]

/-- The key is sanitised with the condition. -/
theorem sanitize_membership (key : String) (l : Location) :
    sanitize (membership key l) = membership (sanitize key) l := by
  apply String.toList_inj.mp
  have hplace : sanitizeChars (" in ".toList ++ l.plural.toList) =
      " in ".toList ++ l.plural.toList := by cases l <;> rfl
  simp only [sanitize, toList_membership, String.toList_ofList]
  rw [sanitizeChars_other (by decide), sanitizeChars_append (by decide), hplace]

/-- A key that needs no escapes needs none when it is sanitised. -/
theorem IsPlain.sanitize {key : String} (h : IsPlain key) : IsPlain (sanitize key) where
  quote hmem := by
    rw [Condition.sanitize, String.toList_ofList] at hmem
    exact h.quote (mem_of_mem_sanitizeChars hmem)
  backslash hmem := by
    rw [Condition.sanitize, String.toList_ofList] at hmem
    exact h.backslash (mem_of_mem_sanitizeChars hmem)

/-- A text without quotes and backslashes is written as it is. -/
theorem escapedChars_eq_self {quote : Char} {cs : List Char} (hquote : quote ∉ cs)
    (hbackslash : '\\' ∉ cs) : escapedChars quote cs = cs := by
  induction cs with
  | nil => rfl
  | cons c cs ih =>
    obtain ⟨hc, hcs⟩ := not_or.mp (mt List.mem_cons.mpr hquote)
    obtain ⟨hc', hcs'⟩ := not_or.mp (mt List.mem_cons.mpr hbackslash)
    rw [escapedChars, if_neg (by simp [Ne.symm hc, Ne.symm hc']), ih hcs hcs']

/-- The tree of the condition. -/
def membershipExpr (key : String) (l : Location) : Expr :=
  .binary .isIn (.text key) (.name l.plural)

/-- The condition is its tree as a text. -/
theorem membership_eq_print {key : String} (h : IsPlain key) (l : Location) :
    membership key l = (membershipExpr key l).print '\'' := by
  apply String.toList_inj.mp
  rw [toList_membership, Expr.print, String.toList_ofList]
  have htokens : (membershipExpr key l).tokens = [.text key, .word "in", .word l.plural] := rfl
  rw [htokens, spelled]
  simp [Token.spelling, escapedChars_eq_self h.quote h.backslash]

/-- The condition is parsed as the tree of a search. -/
theorem parse_membership {key : String} (h : IsPlain key) (l : Location) :
    parse (membership key l) = .ok (membershipExpr key l) := by
  have hprintable : (membershipExpr key l).isPrintable = true := by cases l <;> rfl
  obtain ⟨located, ending, hmap, hparse⟩ := parseWithin_print (.inl rfl) hprintable
  rw [membership_eq_print h, parse_eq_parseWithin, hparse, ← readTokens_eq_readWithin]
  exact (readTokens_tokens hprintable hmap _).2 (show 3 ≤ 50 by decide)

/-- The program of the condition. -/
def membershipProgram (patterns : Pattern.Engine) (key : String) (l : Location) : Program :=
  ⟨membership key l, .binary .isIn (.constant (.text key)) (.variable l.variable), patterns⟩

/-- The condition compiles to the search, whatever the constants are. -/
theorem compile_membership (env : Environment) {key : String} (h : IsPlain key) (l : Location) :
    Program.compile env (membership key l) = .ok (membershipProgram env.patterns key l) := by
  have hall : Program.matchesAll (membership key l) = false := by
    refine Bool.eq_false_iff.mpr fun hall => ?_
    have hquote : '\'' ∈ (membership key l).toList := by simp [toList_membership]
    exact absurd (Program.eq_star_of_matchesAll hall hquote (by decide)) (by decide)
  have hnode : Node.ofCondition env (membershipExpr key l) =
      .ok (.binary .isIn (.constant (.text key)) (.variable l.variable)) := by
    cases l <;> rfl
  simp [Program.compile, Program.compileNode, hall, parse_membership h, hnode, Except.map,
    membershipProgram]

/-! ## The keys of a message -/

namespace Snapshot

/-- A key is there after entries were added exactly if it was there or is a sanitised one. -/
theorem mem_addSanitized {map : KeyMap String} {entries : List (String × String)} {key : String} :
    key ∈ addSanitized map entries ↔ key ∈ map ∨ ∃ entry ∈ entries, sanitize entry.1 = key := by
  rw [addSanitized]
  induction entries generalizing map with
  | nil => simp
  | cons entry entries ih =>
    rw [List.foldl_cons, ih, Std.ExtTreeMap.mem_insert, Std.LawfulEqCmp.compare_eq_iff_eq]
    simp only [List.mem_cons, exists_eq_or_imp, or_assoc, or_left_comm]

/-- The order in which the entries of a map are visited decides which value a key gets, but not
whether it is there. -/
theorem mem_addSanitized_entriesIn {map entries : KeyMap String} {order : KeyMap.Order}
    {key : String} :
    key ∈ addSanitized map (entries.entriesIn order) ↔
      key ∈ map ∨ ∃ k ∈ entries, sanitize k = key := by
  rw [mem_addSanitized]
  refine or_congr_right ⟨?_, ?_⟩
  · rintro ⟨entry, hentry, hkey⟩
    have hsome := KeyMap.mem_entriesIn.mp hentry
    exact ⟨entry.1, Std.ExtTreeMap.mem_iff_isSome_getElem?.mpr (by rw [hsome]; rfl), hkey⟩
  · rintro ⟨k, hk, hkey⟩
    have hsome := Std.ExtTreeMap.getElem?_eq_some_getElem hk
    exact ⟨(k, entries[k]), KeyMap.mem_entriesIn.mpr hsome, hkey⟩

end Snapshot

end Condition

/-- The key by which conditions know an entry. -/
def Location.conditionKey : Location → String → String
  | fields, key => key
  | _, key => Condition.sanitize key

/-- Whether a part of the message has an entry that conditions know by this key. -/
def Message.HasKey (m : Message) (l : Location) (key : String) : Prop :=
  ∃ k, (m.lookup? l k).isSome = true ∧ l.conditionKey k = key

/-- The entries that conditions see have the keys by which conditions know them. -/
theorem Message.hasKey_iff (order : Message.Order) (m : Message) (l : Location) (key : String) :
    m.HasKey l key ↔ (((Snapshot.ofMessage order m).entries l.variable)[key]?).isSome = true := by
  cases l with
  | fields =>
    simp [HasKey, lookup?, Location.conditionKey, Location.variable, Snapshot.entries,
      Snapshot.ofMessage, Snapshot.fill]
  | tags | metadata =>
    simp [HasKey, lookup?, Location.conditionKey, Location.variable, Snapshot.entries,
      Snapshot.ofMessage, Snapshot.fill, SnapshotMaps.empty, Snapshot.mem_addSanitized_entriesIn]

/-! ## Dropping messages -/

namespace Rulebook

variable {b : Rulebook} {judge : Judge}

/-- Where no stage but one has rules, and that one drops under a condition, the condition
decides. -/
theorem runStages_onlyDrops {r : Rule PUnit} (hothers : ∀ s, s ≠ .dropIf → b.ruleCount s = 0)
    (hdrops : b.dropIf = [r]) {holds : Bool} (hjudge : judge r.condition = .ok holds)
    {stages : List Stage} (hstages : .dropIf ∈ stages) (m : Message) :
    b.runStages judge stages m = if holds then .drop .condition else .forward m := by
  have hstage : b.runStage judge .dropIf m = if holds then .drop .condition else .next m := by
    rw [runStage, hdrops, judgeDrops, hjudge]
    cases holds <;> rfl
  have hpasses (h : holds = false) (stages : List Stage) :
      b.runStages judge stages m = .forward m := by
    induction stages with
    | nil => rfl
    | cons s stages ih =>
      have hnext : b.runStage judge s m = .next m := by
        by_cases hs : s = .dropIf
        · rw [hs, hstage, if_neg (by simp [h])]
        · exact runStage_of_ruleCount_eq_zero (hothers s hs) m
      rw [runStages, hnext]
      exact ih
  cases holds with
  | false => exact hpasses rfl stages
  | true =>
    induction stages with
    | nil => exact absurd hstages List.not_mem_nil
    | cons s stages ih =>
      rw [runStages]
      by_cases hs : s = .dropIf
      · rw [hs, hstage]
        rfl
      · rw [runStage_of_ruleCount_eq_zero (hothers s hs)]
        exact ih ((List.mem_cons.mp hstages).resolve_left (Ne.symm hs))

/-- The condition on a key compiles wherever it is added. -/
theorem addDropIf_membership (b : Rulebook) {key : String} (hkey : IsPlain key) (l : Location) :
    b.addDropIf (membership key l) =
      .ok { b with
        dropIf := Rules.upsert ⟨membershipProgram b.environment.patterns (sanitize key) l, ⟨⟩⟩
          b.dropIf } := by
  rw [addDropIf, compile, sanitize_membership, compile_membership _ hkey.sanitize]
  rfl

end Rulebook

/-- The condition on a key holds for a message that has an entry by this key. -/
theorem holds_membership (patterns : Pattern.Engine) (order : Message.Order) (m : Message)
    (key : String) (l : Location) :
    (membershipProgram patterns key l).holds (Snapshot.ofMessage order m).scope =
      .ok (((Snapshot.ofMessage order m).entries l.variable)[key]?).isSome := by
  have heval : (Node.binary .isIn (.constant (.text key)) (.variable l.variable)).eval patterns
      (Snapshot.ofMessage order m).scope =
        .ok (.bool (((Snapshot.ofMessage order m).entries l.variable)[key]?).isSome) :=
    Snapshot.eval_isIn l.variable_mem_maps rfl
  rw [Program.holds, Program.run, membershipProgram, heval]

namespace Processor

/-- A processor that has no rule but to drop messages with a key in one of their parts, given as it
is or sanitised, drops exactly these: messages with a tag or meta entry that has the key once both
are sanitised, and messages with a field that has the sanitised key itself. It forwards all others
as they are, whatever it has done before. -/
theorem process_membership {p : Processor} (hp : p.Reachable)
    (hrules : ∀ s, p.rulebook.ruleCount s = 0) (hstages : .dropIf ∈ p.rulebook.stages)
    {key : String} (hkey : IsPlain key) (l : Location) :
    let added := p.perform (.addDropIf (membership key l))
    added.2 = .done ∧ added.1.Reachable ∧
    ∀ q : Processor, q.Reachable → q.rulebook = added.1.rulebook → ∀ order m,
      ((q.process order m).2 = .drop .condition ↔ m.HasKey l (sanitize key)) ∧
      ((q.process order m).2 = .forward m ↔ ¬m.HasKey l (sanitize key)) := by
  have hadded := p.rulebook.addDropIf_membership hkey l
  have hdrops : p.rulebook.dropIf = [] := List.length_eq_zero_iff.mp (hrules .dropIf)
  let program := membershipProgram p.rulebook.environment.patterns (sanitize key) l
  have hperform : p.rulebook.perform (.addDropIf (membership key l)) =
      ({ p.rulebook with dropIf := [⟨program, ⟨⟩⟩] }, .done) := by
    rw [Rulebook.perform, hadded, hdrops]
    rfl
  intro added
  refine ⟨?_, hp.perform _, fun q hq hrulebook order m => ?_⟩
  · rw [reply_perform, hperform]
  have hq' : q.rulebook = { p.rulebook with dropIf := [⟨program, ⟨⟩⟩] } := by
    rw [hrulebook, rulebook_perform, hperform]
  have hothers (s : Stage) (hs : s ≠ .dropIf) : q.rulebook.ruleCount s = 0 := by
    rw [hq', ← hrules s]
    cases s with
    | dropIf => exact absurd rfl hs
    | _ => rfl
  have hrule : q.rulebook.dropIf = [⟨program, ⟨⟩⟩] := by rw [hq']
  have hmem : .dropIf ∈ q.rulebook.stages := by
    rw [hq']
    exact hstages
  have hjudge : q.judge order m program =
      .ok (((Snapshot.ofMessage order m).entries l.variable)[sanitize key]?).isSome := by
    rw [hq.judge_eq]
    exact holds_membership _ order m (sanitize key) l
  have hverdict := Rulebook.runStages_onlyDrops hothers hrule hjudge hmem m
  rw [process_verdict, hverdict, m.hasKey_iff order]
  cases (((Snapshot.ofMessage order m).entries l.variable)[sanitize key]?).isSome <;> simp

/-- A message with the hyphen in the key of a tag, or of a field. -/
def hyphenated : Location → Message
  | .fields => .single "disk_used" ∅ ∅ "type-id" (.int 5) .epoch
  | l => l.insert (.single "disk_used" ∅ ∅ "value" (.int 5) .epoch) "type-id" "5"

/-- A tag is found by its key in either form. -/
theorem process_membership_hyphenatedTag :
    (Processor.empty .standard).Reachable ∧
    (∀ s, (Processor.empty .standard).rulebook.ruleCount s = 0) ∧
    .dropIf ∈ (Processor.empty .standard).rulebook.stages ∧ IsPlain "type-id" ∧ IsPlain "typeid" ∧
    (((Processor.empty .standard).perform (.addDropIf (membership "type-id" .tags))).1.process
      .ascending (hyphenated .tags)).2 = .drop .condition ∧
    (((Processor.empty .standard).perform (.addDropIf (membership "typeid" .tags))).1.process
      .ascending (hyphenated .tags)).2 = .drop .condition := by
  have hrules : ∀ s, (Processor.empty .standard).rulebook.ruleCount s = 0 := by
    intro s
    cases s <;> rfl
  have hstages : .dropIf ∈ (Processor.empty .standard).rulebook.stages := by decide
  have hplain : IsPlain "type-id" := ⟨by decide, by decide⟩
  have hplain' : IsPlain "typeid" := ⟨by decide, by decide⟩
  have hkey : (hyphenated .tags).HasKey .tags "typeid" :=
    ⟨"type-id", by simp [hyphenated, Location.lookup?_insert], by decide⟩
  have hempty : (Processor.empty .standard).Reachable := .empty .standard
  obtain ⟨-, hreachable, hdrops⟩ := process_membership hempty hrules hstages hplain .tags
  obtain ⟨-, hreachable', hdrops'⟩ := process_membership hempty hrules hstages hplain' .tags
  exact ⟨hempty, hrules, hstages, hplain, hplain', (hdrops _ hreachable rfl _ _).1.mpr hkey,
    (hdrops' _ hreachable' rfl _ _).1.mpr hkey⟩

/-- A field with the hyphen in its key is not found, though its sanitised key is that of the
condition. -/
theorem process_membership_hyphenatedField :
    ((hyphenated .fields).lookup? .fields "type-id").isSome = true ∧
    (∀ k, ((hyphenated .fields).lookup? .fields k).isSome = true → k = "type-id") ∧
    ((Processor.empty .standard).perform (.addDropIf "'type-id' in fields")).2 = .done ∧
    (((Processor.empty .standard).perform (.addDropIf "'type-id' in fields")).1.process
      .ascending (hyphenated .fields)).2 ≠ .drop .condition := by
  have hfields (k : String) : (hyphenated .fields).lookup? .fields k =
      if k = "type-id" then some (.int 5) else none := by
    simp [hyphenated, Message.single, Message.lookup?, KeyMap.getElem?_insert]
  have hforwards :
      (((((Processor.empty .standard).perform (.addDropIf "'type-id' in fields")).1.process
        .ascending (hyphenated .fields)).2).forwarded? false).isSome = true := by
    decide +kernel
  refine ⟨by simp [hfields], fun k hk => by simpa [hfields] using hk, by decide +kernel,
    fun hdrop => ?_⟩
  rw [hdrop] at hforwards
  exact absurd hforwards (by decide)

end Processor

end Telemetry
