import Telemetry.Proofs.Message.LineRoundTrip
import Telemetry.Proofs.Text.Lines
import Telemetry.Report.Basic
import Telemetry.Run.Basic

/-!
# Line feeds in lines

A line feed has no escape of its own. It is written as it stands wherever it is in a message, and
whoever reads the stream of written lines reads one more line for each of them.
-/

namespace Telemetry

open Std (ExtTreeMap)

/-- The line feeds in the text of a field. -/
def FieldValue.lineFeeds (v : FieldValue) : Nat := v.toText?.elim 0 Text.lineFeeds

namespace Message

/-- The line feeds in what a line shows of a message: its name, the tags with the promoted meta
entries, and the finite fields. -/
def lineFeeds (m : Message) (metaAsTags : List String) : Nat :=
  Text.lineFeeds m.name +
    (((m.promoted metaAsTags).toList.map fun entry =>
        Text.lineFeeds entry.1 + Text.lineFeeds entry.2).sum +
      ((m.fields.filter fun _ v => v.isFinite).toList.map fun entry =>
        Text.lineFeeds entry.1 + entry.2.lineFeeds).sum)

/-- A backslash is put in front of other characters only. -/
theorem count_escapeChars (specials cs : List Char) :
    (escapeChars specials cs).count '\n' = cs.count '\n' := by
  induction cs with
  | nil => rfl
  | cons c cs ih =>
    rw [escapeChars, List.flatMap_cons, List.count_append, ← escapeChars, ih, List.count_cons,
      Nat.add_comm]
    congr 1
    split
    · rw [List.count_cons_of_ne (by decide), List.count_singleton]
    · exact List.count_singleton

/-- A word in a line has the line feeds that it has. -/
theorem count_lineWord (word : String) : (lineWord word).count '\n' = Text.lineFeeds word :=
  count_escapeChars _ _

/-- Only a text has line feeds. -/
theorem count_lineValue {v : FieldValue} (hv : v.isFinite = true) :
    (lineValue v).count '\n' = v.lineFeeds := by
  cases hs : v.toText? with
  | none =>
    rw [FieldValue.lineFeeds, hs]
    exact List.count_eq_zero_of_not_mem fun h =>
      (LineContent.unquoted_lineValue hv hs _ h).2.2 rfl
  | some s =>
    cases v with
    | string s =>
      rw [lineValue, List.count_cons_of_ne (by decide), List.count_append,
        count_escapeChars]
      rfl
    | _ => cases hs

/-- The line feeds of entries are those of their keys and values. -/
theorem count_lineEntries {α : Type} (write : α → List Char) (feeds : α → Nat)
    {entries : List (String × α)}
    (h : ∀ entry ∈ entries, (write entry.2).count '\n' = feeds entry.2) :
    (LineContent.lineEntries write entries).count '\n' =
      (entries.map fun entry => Text.lineFeeds entry.1 + feeds entry.2).sum := by
  rw [LineContent.lineEntries, List.count_flatMap]
  refine congrArg List.sum (List.map_congr_left fun entry hentry => ?_)
  rw [Function.comp_apply, List.count_cons_of_ne (by decide), List.count_append, count_lineWord,
    List.count_cons_of_ne (by decide), h entry hentry]

/-- The line feeds of a line are those of what it shows. -/
theorem count_line {m : Message} {metaAsTags : List String} {text : String}
    (h : m.line? metaAsTags = some text) : Text.lineFeeds text = m.lineFeeds metaAsTags := by
  obtain ⟨hne, htext⟩ := LineContent.toList_of_line? h
  have hfinite : ∀ entry ∈ (m.fields.filter fun _ v => v.isFinite).toList,
      (lineValue entry.2).count '\n' = entry.2.lineFeeds := fun entry hentry => by
    rw [ExtTreeMap.toList_filter] at hentry
    exact count_lineValue (List.mem_filter.mp hentry).2
  have hfields := count_lineEntries lineValue FieldValue.lineFeeds hfinite
  rw [← LineContent.cons_lineFields hne, List.count_cons_of_ne (by decide)] at hfields
  have hname : (lineName m.name).count '\n' = Text.lineFeeds m.name :=
    count_escapeChars _ _
  have htime : (toString m.timestamp.nanosecondsOrZero.toInt).toList.count '\n' = 0 :=
    List.count_eq_zero_of_not_mem fun h => (LineContent.unquoted_toString _ _ h).2.2 rfl
  rw [Text.lineFeeds, htext, List.count_append, List.count_append,
    List.count_cons_of_ne (by decide), List.count_append, List.count_cons_of_ne (by decide), hname,
    count_lineEntries lineWord Text.lineFeeds fun entry _ => count_lineWord entry.2, hfields, htime,
    lineFeeds]
  rfl

/-- Fields that are not finite make no difference to a line. -/
theorem line?_withoutNonFinite (m : Message) (metaAsTags : List String) :
    m.withoutNonFinite.line? metaAsTags = m.line? metaAsTags := by
  have hfields : (m.withoutNonFinite.fields.toList.filter fun entry => entry.2.isFinite) =
      m.fields.toList.filter fun entry => entry.2.isFinite := by
    rw [withoutNonFinite, ExtTreeMap.toList_filter, List.filter_filter]
    simp
  rw [line?, line?, lineChars?, lineChars?, hfields]
  rfl

end Message

/-- A run that writes lines writes the line of a message. -/
theorem RunOptions.encode?_line {o : RunOptions} (ho : o.format = .line) (order : Message.Order)
    (m : Message) : o.encode? order m = m.line? o.metaAsTags := by
  rw [encode?, ho, Message.line?_withoutNonFinite]
  split
  · rename_i h
    have hnil : m.withoutNonFinite.fields.toList = [] := by
      rw [← List.isEmpty_iff, ExtTreeMap.isEmpty_toList]
      exact (Bool.and_eq_true_iff.mp h).2
    rw [← Message.line?_withoutNonFinite, Message.line?, Message.lineChars?, hnil]
    rfl
  · rfl

namespace Report

/-- The bytes of lines are those of the texts, with a line feed behind each. -/
theorem bytes_ofLines (texts : List String) :
    Text.bytes (ofLines texts) = texts.flatMap fun text => Text.bytes text ++ [10] := by
  induction texts with
  | nil => rfl
  | cons text texts ih =>
    have hcons : ofLines (text :: texts) = text ++ "\n" ++ ofLines texts := String.join_cons
    rw [hcons, Text.bytes_append, Text.bytes_append, ih, List.flatMap_cons]
    rfl

/-- Texts that are written as lines are read as one line each, and one more for each line feed in
them. -/
theorem length_lines_ofLines (texts : List String) :
    (Text.lines (Text.bytes (ofLines texts))).length =
      texts.length + (texts.map Text.lineFeeds).sum := by
  rw [bytes_ofLines, Text.length_lines]
  · induction texts with
    | nil => rfl
    | cons text texts ih =>
      rw [List.flatMap_cons, List.count_append, ih, List.count_append, Text.count_bytes,
        List.map_cons, List.sum_cons, List.length_cons, List.count_singleton_self]
      omega
  · obtain rfl | ⟨init, last, rfl⟩ := List.eq_nil_or_concat' texts
    · exact .inl rfl
    · right
      rw [List.flatMap_append, List.flatMap_singleton, ← List.append_assoc, List.getLast?_concat]

end Report

namespace Message

/-- A line feed adds a line: a line has the line feeds of what it shows, and written messages are
read as one line each, and one more for each line feed in what is shown of them. -/
theorem lines_of_written {o : RunOptions} (ho : o.format = .line)
    (ms : List (Message.Order × Message)) :
    (∀ (m : Message) (metaAsTags : List String) (text : String),
      m.line? metaAsTags = some text → Text.lineFeeds text = m.lineFeeds metaAsTags) ∧
    let texts := ms.filterMap fun m => o.encode? m.1 m.2
    (Text.lines (Text.bytes (Report.ofLines texts))).length =
      texts.length + ((ms.filter fun m => (o.encode? m.1 m.2).isSome).map fun m =>
        m.2.lineFeeds o.metaAsTags).sum := by
  refine ⟨fun m metaAsTags text => count_line, ?_⟩
  have hfeeds : (ms.filterMap fun m => o.encode? m.1 m.2).map Text.lineFeeds =
      (ms.filter fun m => (o.encode? m.1 m.2).isSome).map fun m =>
        m.2.lineFeeds o.metaAsTags := by
    induction ms with
    | nil => rfl
    | cons m ms ih =>
      cases hm : o.encode? m.1 m.2 with
      | none => simp [hm, ih]
      | some text =>
        have hline := (RunOptions.encode?_line ho m.1 m.2).symm.trans hm
        simp [hm, ih, count_line hline]
  intro texts
  rw [Report.length_lines_ofLines, hfeeds]

/-- A message with a line feed in its name. -/
def broken : Message := ⟨"a\nb", ∅, ∅, .ofEntries [("value", .int 1)], .epoch⟩

/-- One written message is read as two lines. -/
theorem lines_of_written_broken :
    (Text.lines (Text.bytes (Report.ofLines
      ([(.ascending, broken)].filterMap fun m =>
        (RunOptions.mk .line [] false .standard).encode? m.1 m.2)))).length = 2 :=
  (lines_of_written rfl [(.ascending, broken)]).2.trans (by decide +kernel)

/-- The line of this message is no single line. -/
theorem line?_broken :
    broken.line? [] = some "a\nb value=1i 0" ∧ '\n' ∈ "a\nb value=1i 0".toList := by
  decide +kernel

end Message

end Telemetry
