import Mathlib.Data.List.DropRight
import Mathlib.Data.List.Forall2
import SoundCard.Log.Console
import SoundCard.Proofs.Latest

/-!
# What is printed of a log

A record above trace level is printed behind the latest trace records that were accepted since the one
before it, at most twenty of them and in the order in which they came. So what is printed is a part of
what was accepted, in the same order, and a trace record is printed only in front of a record that it
led to. What is not accepted makes no difference.
-/

set_option autoImplicit false

namespace SoundCard.Log.Console

variable (style : Style) (accepts : Record → Bool)

/-- Logs the records one after the other. Gives the lines that each of them has printed. -/
def logAll (console : Console) : List Record → Console × List (List String)
  | [] => (console, [])
  | record :: rest =>
    let (console, lines) := console.log style accepts record
    let (console, later) := console.logAll rest
    (console, lines :: later)

/-- The accepted trace records since the last accepted record above trace level. -/
def waiting (past : List Record) : List Record :=
  (past.filter accepts).rtakeWhile fun record => record.level = .trace

/-- The records that are printed with a record: those that give it context, and itself. -/
def passage (past : List Record) (record : Record) : List Record :=
  if accepts record = true ∧ record.level ≠ .trace then
    (waiting accepts past).rtake 20 ++ [record]
  else []

/-- The lines show these records, perhaps with dots in front of them. -/
def Prints (records : List Record) (lines : List String) : Prop :=
  lines = records.map style.line ∨ records ≠ [] ∧ lines = style.elision :: records.map style.line

section

variable {accepts} {past : List Record} {record : Record}

theorem waiting_rejected (rejected : accepts record = false) :
    waiting accepts (past ++ [record]) = waiting accepts past := by
  simp [waiting, rejected]

theorem waiting_trace (accepted : accepts record = true) (trace : record.level = .trace) :
    waiting accepts (past ++ [record]) = waiting accepts past ++ [record] := by
  simp [waiting, accepted, trace]

theorem waiting_above (accepted : accepts record = true) (above : record.level ≠ .trace) :
    waiting accepts (past ++ [record]) = [] := by
  simp [waiting, accepted, above]

theorem trace_of_mem_waiting (member : record ∈ waiting accepts past) : record.level = .trace := by
  simpa using List.mem_rtakeWhile_imp member

end

/-!
## One record
-/

/-- The console keeps the lines of the context that the next record will have, newest first. -/
def Recalls (past : List Record) (console : Console) : Prop :=
  console.context = ((waiting accepts past).reverse.take 20).map style.line

namespace Recalls

variable {style} {accepts} {past : List Record} {console : Console}

theorem log (recalls : Recalls style accepts past console) (record : Record) :
    Recalls style accepts (past ++ [record]) (console.log style accepts record).1 := by
  unfold Recalls at recalls ⊢
  by_cases accepted : accepts record = true
  · by_cases trace : record.level = .trace
    · simp [Console.log, accepted, trace, waiting_trace, recalls, contextSize, List.map_take,
        List.take_take]
    · simp [Console.log, accepted, trace, waiting_above, empty]
  · simp [Console.log, accepted, waiting_rejected, recalls]

theorem shown (recalls : Recalls style accepts past console) :
    console.context.reverse = ((waiting accepts past).rtake 20).map style.line := by
  rw [Recalls] at recalls
  simp [recalls, List.rtake_eq_reverse_take_reverse]

theorem full_iff (recalls : Recalls style accepts past console) :
    console.context.length = contextSize ↔ 20 ≤ (waiting accepts past).length := by
  rw [Recalls] at recalls
  have kept : console.context.length = min 20 (waiting accepts past).length := by simp [recalls]
  rw [kept, contextSize]
  omega

/-- The lines printed for a record, with dots in front if the console has no room for more. -/
theorem lines_log (recalls : Recalls style accepts past console) (record : Record) :
    (console.log style accepts record).2 =
      if accepts record = true ∧ record.level ≠ .trace then
        (if 20 ≤ (waiting accepts past).length then [style.elision] else []) ++
          (passage accepts past record).map style.line
      else [] := by
  by_cases accepted : accepts record = true
  · by_cases trace : record.level = .trace
    · simp [Console.log, accepted, trace]
    · by_cases full : console.context.length = contextSize
      · have dots := recalls.full_iff.mp full
        simp [Console.log, Console.shown, passage, accepted, trace, full, dots, recalls.shown]
      · have room := mt recalls.full_iff.mpr full
        simp [Console.log, Console.shown, passage, accepted, trace, full, room, recalls.shown]
  · simp [Console.log, accepted]

theorem prints_log (recalls : Recalls style accepts past console) (record : Record) :
    Prints style (passage accepts past record) (console.log style accepts record).2 := by
  rw [recalls.lines_log, Prints]
  split
  · next printed =>
    split
    · exact .inr ⟨by simp [passage, printed], rfl⟩
    · exact .inl rfl
  · next silent => exact .inl (by simp [passage, silent])

end Recalls

/-!
## Many records
-/

section

variable {accepts} {past : List Record} {console : Console}

theorem prints_logAll {style : Style} (recalls : Recalls style accepts past console)
    (records : List Record) :
    List.Forall₂ (Prints style) (mapPast (passage accepts) past records)
      (console.logAll style accepts records).2 := by
  induction records generalizing past console with
  | nil => exact .nil
  | cons record rest ih => exact .cons (recalls.prints_log record) (ih (recalls.log record))

/-- A passage ends with its own record, which is above trace level, and nothing else in it is. -/
theorem passage_spec {records : List Record} {printed : List Record}
    (member : printed ∈ mapPast (passage accepts) past records) :
    printed = [] ∨ ∃ context record, printed = context ++ [record] ∧ context.length ≤ 20 ∧
      (∀ other ∈ context, other.level = .trace) ∧ record.level ≠ .trace := by
  induction records generalizing past with
  | nil => cases member
  | cons record rest ih =>
      rcases List.mem_cons.mp member with rfl | later
      · unfold passage
        split
        · next shows =>
          refine .inr ⟨_, record, rfl, ?_, fun other found => ?_, shows.2⟩
          · rw [List.rtake, List.length_drop]
            omega
          · exact trace_of_mem_waiting (List.mem_of_mem_drop found)
        · exact .inl rfl
      · exact ih later

theorem passages_sublist (records : List Record) :
    (mapPast (passage accepts) past records).flatten.Sublist
      (waiting accepts past ++ records.filter accepts) := by
  induction records generalizing past with
  | nil => simp [mapPast]
  | cons record rest ih =>
      have later := @ih (past ++ [record])
      rw [mapPast, List.flatten_cons]
      by_cases accepted : accepts record = true
      · by_cases trace : record.level = .trace
        · rw [waiting_trace accepted trace] at later
          simpa [passage, accepted, trace] using later
        · rw [waiting_above accepted trace] at later
          have context : ((waiting accepts past).rtake 20).Sublist (waiting accepts past) :=
            List.drop_sublist ..
          simpa [passage, accepted, trace] using context.append (later.cons_cons record)
      · rw [waiting_rejected (eq_false_of_ne_true accepted)] at later
        simpa [passage, accepted] using later

theorem logAll_filter (style : Style) (records : List Record) :
    (console.logAll style accepts (records.filter accepts)).1 =
        (console.logAll style accepts records).1 ∧
      (console.logAll style accepts (records.filter accepts)).2.flatten =
        (console.logAll style accepts records).2.flatten := by
  induction records generalizing console with
  | nil => exact ⟨rfl, rfl⟩
  | cons record rest ih =>
      by_cases accepted : accepts record = true
      · simp [logAll, accepted, ih]
      · simp [logAll, accepted, ih, Console.log]

end

/-- Behind a record above trace level stand, in order, the latest trace records since the one before it,
up to twenty of them, and the record itself. All of this is a part of what was accepted, in the same
order, and what was not accepted makes no difference to it. -/
theorem context_printed (records : List Record) :
    let logged := empty.logAll style accepts records
    let passages := mapPast (passage accepts) [] records
    let audible := empty.logAll style accepts (records.filter accepts)
    List.Forall₂ (Prints style) passages logged.2 ∧
      passages.flatten.Sublist (records.filter accepts) ∧
      (∀ printed ∈ passages, printed = [] ∨ ∃ context record, printed = context ++ [record] ∧
        context.length ≤ 20 ∧ (∀ other ∈ context, other.level = .trace) ∧ record.level ≠ .trace) ∧
      audible.1 = logged.1 ∧ audible.2.flatten = logged.2.flatten := by
  have initially : Recalls style accepts [] empty := rfl
  have accepted : (mapPast (passage accepts) [] records).flatten.Sublist (records.filter accepts) := by
    simpa [waiting] using @passages_sublist accepts [] records
  exact ⟨prints_logAll initially records, accepted, fun _ => passage_spec, logAll_filter style records⟩

example :
    let traces := (List.range 22).map fun number => ⟨.trace, "bus", toString number⟩
    let records : List Record := traces ++
      [⟨.trace, "tests", "left out"⟩, ⟨.warn, "bus", "a"⟩, ⟨.trace, "bus", "b"⟩, ⟨.info, "bus", "c"⟩]
    (empty.logAll .plain (·.target = "bus") records).2.flatten =
      "..." :: (List.range' 2 20).map toString ++ ["W a", "b", "I c"] := by
  decide +kernel

end SoundCard.Log.Console
