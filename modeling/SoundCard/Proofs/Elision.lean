import SoundCard.Proofs.Context

/-!
# What the dots say

The dots in front of a context stand for the records that it leaves out. They are never missing when
something is left out. But the console only looks at how much it keeps, and that is the same whether the
context has just become full or older records had to make room in it. So a context that is exactly full
has dots as well, although it shows everything.
-/

set_option autoImplicit false

namespace SoundCard.Log.Console

variable (style : Style) (accepts : Record → Bool)

/-- The waiting records that the context of the next record leaves out. -/
def omitted (past : List Record) : List Record :=
  (waiting accepts past).rdrop 20

/-- The lines show these records, and dots in front of them. -/
def Dotted (records : List Record) (lines : List String) : Prop :=
  lines = style.elision :: records.map style.line

instance (records : List Record) (lines : List String) : Decidable (Dotted style records lines) :=
  inferInstanceAs (Decidable (_ = _))

section

variable {accepts} {past : List Record} {record : Record}

theorem omitted_append_passage (accepted : accepts record = true) (above : record.level ≠ .trace) :
    omitted accepts past ++ passage accepts past record = waiting accepts past ++ [record] := by
  rw [passage, if_pos ⟨accepted, above⟩, omitted, List.rdrop, List.rtake, ← List.append_assoc,
    List.take_append_drop]

theorem length_omitted :
    (omitted accepts past).length = (waiting accepts past).length - 20 := by
  rw [omitted, List.rdrop, List.length_take]
  exact Nat.min_eq_left (Nat.sub_le ..)

theorem omitted_ne_nil_iff : omitted accepts past ≠ [] ↔ 20 < (waiting accepts past).length := by
  rw [← List.length_pos_iff, length_omitted]
  omega

end

/-- A line of dots may look like a trace line. What tells them apart is how many lines there are. -/
theorem not_dotted_map (records : List Record) : ¬Dotted style records (records.map style.line) := by
  intro dotted
  have lengths := congrArg List.length dotted
  rw [List.length_cons] at lengths
  omega

/-!
## One record
-/

namespace Recalls

variable {style} {accepts} {past : List Record} {console : Console} {record : Record}

theorem dotted_log_iff (recalls : Recalls style accepts past console)
    (accepted : accepts record = true) (above : record.level ≠ .trace) :
    Dotted style (passage accepts past record) (console.log style accepts record).2 ↔
      20 ≤ (waiting accepts past).length := by
  rw [recalls.lines_log, if_pos ⟨accepted, above⟩]
  by_cases full : 20 ≤ (waiting accepts past).length
  · rw [if_pos full]
    exact iff_of_true rfl full
  · rw [if_neg full]
    exact iff_of_false (not_dotted_map style _) full

end Recalls

/-!
## Many records
-/

theorem Recalls.logAll {style : Style} {accepts : Record → Bool} {past : List Record}
    {console : Console} (recalls : Recalls style accepts past console) (records : List Record) :
    Recalls style accepts (past ++ records) (console.logAll style accepts records).1 := by
  induction records generalizing past console with
  | nil => simpa [Console.logAll] using recalls
  | cons record rest ih => simpa [Console.logAll] using ih (recalls.log record)

theorem getElem?_logAll (console : Console) (before after : List Record) (record : Record) :
    (console.logAll style accepts (before ++ record :: after)).2[before.length]? =
      some ((console.logAll style accepts before).1.log style accepts record).2 := by
  induction before generalizing console with
  | nil => rfl
  | cons first rest ih => exact ih (console.log style accepts first).1

/-- Wherever an accepted record above trace level stands among others, the lines printed for it show
its passage, and that is all that was waiting except for what is omitted. Dots stand in front exactly if
something is omitted or twenty records were waiting, which is as many as there is room for. -/
theorem dots_explained (before after : List Record) (record : Record)
    (accepted : accepts record = true) (above : record.level ≠ .trace) :
    let shown := passage accepts before record
    ∃ lines, (empty.logAll style accepts (before ++ record :: after)).2[before.length]? = some lines ∧
      Prints style shown lines ∧
      omitted accepts before ++ shown = waiting accepts before ++ [record] ∧
      (Dotted style shown lines ↔
        omitted accepts before ≠ [] ∨ (waiting accepts before).length = 20) := by
  intro shown
  have initially : Recalls style accepts [] empty := rfl
  have recalls : Recalls style accepts before (empty.logAll style accepts before).1 := by
    simpa using initially.logAll before
  refine ⟨_, getElem?_logAll style accepts empty before after record, recalls.prints_log record,
    omitted_append_passage accepted above, ?_⟩
  rw [recalls.dotted_log_iff accepted above, omitted_ne_nil_iff]
  omega

/-- One record too many for the context, after an earlier passage and with a rejected record among
those that wait. -/
theorem dots_explained_overfull :
    let accepts : Record → Bool := (·.target = "bus")
    let traces : List Record := (List.range 21).map fun number => ⟨.trace, "bus", toString number⟩
    let before := [⟨.trace, "bus", "a"⟩, ⟨.info, "bus", "b"⟩, ⟨.trace, "tests", "left out"⟩] ++ traces
    let record : Record := ⟨.warn, "bus", "c"⟩
    accepts record = true ∧ record.level ≠ .trace ∧
      omitted accepts before = [⟨.trace, "bus", "0"⟩] ∧
      ∃ lines, (empty.logAll .plain accepts (before ++ [record])).2[before.length]? = some lines ∧
        Dotted .plain (passage accepts before record) lines := by
  intro accepts traces before record
  have left : omitted accepts before = [⟨.trace, "bus", "0"⟩] := by decide +kernel
  obtain ⟨lines, printed, _, _, dots⟩ :=
    dots_explained .plain accepts before [] record (by decide) (by decide)
  exact ⟨by decide, by decide, left, lines, printed, dots.mpr (.inl (by simp [left]))⟩

/-- So the dots do not always stand for something: here all twenty records that wait are shown. -/
theorem not_forall_dots_truthful :
    ¬∀ (style : Style) (accepts : Record → Bool) (before after : List Record) (record : Record)
      (lines : List String),
      accepts record = true → record.level ≠ .trace →
      (empty.logAll style accepts (before ++ record :: after)).2[before.length]? = some lines →
      (Dotted style (passage accepts before record) lines ↔ omitted accepts before ≠ []) := by
  intro truthful
  let traces : List Record := (List.range 20).map fun number => ⟨.trace, "bus", toString number⟩
  let lines := "..." :: (List.range 20).map toString ++ ["I now"]
  have told : Dotted .plain (passage (fun _ => true) traces ⟨.info, "bus", "now"⟩) lines ↔
      omitted (fun _ => true) traces ≠ [] :=
    truthful .plain (fun _ => true) traces [] ⟨.info, "bus", "now"⟩ lines rfl nofun (by decide +kernel)
  have nothing : omitted (fun _ => true) traces = [] := by decide +kernel
  exact told.mp (by decide +kernel) nothing

end SoundCard.Log.Console
