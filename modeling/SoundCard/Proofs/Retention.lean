import Mathlib.Data.List.DropRight
import SoundCard.Proofs.Chronicle
import SoundCard.Proofs.Latest

/-!
# What a history retains

A history is the top of the stack that the same calls would make without a limit. It forgets entries at
the other end than the one where they come and go, so what it has is in order, and while the stack fits
nothing was forgotten.

A journal is written to through references, of which copies can be made. They all write to the same two
histories, so the journal has the latest events that were sent while it was recording and the latest
errors, whichever reference they came through. A board reports through one such reference.
-/

set_option autoImplicit false

namespace SoundCard

/-!
## Histories and stacks
-/

namespace History

variable {limit : Nat} {α : Type}

inductive Call (α : Type) where
  | push (entry : α)
  | pop

def call (history : History limit α) : Call α → History limit α
  | .push entry => history.push entry
  | .pop => history.pop.2

/-- The call on a stack that has no limit. -/
def Call.stack (stack : List α) : Call α → List α
  | .push entry => entry :: stack
  | .pop => stack.tail

theorem size_call_le {history : History limit α} (fits : history.size ≤ limit) (request : Call α) :
    (history.call request).size ≤ limit := by
  cases request with
  | push entry => exact history.size_push_le entry
  | pop =>
      have shorter : (history.call .pop).size = history.size - 1 := List.length_tail
      omega

theorem entries_call_prefix {history : History limit α} {stack : List α}
    (top : history.entries <+: stack) (request : Call α) :
    (history.call request).entries <+: request.stack stack := by
  cases request with
  | push entry => exact (List.take_prefix limit _).trans (List.cons_prefix_cons.mpr ⟨rfl, top⟩)
  | pop =>
      obtain ⟨forgotten, rfl⟩ := top
      cases entries : history.entries with
      | nil => simp [call, pop, entries]
      | cons newest rest => simp [call, pop, Call.stack, entries]

theorem entries_call_eq {history : History limit α} {stack : List α} (whole : history.entries = stack)
    {request : Call α} (fits : (request.stack stack).length ≤ limit) :
    (history.call request).entries = request.stack stack := by
  subst whole
  cases request with
  | push entry => exact List.take_of_length_le fits
  | pop => rfl

theorem size_foldl_call_le (calls : List (Call α)) :
    (calls.foldl call (.empty : History limit α)).size ≤ limit := by
  induction calls using List.reverseRecOn with
  | nil => exact Nat.zero_le limit
  | append_singleton past request ih => simpa using size_call_le ih request

theorem entries_foldl_call_prefix (calls : List (Call α)) :
    (calls.foldl call (.empty : History limit α)).entries <+: calls.foldl Call.stack [] := by
  induction calls using List.reverseRecOn with
  | nil => exact List.prefix_rfl
  | append_singleton past request ih => simpa using entries_call_prefix ih request

/-- The stack has to fit at each point of time: what was forgotten once does not come back. -/
theorem entries_foldl_call_eq {calls : List (Call α)}
    (fits : ∀ past, past <+: calls → (past.foldl Call.stack []).length ≤ limit) :
    (calls.foldl call (.empty : History limit α)).entries = calls.foldl Call.stack [] := by
  induction calls using List.reverseRecOn with
  | nil => rfl
  | append_singleton past request ih =>
      have whole := ih fun first earlier => fits first (earlier.trans (List.prefix_append ..))
      have now := fits _ List.prefix_rfl
      rw [List.foldl_append] at now ⊢
      simpa using entries_call_eq whole now

theorem entries_foldl_push_empty (entries : List α) :
    (entries.foldl push (.empty : History limit α)).entries = (entries.rtake limit).reverse := by
  rw [entries_foldl_push _ (Nat.zero_le limit), List.rtake_eq_reverse_take_reverse]
  simp [empty]

end History

/-!
## Journals and references
-/

namespace Journal

variable {ε : Type}

/-- A reference to a collector: that of the journal, that of nothing, or a copy of another one. -/
inductive Reference where
  | shared
  | null
  | clone (original : Reference)

/-- Whether the journal gets what is sent through the reference. -/
def Reference.feeds : Reference → Bool
  | shared => true
  | null => false
  | clone original => original.feeds

inductive Call (ε : Type) where
  | event (reference : Reference) (event : ε)
  | error (reference : Reference) (text : String)
  | setRecording (recording : Bool)

def call (journal : Journal ε) : Call ε → Journal ε
  | .event reference event => if reference.feeds then journal.event event else journal
  | .error reference text => if reference.feeds then journal.error text else journal
  | .setRecording recording => journal.setRecording recording

def Call.recording? : Call ε → Option Bool
  | .setRecording recording => some recording
  | _ => none

/-- Whether events are recorded after these calls, if they were or were not at the beginning. -/
def recordingAfter (initially : Bool) (past : List (Call ε)) : Bool :=
  (past.filterMap Call.recording?).getLast?.getD initially

/-- The event that the call sends to the journal, if events are recorded after the calls before it. -/
def sent (initially : Bool) (past : List (Call ε)) : Call ε → List ε
  | .event reference event =>
    if reference.feeds = true ∧ recordingAfter initially past = true then [event] else []
  | _ => []

/-- The error that the call sends to the journal. -/
def Call.errors : Call ε → List String
  | .error reference text => if reference.feeds then [text] else []
  | _ => []

theorem recordingAfter_append_singleton (initially : Bool) (past : List (Call ε))
    (request : Call ε) :
    recordingAfter initially (past ++ [request]) =
      request.recording?.getD (recordingAfter initially past) := by
  cases asked : request.recording? <;> simp [recordingAfter, asked]

theorem recording_call (journal : Journal ε) (request : Call ε) :
    (journal.call request).recording = request.recording?.getD journal.recording := by
  cases request with
  | event reference event =>
      simp only [call, Journal.event]
      split
      · split <;> rfl
      · rfl
  | error reference text =>
      simp only [call]
      split <;> rfl
  | setRecording recording => rfl

theorem events_call {journal : Journal ε} {initially : Bool} {past : List (Call ε)}
    (recording : journal.recording = recordingAfter initially past) (request : Call ε) :
    (journal.call request).events =
      (sent initially past request).foldl History.push journal.events := by
  cases request with
  | event reference event =>
      by_cases feeds : reference.feeds = true
      · by_cases recorded : recordingAfter initially past = true <;>
          simp [call, Journal.event, sent, recording, feeds, recorded]
      · simp [call, sent, feeds]
  | error reference text =>
      simp only [call]
      split <;> rfl
  | setRecording recording => rfl

theorem errors_call (journal : Journal ε) (request : Call ε) :
    (journal.call request).errors = request.errors.foldl History.push journal.errors := by
  cases request with
  | event reference event =>
      simp only [call, Journal.event]
      split
      · split <;> rfl
      · rfl
  | error reference text =>
      by_cases feeds : reference.feeds = true
      · simp [call, Call.errors, feeds, Journal.error]
      · simp [call, Call.errors, feeds]
  | setRecording recording => rfl

theorem recording_foldl_call (initially : Bool) (calls : List (Call ε)) :
    (calls.foldl call (.empty initially)).recording = recordingAfter initially calls := by
  induction calls using List.reverseRecOn with
  | nil => rfl
  | append_singleton past request ih =>
      rw [recordingAfter_append_singleton, ← ih, List.foldl_append]
      exact recording_call ..

theorem events_foldl_call (initially : Bool) (calls : List (Call ε)) :
    (calls.foldl call (.empty initially)).events =
      (mapPast (sent initially) [] calls).flatten.foldl History.push .empty := by
  induction calls using List.reverseRecOn with
  | nil => rfl
  | append_singleton past request ih =>
      rw [mapPast_append, List.flatten_append, List.foldl_append, List.foldl_append, ← ih]
      simpa [mapPast] using events_call (recording_foldl_call initially past) request

theorem errors_foldl_call (initially : Bool) (calls : List (Call ε)) :
    (calls.foldl call (.empty initially)).errors =
      (calls.flatMap Call.errors).foldl History.push .empty := by
  induction calls using List.reverseRecOn with
  | nil => rfl
  | append_singleton past request ih =>
      rw [List.flatMap_append, List.foldl_append, List.foldl_append, ← ih]
      simpa using errors_call _ request

end Journal

/-!
## Boards
-/

/-- The call that reports the action through a reference, if it is an event or an error. -/
def Action.reported? (reference : Journal.Reference) : Action → Option (Journal.Call Event)
  | .event happened => some (.event reference happened)
  | .error text => some (.error reference text)
  | _ => none

namespace Board

variable {σ : Type}

/-- What the parts of a board were given to report to. -/
def reference (board : Board σ) : Journal.Reference :=
  if board.watched then .clone .shared else .null

theorem reference_observe (board : Board σ) (action : Action) :
    (board.observe action).reference = board.reference := by
  have same : (board.observe action).watched = board.watched := board.watched_carryOut [action]
  rw [reference, same, reference]

theorem journal_observe (board : Board σ) (action : Action) :
    (board.observe action).journal =
      ([action].filterMap (Action.reported? board.reference)).foldl Journal.call board.journal := by
  cases action with
  | event happened =>
      cases watched : board.watched <;>
        simp [observe, reference, watched, Action.reported?, Journal.call, Journal.Reference.feeds]
  | error text =>
      cases watched : board.watched <;>
        simp [observe, reference, watched, Action.reported?, Journal.call, Journal.Reference.feeds]
  | _ => rfl

/-- So what is said of the calls of a journal holds for the journal of a board. -/
theorem journal_carryOut (board : Board σ) (actions : List Action) :
    (board.carryOut actions).journal =
      (actions.filterMap (Action.reported? board.reference)).foldl Journal.call board.journal := by
  induction actions generalizing board with
  | nil => rfl
  | cons action rest ih =>
      refine (ih (board.observe action)).trans ?_
      rw [reference_observe, journal_observe, ← List.foldl_append, ← List.filterMap_append]
      rfl

end Board

/-- A history is what fits of the top of the stack without a limit. So a journal has the latest events
that were sent to it while recording and the latest errors, newest first. -/
theorem latest_retained {α ε : Type} (limit : Nat) (edits : List (History.Call α)) (initially : Bool)
    (calls : List (Journal.Call ε)) :
    (let history : History limit α := edits.foldl History.call .empty
      let stack := fun past : List (History.Call α) => past.foldl History.Call.stack []
      history.size ≤ limit ∧ history.entries <+: stack edits ∧
        ((∀ past, past <+: edits → (stack past).length ≤ limit) → history.entries = stack edits)) ∧
      let journal : Journal ε := calls.foldl Journal.call (.empty initially)
      let events := (mapPast (Journal.sent initially) [] calls).flatten
      let errors := calls.flatMap Journal.Call.errors
      journal.events.entries = (events.rtake 1024).reverse ∧
        journal.errors.entries = (errors.rtake 64).reverse := by
  refine ⟨⟨History.size_foldl_call_le edits, History.entries_foldl_call_prefix edits,
    History.entries_foldl_call_eq⟩, ?_, ?_⟩
  · rw [Journal.events_foldl_call]
    exact History.entries_foldl_push_empty _
  · rw [Journal.errors_foldl_call]
    exact History.entries_foldl_push_empty _

example :
    let edits : List (History.Call Nat) := [.push 1, .push 2, .push 3, .pop, .pop, .push 4]
    (edits.foldl History.call (.empty : History 2 Nat)).entries = [4] ∧
      edits.foldl History.Call.stack [] = [4, 1] := by
  decide

example :
    let calls : List (Journal.Call Nat) := [.event .shared 1, .error (.clone .shared) "a",
      .setRecording true, .event (.clone .shared) 2, .event (.clone .null) 3, .event .shared 4,
      .setRecording false, .event (.clone .shared) 5, .error .null "b", .error .shared "c"]
    let journal := calls.foldl Journal.call (.empty false)
    journal.events.entries = [4, 2] ∧ journal.errors.entries = ["c", "a"] := by
  decide

end SoundCard
