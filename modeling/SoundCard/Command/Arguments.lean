import SoundCard.Command.Help
import SoundCard.Stream
import SoundCard.Text.Decimal

/-!
# Command line arguments

The arguments are read from left to right, and the first one that cannot be used ends the reading.
What is missing is found out only at the end. A request for help can stand anywhere before `--`; it
is answered once everything else was read.
-/

set_option autoImplicit false

namespace SoundCard.Command

inductive ValueFault where
  | duplicate
  | number (fault : Decimal.Fault)
  deriving DecidableEq, Repr

def ValueFault.message : ValueFault → String
  | duplicate => "duplicate values provided"
  | number fault => fault.message

inductive Refusal where
  | optionAfterHelp
  | unrecognized (argument : String)
  | noValue (option : String)
  | badValue (option value : String) (fault : ValueFault)
  | missing (positionals options commands : List String)
  deriving DecidableEq, Repr

def listing (heading : String) (items : List String) : List String :=
  if items = [] then [] else [heading ++ String.join (items.map ("\n    " ++ ·))]

def Refusal.message : Refusal → String
  | optionAfterHelp => "Trailing arguments are not allowed after `help`."
  | unrecognized argument => s!"Unrecognized argument: {argument}\n"
  | noValue option => s!"No value provided for option '{option}'.\n"
  | badValue option value fault =>
    s!"Error parsing option '{option}' with value '{value}': {fault.message}\n"
  | missing positionals options commands =>
    "\n".intercalate
      (listing "Required positional arguments not provided:" positionals ++
        listing "Required options not provided:" options ++
        listing "One of the following subcommands must be present:" commands) ++ "\n"

inductive Stop where
  | help (text : String)
  | refused (refusal : Refusal)
  deriving DecidableEq, Repr

inductive Field where
  | output
  | period
  | maxTicks
  | loadState
  | saveState
  deriving DecidableEq, Repr

def looksLikeOption (argument : String) : Bool :=
  argument.toList.head? == some '-'

/-- The option that an argument names. Only playing can be resumed. -/
def Field.ofArgument? (task : Task) : String → Option Field
  | "-o" => some output
  | "--output" => some output
  | "--period" => some period
  | "--max-ticks" => some maxTicks
  | "--load-state" => if task = .play then some loadState else none
  | "--save-state" => some saveState
  | _ => none

structure Draft where
  input : Option String := none
  output : Option String := none
  period : Option Nat := none
  maxTicks : Option Nat := none
  loadState : Option String := none
  saveState : Option String := none

namespace Draft

def once {α : Type} (earlier : Option α) (value : Except ValueFault α) :
    Except ValueFault (Option α) :=
  match earlier with
  | some _ => .error .duplicate
  | none => value.map some

def number (text : String) : Except ValueFault Nat :=
  (Decimal.ofText (UInt64.size - 1) text).mapError .number

def fill (draft : Draft) (field : Field) (value : String) : Except ValueFault Draft :=
  match field with
  | .output => (once draft.output (.ok value)).map fun output => { draft with output }
  | .period => (once draft.period (number value)).map fun period => { draft with period }
  | .maxTicks => (once draft.maxTicks (number value)).map fun maxTicks => { draft with maxTicks }
  | .loadState => (once draft.loadState (.ok value)).map fun loadState => { draft with loadState }
  | .saveState => (once draft.saveState (.ok value)).map fun saveState => { draft with saveState }

end Draft

structure Job where
  task : Task
  input : String
  output : String
  options : Stream.Options

namespace Job

def ofDraft (task : Task) (draft : Draft) : Except Refusal Job :=
  match draft.input, draft.output with
  | some input, some output =>
    .ok
      { task, input, output
        options :=
          { period := draft.period.getD Stream.defaultPeriod
            maxTicks := draft.maxTicks.getD Stream.defaultMaxTicks
            loadState := draft.loadState
            saveState := draft.saveState } }
  | input, output =>
    .error (.missing (if input.isNone then ["input"] else [])
      (if output.isNone then ["--output"] else []) [])

/-- Reads the arguments behind the name of a task. `help` tells whether help was requested, and
`ended` whether options are over. -/
def read (task : Task) (help ended : Bool) (draft : Draft) : List String → Except Stop Job
  | [] =>
    if help then .error (.help task.help) else (ofDraft task draft).mapError .refused
  | argument :: rest =>
    if (argument = "--help" ∨ argument = "help") ∧ !ended then
      read task true ended draft rest
    else if looksLikeOption argument ∧ !ended then
      if argument = "--" then
        read task help true draft rest
      else if help then
        .error (.refused .optionAfterHelp)
      else
        match Field.ofArgument? task argument, rest with
        | none, _ => .error (.refused (.unrecognized argument))
        | some _, [] => .error (.refused (.noValue argument))
        | some field, value :: rest =>
          match draft.fill field value with
          | .error fault => .error (.refused (.badValue argument value fault))
          | .ok draft => read task help ended draft rest
    else if draft.input.isNone then
      read task help ended { draft with input := some argument } rest
    else
      .error (.refused (.unrecognized argument))

end Job

structure Invocation where
  traceFile : Option String
  job : Job

namespace Invocation

def readFrom (help ended : Bool) (traceFile : Option String) :
    List String → Except Stop Invocation
  | [] =>
    if help then .error (.help generalHelp)
    else .error (.refused (.missing [] [] ("help" :: Task.all.map Task.name)))
  | argument :: rest =>
    if (argument = "--help" ∨ argument = "help") ∧ !ended then
      readFrom true ended traceFile rest
    else if looksLikeOption argument ∧ !ended then
      if argument = "--" then
        readFrom help true traceFile rest
      else if help then
        .error (.refused .optionAfterHelp)
      else if argument ≠ "--trace-file" then
        .error (.refused (.unrecognized argument))
      else
        match rest with
        | [] => .error (.refused (.noValue argument))
        | value :: rest =>
          if traceFile.isSome then .error (.refused (.badValue argument value .duplicate))
          else readFrom help ended (some value) rest
    else
      match Task.all.find? fun task => task.name = argument with
      | some task => (Job.read task help false {} rest).map fun job => ⟨traceFile, job⟩
      | none => .error (.refused (.unrecognized argument))

def ofArguments (arguments : List String) : Except Stop Invocation :=
  readFrom false false none arguments

end Invocation

end SoundCard.Command
