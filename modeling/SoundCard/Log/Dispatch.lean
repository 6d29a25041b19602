import SoundCard.Log.Console
import SoundCard.Log.Filter

/-!
# The logger of the process

A process has at most one logger, and whoever installs one first keeps it. Apart from that there is
one verbosity for the whole process, which holds records back before any logger sees them.
-/

set_option autoImplicit false

namespace SoundCard.Log

inductive Logger where
  | host
  | console (filter : Filter) (console : Console)
  deriving DecidableEq, Repr

structure Dispatch where
  style : Style
  logger : Option Logger
  verbosity : Verbosity
  /-- Whether the library has tried to install its logger. It tries only once. -/
  tried : Bool
  deriving DecidableEq, Repr

namespace Dispatch

def fresh (style : Style) : Dispatch where
  style := style
  logger := none
  verbosity := .off
  tried := false

def setVerbosity (dispatch : Dispatch) (verbosity : Verbosity) : Dispatch :=
  { dispatch with verbosity }

/-- Installs the logger of the library, the first time that this is called. The filter is read from
the setting, or from the default text if there is none. The verbosity of the process is set only if
no logger was there before. -/
def install (dispatch : Dispatch) (setting : Option String) (default : String) :
    Dispatch × List FilterWarning :=
  if dispatch.tried then
    (dispatch, [])
  else
    let (filter, warnings) := Filter.ofText (setting.getD default)
    match dispatch.logger with
    | some _ => ({ dispatch with tried := true }, warnings)
    | none =>
      ({ dispatch with
          tried := true
          logger := some (.console filter .empty)
          verbosity := filter.widest }, warnings)

/-- An embedding application installs its logger and sets the verbosity of the process. Tells
whether its logger was the first. -/
def installHost (dispatch : Dispatch) (verbosity : Verbosity) : Bool × Dispatch :=
  match dispatch.logger with
  | some _ => (false, dispatch.setVerbosity verbosity)
  | none => (true, { dispatch with logger := some .host, verbosity })

def enabled (dispatch : Dispatch) (level : Level) (target : String) : Bool :=
  match dispatch.logger with
  | none => false
  | some .host => true
  | some (.console filter _) => filter.admits level target

def emit (dispatch : Dispatch) (record : Record) : Dispatch × List String :=
  if dispatch.verbosity.admits record.level then
    match dispatch.logger with
    | none => (dispatch, [])
    | some .host => (dispatch, ["host " ++ record.text])
    | some (.console filter console) =>
      let (console, lines) := console.log dispatch.style
        (fun record => filter.admits record.level record.target) record
      ({ dispatch with logger := some (.console filter console) }, lines)
  else
    (dispatch, [])

def emitAll (dispatch : Dispatch) (records : List Record) : Dispatch × List String :=
  let (dispatch, printed) := records.foldl (fun (dispatch, printed) record =>
    let (dispatch, lines) := dispatch.emit record
    (dispatch, lines.reverseAux printed)) (dispatch, [])
  (dispatch, printed.reverse)

end Dispatch

end SoundCard.Log
