import SoundCard.Log.Level
import SoundCard.Text.Blank
import SoundCard.Text.Split

/-!
# Log filters

A filter says for each part of the program which records are let through. It is written as a list
of directives between commas: a bare verbosity sets the rule for everything, a bare target lets
everything of that target through, and `target=verbosity` combines the two. A directive that cannot
be understood is ignored with a warning.

A record is judged by the directive with the longest target that its own target starts with.
-/

set_option autoImplicit false

namespace SoundCard.Log

/-- One rule of a filter. Without a target it applies to every record. -/
structure Directive where
  target : Option String
  verbosity : Verbosity
  deriving DecidableEq, Repr

inductive FilterWarning where
  | directive (text : String)
  | slashes (text : String)
  deriving DecidableEq, Repr

def FilterWarning.message : FilterWarning → String
  | directive text => s!"warning: invalid logging spec '{text}', ignoring it"
  | slashes text => s!"warning: invalid logging spec '{text}' (too many '/'s), ignoring it"

namespace Directive

def ofText (text : String) : Except FilterWarning (Option Directive) :=
  let text := Blank.trim text
  if text = "" then
    .ok none
  else
    match Split.parts '=' text with
    | [single] =>
      match Verbosity.ofName? single with
      | some verbosity => .ok (some ⟨none, verbosity⟩)
      | none => .ok (some ⟨some single, .upTo .trace⟩)
    | [target, name] =>
      let name := Blank.trim name
      if name = "" then
        .ok (some ⟨some target, .upTo .trace⟩)
      else
        match Verbosity.ofName? name with
        | some verbosity => .ok (some ⟨some target, verbosity⟩)
        | none => .error (.directive name)
    | _ => .error (.directive text)

/-- The length of the target in bytes; no target counts as an empty one. -/
def weight (directive : Directive) : Nat :=
  (directive.target.map String.utf8ByteSize).getD 0

def covers (directive : Directive) (target : String) : Bool :=
  match directive.target with
  | some start => start.toList.isPrefixOf target.toList
  | none => true

end Directive

structure Filter where
  directives : List Directive
  deriving DecidableEq, Repr

namespace Filter

/-- Adds a directive. It takes the place of an earlier one for the same target. -/
def insert (directives : List Directive) (directive : Directive) : List Directive :=
  if directives.any fun other => other.target = directive.target then
    directives.map fun other => if other.target = directive.target then directive else other
  else
    directives ++ [directive]

/-- The filter with the given directives. Without any, errors are let through. Directives of equal
weight keep their order. -/
def ofDirectives (directives : List Directive) : Filter :=
  if directives = [] then
    ⟨[⟨none, .upTo .error⟩]⟩
  else
    ⟨(directives.foldl insert []).mergeSort fun left right => left.weight ≤ right.weight⟩

/-- The filter that a text describes, and the warnings about what is ignored. What follows a single
slash is not part of the directives. -/
def ofText (text : String) : Filter × List FilterWarning :=
  match Split.parts '/' text with
  | directives :: rest =>
    if 1 < rest.length then
      (ofDirectives [], [.slashes text])
    else
      let results := (Split.parts ',' directives).map Directive.ofText
      (ofDirectives (results.filterMap fun result => result.toOption.join),
        results.filterMap fun result =>
          match result with
          | .error warning => some warning
          | .ok _ => none)
  | [] => (ofDirectives [], [])

def widest (filter : Filter) : Verbosity :=
  filter.directives.foldl (fun widest directive => widest.max directive.verbosity) .off

/-- Whether records of a level about a target are let through. The heaviest directive that covers
the target decides, the last one among equals. -/
def admits (filter : Filter) (level : Level) (target : String) : Bool :=
  match filter.directives.reverse.find? fun directive => directive.covers target with
  | some directive => directive.verbosity.admits level
  | none => false

end Filter

end SoundCard.Log
