import TagFilter.Batch.Basic
import TagFilter.Context

/-!
# Watching a batch

`Context.renderFile` renders the batch in a file.  A `Watch` renders it again whenever the file
changes: a notice about the file arms a timer, and when the timer fires the file is read anew, so a
burst of notices leads to one rendering.
-/

namespace TagFilter

/-- Reports the results of the batch in a file: what is printed, and what went wrong. -/
def Context.reportBatch (c : Context) (path : Text) (results : List Batch.Result) :
    Output × Option Failure :=
  let failed := Batch.failures results
  let log := c.logger.debug "batch rendered" [("file", path),
    ("expressions", Text.ofNat results.length), ("failed", Text.ofNat failed)]
  (Batch.report c.console results ++ log,
    if 0 < failed then some (Batch.failureMessage results) else none)

/-- Renders the batch in a file: what is printed, and what went wrong. -/
def Context.renderFile (c : Context) (folder : Folder) (path : Text) : Output × Option Failure :=
  match folder.access path with
  | .error e => ({}, some ("failed to open batch file: " ++ e.message : Text))
  | .ok () =>
    match folder.content path with
    | .error e => ({}, some ("failed to read " ++ path ++ ": " ++ e.message : Text))
    | .ok text =>
      match Batch.read text with
      | .error e => ({}, some ("failed to read " ++ path ++ ": " ++ e.message : Text))
      | .ok items => c.reportBatch path (Batch.render c.sniffer c.settings.statement items)

/-- What can happen to a file. -/
inductive FileChange where
  | created
  | written
  | removed
  | modeChanged
  deriving DecidableEq, Repr

/-- Whether a change may have given a file another content. -/
def FileChange.isContent : FileChange → Bool
  | created | written => true
  | removed | modeChanged => false

/-- A batch that is watched; `pending` says that the timer is armed. -/
structure Watch where
  context : Context
  path : Text
  pending : Bool := false

namespace Watch

/-- Renders the batch and shows what went wrong. -/
def render (w : Watch) (folder : Folder) : Output :=
  let (output, failure?) := w.context.renderFile folder w.path
  output ++ (failure?.map fun f => w.context.console.failure f.message).getD {}

/-- Why a file cannot be watched: its directory is not there. -/
def problem? (w : Watch) (folder : Folder) : Option Failure :=
  let directory := Path.parent w.path
  if folder.occupied directory then none
  else some ("failed to watch " ++ w.path ++ ": " ++ (folder.openProblem directory).message : Text)

/-- The first rendering, and what is said before the watch begins. -/
def begin (w : Watch) (folder : Folder) : Output :=
  w.render folder ++
    w.context.console.muted ("Watching " ++ w.path ++ " for changes (Ctrl+C to stop)")

/-- Takes notice of a change to a file. -/
def notice (w : Watch) (path : Text) (change : FileChange) : Watch :=
  { w with pending := w.pending || (Path.clean path == Path.clean w.path && change.isContent) }

/-- Lets the timer fire, if it is armed: the batch is rendered again. -/
def fire (w : Watch) (folder : Folder) : Watch × Output :=
  if w.pending then
    ({ w with pending := false },
      w.context.logger.info "change detected" [("file", Path.base w.path)] ++ w.render folder)
  else (w, {})

end Watch

end TagFilter
