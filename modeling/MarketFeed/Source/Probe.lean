import MarketFeed.Source.Basic

/-!
# The probe

The source that is built in: it reports the directories and locations that a command works with,
and fails if the runtime directory cannot be used.

* `Probe.report` — the messages that it sends.
* `Probe.source` — the source itself.
-/

namespace MarketFeed.Probe

/-- The name of the probe. -/
def name : String := "probe"

/-- What the probe is for. -/
def about : String := "Report the resolved runtime layout"

/-- The message about the archive directory: only a directory will do. -/
def archiveMessage (frame : Frame) (files : FileTree) : LogLevel × String :=
  if files.isDirectory frame.archiveDir then (.info, "archive dir: " ++ frame.archiveDir.text)
  else (.warning, "archive dir missing: " ++ frame.archiveDir.text)

/-- The message about a location and whether its log directory is there. -/
def locationMessage (files : FileTree) (label : String) (location : Location) :
    LogLevel × String :=
  let logDir := location.layoutDir .log
  let state := if files.isDirectory logDir then "present" else "absent"
  (.info, label ++ ": " ++ location.uname ++ " (log dir " ++ logDir.text ++ ", " ++ state ++ ")")

/-- The messages of the probe where the runtime directory can be used. -/
def report (frame : Frame) (files : FileTree) : List (LogLevel × String) :=
  [(.info, "runtime dir: " ++ frame.runtimeDir.text),
   archiveMessage frame files,
   (.info, "low latency: " ++ if frame.lowLatency then "true" else "false"),
   locationMessage files "config" frame.config,
   locationMessage files "console" frame.console,
   locationMessage files "index" frame.index]

/-- Looks at the runtime directory and reports, or fails if it is no directory. -/
def extension (frame : Frame) : Extension :=
  .look fun files =>
    -- a runtime log that writes has made the directory by now; one that only notes has not
    match files.find? frame.runtimeDir with
    | .error e => .done (.error (.io name ("runtime dir " ++ frame.runtimeDir.text) e))
    | .ok (.file _) =>
      .done (.error (.failed name
        ("runtime dir is not a directory: " ++ frame.runtimeDir.text)))
    | .ok .directory => Routine.logAll (report frame files) (.done (.ok ()))

/-- The probe as a source; its extensions can always be built. -/
def source : Source where
  about
  build context := .done (.ok (extension context.frame))

end MarketFeed.Probe
