import MarketFeed.CommandError
import MarketFeed.DataService
import MarketFeed.Request
import MarketFeed.Settings.Load

/-!
# Doing what is asked for

* `Services`               — what the commands work with.
* `Services.performData`   — requests of the data group, which is entered anew each time.
* `Services.performConfig` — requests that are about the settings.
* `Services.perform`       — any request.
-/

namespace MarketFeed

/-- What the commands work with. -/
structure Services where
  settings : Settings
  environment : Environment
  registry : Registry
  log : RuntimeLog

namespace Services

/-- The part of the program that commands speak from. -/
def target : String := "kfc_data::cli::commands"

/-- The span of a command. -/
def span (name words : String) : Span where
  name
  target
  fields := [⟨"command", .words words⟩]

/-! ## Data sources -/

/-- The event that tells which source is asked for. -/
def dispatching (source : String) : Event where
  severity := .debug
  target
  message := "dispatching data source"
  fields := [⟨"source", .words source⟩]

/-- Enters the data group for a site that is resolved from the settings. -/
def enterData (services : Services) : Action CommandError Group := do
  -- each request resolves its own site, with a locator of its own
  let identity ← Action.fresh
  let site := Site.ofHome identity services.settings.home services.settings.logLevel
  Action.mapError .ofService ((DataService.mk services.registry services.log).enter site)

/-- Lists sources with what they are for. -/
def listing : List (String × String) → List Terminal.Message
  | [] => [.warning "no data sources registered"]
  | sources => .header "Data sources:" :: sources.map fun (name, about) => .entry name about

/-- Does what is asked of the data group. -/
def performData (services : Services) (request : DataRequest) : Action CommandError Unit :=
  Action.within (span "cmd_data" request.words) do
    -- the group is entered for a listing too
    let group ← services.enterData
    match request with
    | .get source =>
      Action.emit (dispatching source)
      Action.mapError .ofService (group.get source)
    | .list => (listing group.sources).forM Action.tell

/-! ## Settings -/

/-- Tells the settings in effect. -/
def showSettings (services : Services) : Action CommandError Unit := do
  let text ← Action.mapError .ofService (Action.ofExcept services.settings.toToml)
  Action.tell (.info text)

/-- Where the file of the settings is; a request that needs it fails where nobody knows that. -/
def configFile (services : Services) : Except CommandError Path :=
  match services.environment.configFile? with
  | some file => .ok file
  | none => .error (.usage "cannot determine config directory")

/-- Makes the missing directories above a path; a path without a parent needs none. -/
def createAbove (file : Path) (files : FileTree) : Except CommandError Unit × FileTree :=
  match file.parent? with
  | none => (.ok (), files)
  | some directory =>
    match files.createDirectories directory with
    | (.error e, files) => (.error (.ofIo ("create " ++ directory.text) e), files)
    | (.ok (), files) => (.ok (), files)

/-- Makes the file of the settings and the missing directories above it. -/
def writeTemplate (file : Path) (files : FileTree) : Except CommandError Unit × FileTree :=
  match createAbove file files with
  | (.error e, files) => (.error e, files)
  | (.ok (), files) =>
    match files.write file (Utf8.encode Settings.template) with
    -- the directories stay
    | .error e => (.error (.ofIo ("write " ++ file.text) e), files)
    | .ok files => (.ok (), files)

/-- Makes the file of the settings.  A file that is there stays, unless force is used. -/
def createConfig (file : Path) (force : Bool) (files : FileTree) :
    Except CommandError Unit × FileTree :=
  if files.exists file && !force then
    (.error (.invalidArguments
      ("config already exists: " ++ file.text ++ " (use --force to overwrite)")), files)
  else writeTemplate file files

/-- Tells where the file of the settings is. -/
def locateConfig (file : Path) : Action CommandError Unit := do
  let s ← get
  let state := if s.files.exists file then "exists" else "not found"
  Action.tell (.action "global" (file.text ++ " (" ++ state ++ ")"))

/-- Does what is asked about the settings. -/
def performConfig (services : Services) (request : ConfigRequest) : Action CommandError Unit :=
  Action.within (span "cmd_config" request.words) do
    match request with
    | .showSettings => services.showSettings
    | .createFile force =>
      let file ← Action.ofExcept services.configFile
      Action.onFiles (createConfig file force)
      Action.tell (.success ("Created " ++ file.text))
    | .locateFile =>
      let file ← Action.ofExcept services.configFile
      locateConfig file

/-! ## Requests -/

/-- Does what is asked for; something must be asked for. -/
def perform (services : Services) : Option Request → Action CommandError Unit
  | some (.data request) => services.performData request
  | some (.config request) => services.performConfig request
  | some (.completion shell) => Action.record (.completions shell)
  | none => throw (.usage "no command given (try `kfc --help`)")

end Services

end MarketFeed
