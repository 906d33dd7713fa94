import Wiring.Blueprint
import Wiring.Files
import Wiring.Manifest.Reader
import Wiring.Report
import Wiring.Run
/-!
# Application — from configuration files to a finished run
-/
namespace Wiring

open Property (Environment Source Variables)

/-- What the program finds around it: process variables, files, a reader of documents, the log, candidates handed in,
and a clock. -/
structure Host where
  vars : Variables := []
  files : Files := {}
  toml : Toml.Reader := {}
  installLog : Log.Config → Except String Unit := fun _ => .ok ()
  submissions : List Submission := []
  elapsed : String := "0"

/-- An application before it is launched.  Candidates are those given, else those of the manifest, else those
handed in. -/
structure Application where
  name : String := "AutoConfigurationApplication"
  configFiles : List String := ["application.toml"]
  variableStart : String := "APP_"
  profiles : List String := []
  logging : Option Log.Config := none
  startsLog : Bool := true
  registry : Option Registry := none
  manifest : Option String := none
  classes : Option (String → Bool) := none
  blueprint : Blueprint := {}
  listeners : List Listener := []

structure Failure where
  doing : Option String
  fault : Fault
  deriving DecidableEq

def Failure.chain (f : Failure) : List String := f.doing.toList ++ [f.fault.message]

structure Launch where
  lines : List Log.Line
  result : Except Failure Resolution

namespace Launch

def after (lines : List Log.Line) (l : Launch) : Launch := { l with lines := lines ++ l.lines }

end Launch

/-- The profiles' own version of a configuration file: the profile goes behind a dash in front of the path's last
dot, or to the end of a path without dot. -/
def profilePath (path profile : String) : String :=
  let tail := (path.toList.reverse.takeWhile (· != '.')).reverse
  if tail.length = path.length then path ++ "-" ++ profile
  else
    let stem := path.toList.take (path.length - tail.length - 1)
    String.ofList (stem ++ '-' :: profile.toList ++ '.' :: tail)

example : profilePath "conf/app.toml" "dev" = "conf/app-dev.toml" := by decide +kernel

example : profilePath "app" "dev" = "app-dev" := by decide +kernel

/-- A configuration file that was found: its source, or the line that tells why it is of no use. -/
def readConfig (host : Host) (path : String) (priority : Int) : Except Log.Line Source :=
  let source := match host.files.read path with
    | .ok content => Source.ofToml host.toml path content
    | .error fault => .error (.propertySource path fault.message)
  match source with
  | .ok s => .ok { s with priority }
  | .error fault => .error ⟨.warn, "Failed to load " ++ path ++ ": " ++ fault.message⟩

namespace Application

def info (message : String) : Log.Line := ⟨.info, message⟩

/-- The profiles set in code, or the items of the process variable for profiles. -/
def activeProfiles (a : Application) (vars : Variables) : List String :=
  if a.profiles.isEmpty then (vars.get? (a.variableStart ++ "PROFILES_ACTIVE")).elim [] Text.items
  else a.profiles

/-- The configuration files in the order in which they are read, with their priorities: all files, then for each
profile the profile's versions of all files. -/
def configPaths (a : Application) (profiles : List String) : List (String × Int) :=
  a.configFiles.map (fun path => (path, 0)) ++
    profiles.zipIdx.flatMap fun (profile, i) =>
      a.configFiles.map fun path => (profilePath path profile, 10 + (i : Int))

def readConfigs (a : Application) (host : Host) (profiles : List String) : List (Except Log.Line Source) :=
  ((a.configPaths profiles).filter fun p => host.files.has p.1).map fun p => readConfig host p.1 p.2

def sourcesOf (reads : List (Except Log.Line Source)) : List Source := reads.filterMap Except.toOption

def complaintsOf (reads : List (Except Log.Line Source)) : List Log.Line :=
  reads.filterMap fun
    | .ok _ => none
    | .error line => some line

def environment (a : Application) (vars : Variables) (sources : List Source) (profiles : List String) :
    Environment :=
  let e := sources.foldl Environment.add { vars }
  (e.add (.ofVariables a.variableStart)).setProfiles profiles

def startingLines (a : Application) (sources : List Source) (profiles : List String) : List Log.Line :=
  info ("Starting " ++ a.name ++ " condition resolution") ::
    (sources.map fun s =>
      info ("Loaded configuration from: " ++ s.name ++ " (priority: " ++ toString s.priority ++ ")"))
    ++ [if profiles.isEmpty then info "No active profiles set, using default configuration"
        else info ("Active profiles: " ++ Inspect.texts profiles)]

/-- A duplicate candidate is told of when it is met. -/
def registrationLines : Fault → List Log.Line
  | .duplicate id => [⟨.warn, "Candidate '" ++ id ++ "' already registered"⟩]
  | _ => []

structure Supply where
  lines : List Log.Line
  result : Except Failure (Registry × Option (String → Bool))

/-- Candidates whose registration nothing else is said about. -/
def supplied (classes : Option (String → Bool)) (told : Registry → List Log.Line) :
    Except Fault Registry → Supply
  | .ok registry => ⟨told registry, .ok (registry, classes)⟩
  | .error fault => ⟨registrationLines fault, .error ⟨none, fault⟩⟩

def ofSubmissions (submissions : List Submission) : Supply :=
  supplied none (fun registry =>
    [info ("Loaded " ++ toString registry.candidates.length ++ " candidate(s) from declarations")])
    (Registry.ofSubmissions submissions)

def readManifest (host : Host) (path : String) : Except Fault Manifest :=
  match host.files.read path with
  | .ok content => Manifest.read host.toml content
  | .error fault => .error (.manifest (path ++ ": " ++ fault.message))

def ofManifest (host : Host) (path : String) : Supply :=
  match readManifest host path with
  | .error fault => ⟨[], .error ⟨some ("Failed to load candidate manifest " ++ path), fault⟩⟩
  | .ok m =>
    let told := info ("Loaded candidate manifest " ++ path ++ " (" ++ toString m.declarations.length
      ++ " candidate(s), " ++ toString m.classpath.length ++ " class(es))")
    let supply := supplied (some m.classes) (fun _ => []) m.registry
    { supply with lines := told :: supply.lines }

def supply (a : Application) (host : Host) : Supply :=
  match a.registry, a.manifest with
  | some registry, _ => ⟨[], .ok (registry, none)⟩
  | none, some path => ofManifest host path
  | none, none => ofSubmissions host.submissions

/-- The facts: classes given in code go before those of the manifest. -/
def facts (a : Application) (e : Environment) (classes : Option (String → Bool)) : Facts :=
  Blueprint.build { a.blueprint with environment := some e, classes := a.classes <|> classes }

def closingLines (a : Application) (host : Host) (settings : Settings) (registry : Registry) (r : Resolution) :
    List Log.Line :=
  (if settings.debug then [info (Report.text .debug r.trace)] else []) ++
    [info ("Resolved " ++ a.name ++ " in " ++ host.elapsed ++ "ms (" ++ toString r.activations.activated.length
      ++ " of " ++ toString registry.candidates.length ++ " candidate(s) activated)")]

def launchRun (a : Application) (host : Host) (f : Facts) (registry : Registry) : Launch :=
  let settings := Settings.ofEnvironment f.environment
  let run := resolve settings f registry
  match run.result with
  | .ok r => ⟨run.lines a.listeners ++ a.closingLines host settings registry r, .ok r⟩
  | .error fault =>
    ⟨run.lines a.listeners, .error ⟨some ("Condition resolution failed for " ++ a.name), fault⟩⟩

def startLog (a : Application) (host : Host) (e : Environment) : Except Failure Unit :=
  if a.startsLog then
    (host.installLog (a.logging.getD (Log.Config.preferred e))).mapError
      fun reason => ⟨some "Failed to initialize logging", .logging reason⟩
  else .ok ()

/-- Reads the configuration, starts the log, gathers the candidates and looks at them. -/
def launch (a : Application) (host : Host) : Launch :=
  let profiles := a.activeProfiles host.vars
  let reads := a.readConfigs host profiles
  let sources := sourcesOf reads
  let e := a.environment host.vars sources profiles
  let rest : Launch := match a.startLog host e with
    | .error failure => ⟨[], .error failure⟩
    | .ok _ =>
      let supply := a.supply host
      let next : Launch := match supply.result with
        | .error failure => ⟨[], .error failure⟩
        | .ok (registry, classes) => a.launchRun host (a.facts e classes) registry
      next.after (a.startingLines sources profiles ++ supply.lines)
  rest.after (complaintsOf reads)

end Application
end Wiring
