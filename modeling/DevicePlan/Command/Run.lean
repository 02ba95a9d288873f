import DevicePlan.Command.Arguments
import DevicePlan.Job.Load
import DevicePlan.Job.Placement
import DevicePlan.Json.Text
import DevicePlan.Plan.Codec
import DevicePlan.Report

namespace DevicePlan

/-- Why a command fails. Of a configuration that cannot be loaded only the path is kept: the cause,
which the program prints below its message, is left out. -/
inductive CommandError where
  | unloadable (path : String)
  | plan (error : PlanError)
  | unknownFormat (text : String)
  | unknownPolicy (text : String)
  | taken (path : String)
  | storage (error : StorageError)
deriving DecidableEq

def CommandError.message : CommandError → String
  | unloadable path => s!"failed to load job config {path}"
  | plan error => error.message
  | unknownFormat text => s!"unknown output format: {text} (expected text or json)"
  | unknownPolicy text => s!"unknown policy: {text} (expected colocated or split)"
  | taken path => s!"{path} already exists (use --force to overwrite)"
  | storage error => error.message

inductive Action where
  | print (text : String)
  | write (path content text : String)
deriving DecidableEq

def loadPlan (storage : Storage) (path : String) : Except CommandError Plan :=
  match Job.load storage path with
  | .error _ => .error (.unloadable path)
  | .ok job =>
    match job.place.outcome with
    | .error error => .error (.plan error)
    | .ok plan => .ok plan

namespace Command

def renderPlan (plan : Plan) : String → Except CommandError String
  | "json" => .ok (Json.pretty plan.encode)
  | "text" => .ok plan.report
  | format => .error (.unknownFormat format)

def renderRole (role : Role) (pool : Pool) : String :=
  s!"{role.name} → {pool.name} {pool.describeRows}"

def planText (storage : Storage) (config format : String) : Except CommandError String := do
  let plan ← loadPlan storage config
  renderPlan plan format

def resolveText (storage : Storage) (config name : String) : Except CommandError String := do
  let role ← (Role.ofName name).mapError .plan
  let plan ← loadPlan storage config
  let pool ← (plan.resolve role).mapError .plan
  return renderRole role pool

def action (storage : Storage) : Command → Except CommandError Action
  | plan config format => do
    let text ← planText storage config format
    return .print (text ++ "\n")
  | resolve config name => do
    let text ← resolveText storage config name
    return .print (text ++ "\n")
  | init path policy force =>
    match Sharing.ofName? policy with
    | none => .error (.unknownPolicy policy)
    | some sharing =>
      if storage.isTaken path && !force then .error (.taken path)
      else .ok (.write path (Job.starter sharing).toToml s!"✓ Generated {path}\n")

end Command

def versionNumber : String := "0.1.0"

inductive Ending where
  | success (output : String)
  | failure (error : CommandError)
  | misuse
deriving DecidableEq

namespace Ending

def exitCode : Ending → UInt8
  | success _ => 0
  | failure _ => 1
  | misuse => 2

def output : Ending → String
  | success output => output
  | _ => ""

def errorText : Ending → Option String
  | failure error => some ("Error: " ++ error.message)
  | _ => none

end Ending

namespace FileSystem

variable {State : Type}

def runCommand (system : FileSystem State) (state : State) (command : Command) : Ending × State :=
  match command.action (system.storage state) with
  | .error error => (.failure error, state)
  | .ok (.print text) => (.success text, state)
  | .ok (.write path content text) =>
    match system.writeText state path content with
    | .error error => (.failure (.storage error), state)
    | .ok written => (.success text, written)

def run (system : FileSystem State) (state : State) (arguments : List String) : Ending × State :=
  match Invocation.ofArguments arguments with
  | .run command => system.runCommand state command
  | .version name => (.success (name ++ " " ++ versionNumber ++ "\n"), state)
  | .misuse => (.misuse, state)

end FileSystem

def Folder.run (folder : Folder) (arguments : List String) : Ending × Folder :=
  Folder.fileSystem.run folder arguments

end DevicePlan
