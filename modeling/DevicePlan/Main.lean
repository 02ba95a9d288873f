import DevicePlan.Command.Run

namespace DevicePlan

/-- Whether an error has the given number. Systems give it with either sign. -/
def isErrorNumber (code number : UInt32) : Bool := code == number || code == -number

def StorageError.ofIO : IO.Error → StorageError
  | .noFileOrDirectory .. => .notFound
  | .inappropriateType _ code _ => if isErrorNumber code 20 then .notAFolder else .isAFolder
  | .invalidArgument _ code details =>
    if isErrorNumber code 36 then .nameTooLong else .other details
  | error => .other (toString error)

def readContent (path : String) : IO (Except StorageError String) := do
  try
    let bytes ← IO.FS.readBinFile path
    match String.fromUTF8? bytes with
    | some text => return .ok text
    | none => return .error .notText
  catch error => return .error (.ofIO error)

def StorageError.isAbsence : StorageError → Bool
  | notFound | notAFolder | nameTooLong => true
  | _ => false

def Command.path : Command → String
  | plan config _ => config
  | resolve config _ => config
  | init path _ _ => path

def Command.perform (command : Command) : IO Ending := do
  let content ← readContent command.path
  let taken := match content with
    | .ok _ => true
    | .error error => !error.isAbsence
  match command.action ⟨fun _ => content, fun _ => taken⟩ with
  | .error error => return .failure error
  | .ok (.print text) => return .success text
  | .ok (.write path content text) =>
    try
      IO.FS.writeFile path content
      return .success text
    catch error => return .failure (.storage (.ofIO error))

end DevicePlan

open DevicePlan in
def main (arguments : List String) : IO UInt32 := do
  let ending ← match Invocation.ofArguments arguments with
    | .run command => command.perform
    | .version name => pure (.success (name ++ " " ++ versionNumber ++ "\n"))
    | .misuse => pure .misuse
  IO.print ending.output
  match ending.errorText with
  | some text => IO.eprintln text
  | none => pure ()
  return ending.exitCode.toUInt32
