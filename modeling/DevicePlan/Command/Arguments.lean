namespace DevicePlan

inductive Command where
  | plan (config format : String)
  | resolve (config role : String)
  | init (path policy : String) (force : Bool)
deriving DecidableEq

inductive Invocation where
  | run (command : Command)
  | version (name : String)
  | misuse
deriving DecidableEq

namespace Invocation

structure Switch where
  long : String
  letter : Option Char
  takesValue : Bool

inductive Reading where
  | given (options : List (String × String))
  | version
  | misuse

def splitAtEquals (cs : List Char) : String × Option String :=
  (String.ofList (cs.takeWhile (· != '=')),
    match cs.dropWhile (· != '=') with
    | [] => none
    | _ :: value => some (String.ofList value))

def isValue (argument : String) : Bool :=
  match argument.toList with
  | ['-'] => true
  | '-' :: _ => false
  | _ => true

def readOptions (switches : List Switch) (given : List (String × String)) :
    List String → Reading
  | [] => .given given
  | argument :: rest =>
    match argument.toList with
    | ['-', '-'] => if rest = [] then .given given else .misuse
    | '-' :: '-' :: cs =>
      let (name, value) := splitAtEquals cs
      if name = "version" ∧ value = none then .version
      else
        match switches.find? fun switch => switch.long == name with
        | none => .misuse
        | some switch =>
          if (given.lookup switch.long).isSome then .misuse
          else if switch.takesValue then
            match value, rest with
            | some value, rest => readOptions switches ((switch.long, value) :: given) rest
            | none, value :: rest =>
              if isValue value then readOptions switches ((switch.long, value) :: given) rest
              else .misuse
            | none, [] => .misuse
          else if value = none then readOptions switches ((switch.long, "") :: given) rest
          else .misuse
    | '-' :: letter :: cs =>
      if letter = 'V' then .version
      else
        match switches.find? fun switch => switch.letter == some letter with
        | none => .misuse
        | some switch =>
          if (given.lookup switch.long).isSome then .misuse
          else
            match cs, rest with
            | '=' :: value, rest =>
              readOptions switches ((switch.long, String.ofList value) :: given) rest
            | c :: value, rest =>
              readOptions switches ((switch.long, String.ofList (c :: value)) :: given) rest
            | [], value :: rest =>
              if isValue value then readOptions switches ((switch.long, value) :: given) rest
              else .misuse
            | [], [] => .misuse
    | _ => .misuse

def standardPath : String := "gridpool.toml"

def programName : String := "gridpool"

def ofReading (name : String) (command : List (String × String) → Option Command) :
    Reading → Invocation
  | .version => .version (programName ++ "-" ++ name)
  | .misuse => .misuse
  | .given options =>
    match command options with
    | some command => .run command
    | none => .misuse

def valueOf (options : List (String × String)) (name standard : String) : String :=
  (options.lookup name).getD standard

/-- The invocation that the arguments of the program ask for. Asking for help is left out: `--help`,
`-h` and `help` are misuse here, whereas the program prints a help text and succeeds. -/
def ofArguments : List String → Invocation
  | "plan" :: rest =>
    let command options := some
      (.plan (valueOf options "config" standardPath) (valueOf options "format" "text"))
    ofReading "plan" command
      (readOptions [⟨"config", some 'c', true⟩, ⟨"format", some 'f', true⟩] [] rest)
  | "resolve" :: rest =>
    let command (options : List (String × String)) :=
      (options.lookup "role").map (.resolve (valueOf options "config" standardPath))
    ofReading "resolve" command
      (readOptions [⟨"config", some 'c', true⟩, ⟨"role", some 'r', true⟩] [] rest)
  | "init" :: rest =>
    let command (options : List (String × String)) := some
      (.init (valueOf options "path" standardPath) (valueOf options "policy" "colocated")
        (options.lookup "force").isSome)
    let switches : List Switch :=
      [⟨"path", some 'p', true⟩, ⟨"policy", none, true⟩, ⟨"force", none, false⟩]
    ofReading "init" command (readOptions switches [] rest)
  | first :: _ =>
    match first.toList with
    | '-' :: 'V' :: _ => .version programName
    | _ => if first = "--version" then .version programName else .misuse
  | [] => .misuse

end Invocation

end DevicePlan
