import DevicePlan.Command.Arguments
import DevicePlan.Proofs.Text.Digits

namespace DevicePlan

def longOption (name value : String) : String := "--" ++ name ++ "=" ++ value

def Command.arguments : Command → List String
  | plan config format => ["plan", longOption "config" config, longOption "format" format]
  | resolve config role => ["resolve", longOption "config" config, longOption "role" role]
  | init path policy force =>
    "init" :: longOption "path" path :: longOption "policy" policy ::
      if force then ["--force"] else []

namespace Invocation

variable {switches : List Switch} {given : List (String × String)}

theorem splitAtEquals_append {name : List Char} (plain : '=' ∉ name) (value : List Char) :
    splitAtEquals (name ++ '=' :: value) = (String.ofList name, some (String.ofList value)) := by
  have passes : ∀ c ∈ name, (c != '=') = true := by
    intro c member
    simpa using ne_of_mem_of_not_mem member plain
  have ends : ∀ c ∈ ('=' :: value).head?, (c != '=') = false := by simp
  rw [splitAtEquals, takeWhile_run passes ends, dropWhile_run passes ends]

theorem readOptions_nil : readOptions switches given [] = .given given := rfl

theorem readOptions_long {name : String} (plain : '=' ∉ name.toList)
    (known : (switches.find? fun switch => switch.long == name).map Switch.takesValue = some true)
    (new : given.lookup name = none) (value : String) (rest : List String) :
    readOptions switches given (longOption name value :: rest) =
      readOptions switches ((name, value) :: given) rest := by
  obtain ⟨switch, found, takesValue⟩ := Option.map_eq_some_iff.mp known
  have named : switch.long = name := by
    simpa using List.find?_some found
  have parts : (longOption name value).toList =
      '-' :: '-' :: (name.toList ++ '=' :: value.toList) := by
    simp [longOption]
  rw [readOptions, parts]
  simp [splitAtEquals_append plain, found, named, new, takesValue]

theorem readOptions_force (known : switches.find? (fun switch => switch.long == "force") =
      some ⟨"force", none, false⟩)
    (new : given.lookup "force" = none) (rest : List String) :
    readOptions switches given ("--force" :: rest) =
      readOptions switches (("force", "") :: given) rest := by
  rw [readOptions]
  simp [splitAtEquals, known, new]

theorem ofArguments_arguments (command : Command) :
    ofArguments command.arguments = .run command := by
  cases command with
  | plan config format =>
    rw [Command.arguments, ofArguments, readOptions_long (by simp) (by simp) (by simp),
      readOptions_long (by simp) (by simp) (by simp), readOptions_nil]
    simp [ofReading, valueOf, List.lookup_cons]
  | resolve config role =>
    rw [Command.arguments, ofArguments, readOptions_long (by simp) (by simp) (by simp),
      readOptions_long (by simp) (by simp) (by simp), readOptions_nil]
    simp [ofReading, valueOf, List.lookup_cons]
  | init path policy force =>
    rw [Command.arguments, ofArguments, readOptions_long (by simp) (by simp) (by simp),
      readOptions_long (by simp) (by simp) (by simp)]
    cases force with
    | false => simp [readOptions_nil, ofReading, valueOf, List.lookup_cons]
    | true =>
      rw [if_pos rfl, readOptions_force (by simp) (by simp), readOptions_nil]
      simp [ofReading, valueOf, List.lookup_cons]

end Invocation

end DevicePlan
