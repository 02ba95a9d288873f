/-!
# Files

What a command can ask about files (`Storage`), systems of files that answer these questions in
every state and can be written to (`FileSystem`), and one of them: a folder of files as a value
(`Folder`). Paths are followed part by part, as a file system does it: a name that ends a path may
be free, a name on the way must be a folder.
-/

namespace DevicePlan

inductive StorageError where
  | notFound
  | notAFolder
  | isAFolder
  | nameTooLong
  | notText
  | other (text : String)
deriving DecidableEq

def StorageError.message : StorageError → String
  | notFound => "No such file or directory (os error 2)"
  | notAFolder => "Not a directory (os error 20)"
  | isAFolder => "Is a directory (os error 21)"
  | nameTooLong => "File name too long (os error 36)"
  | notText => "stream did not contain valid UTF-8"
  | other text => text

structure Storage where
  readText : String → Except StorageError String
  isTaken : String → Bool

/-- What can be asked in each state of some files, and the state after a text is written to a
path. -/
structure FileSystem (State : Type) where
  storage : State → Storage
  writeText : State → String → String → Except StorageError State

inductive Content where
  | text (text : String)
  | bytes
deriving DecidableEq

def Content.ofBytes (bytes : ByteArray) : Content :=
  match String.fromUTF8? bytes with
  | some string => .text string
  | none => .bytes

structure Folder where
  files : List (List String × Content)
deriving DecidableEq

namespace Folder

inductive Spot where
  | folder
  | file (names : List String)
  | free (names : List String)
  | fileAsFolder
  | freeAsFolder
  | overlongAsFolder
deriving DecidableEq

def overlong (rest : List String) : Except StorageError Spot :=
  if rest ≠ [] ∧ rest.all (· == "") then .ok .overlongAsFolder else .error .nameTooLong

def content? (folder : Folder) (names : List String) : Option Content :=
  folder.files.lookup names

def isFolder (folder : Folder) (names : List String) : Bool :=
  folder.files.any fun file => names.isPrefixOf file.1

/-- Follow a path from a folder outside this one. Every such folder is below another or on top of
all, so it leads to further folders, but nothing is known to have a name in one of them. -/
def followOutside : List String → Except StorageError Spot
  | [] => .ok .folder
  | name :: rest =>
    if name = "" ∨ name = "." ∨ name = ".." then followOutside rest
    else if 255 < name.utf8ByteSize then overlong rest
    else if rest ≠ [] ∧ rest.all (· == "") then .ok .freeAsFolder
    else .error .notFound

def follow (folder : Folder) (place : List String) : List String → Except StorageError Spot
  | [] => .ok .folder
  | name :: rest =>
    if name = "" ∨ name = "." then folder.follow place rest
    else if name = ".." then
      if place = [] then followOutside rest else folder.follow place.dropLast rest
    else if 255 < name.utf8ByteSize then overlong rest
    else if (folder.content? (place ++ [name])).isSome then
      if rest = [] then .ok (.file (place ++ [name]))
      else if rest.all (· == "") then .ok .fileAsFolder
      else .error .notAFolder
    else if folder.isFolder (place ++ [name]) then folder.follow (place ++ [name]) rest
    else if rest = [] then .ok (.free (place ++ [name]))
    else if rest.all (· == "") then .ok .freeAsFolder
    else .error .notFound

def pathParts (path : List Char) : List (List Char) :=
  match path with
  | [] => [[]]
  | c :: rest =>
    match pathParts rest with
    | [] => [[c]]
    | part :: parts => if c = '/' then [] :: part :: parts else (c :: part) :: parts

def locate (folder : Folder) (path : String) : Except StorageError Spot :=
  if 4095 < path.utf8ByteSize then .error .nameTooLong
  else match (pathParts path.toList).map String.ofList with
  | [""] => .error .notFound
  | "" :: rest => followOutside rest
  | parts => folder.follow [] parts

def readText (folder : Folder) (path : String) : Except StorageError String :=
  match folder.locate path with
  | .error error => .error error
  | .ok .folder => .error .isAFolder
  | .ok (.free _) | .ok .freeAsFolder => .error .notFound
  | .ok .fileAsFolder => .error .notAFolder
  | .ok .overlongAsFolder => .error .nameTooLong
  | .ok (.file names) =>
    match folder.content? names with
    | some (.text text) => .ok text
    | some .bytes => .error .notText
    | none => .error .notFound

def isTaken (folder : Folder) (path : String) : Bool :=
  match folder.locate path with
  | .ok .folder | .ok (.file _) => true
  | _ => false

def storage (folder : Folder) : Storage := ⟨folder.readText, folder.isTaken⟩

def put (folder : Folder) (names : List String) (text : String) : Folder :=
  ⟨(names, .text text) :: folder.files.filter fun file => file.1 != names⟩

def writeText (folder : Folder) (path text : String) : Except StorageError Folder :=
  match folder.locate path with
  | .error error => .error error
  | .ok .folder | .ok .freeAsFolder | .ok .fileAsFolder | .ok .overlongAsFolder =>
    .error .isAFolder
  | .ok (.file names) | .ok (.free names) => .ok (folder.put names text)

def fileSystem : FileSystem Folder := ⟨storage, writeText⟩

def changedSince (folder earlier : Folder) : List (List String × Content) :=
  folder.files.filter fun file => earlier.content? file.1 != some file.2

end Folder

end DevicePlan
