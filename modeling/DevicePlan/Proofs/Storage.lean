import DevicePlan.NameMap
import DevicePlan.Storage
import Mathlib.Data.List.Infix

namespace DevicePlan

/-- The places of a system of files, each of them with a file or free, and the paths that lead to
them: those that end in no folder and pass through no missing one. -/
structure FileSystem.Places {State : Type} (system : FileSystem State) (Place : Type) where
  content? : State → Place → Option Content
  place? : State → String → Option Place
  isTaken_eq : ∀ {state path place}, place? state path = some place →
    (system.storage state).isTaken path = (content? state place).isSome
  readText_eq : ∀ {state path place text}, place? state path = some place →
    content? state place = some (.text text) → (system.storage state).readText path = .ok text
  exists_write : ∀ {state path place}, place? state path = some place → ∀ text, ∃ next,
    system.writeText state path text = .ok next ∧ place? next = place? state ∧
      content? next place = some (.text text) ∧
      ∀ other, other ≠ place → content? next other = content? state other

namespace Folder

theorem lookup_filter_ne {entries : List (List String × Content)} {names other : List String}
    (apart : other ≠ names) :
    (entries.filter fun file => file.1 != names).lookup other = entries.lookup other := by
  induction entries with
  | nil => rfl
  | cons file rest ih =>
    rw [List.filter_cons, lookup_cons_eq_ite file rest]
    split
    · rw [lookup_cons_eq_ite, ih]
    · rename_i put
      have same : file.1 = names := by simpa using put
      rw [ih, same, if_neg apart]

theorem content?_put (folder : Folder) (names other : List String) (text : String) :
    (folder.put names text).content? other =
      if other = names then some (.text text) else folder.content? other := by
  rw [content?, put, lookup_cons_eq_ite]
  split
  · rfl
  · rename_i apart
    exact lookup_filter_ne apart

theorem isFolder_put (folder : Folder) (names other : List String) (text : String) :
    (folder.put names text).isFolder other = (other.isPrefixOf names || folder.isFolder other) := by
  rw [Bool.eq_iff_iff]
  simp only [isFolder, put, List.any_cons, Bool.or_eq_true, List.any_eq_true, List.mem_filter,
    bne_iff_ne]
  constructor
  · rintro (here | ⟨file, ⟨member, -⟩, above⟩)
    · exact .inl here
    · exact .inr ⟨file, member, above⟩
  · rintro (here | ⟨file, member, above⟩)
    · exact .inl here
    · by_cases same : file.1 = names
      · exact .inl (same ▸ above)
      · exact .inr ⟨file, ⟨member, same⟩, above⟩

theorem isFolder_of_prefix {folder : Folder} {names before : List String}
    (isFolder : folder.isFolder names = true) (above : before <+: names) :
    folder.isFolder before = true := by
  simp only [Folder.isFolder, List.any_eq_true, List.isPrefixOf_iff_prefix] at isFolder ⊢
  obtain ⟨file, member, below⟩ := isFolder
  exact ⟨file, member, above.trans below⟩

def endsPath (folder : Folder) (names : List String) : Bool :=
  (folder.content? names).isSome || !folder.isFolder names

structure Fits (folder : Folder) (names : List String) : Prop where
  above : names.dropLast = [] ∨ folder.isFolder names.dropLast = true
  endsPath : folder.endsPath names = true

theorem Fits.isFolder_put {folder : Folder} {names other : List String} (fits : folder.Fits names)
    (text : String) (named : other ≠ []) (apart : other ≠ names) :
    (folder.put names text).isFolder other = folder.isFolder other := by
  rw [Folder.isFolder_put, Bool.or_eq_right_iff_imp, List.isPrefixOf_iff_prefix]
  rintro ⟨below, whole⟩
  have lower : below ≠ [] := by
    rintro rfl
    exact apart (by simpa using whole)
  have between : other <+: names.dropLast :=
    ⟨below.dropLast, by rw [← whole, List.dropLast_append_of_ne_nil lower]⟩
  rcases fits.above with top | isFolder
  · rw [top, List.prefix_nil] at between
    exact absurd between named
  · exact isFolder_of_prefix isFolder between

theorem Fits.endsPath_put {folder : Folder} {names other : List String} (fits : folder.Fits names)
    (text : String) (named : other ≠ []) :
    (folder.put names text).endsPath other = folder.endsPath other := by
  rw [Folder.endsPath, content?_put]
  by_cases same : other = names
  · rw [if_pos same, same, fits.endsPath]
    rfl
  · rw [if_neg same, fits.isFolder_put text named same, Folder.endsPath]

def Spot.place? : Spot → Option (List String)
  | .file names | .free names => some names
  | _ => none

def placeOf? (found : Except StorageError Spot) : Option (List String) :=
  found.toOption.bind Spot.place?

def place? (folder : Folder) (path : String) : Option (List String) :=
  placeOf? (folder.locate path)

def followed? (folder : Folder) (place parts : List String) : Option (List String) :=
  placeOf? (folder.follow place parts)

theorem placeOf?_overlong (rest : List String) : placeOf? (overlong rest) = none := by
  unfold overlong
  split <;> rfl

theorem placeOf?_followOutside (parts : List String) : placeOf? (followOutside parts) = none := by
  fun_induction followOutside parts with
  | case2 name rest stays ih => exact ih
  | case3 name rest stays long => exact placeOf?_overlong rest
  | _ => rfl

theorem followed?_cons (folder : Folder) (place : List String) (name : String)
    (rest : List String) : folder.followed? place (name :: rest) =
      if name = "" ∨ name = "." then folder.followed? place rest
      else if name = ".." then
        if place = [] then none else folder.followed? place.dropLast rest
      else if 255 < name.utf8ByteSize then none
      else if folder.endsPath (place ++ [name]) = true then
        if rest = [] then some (place ++ [name]) else none
      else folder.followed? (place ++ [name]) rest := by
  simp only [followed?, follow, apply_ite placeOf?, placeOf?_overlong, placeOf?_followOutside,
    endsPath]
  by_cases isFile : (folder.content? (place ++ [name])).isSome = true
  · simp [isFile, placeOf?, Except.toOption, Spot.place?]
  · by_cases isFolder : folder.isFolder (place ++ [name]) = true
    · simp [isFile, isFolder]
    · simp [isFile, isFolder, placeOf?, Except.toOption, Spot.place?]

theorem followed?_put {folder : Folder} {names : List String} (fits : folder.Fits names)
    (text : String) (place parts : List String) :
    (folder.put names text).followed? place parts = folder.followed? place parts := by
  induction parts generalizing place with
  | nil => rfl
  | cons name rest ih =>
    -- Names on the way are told apart by `endsPath` alone, and that does not change.
    rw [followed?_cons, followed?_cons, fits.endsPath_put text (by simp), ih, ih, ih]

theorem fits_of_followed? {folder : Folder} {place parts names : List String}
    (reached : place = [] ∨ folder.isFolder place = true)
    (leads : folder.followed? place parts = some names) : folder.Fits names := by
  induction parts generalizing place with
  | nil => cases leads
  | cons name rest ih =>
    rw [followed?_cons] at leads
    split_ifs at leads with stays up top long ends last
    · exact ih reached leads
    · refine ih (.inr ?_) leads
      exact isFolder_of_prefix (reached.resolve_left top) (List.dropLast_prefix place)
    · cases leads
      exact ⟨by simpa using reached, ends⟩
    · have isFolder : folder.isFolder (place ++ [name]) = true := by
        simp only [endsPath, Bool.or_eq_true, Bool.not_eq_true', not_or] at ends
        simpa using ends.2
      exact ih (.inr isFolder) leads

/-- A path leads to no place of any folder, or it is followed from the top of each. -/
theorem outside_or_followed (path : String) : (∀ folder : Folder, folder.place? path = none) ∨
    ∃ parts, ∀ folder : Folder, folder.place? path = folder.followed? [] parts := by
  by_cases long : 4095 < path.utf8ByteSize
  · refine .inl fun folder => ?_
    rw [place?, locate, if_pos long]
    rfl
  · unfold place? locate
    simp only [if_neg long]
    split
    · exact .inl fun _ => rfl
    · exact .inl fun _ => placeOf?_followOutside _
    · exact .inr ⟨_, fun _ => rfl⟩

theorem fits_of_place? {folder : Folder} {path : String} {names : List String}
    (leads : folder.place? path = some names) : folder.Fits names := by
  rcases outside_or_followed path with outside | ⟨parts, followed⟩
  · rw [outside] at leads
    cases leads
  · rw [followed] at leads
    exact fits_of_followed? (.inl rfl) leads

theorem place?_put {folder : Folder} {names : List String} (fits : folder.Fits names)
    (text path : String) : (folder.put names text).place? path = folder.place? path := by
  rcases outside_or_followed path with outside | ⟨parts, followed⟩
  · rw [outside, outside]
  · rw [followed, followed, followed?_put fits]

theorem place?_eq_some_iff {folder : Folder} {path : String} {names : List String} :
    folder.place? path = some names ↔
      folder.locate path = .ok (.file names) ∨ folder.locate path = .ok (.free names) := by
  rw [place?, placeOf?]
  cases folder.locate path with
  | error error => simp [Except.toOption]
  | ok spot => cases spot <;> simp [Except.toOption, Spot.place?]

def Spot.Holds (folder : Folder) : Spot → Prop
  | .file names => (folder.content? names).isSome = true
  | .free names => (folder.content? names).isSome = false
  | _ => True

theorem holds_of_placeOf? (folder : Folder) {found : Except StorageError Spot} {spot : Spot}
    (nowhere : placeOf? found = none) (led : found = .ok spot) : spot.Holds folder := by
  subst led
  cases spot with
  | file names => cases nowhere
  | free names => cases nowhere
  | _ => trivial

theorem follow_holds {folder : Folder} {place parts : List String} {spot : Spot}
    (led : folder.follow place parts = .ok spot) : spot.Holds folder := by
  fun_induction follow folder place parts with
  | case2 place name rest stays ih => exact ih led
  | case3 rest noStay => exact holds_of_placeOf? folder (placeOf?_followOutside rest) led
  | case4 place rest below noStay ih => exact ih led
  | case5 place name rest noStay noUp long =>
    exact holds_of_placeOf? folder (placeOf?_overlong rest) led
  | case6 place name noStay noUp short isFile =>
    cases led
    exact isFile
  | case9 place name rest noStay noUp short noFile isFolder ih => exact ih led
  | case10 place name noStay noUp short noFile noFolder =>
    cases led
    exact Bool.eq_false_iff.mpr noFile
  | _ => cases led <;> trivial

theorem locate_holds {folder : Folder} {path : String} {spot : Spot}
    (led : folder.locate path = .ok spot) : spot.Holds folder := by
  unfold locate at led
  split at led
  · cases led
  · split at led
    · cases led
    · exact holds_of_placeOf? folder (placeOf?_followOutside _) led
    · exact follow_holds led

def places : FileSystem.Places fileSystem (List String) where
  content? := content?
  place? := place?
  isTaken_eq := by
    intro folder path names leads
    change folder.isTaken path = _
    unfold isTaken
    rcases place?_eq_some_iff.mp leads with led | led <;> rw [led]
    all_goals exact (locate_holds led).symm
  readText_eq := by
    intro folder path names text leads content
    change folder.readText path = _
    unfold readText
    rcases place?_eq_some_iff.mp leads with led | led
    · simp only [led, content]
    · have free := locate_holds led
      rw [Spot.Holds, content] at free
      cases free
  exists_write := by
    intro folder path names leads text
    refine ⟨folder.put names text, ?_, ?_, ?_, ?_⟩
    · change folder.writeText path text = _
      unfold writeText
      rcases place?_eq_some_iff.mp leads with led | led <;> rw [led]
    · exact funext (place?_put (fits_of_place? leads) text)
    · rw [content?_put, if_pos rfl]
    · intro other apart
      rw [content?_put, if_neg apart]

end Folder

end DevicePlan
