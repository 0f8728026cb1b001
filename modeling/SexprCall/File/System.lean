import SexprCall.File.Access

/-! File systems as values: directories and files by location, and what a file program does to
them. A write replaces the whole content of a file or has no effect. -/
namespace SexprCall

open Text.Utf8 (Bytes)

abbrev Location := List Text

inductive Entry where
  | directory
  | file (content : Bytes)
  deriving DecidableEq

structure FileSystem where
  entries : List (Location × Entry)
  /-- The directory from which relative paths start. -/
  current : Location

namespace FileSystem

def maxName : Nat := 255

def maxPath : Nat := 4095

/-- The root is always a directory. -/
def lookup (system : FileSystem) (location : Location) : Option Entry :=
  if location = [] then some .directory else system.entries.lookup location

def put (system : FileSystem) (location : Location) (entry : Entry) : FileSystem :=
  { system with entries := (location, entry) :: system.entries.filter (·.1 != location) }

/-- Each name is looked for in the directory reached before it. The last name need not exist. -/
def walk (system : FileSystem) (here : Location) : List Text → Except AccessError Location
  | [] => .ok here
  | name :: names =>
    match system.lookup here with
    | none => .error .notFound
    | some (.file _) => .error .notDirectory
    | some .directory =>
      if name = Path.parent then walk system here.dropLast names
      else if maxName < (Text.Utf8.encode name).length then .error .nameTooLong
      else walk system (here ++ [name]) names

def locate (system : FileSystem) (path : Path) : Except AccessError Location :=
  if maxPath < (Text.Utf8.encode path.toText).length then .error .nameTooLong
  else system.walk (if path.origin = .current then system.current else []) path.names

def read (system : FileSystem) (path : Path) : Except AccessError Bytes :=
  match system.locate path with
  | .error error => .error error
  | .ok location =>
    match system.lookup location with
    | none => .error .notFound
    | some .directory => .error .isDirectory
    | some (.file content) => .ok content

def write (system : FileSystem) (path : Path) (content : Bytes) : Except AccessError FileSystem :=
  match system.locate path with
  | .error error => .error error
  | .ok location =>
    match system.lookup location with
    | some .directory => .error .isDirectory
    | none | some (.file _) => .ok (system.put location (.file content))

/-- The files that are new or have a new content. -/
def changes (before after : FileSystem) : List (Location × Bytes) :=
  after.entries.filterMap fun (location, entry) =>
    match entry with
    | .directory => none
    | .file content =>
      if before.lookup location = some (.file content) then none else some (location, content)

def makeDirectory (system : FileSystem) (location : Location) : FileSystem :=
  (List.range location.length).foldl
    (fun system depth => system.put (location.take (depth + 1)) .directory) system

theorem put_lookup (system : FileSystem) (location other : Location) (entry : Entry)
    (named : location ≠ []) :
    (system.put location entry).lookup other =
      if other = location then some entry else system.lookup other := by
  by_cases root : other = []
  · subst root
    simp [lookup, Ne.symm named]
  · simp only [lookup, if_neg root, put, List.lookup_cons]
    by_cases same : other = location
    · simp [same]
    · simp only [beq_eq_false_iff_ne.2 same, if_neg same]
      induction system.entries with
      | nil => rfl
      | cons pair pairs ih =>
        obtain ⟨key, value⟩ := pair
        by_cases gone : key = location
        · simp [gone, List.lookup_cons, beq_eq_false_iff_ne.2 same, ih]
        · simp [gone, List.lookup_cons, ih]

end FileSystem

namespace FileProgram

def run {α : Type} : FileProgram α → FileSystem → α × FileSystem
  | done value, system => (value, system)
  | read path next, system => (next (system.read path)).run system
  | write path content next, system =>
    match system.write path content with
    | .error error => (next (.error error)).run system
    | .ok written => (next (.ok ())).run written

theorem run_bind {α β : Type} (program : FileProgram α) (next : α → FileProgram β)
    (system : FileSystem) :
    (program.bind next).run system = (next (program.run system).1).run (program.run system).2 := by
  induction program generalizing system with
  | done value => rfl
  | read path later ih => exact ih _ _
  | write path content later ih =>
    simp only [bind, run]
    split <;> exact ih _ _

end FileProgram
end SexprCall
