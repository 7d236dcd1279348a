import SecretCodec.World.Basic

/-!
# Paths in a directory of files

A directory that holds files and no other directories. A path is walked component by component: a
dot stays where it is, two dots lead to the directory outside, in which nothing is known, and a file
has nothing below it. The limits on the length of a path and of a name count bytes.

What is read at a path depends on those files only that the path names as one of its components
(`read_congr`).
-/

namespace SecretCodec

/-- The files of a directory with their contents. -/
abbrev Directory := List (String × Bytes)

namespace Directory

/-- The longest name of a file. -/
def nameLimit : Nat := 255

/-- The first length at which a path is too long. -/
def pathLimit : Nat := 4096

/-- Where a walk has arrived. -/
inductive Place where
  | here
  | outside
  | file (content : Bytes)

/-- One component further. An empty component stands between two slashes or at the end, where it
asks for a directory. -/
def step (d : Directory) (place : Place) (component : String) : Except FileError Place :=
  match place with
  | .file _ => .error .notADirectory
  | .here | .outside =>
    if component = "" ∨ component = "." then .ok place
    else if component = ".." then .ok .outside
    else if nameLimit < component.utf8ByteSize then .error .nameTooLong
    else
      match place with
      | .here =>
        match d.lookup component with
        | some content => .ok (.file content)
        | none => .error .notFound
      | _ => .error .notFound

/-- Where a walk along components arrives. -/
def walk (d : Directory) (place : Place) : List String → Except FileError Place
  | [] => .ok place
  | component :: components =>
    match d.step place component with
    | .error e => .error e
    | .ok next => d.walk next components

/-- The content of the file at a path. An empty path leads nowhere, a path that starts with a slash
outside. -/
def read (d : Directory) (path : String) : Except FileError Bytes :=
  if path = "" then .error .notFound
  else if pathLimit ≤ path.utf8ByteSize then .error .nameTooLong
  else
    let components := (path.toList.splitOn '/').map String.ofList
    let start := if components.head? = some "" then Place.outside else Place.here
    match d.walk start components with
    | .error e => .error e
    | .ok (.file content) => .ok content
    | .ok .here | .ok .outside => .error .isADirectory

variable {d d' : Directory} {place : Place} {component path : String} {components : List String}

theorem step_congr (same : d.lookup component = d'.lookup component) :
    d.step place component = d'.step place component := by
  simp only [step, same]

theorem walk_congr (same : ∀ component ∈ components, d.lookup component = d'.lookup component) :
    d.walk place components = d'.walk place components := by
  induction components generalizing place with
  | nil => rfl
  | cons component components ih =>
    have first : d.step place component = d'.step place component :=
      step_congr (same component List.mem_cons_self)
    simp only [walk, first]
    cases d'.step place component with
    | error cause => rfl
    | ok next => exact ih fun other member => same other (List.mem_cons_of_mem component member)

/-- Two directories have the same at a path if they have the same files under its components. -/
theorem read_congr
    (same : ∀ name : String, name.toList ∈ path.toList.splitOn '/' → d.lookup name = d'.lookup name) :
    d.read path = d'.read path := by
  have walks (place : Place) : d.walk place ((path.toList.splitOn '/').map String.ofList) =
      d'.walk place ((path.toList.splitOn '/').map String.ofList) := by
    apply walk_congr
    intro component member
    obtain ⟨characters, inPath, rfl⟩ := List.mem_map.1 member
    apply same
    rw [String.toList_ofList]
    exact inPath
  simp only [read, walks]

end Directory

end SecretCodec
