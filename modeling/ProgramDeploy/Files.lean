import ProgramDeploy.Value.Access

namespace ProgramDeploy

inductive Entry where
  | file (content : Bytes)
  | directory
  deriving DecidableEq

structure Files where
  entries : List (List Bytes × Entry)

namespace Files

def empty : Files := ⟨[]⟩

def nameLimit : Nat := 255

def pathLimit : Nat := 4096

def entry? (fs : Files) (names : List Bytes) : Option Entry :=
  if names.isEmpty then some .directory
  else (fs.entries.find? fun e => e.1 = names).map (·.2)

def names (path : Bytes) : List Bytes :=
  go path
where
  go : Bytes → List Bytes
    | [] => [[]]
    | b :: bs =>
      match go bs with
      | [] => [[b]]
      | n :: ns => if b = 0x2f then [] :: n :: ns else (b :: n) :: ns

def isHere (name : Bytes) : Bool :=
  name.isEmpty || name = [0x2e]

def isAbove (name : Bytes) : Bool :=
  name = [0x2e, 0x2e]

/-- The place that names lead to from a place in the working directory, or from outside of it, where
nothing but the directories above it is known. Nothing may stand at the place itself. -/
def walk (fs : Files) :
    Option (List Bytes) → List Bytes → Except PathProblem (Option (List Bytes))
  | place, [] => .ok place
  | none, name :: rest =>
    if isHere name || isAbove name then walk fs none rest else .error .missing
  | some place, name :: rest =>
    match fs.entry? place with
    | none => .error .missing
    | some (.file _) => .error .notDirectory
    | some .directory =>
      if isHere name then walk fs (some place) rest
      else if isAbove name then
        walk fs (if place.isEmpty then none else some place.dropLast) rest
      else if nameLimit < name.length then .error .nameTooLong
      else walk fs (some (place ++ [name])) rest

def place (fs : Files) (path : Bytes) : Except PathProblem (Option (List Bytes)) :=
  if path.isEmpty then .error .missing
  else if pathLimit ≤ path.length then .error .nameTooLong
  else walk fs (if path.head? = some 0x2f then none else some []) (names path)

def entryAt? (fs : Files) (place : Option (List Bytes)) : Option Entry :=
  match place with
  | none => some .directory
  | some names => fs.entry? names

def lookup? (fs : Files) (path : Bytes) : Option Entry :=
  if path.contains 0 then none else (fs.place path).toOption.bind fs.entryAt?

def put (fs : Files) (names : List Bytes) (e : Entry) : Files :=
  ⟨(names, e) :: fs.entries.filter fun old => old.1 ≠ names⟩

def erase (fs : Files) (names : List Bytes) : Files :=
  ⟨fs.entries.filter fun e => e.1 ≠ names⟩

abbrev Update := ExceptT Fault (StateM Files)

def after (fs : Files) (update : Update Unit) : Files :=
  (update.run.run fs).2

def badPath (path : String) (problem : PathProblem) : Fault :=
  .badPath problem (Text.quoted path)

def target (path given : String) : Update (Option (List Bytes)) := do
  if path.contains '\x00' then throw .nullInPath
  match (← get).place (Text.Utf8.encode path) with
  | .ok place => return place
  | .error problem => throw (badPath given problem)

def withoutSlashes (path : String) : String :=
  .ofList (Text.trimRight (· == '/') path.toList)

def directoryTarget (path : String) : Update (Option (List Bytes)) :=
  target (withoutSlashes path) path

def makeDirectory (path : String) : Update Unit := do
  let place ← directoryTarget path
  match place, (← get).entryAt? place with
  | some names, none => modify fun fs => fs.put names .directory
  | _, _ => return

def parents (path : String) : List String :=
  let cs := path.toList
  ((List.range cs.length).filter fun n =>
    cs[n]? = some '/' && (cs.take n).getLast?.any (· != '/')).map fun n => .ofList (cs.take n)

def makeDirectories (path : String) : Update Unit := do
  (parents (withoutSlashes path)).forM makeDirectory
  makeDirectory path
  match (← get).entryAt? (← directoryTarget path) with
  | some .directory => return
  | _ => throw (badPath path .present)

def makeParents (path : String) : Update Unit :=
  (parents path).getLast?.forM makeDirectories

def addDirectory (path : String) : Update Unit := do
  makeParents path
  makeDirectories path

def write (path : String) (content : Bytes) : Update Unit := do
  makeParents path
  let place ← target path path
  match place, (← get).entryAt? place with
  | none, _ | _, some .directory => throw (badPath path .isDirectory)
  | some names, _ => modify fun fs => fs.put names (.file content)

def remove (path : String) : Update Unit := do
  let place ← target path path
  match place, (← get).entryAt? place with
  | some names, some (.file _) => modify fun fs => fs.erase names
  | _, some _ => throw (badPath path .isDirectory)
  | _, none => throw (badPath path .missing)

/-- Whether a value is a path to something. A number stands for an open file, and none is open. -/
def contains (fs : Files) (path : Value) : Except Fault Bool :=
  match path with
  | .text s => .ok (fs.lookup? (Text.Utf8.encode s)).isSome
  | .torn t => .ok (t.nameBytes?.bind fs.lookup?).isSome
  | .bytes bs | .buffer bs => .ok (fs.lookup? bs).isSome
  | .bool _ => .ok false
  | .int n =>
    if 0x80000000 ≤ n then .error .descriptorTooLarge
    else if n < -0x80000000 then .error .descriptorTooSmall
    else .ok false
  | _ => .error (path.misused .notPath)

def read (fs : Files) (path : Value) : Except Fault Bytes := do
  let bs ← match path with
    | .text s => pure (Text.Utf8.encode s)
    | .bytes bs => pure bs
    | .torn t =>
      match t.nameBytes? with
      | some bs => pure bs
      | none => throw (.unwritable (.halves t.points))
    | _ => throw (path.misused .notFilePath)
  match fs.lookup? bs with
  | some (.file content) => return content
  | _ => throw (.badPath .isDirectory (← path.literal.mapError .numeral))

end Files

end ProgramDeploy
