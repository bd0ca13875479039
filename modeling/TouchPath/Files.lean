import TouchPath.Fault

/-! # Files by name

What is known of a file tree: the text of each file, and which names are directories or cannot be
names. Names are compared without repeated slashes, single dots and a slash at the end; just two
slashes in front stay two. A name with a null character is never one of a file.
-/
namespace TouchPath
set_option autoImplicit false

inductive FileEntry where
  | file (text : String)
  | directory
  /-- The name goes on behind a file, as if that were a directory. -/
  | beyondFile
  | nameTooLong
  deriving DecidableEq, Repr

abbrev Files := String → Option FileEntry

namespace Files

/-- A name as it is compared and shown. -/
def normalName (path : String) : String :=
  let parts := (path.splitOn "/").filter fun p => p != "" && p != "."
  let root :=
    if path.startsWith "//" && !path.startsWith "///" then "//"
    else if path.startsWith "/" then "/" else ""
  let name := root ++ "/".intercalate parts
  if name.isEmpty then "." else name

def directoryOf (path : String) : String :=
  match (path.splitOn "/").reverse with
  | _ :: d :: ds => normalName ("/".intercalate (d :: ds).reverse ++ "/")
  | _ => "."

def hasNull (path : String) : Bool := path.toList.contains (Char.ofNat 0)

def has (files : Files) (path : String) : Except Fault Bool :=
  if hasNull path then .ok false
  else
    match files path with
    | some (.file _) | some .directory => .ok true
    | some .nameTooLong => .error .nameTooLong
    | some .beyondFile | none => .ok false

def read (files : Files) (path : String) : Except Fault String :=
  if hasNull path then .error .badValue
  else
    match files path with
    | some (.file text) => .ok text
    | some .directory => .error .isDirectory
    | some .beyondFile => .error .notDirectory
    | some .nameTooLong => .error .nameTooLong
    | none => .error .noFile

/-- Whether a file can be written under a name: over another one, or into a directory. -/
def checkWrite (files : Files) (path : String) : Except Fault Unit :=
  if hasNull path then .error .badValue
  else
    match files path, files (directoryOf path) with
    | some (.file _), _ => .ok ()
    | some .directory, _ => .error .isDirectory
    | some .beyondFile, _ => .error .notDirectory
    | some .nameTooLong, _ => .error .nameTooLong
    | none, some .directory => .ok ()
    | none, _ => .error .noFile

end Files
end TouchPath
