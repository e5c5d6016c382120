import MailMarkup.Text.Blank

namespace MailMarkup

inductive OpenError where
  | notFound
  | refused (reason : String)
  | embeddedNul
  deriving DecidableEq, Repr

abbrev FileSystem := String → Except OpenError (List UInt8)

/-- The files and directories below a working directory, by the names on the way to them. -/
structure FileTree where
  files : List (List String × List UInt8)
  directories : List (List String)

namespace FileTree

inductive Node where
  | file (content : List UInt8)
  | directory

def components (path : String) : List String :=
  (Text.pieces (· == '/') path.toList).map String.ofList

def names (path : String) : List String :=
  ((components path).foldl (fun above n =>
    if n = "" ∨ n = "." then above else if n = ".." then above.tail else n :: above) []).reverse

/-- What stands at a place below the working directory. A directory is there if it was made or if
something is in it. -/
def node? (tree : FileTree) (place : List String) : Option Node :=
  match tree.files.lookup place with
  | some content => some (.file content)
  | none =>
    if place.isEmpty || (tree.directories ++ tree.files.map (·.1)).any place.isPrefixOf then
      some .directory
    else none

/-- The longest name, and the shortest path that is too long, in bytes. -/
def maxName : Nat := 255

def pathLimit : Nat := 4096

/-- Follows the rest of a path from a directory, given by the names on the way to it, the latest
first, or none if it lies outside; nothing is known by name there. -/
def follow (tree : FileTree) : Option (List String) → List String → Except OpenError (List UInt8)
  | _, [] => .error (.refused "Is a directory")
  | here, name :: rest =>
    if name = "" ∨ name = "." then follow tree here rest
    else if name = ".." then
      follow tree (match here with | some (_ :: up) => some up | _ => none) rest
    else if maxName < name.utf8ByteSize then .error (.refused "File name too long")
    else match here with
      | none => .error .notFound
      | some above =>
        match tree.node? (name :: above).reverse with
        | none => .error .notFound
        | some .directory => follow tree (some (name :: above)) rest
        | some (.file content) =>
          if rest.isEmpty then .ok content else .error (.refused "Not a directory")

def fileSystem (tree : FileTree) : FileSystem := fun path =>
  if path.toList.contains '\x00' then .error .embeddedNul
  else if path.isEmpty then .error .notFound
  else if pathLimit ≤ path.utf8ByteSize then .error (.refused "File name too long")
  else follow tree (if path.toList.head? == some '/' then none else some []) (components path)

end FileTree

end MailMarkup
