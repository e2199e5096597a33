import ConverterKit.Config.Load

/-!
# A working folder

What a relative path leads to in a folder that holds at most one entry. This is all the file system
that loading a configuration needs to know about.

## Main definitions

* `Config.Folder`: a folder with at most one entry
* `Config.Folder.contents`: what is in the file that a path leads to
-/

namespace ConverterKit

namespace Config

/-- What a folder can hold under a name. -/
inductive FolderEntry where
  | file (bytes : ByteArray)
  | folder

/-- A folder with at most one entry. -/
structure Folder where
  /-- The path of the entry and what is there, if there is an entry. -/
  entry? : Option (String × FolderEntry) := none

/-- Whether a path goes nowhere but from folder to folder, up or in place, so that there always is
something where it leads. -/
def staysInFolders (path : String) : Bool :=
  !path.isEmpty && (path.splitOn "/").all fun step => step = "" || step = "." || step = ".."

/-- What is in the file that a path leads to. A path with a NUL character in it is none. -/
def Folder.contents (f : Folder) (path : String) : Except ReadFailure ByteArray :=
  if path.toList.contains '\x00' then .error .invalidInput
  else if staysInFolders path then .error .isDirectory
  else
    match f.entry? with
    | some (name, .file bytes) => if name = path then .ok bytes else .error .notFound
    | some (name, .folder) => .error (if name = path then .isDirectory else .notFound)
    | none => .error .notFound

end Config

end ConverterKit
