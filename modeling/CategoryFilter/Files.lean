/-
Files by name in one directory.

A name may not hold a zero character, and its UTF-8 form has at most 255 bytes.
-/

import CategoryFilter.Store.Error

namespace CategoryFilter

/-- The files of a directory: each name with its content. -/
abbrev Directory := List (String × ByteArray)

/-- Refuse a name that no file can have. -/
def checkFileName (name : String) : Except FileError Unit :=
  if name.toList.contains (Char.ofNat 0) then .error .zeroInName
  else if 255 < name.utf8ByteSize then .error .nameTooLong
  else .ok ()

/-- The content of a file. -/
def Directory.read (files : Directory) (name : String) : Except FileError ByteArray := do
  checkFileName name
  match files.lookup name with
  | some content => return content
  | none => throw .notFound

end CategoryFilter
