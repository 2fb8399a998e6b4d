import Sluice.Text.Blank

/-!
# File names

The rules of a model can be kept in a file. Its name is a path, whose parts are separated by
slashes; empty parts and single dots do not lead anywhere and are left out, so `./rules.txt` and
`rules.txt/` name the file `rules.txt` (`plain`). A name under which no file is found is wrong in
one of several ways (`NameError`).
-/

set_option autoImplicit false

namespace Sluice

/-- Why a name does not lead to a file. -/
inductive NameError where
  | notFound
  /-- It leads to a directory. -/
  | isDirectory
  /-- It leads into a file as if that were a directory. -/
  | notDirectory
  | tooLong
  /-- It has a null character, which no name can have. -/
  | nullCharacter
  deriving DecidableEq, Repr

namespace FileName

/-- The parts of a path that lead somewhere. -/
def parts (name : String) : List String :=
  (name.splitOn "/").filter fun part => part != "" && part != "."

def isAbsolute (name : String) : Bool := name.toList.head? == some '/'

/-- The path with the given parts. -/
def ofParts (absolute : Bool) (parts : List String) : String :=
  (if absolute then "/" else "") ++ String.intercalate "/" parts

/-- A path without the parts that lead nowhere. -/
def plain (name : String) : String := ofParts (isAbsolute name) (parts name)

/-- The most bytes that a part of a path may have, and the most that a path may have. -/
def partLimit : Nat := 255

def pathLimit : Nat := 4095

/-- Whether a file is found on the way, before the last part of a path. -/
def leadsIntoFile (readFile : String → Option String) (name : String) : Bool :=
  let all := parts name
  (List.range all.length).any fun n =>
    n != 0 && (readFile (ofParts (isAbsolute name) (all.take n))).isSome

/-- The text of the file with a name. -/
def read (readFile : String → Option String) (name : String) : Except NameError String :=
  if name.toList.any fun c => c.toNat = 0 then .error .nullCharacter
  else match readFile (plain name) with
    | some text => .ok text
    | none =>
      if (parts name).all (· == "..") then .error .isDirectory
      else if leadsIntoFile readFile name then .error .notDirectory
      else if pathLimit < name.utf8ByteSize
          || (parts name).any fun part => partLimit < part.utf8ByteSize then
        .error .tooLong
      else .error .notFound

end FileName

end Sluice
