/-! # Files

`ReadFault` says why a file could not be read as text. A `FileStore` is a directory held in memory:
names with their contents, and paths that lead to them. A path goes through its components from the
left; all but the last must be directories, and so must the last if a slash stands behind it.
-/

namespace LexicalRules
set_option autoImplicit false

inductive ReadFault where
  | missing
  /-- A file stands in the path where a directory should. -/
  | notADirectory
  | isADirectory
  | notText
  /-- Any other reason, in the words of the system. -/
  | other (words : String)
  deriving DecidableEq, Repr

def ReadFault.message : ReadFault → String
  | missing => "No such file or directory (os error 2)"
  | notADirectory => "Not a directory (os error 20)"
  | isADirectory => "Is a directory (os error 21)"
  | notText => "stream did not contain valid UTF-8"
  | other words => words

def textOfBytes (bytes : ByteArray) : Except ReadFault String :=
  match String.fromUTF8? bytes with
  | some s => .ok s
  | none => .error .notText

theorem textOfBytes_eq_ok_iff (bytes : ByteArray) (text : String) :
    textOfBytes bytes = .ok text ↔ bytes = text.toUTF8 := by
  unfold textOfBytes String.fromUTF8?
  constructor
  · intro h
    split at h
    · rename_i s hs
      split at hs
      · cases hs
        cases h
        rfl
      · cases hs
    · cases h
  · rintro rfl
    simp only [String.toUTF8_eq_toByteArray, text.isValidUTF8, dite_true]
    rfl

inductive FileEntry where
  | file (bytes : ByteArray)
  | directory

abbrev FileStore := List (String × FileEntry)

namespace FileStore

def components (path : String) : List (List Char) :=
  path.toList.splitOn '/'

/-- What stands at a place in the store, given by its components; a directory need not be listed if
something in it is. -/
def at? (store : FileStore) (place : List (List Char)) : Option FileEntry :=
  match store.find? fun e => components e.1 == place with
  | some e => some e.2
  | none =>
    if store.any fun e => place.isPrefixOf (components e.1) then some .directory else none

/-- Follows components from the directory `place`, where no place is a directory outside the store: the
store is all that is known of the names there. -/
def follow (store : FileStore) : (place : Option (List (List Char))) → (path : List (List Char)) →
    Except ReadFault FileEntry
  | _, [] => .ok .directory
  | place, c :: path =>
    if c = [] ∨ c = ['.'] then follow store place path
    else if c = ['.', '.'] then
      follow store (place.bind fun l => if l.isEmpty then none else some l.dropLast) path
    else match place with
      | none => .error .missing
      | some l =>
        match store.at? (l ++ [c]) with
        | none => .error .missing
        | some .directory => follow store (some (l ++ [c])) path
        | some (.file bytes) => if path.isEmpty then .ok (.file bytes) else .error .notADirectory

/-- Where a path starts: in the store, or outside it if a slash comes first. -/
def origin (path : String) : Option (List (List Char)) :=
  if path.toList.head? = some '/' then none else some []

/-- The text of the file at `path`, which is taken from the directory that the store is. -/
def read (store : FileStore) (path : String) : Except ReadFault String :=
  if path = "" then .error .missing
  else match follow store (origin path) (components path) with
    | .ok (.file bytes) => textOfBytes bytes
    | .ok .directory => .error .isADirectory
    | .error e => .error e

end FileStore

end LexicalRules
