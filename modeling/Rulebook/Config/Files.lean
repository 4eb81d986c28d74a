import Rulebook.Config.Format
import Rulebook.Config.Layer

/-!
# Configuration files

A configuration file is found by its directory and its name, to which `.toml` is added. If it is not
there, the ending of a format may follow. Without any such file there is an empty layer; a file that
cannot be read in its format makes the whole configuration invalid.
-/

namespace Rulebook.Config

/-- The contents of files, by their paths from the working directory. -/
abbrev Files := List (Text × Text)

namespace Files

def namesOf (path : Text) : List Text :=
  (Text.splitOn '/' path).filter fun name => !name.isEmpty && name != ['.']

/-- Whether a file lies in a directory or below it. -/
def hasDirectory (files : Files) (directory : List Text) : Bool :=
  files.any fun (path, _) =>
    let names := namesOf path
    directory.length < names.length && directory.isPrefixOf names

/-- Go from a directory along some names. None if this leaves the working directory or comes to a
directory that is not there. -/
def walk? (files : Files) (directory : List Text) : List Text → Option (List Text)
  | [] => some directory
  | name :: names =>
      if name = ['.', '.'] then
        if directory.isEmpty then none else walk? files directory.dropLast names
      else
        let below := directory ++ [name]
        if files.hasDirectory below then walk? files below names else none

/-- The contents of the file at a path. -/
def contents? (files : Files) (path : Text) : Option Text :=
  if path.head? = some '/' then none
  else
    match (namesOf path).getLast? with
    | none => none
    | some name =>
        match files.walk? [] (namesOf path).dropLast with
        | none => none
        | some directory =>
            (files.find? fun file => namesOf file.1 == directory ++ [name]).map Prod.snd

/-- The path of the configuration file with a name in a directory. A path that begins at the root of
all files stands for itself. -/
def pathOf (directory name : Text) : Text :=
  let file := name ++ Format.toml.ending
  if directory.isEmpty ∨ file.head? = some '/' then file else directory ++ '/' :: file

/-- The contents of the configuration file at a path, and their format. A file whose name is nothing
but an ending is none. -/
def configuration? (files : Files) (path : Text) : Option (Format × Text) :=
  match files.contents? path with
  | some text =>
      if (namesOf path).getLast? = some Format.toml.ending then none else some (.toml, text)
  | none =>
      Format.all.findSome? fun format =>
        (files.contents? (path ++ format.ending)).map fun text => (format, text)

/-- The layer of the configuration file with a name in a directory. A byte order mark at the front
of the file does not count. -/
def layer? (files : Files) (directory name : Text) : Option Layer :=
  match files.configuration? (pathOf directory name) with
  | none => some []
  | some (format, text) => (format.read? (Text.dropMark text)).map Layer.ofSettings

end Files

end Rulebook.Config
