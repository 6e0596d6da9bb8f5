import SinkKeeper.Failure
import SinkKeeper.Text.Search

/-!
# Folders

The files below the place where a program runs, and what opening a path gives.
-/

namespace SinkKeeper

/-- The files that can be reached from a folder, by their paths. -/
structure Folder where
  files : List (String × List UInt8)

/-! ## Paths -/

namespace FilePath

/-- The steps of a path; empty ones and single points go nowhere. -/
def steps (path : String) : List String :=
  (Text.split '/' path).filter fun step => step != "" && step != "."

/-- What a path starts with if it does not start at the folder. Exactly two slashes are kept. -/
def start (path : String) : String :=
  match path.toList.takeWhile (· = '/') with
  | [] => ""
  | ['/', '/'] => "//"
  | _ => "/"

def normal (path : String) : String :=
  let short := start path ++ Text.join "/" (steps path)
  if short = "" then "." else short

end FilePath

/-! ## Reading -/

namespace Folder

/-- Whether a path leads through another one. -/
def leadsThrough (path through : String) : Bool :=
  FilePath.start through == FilePath.start path
    && (FilePath.steps through).isPrefixOf (FilePath.steps path)

/-- The bytes that a path leads to. A path of steps up leads to a folder. -/
def read (folder : Folder) (path : String) : Except FileFlaw (List UInt8) :=
  if path.toList.contains '\x00' then .error .nullCharacter
  else
    match folder.files.find? fun f => FilePath.normal f.1 == FilePath.normal path with
    | some (_, bytes) => .ok bytes
    | none =>
      if (FilePath.steps path).all (· == "..") || folder.files.any fun f => leadsThrough f.1 path then
        .error .directory
      else if folder.files.any fun f => leadsThrough path f.1 then .error .notDirectory
      else .error .absent

/-- A text with one line feed at the end of each line. -/
def unifyLines : List Char → List Char
  | '\r' :: '\n' :: rest => '\n' :: unifyLines rest
  | '\r' :: rest => '\n' :: unifyLines rest
  | c :: rest => c :: unifyLines rest
  | [] => []

def textOf (bytes : List UInt8) : Except Failure String :=
  match Text.Utf8.decode? bytes with
  | .ok cs => .ok (String.ofList (unifyLines cs))
  | .error e => .error (.undecoded e)

def readText (folder : Folder) (path : String) : Except Failure String :=
  match folder.read path with
  | .ok bytes => textOf bytes
  | .error flaw => .error (.file flaw path)

end Folder

end SinkKeeper
