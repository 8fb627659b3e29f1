import AudioStream.Coding.Config
import AudioStream.Error
import AudioStream.Toml.Parser
import AudioStream.Toml.Printer

/-!
# Configuration files

A configuration is kept in a TOML file.  A file that is missing stands for the default configuration.
The file of a user lies below the directory for configurations if that is given by an absolute path,
and below `.config` in the home directory otherwise.
-/

namespace AudioStream.Config

def ofToml (text : String) : Except Error Config :=
  match (Toml.parse text).bind (decode Dialect.toml) with
  | some config => .ok config
  | none => .error (.config "the text is not the TOML document of a configuration")

def toToml (config : Config) : String := Toml.render (encode config)

/-- What is found at the path of a file. -/
inductive FileContent where
  | missing
  | directory
  | unreadable (reason : String)
  | bytes (content : List UInt8)

def load : FileContent → Except Error Config
  | .missing => .ok {}
  | .directory => .error (.file .isADirectory)
  | .unreadable reason => .error (.file (.other reason))
  | .bytes content =>
    match String.fromUTF8? content.toByteArray with
    | some text => ofToml text
    | none => .error (.file .invalidData)

/-- The directories that an account gives to its programs. -/
structure Directories where
  /-- The home directory that is set for programs. -/
  home : Option String
  configHome : Option String
  /-- The home directory of the account itself. -/
  accountHome : Option String

def isAbsolute (path : String) : Bool := path.toList.head? == some '/'

/-- A path followed by a relative one, with one slash between them. -/
def joinPath (path relative : String) : String :=
  if path.toList.getLast? == some '/' || path == "" then path ++ relative else path ++ "/" ++ relative

/-- The home directory: the one that is set, unless it is empty. -/
def homeDirectory (d : Directories) : Option String :=
  match d.home with
  | some home => if home = "" then d.accountHome else some home
  | none => d.accountHome

def defaultPath (d : Directories) : Option String := do
  let home ← homeDirectory d
  let base := match d.configHome with
    | some path => if isAbsolute path then path else joinPath home ".config"
    | none => joinPath home ".config"
  some (joinPath base "stream-worker/config.toml")

end AudioStream.Config
