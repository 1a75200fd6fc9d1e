import TopicGateway.Message.Defaults
import TopicGateway.Text.Blank
import TopicGateway.Text.Utf8
import TopicGateway.Yaml.Record

/-! The file of template defaults. A YAML text with the sections of the defaults. What it leaves out
keeps its built-in value; a blank file leaves out everything. -/

namespace TopicGateway.Config

open Message (Defaults)

inductive FileFault where
  | missing
  | noDirectory
  | isDirectory
  | longName
  | nulInName
  | denied
  | notText
  deriving DecidableEq

def FileFault.message : FileFault → String
  | .missing => "No such file or directory (os error 2)"
  | .noDirectory => "Not a directory (os error 20)"
  | .isDirectory => "Is a directory (os error 21)"
  | .longName => "File name too long (os error 36)"
  | .nulInName => "file name contained an unexpected NUL byte"
  | .denied => "Permission denied (os error 13)"
  | .notText => "stream did not contain valid UTF-8"

abbrev Files := String → Except FileFault (List UInt8)

def Files.text (files : Files) (path : String) : Except FileFault String :=
  match files path with
  | .error e => .error e
  | .ok bytes =>
    match Text.Utf8.decode? bytes with
    | some s => .ok s
    | none => .error .notText

inductive DefaultsFault where
  | unreadable (path : String) (cause : FileFault)
  | malformed (path : String) (cause : Yaml.Fault)
  deriving DecidableEq

def DefaultsFault.causes : DefaultsFault → List String
  | .unreadable path cause => ["read defaults file failed: " ++ path, cause.message]
  | .malformed path cause => ["parse defaults yaml failed: " ++ path, cause.message]

namespace DefaultsFile

def readSetting : Defaults.Setting → Defaults → Yaml.ReadAt Defaults
  | .float put, d => fun doc path nodes =>
    (Yaml.readFloat doc path nodes).map fun (x, rest) => (put x d, rest)
  | .string put, d => fun doc path nodes =>
    (Yaml.readString doc path nodes).map fun (s, rest) => (put s d, rest)
  | .strings put, d => fun doc path nodes =>
    (Yaml.readItems Yaml.readString doc path nodes).map fun (s, rest) => (put s d, rest)

def sectionRecord (s : Defaults.Section) : Yaml.Record Defaults where
  name := s.title
  fields := s.settings.map fun (name, setting) => ⟨name, readSetting setting⟩

def record : Yaml.Record Defaults where
  name := Defaults.title
  fields := Defaults.sections.map fun s => ⟨s.name, (sectionRecord s).read⟩

def ofText (text : String) : Except Yaml.Fault Defaults :=
  if Text.blank text then .ok .builtIn else record.readWhole .builtIn text

def load (files : Files) (path : String) : Except DefaultsFault Defaults :=
  match files.text path with
  | .error e => .error (.unreadable path e)
  | .ok text =>
    match ofText text with
    | .error e => .error (.malformed path e)
    | .ok d => .ok d

end DefaultsFile

end TopicGateway.Config
