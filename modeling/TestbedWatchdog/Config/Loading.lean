import TestbedWatchdog.Config.Decoding
import TestbedWatchdog.Config.Validation
import TestbedWatchdog.Text.Utf8
import TestbedWatchdog.Toml.Document

namespace TestbedWatchdog

structure Files where
  -- whether anything is there, a directory counts
  present : String → Bool
  read : String → Except SystemFault (List UInt8)
  -- what the reader of documents says of a text that it refuses, or whose document does not fit
  wording : List Char → Option Toml.Mismatch → String

namespace Config

def defaultPath : String := "nodewatch.toml"

def ofText (files : Files) (content : List Char) : Except Error Config :=
  match Toml.document? content with
  | none => .error (.configMalformed (files.wording content none))
  | some document =>
    match decode document with
    | .error mismatch => .error (.configMismatch mismatch (files.wording content (some mismatch)))
    | .ok config =>
      match config.validate with
      | .error error => .error error
      | .ok () => .ok config

def load (files : Files) (path : String) : Except Error Config :=
  match files.read path with
  | .error cause => .error (.configUnreadable path cause)
  | .ok bytes =>
    match Text.Utf8.strict? bytes with
    | none => .error (.configUnreadable path .notUtf8)
    | some content => ofText files content

def loadOrDefault (files : Files) : Option String → Except Error Config
  | some path => load files path
  | none => if files.present defaultPath then load files defaultPath else .ok {}

end Config

end TestbedWatchdog
