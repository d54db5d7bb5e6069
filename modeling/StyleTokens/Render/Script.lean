import StyleTokens.Files.Request
import StyleTokens.Preset.Source
import StyleTokens.Render.Page

/-!
# Scripts for the preview

The live preview runs scripts that come in a directory beside the library. A script is read once
and kept; what is not there is reported.
-/

namespace StyleTokens

/-- The scripts that have been read, by name, and the directory that they are read from. -/
structure ScriptLibrary where
  /-- The directory. -/
  directory : Path
  /-- The scripts that have been read. -/
  loaded : Keyed String

namespace ScriptLibrary

/-- The name of the script that runs the preview. -/
def previewName : String := "preview-runtime.js"

/-- The id of the element with that script unless another is given. -/
def defaultId : String := "tokensmith-preview-runtime"

/-- The path of a script. -/
def path (library : ScriptLibrary) (name : String) : Path := library.directory.child name

/-- The script under a name; and the library afterwards. -/
def load (library : ScriptLibrary) (name : String) :
    FileDialogue (Except Fault String × ScriptLibrary) :=
  match library.loaded.find? name with
  | some script => .done (.ok script, library)
  | none => .ask (.isFile (library.path name)) fun
    | false => .done (.error (.missingScript name), library)
    | true => .ask (.read (library.path name)) fun
      | .error fault => .done (.error (.file fault), library)
      | .ok bytes =>
        match decodeText bytes with
        | .error fault => .done (.error (.decoding fault), library)
        | .ok script =>
          .done (.ok script, { library with loaded := library.loaded.put name script })

/-- A script element with the preview script; and the library afterwards. -/
def previewElement (library : ScriptLibrary) (id : String) :
    FileDialogue (Except Fault String × ScriptLibrary) :=
  (library.load previewName).bind fun (script, after) =>
    .done (script.map (element "script" id), after)

/-- The library with no script read. -/
def clear (library : ScriptLibrary) : ScriptLibrary := { library with loaded := [] }

end ScriptLibrary

end StyleTokens
