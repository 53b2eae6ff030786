import SitePreview.CommandLine.Program
import SitePreview.PlainPlatform
import Std.Time.Format

namespace SitePreview.Command

/-- The entry of a directory as it stands; what cannot be looked at is left out. -/
partial def pictureOf (wanted : List Text) (e : IO.FS.DirEntry) : IO (Option (Text × Entry)) := do
  let name := e.fileName.toList
  try
    match (← e.path.symlinkMetadata).type with
    | .dir =>
      let entries ← (← e.path.readDir).toList.filterMapM (pictureOf wanted)
      return some (name, .directory entries)
    | .file =>
      if wanted.contains name then
        return some (name, .file (← IO.FS.readBinFile e.path).toList)
      else return some (name, .file [])
    | .symlink => return some (name, .link (← IO.FS.realPath e.path).toString.toList)
    | .other => return some (name, .pipe)
  catch _ => return none

def addDirectory (wanted : List Text) (root : Entry) (path : Text) : IO Entry := do
  try
    let entries ← ((← IO.currentDir) / String.ofList path).readDir
    let known ← entries.toList.filterMapM (pictureOf wanted)
    return Entry.put (.directory known) (Path.names path) root
  catch _ => return root

def directoriesOf (cwd : Text) : CommandRequest → List Text
  | .run o =>
    let workspace := Path.absolute cwd (o.workspace.getD cwd)
    [cwd, workspace, Path.parent (Path.absolute workspace o.config)]
  | _ => []

def wantedNames : CommandRequest → List Text
  | .run o => [configName, Path.fileName o.config]
  | _ => []

def diskFor (cwd : Text) (request : CommandRequest) : IO Disk := do
  let root ← (directoriesOf cwd request).foldlM (addDirectory (wantedNames request)) (.directory [])
  return .ofCurrent root cwd

def twoDigits (n : Nat) : Text := if n < 10 then '0' :: Text.ofNat n else Text.ofNat n

def clockAndDay : IO (Text × Text) := do
  let now ← Std.Time.PlainDateTime.now
  let clock := [now.hour.toNat, now.minute.toNat, now.second.toNat].map twoDigits
  let day := [Text.ofInt now.year.toInt, twoDigits now.month.toNat, twoDigits now.day.toNat]
  return ([':'].intercalate clock, ['-'].intercalate day)

def keep (logs : Logs) (day : Text) (said : List Message) : IO Unit := do
  let some directory := logs.directory | return
  let place := (← IO.currentDir) / String.ofList directory
  IO.FS.createDirAll place
  for file in logs.files do
    let handle ← IO.FS.Handle.mk (place / String.ofList (file.name day)) .append
    for line in file.lines said do
      handle.putStrLn (String.ofList line)

def tell (logs : Logs) (m : Message) : IO Unit := do
  if logs.console.reaches m.level then
    IO.println (String.ofList (m.level.name ++ ": ".toList ++ m.text))

def run (words : List Text) : IO UInt32 := do
  let cwd := (← IO.currentDir).toString.toList
  let disk ← match CommandRequest.ofWords words with
    | .ok request => diskFor cwd request
    | .error _ => pure (.ofCurrent (.directory []) cwd)
  let (clock, day) ← clockAndDay
  let result := Program.run { platform := Platform.plain, disk, clock } words
  if let some logs := result.logs then
    let said := Logs.opened :: result.said
    said.forM (tell logs)
    keep logs day said
  IO.print (String.ofList result.printed)
  IO.eprint (String.ofList result.complaint)
  match result.ending with
  | .exit status => return UInt32.ofNat status
  | .failed failure =>
    IO.eprintln (String.ofList failure.message)
    return 1

end SitePreview.Command

def main (words : List String) : IO UInt32 := SitePreview.Command.run (words.map String.toList)
