import GradedReading.CommandLine.Run

/-!
# GradedReading.Main

The program: it loads the files that a command line names, runs the command line on them and prints
what the run leaves behind.
-/

namespace GradedReading

open CommandLine Files

/-- The paths that a command line names. -/
def pathsOf (i : Invocation) : List String :=
  i.config.getD Settings.File.fileName :: match i.task with
    | .search _ corpus .. => [corpus]
    | .parse paths => paths

/-- The places that a path leads through, from a folder on, each with the names from the root. -/
def placesOf (folder : List String) (path : String) : List (List String) :=
  let start := if Path.isAbsolute path then [] else folder
  let steps := (path.splitOn "/").filter fun step => step != "" && step != "."
  let (places, _) := steps.foldl (fun (places, place) step =>
    let place := if step == ".." then place.dropLast else place ++ [step]
    (places ++ [place], place)) ([start], start)
  places

/-- The text of a place. -/
def pathOf (place : List String) : String := "/" ++ "/".intercalate place

/-- There is a folder at this place. -/
def isFolder (place : List String) : IO Bool := do
  try (← IO.FS.realPath (pathOf place)).isDir catch _ => pure false

/-- The folders that are entered on the way to a file, so that links in a circle come to an end. -/
def deepest : Nat := 64

/-- The files and folders at or below a place. What cannot be read is left out. -/
def contents : (depth : Nat) → (place : List String) → IO (List (List String × Entry))
  | 0, _ => pure []
  | depth + 1, place => do
    try
      let there ← IO.FS.realPath (pathOf place)
      if ← there.isDir then
        let mut found := [(place, Entry.emptyFolder)]
        for child in ← there.readDir do
          found := found ++ (← contents depth (place ++ [child.fileName]))
        pure found
      else pure [(place, .file (← IO.FS.readBinFile there))]
    catch _ => pure []

/-- Load the files that these paths name. -/
def loadDisk (folder : List String) (paths : List String) : IO Disk := do
  let mut root := Entry.emptyFolder.put folder Entry.emptyFolder
  for path in paths do
    let places := placesOf folder path
    for place in places.dropLast do
      if ← isFolder place then root := Entry.emptyFolder.put place root
    for (place, entry) in ← contents deepest (places.getLast?.getD folder) do
      root := entry.put place root
  pure ⟨root, folder⟩

end GradedReading

open GradedReading CommandLine in
/-- Run the program with these arguments. -/
def main (args : List String) : IO UInt32 := do
  match Invocation.ofArgs args with
  | .error e =>
    if e.exitCode = 0 then IO.println e.message else IO.eprintln e.message
    pure e.exitCode.toUInt32
  | .ok i =>
    let folder := ((← IO.currentDir).toString.splitOn "/").filter (· != "")
    let result := run 1 (← loadDisk folder (pathsOf i)) i
    IO.print result.output
    if result.report != "" then IO.eprintln result.report
    pure result.exitCode.toUInt32
