import Depot.Cli.Tool

open Depot Depot.Disk Depot.Cli System

def depthLimit : Nat := 64

def readEnv : IO Env :=
  envNames.foldlM (fun acc n => do
    match ← IO.getEnv n with
    | some v => pure (acc ++ [(n, v)])
    | none => pure acc) []

partial def loadDir (realRoot : String) (root : List Name) (dir : String) (names : List Name)
    (depth : Nat) (t : FileTree) : IO FileTree := do
  if depth == 0 then return t
  let entries ← (FilePath.mk dir).readDir
  entries.foldlM (fun t e => do
    let path := dir ++ "/" ++ e.fileName
    let here := names ++ [Name.ofString e.fileName]
    let link ← (FilePath.mk path).symlinkMetadata
    let target ← ((FilePath.mk path).metadata.map some).tryCatch fun _ => pure none
    match target with
    | none => pure (t.setNode here (.link "/\x00"))
    | some m =>
      if m.type == .dir then
        if link.type == .symlink then
          let real := (← IO.FS.realPath (FilePath.mk path)).toString
          if real == realRoot || real.startsWith (realRoot ++ "/") then
            pure (t.setNode here (.link (pathText (root ++ (PathText.ofString (real.drop realRoot.length).toString).parts))))
          else loadDir realRoot root path here (depth - 1) (t.setNode here .dir)
        else loadDir realRoot root path here (depth - 1) (t.setNode here .dir)
      else pure (t.setNode here (.file (← IO.FS.readBinFile (FilePath.mk path))))) t

def loadTree (cwd root : String) : IO FileTree := do
  let names := (PathText.ofString (normalizePath cwd root)).parts
  let cwdNames := (PathText.ofString cwd).parts
  let ancestors := (List.range names.length).map (names.take ·) |>.filter (!·.isEmpty)
  let t : FileTree := { nodes := ancestors.map (·, .dir), cwd := cwdNames }
  let absolute := pathText names
  let isDir ← (FilePath.mk absolute).isDir
  if !isDir || names.isEmpty then return t
  let real := (← IO.FS.realPath (FilePath.mk absolute)).toString
  loadDir real names absolute names depthLimit (t.setNode names .dir)

def applyChanges (changes : List Change) : IO Unit :=
  changes.forM fun
    | .makeDir p => IO.FS.createDirAll (FilePath.mk p)
    | .write p d => IO.FS.writeBinFile (FilePath.mk p) d
    | .remove p => IO.FS.removeFile (FilePath.mk p)

def main (args : List String) : IO UInt32 := do
  let env ← readEnv
  let stdin ← (← IO.getStdin).readToEnd
  let cwd := (← IO.currentDir).toString
  let root := match parseLine env args with
    | .ok inv => (inv.location cwd >>= RepoLocation.root).toOption
    | .error _ => none
  let tree ← match root with
    | some r => loadTree cwd r
    | none => pure { cwd := (PathText.ofString cwd).parts }
  let run := runTool args env stdin tree
  applyChanges (tree.changesTo run.tree)
  IO.print run.stdout
  IO.eprint run.stderr
  return run.status.toUInt32
