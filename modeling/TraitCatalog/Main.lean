import TraitCatalog.CommandLine.Run

open TraitCatalog

namespace TraitCatalog.Main

def nodeAt (path : Path) : IO (Option Node) := do
  let some name := path.text.toString? | return none
  try
    let file ← IO.FS.realPath name
    if ← file.isDir then
      return some .directory
    return some (.file (← IO.FS.readBinFile file).toList)
  catch _ => return none

def snapshot (paths : List Path) : IO FileTree :=
  paths.foldlM (fun tree path => do return ((grow path (← nodeAt path)).run tree).snd) .empty
where
  grow (path : Path) : Option Node → Change Unit
    | none => pure ()
    | some .directory => Change.makeDirectory path
    | some (.file content) => Change.write path content

def save (place : Place) (content : Bytes) : IO Unit := do
  let some name := place.path.text.toString? | return
  let some directory := place.path.parent.text.toString? | return
  IO.FS.createDirAll directory
  IO.FS.writeBinFile name content.toByteArray

-- Puts out a line; one without a UTF-8 form is left out.
def putLine (stream : IO.FS.Stream) (t : Text) : IO Unit := do
  if let some line := t.toString? then
    stream.putStrLn line

end TraitCatalog.Main

def main (arguments : List String) : IO UInt32 := do
  let arguments := arguments.map Text.ofString
  let out ← IO.getStdout
  let err ← IO.getStderr
  let project ← Main.snapshot (CommandLine.paths .empty arguments)
  let tree ← Main.snapshot (CommandLine.paths project arguments)
  let output := ⟨some (← out.isTty), true⟩
  let (ending, session) := CommandLine.run [] arguments (.initial tree output [])
  for (place, content) in session.tree.changes tree do
    Main.save place content
  for r in CommandLine.shownLog arguments session.scene.log do
    Main.putLine err r.text
  for line in session.printed.flatMap Command.Printed.lines do
    Main.putLine out line
  match ending with
  | .help => CommandLine.usage.forM (Main.putLine out)
  | .misused e => Main.putLine err e.message
  | .broken f => Main.putLine err f.message
  | .exit _ | .badSettings _ => pure ()
  return UInt32.ofNat ending.status
