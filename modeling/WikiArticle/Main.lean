import WikiArticle.Command

/-! The command line. What a run can look at is gathered first; the run itself is a function of it. -/

namespace WikiArticle
namespace Command

/-- What the path leads to on this machine. A path that cannot be followed, because it is too long or leads in
    a circle, is like one at whose end nothing is. -/
def entryAt (path : String) : IO Entry := do
  try
    return .file (← IO.FS.readBinFile path)
  catch
    | .noFileOrDirectory .. | .invalidArgument .. => return .missing
    | .permissionDenied .. => return .unreadable "Permission denied (os error 13)"
    | .inappropriateType _ code _ => return if code = 21 then .directory else .missing
    | e => return .unreadable (toString e)

/-- Looks up each key once, for a function on them. -/
def gather {α : Type} (default : α) (look : String → IO α) (keys : List String) : IO (String → α) := do
  let found ← keys.mapM fun k => return (k, ← look k)
  return fun k => (found.lookup k).getD default

/-- Runs the command on this machine, and answers its exit status. The home directory is the one that `HOME`
    names; accounts are not asked for it. -/
def runHere (args : List String) : IO UInt32 := do
  let env ← gather none (fun name => IO.getEnv name) (environmentNames args)
  let files ← gather Entry.missing entryAt (paths env args)
  let outcome := run env files args
  for w in outcome.warnings do
    IO.eprintln w.line
  if let some message := outcome.failure then
    IO.eprintln message
  IO.print outcome.stdout
  return UInt32.ofNat outcome.code

end Command
end WikiArticle

/-- The program. -/
def main (args : List String) : IO UInt32 := WikiArticle.Command.runHere args
