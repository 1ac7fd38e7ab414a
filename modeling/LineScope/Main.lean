import LineScope.Cli.Run

set_option autoImplicit false

namespace LineScope.Cli

-- A slot for a group is that large on a machine of 64 bits.
def slotBytes : Nat := 56

def readFile? (path : String) : IO (Option String) := do
  try
    let text ← IO.FS.readFile path
    pure (some text)
  catch _ => pure none

def readFiles : List String → IO (List (String × Option String))
  | [] => pure []
  | path :: rest => do
    let text ← readFile? path
    let others ← readFiles rest
    pure ((path, text) :: others)

-- The files that a command reads: the configuration decides on the others, so it is read first.
def gather (invocation : Invocation) : IO Surroundings := do
  let first ← readFiles invocation.config.toList
  let known : Surroundings := ⟨fun path => (first.lookup path).join, "", slotBytes⟩
  let others ← readFiles (invocation.paths known)
  let input ← if invocation.readsInput then (← IO.getStdin).readToEnd else pure ""
  pure ⟨fun path => (others.lookup path).join, input, slotBytes⟩

end LineScope.Cli

open LineScope in
def main (arguments : List String) : IO UInt32 := do
  let surroundings ←
    match Cli.Invocation.parse arguments with
    | .error _ => pure ⟨fun _ => none, "", Cli.slotBytes⟩
    | .ok invocation => Cli.gather invocation
  let outcome := Cli.run .backtracking surroundings arguments
  IO.print outcome.output
  IO.eprint outcome.complaint
  pure outcome.status.toUInt32
