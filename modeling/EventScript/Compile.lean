import EventScript.Assembler

/-!
# Compiling

From the source of a script to its block.
-/

namespace EventScript

/-- The block of a source. Calls are checked against the registry, if one is given. -/
def compile (registry : Option Registry) (source : String) : Except ScriptError Block := do
  let lines := Text.lines source.toList
  (← Chunk.foldLines (Assembler.read registry) .start 1 lines).finish

end EventScript
