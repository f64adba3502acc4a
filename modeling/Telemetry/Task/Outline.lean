import Telemetry.Task.Basic
import Telemetry.Text.Quoted

/-!
# Outlines of tasks

A task for the eyes of a reader: its id and the keys of its configuration and state, on one line or
with a line for each.

* `Task.outline`: the outline on one line.
* `Task.tallOutline`: the outline on several lines.
-/

namespace Telemetry.Task

open Text

variable {σ : Type}

def flatList (texts : List String) : String := "[" ++ ", ".intercalate (texts.map quoted) ++ "]"

def outline (t : Task σ) : String :=
  "TaskContext \x7b id: " ++ quoted t.id ++ ", config: " ++ flatList t.configKeys ++
    ", state: " ++ flatList t.state.keys ++ " \x7d"

def tallList (texts : List String) : String :=
  if texts.isEmpty then "[]"
  else "[\n" ++ String.join (texts.map fun s => "        " ++ quoted s ++ ",\n") ++ "    ]"

def tallOutline (t : Task σ) : String :=
  "TaskContext \x7b\n    id: " ++ quoted t.id ++ ",\n    config: " ++ tallList t.configKeys ++
    ",\n    state: " ++ tallList t.state.keys ++ ",\n\x7d"

end Telemetry.Task
