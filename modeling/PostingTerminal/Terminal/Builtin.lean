import PostingTerminal.Terminal.Action

/-!
# The commands of the terminal
-/

namespace PostingTerminal.Terminal

open CommandLine (Command Registry)

/-- Lists the commands. -/
def helpCommand : Command Action := ⟨"help", "Lists available commands", [], .help⟩

/-- Creates a thread, about a topic if one is given. -/
def createThreadCommand : Command Action :=
  ⟨"create-thread", "Generates and posts a thread", [⟨"topic", .string, false, none⟩],
    .createThread⟩

/-- Shows what has become of a draft. -/
def threadStatusCommand : Command Action :=
  ⟨"thread-status", "Shows the status of a thread draft", [⟨"draft_id", .string, true, none⟩],
    .threadStatus⟩

/-- The registry of all of them. -/
def builtins : Registry Action :=
  ((Registry.empty.add helpCommand rfl).add createThreadCommand rfl).add threadStatusCommand rfl

/-- It is what registering them one after the other gives. -/
example : [helpCommand, createThreadCommand, threadStatusCommand].foldlM Registry.register .empty
    = .ok builtins := rfl

/-- The commands of the terminal in the order in which they are registered. -/
@[simp] theorem commands_builtins :
    builtins.commands = [helpCommand, createThreadCommand, threadStatusCommand] := rfl

end PostingTerminal.Terminal
