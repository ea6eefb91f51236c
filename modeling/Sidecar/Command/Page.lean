import Sidecar.Command.Argument

/-!
Help pages: two columns, of which the first is as wide as it needs to be, up to a limit.
-/

namespace Sidecar.Command

structure CommandSpec where
  /-- The words that call the command. -/
  path : String
  help : String
  options : List OptionSpec
  /-- The commands below this one, with what they do. -/
  commands : List (String × String) := []
  deriving DecidableEq, Repr

namespace CommandSpec

private def spaces (n : Nat) : String := String.ofList (List.replicate n ' ')

/-- The widest that the first column becomes. -/
def columnLimit : Nat := 30

def columnGap : Nat := 2

/-- Rows in two columns; an entry that is too wide for its column stands in a line of its own. -/
def rows (entries : List (String × String)) : List String :=
  let widest := (entries.map fun (first, _) => first.length).foldl max 0
  let width := min widest columnLimit
  entries.map fun (first, second) =>
    let gap := if first.length ≤ width then spaces (width + columnGap - first.length)
      else "\n" ++ spaces (2 + width + columnGap)
    "  " ++ first ++ gap ++ second

private def optionEntry (o : OptionSpec) : String × String :=
  (", ".intercalate (o.shortName?.toList ++ [o.longName])
    ++ (o.valueName.map (" " ++ ·)).getD "", o.help)

private def block (title : String) (entries : List (String × String)) : List String :=
  if entries.isEmpty then [] else ["", title ++ ":"] ++ rows entries

def usage (c : CommandSpec) : String :=
  "Usage: " ++ c.path ++ " [OPTIONS]" ++ (if c.commands.isEmpty then "" else " COMMAND [ARGS]...")

/-- The whole page, with a line break at its end. -/
def page (c : CommandSpec) : String :=
  "\n".intercalate ([c.usage, "", "  " ++ c.help] ++ block "Options" (c.options.map optionEntry)
    ++ block "Commands" c.commands) ++ "\n"

/-- What stands above a report on wrong usage. -/
def pointer (c : CommandSpec) : String :=
  c.usage ++ "\nTry '" ++ c.path ++ " --help' for help.\n\n"

end CommandSpec

end Sidecar.Command
