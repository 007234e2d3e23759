/-
GuardCost/Cli/Help.lean

The help.  It lists the commands and every option, the options grouped by the
commands that know them, in two columns: what is typed, and what it does.
-/
import GuardCost.Cli.Option
import GuardCost.Report.Table

namespace GuardCost.Cli.Help

/-- A line of the help: what is typed, and what it does. -/
structure Entry where
  typed : String
  about : String

/-- The entry of a command. -/
def ofCommand (c : CommandName) : Entry := ⟨c.text, c.about⟩

/-- The entry of an option. -/
def ofOpt (o : Opt) : Entry where
  typed :=
    (match o.info.short? with
      | some letter => "-" ++ letter.toString ++ ", "
      | none => "    ")
      ++ o.text ++ if o.takesValue then " <VALUE>" else ""
  about := o.info.about

/-- Entries under a heading, in two columns. -/
def group (heading : String) (entries : List Entry) : String :=
  let width := (entries.map fun e => Table.width e.typed).foldl max 0
  heading ++ ":\n"
    ++ String.join (entries.map fun e =>
      "  " ++ Table.left width e.typed ++ "  " ++ e.about ++ "\n")

/-- The whole help. -/
def text : String :=
  "Memory-protection overhead benchmarks - native vs. wasm-lowered executables\n\n"
    ++ "Usage: membench [OPTIONS] <COMMAND>\n\n"
    ++ Text.join "\n"
      [group "Commands" (CommandName.all.map ofCommand ++ [⟨"help", "Print this message"⟩]),
        group "Options" ((Opt.everywhere ++ [Opt.version]).map ofOpt),
        group "Options of run, build and list" (Opt.ofSuiteAndHost.map ofOpt),
        group "Options of run and build" (Opt.ofTools.map ofOpt),
        group "Options of run" (Opt.ofBench.map ofOpt)]

end GuardCost.Cli.Help
