import CatalogSync.Daemon.CommandLine

/-!
# Help

What a person is told who asks how the program is called, or who calls it wrongly. Help that was
asked for is output and the process succeeds; everything else is an error.
-/

namespace CatalogSync

def programName : String := "etl-daemon"

def versionText : String := programName ++ " 0.3.0\n"

/-- Terms and what they mean, a line for each, with the meanings below each other. -/
def glossary (title : String) (entries : List (String × String)) : String :=
  let width := (entries.map (·.1.length)).foldl max 0
  let line (e : String × String) : String :=
    "  " ++ e.1.pushn ' ' (width - e.1.length) ++ "  " ++ e.2 ++ "\n"
  "\n" ++ title ++ ":\n" ++ String.join (entries.map line)

/-- The flags of the help, with what they do. -/
def flagMeaning : CommandLine.Flag → String × String
  | .config => ("-c, --config <CONFIG>",
      "Path to config file (overrides default ~/.config/movies-etl/config.toml)")
  | .logLevel => ("-l, --log-level <LOG_LEVEL>",
      "Set log level (trace, debug, info, warn, error)")
  | .once => ("    --once", "Run a single cycle and exit")
  | .help => ("-h, --help", "Print help")
  | .version => ("-V, --version", "Print version")

namespace HelpTopic

/-- What a topic is about, in a line. -/
def about : HelpTopic → String
  | program => "Movies ETL daemon"
  | run => "Pre-check, then run pipelines every cycle until stopped"
  | check => "Check source and destination readiness and exit"
  | cursors => "Print the persisted cursor of every stream as JSON"
  | help => "Print this message or the help of the given subcommand(s)"

/-- The arguments a topic is called with. -/
def usage : HelpTopic → String
  | program => "[OPTIONS] <COMMAND>"
  | help => "help [COMMAND]..."
  | topic => topic.name ++ " [OPTIONS]"

/-- Everything that can be said behind the program or the command. -/
def details : HelpTopic → String
  | program =>
    glossary "Commands" (commands.map fun topic => (topic.name, topic.about)) ++
      glossary "Options" (CommandLine.topFlags.map flagMeaning)
  | run => glossary "Options" ([.config, .once, .logLevel, .help].map flagMeaning)
  | help => glossary "Arguments" [("[COMMAND]...", "Print help for the subcommand(s)")]
  | _ => glossary "Options" ([.config, .logLevel, .help].map flagMeaning)

def text (topic : HelpTopic) : String :=
  topic.about ++ "\n\nUsage: " ++ programName ++ " " ++ topic.usage ++ "\n" ++ topic.details

end HelpTopic

namespace UsageError

def message : UsageError → String
  | displayHelp topic => topic.text
  | displayVersion => versionText
  | displayHelpOnMissing => HelpTopic.program.text
  | missingCommand => "error: a command is missing\n"
  | invalidCommand => "error: there is no such command\n"
  | unknownArgument => "error: an argument was not expected\n"
  | invalidValue => "error: an option lacks its value\n"
  | tooManyValues => "error: a flag takes no value\n"
  | conflict => "error: an option is given twice\n"

/-- The code a process ends with when its arguments are no invocation. -/
def exitCode : UsageError → Nat
  | displayHelp _ => 0
  | displayVersion => 0
  | _ => 2

/-- What goes to the output and what to the errors. -/
def output (e : UsageError) : String × String :=
  if e.exitCode = 0 then (e.message, "") else ("", e.message)

end UsageError

end CatalogSync
