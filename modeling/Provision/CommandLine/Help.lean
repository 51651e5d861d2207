import Provision.CommandLine.Refusal

namespace Provision.CommandLine

def padTo (width : Nat) (s : String) : String :=
  s ++ String.ofList (List.replicate (width - s.length) ' ')

def Subcommand.about : Subcommand → String
  | build => "Install native dependencies, fetch libtorch and build the server"
  | protos => "Generate Python gRPC client stubs from the proto definitions"
  | env => "Print shell exports for LIBTORCH, LD_LIBRARY_PATH and PATH"
  | doctor => "Report whether the host and workspace are ready for a build"

namespace Topic

def about : Topic → String
  | program => "Bootstrap and stub generation helpers for the BastionAI workspace"
  | subcommand s => s.about
  | help => "Print this message or the help of the given subcommand(s)"

def usage : Topic → String
  | program => programName ++ " [OPTIONS] <COMMAND>"
  | subcommand s => programName ++ " " ++ s.name ++ " [OPTIONS]"
  | help => programName ++ " help [COMMAND]..."

def options : Topic → List Meaning
  | program => [.flag .json, .setting .root, .setting .config, .setting .hostRoot, .verbose, .help,
      .version]
  | subcommand .build => [.flag .json, .setting .variant, .flag .dryRun, .setting .root,
      .setting .config, .setting .hostRoot, .verbose, .help]
  | subcommand .protos => [.setting .compiler, .flag .json, .flag .dryRun, .setting .root,
      .setting .config, .setting .hostRoot, .verbose, .help]
  | subcommand _ => [.flag .json, .setting .root, .setting .config, .setting .hostRoot, .verbose,
      .help]
  | help => []

/-- What an option is for; `hostRoot` is the value that its variable has now. -/
def describe (topic : Topic) (hostRoot : String) : Meaning → String
  | .flag .json => "Output machine-readable JSON"
  | .flag .dryRun =>
    if topic = subcommand .protos then "Print the compiler invocations without running them"
    else "Print the command plan without running it"
  | .setting .root => "Project root containing server/, client/ and protos/ [default: .]"
  | .setting .config => "Config file (defaults to <root>/bastion-dev.toml when present)"
  | .setting .hostRoot =>
    "Filesystem root used to look up distro marker files [env: BASTION_DEV_HOST_ROOT=" ++
      hostRoot ++ "] [default: /]"
  | .setting .variant => "[possible values: cpu, cuda]"
  | .setting .compiler => "Compiler command line (whitespace separated)"
  | .verbose => "Increase log verbosity"
  | .help => "Print help"
  | .version => "Print version"

/-- Moves all lines but the first to the right. -/
def indented (width : Nat) (s : String) : String :=
  String.intercalate ("\n" ++ padTo width "") (s.splitOn "\n")

def descriptionColumn : Nat := 31

def optionLine (topic : Topic) (hostRoot : String) (m : Meaning) : String :=
  let letter := match m.letter? with
    | some c => Text.strong (String.ofList ['-', c]) ++ ", "
    | none => "    "
  "  " ++ letter ++ Text.strong m.shown ++ padTo (descriptionColumn - 6 - m.shown.length) "" ++
    indented descriptionColumn (topic.describe hostRoot m) ++ "\n"

def commandLine (name about : String) : String := "  " ++ padTo 8 name ++ about ++ "\n"

def commandSection : Topic → String
  | program => "\nCommands:\n" ++
      String.join (Subcommand.all.map (fun s => commandLine s.name s.about)) ++
      commandLine "help" help.about
  | subcommand _ => ""
  | help => "\nArguments:\n  [COMMAND]...  Print help for the subcommand(s)\n"

def optionSection (topic : Topic) (hostRoot : String) : String :=
  match topic.options with
  | [] => ""
  | options => "\nOptions:\n" ++ String.join (options.map (topic.optionLine hostRoot))

def text (topic : Topic) (hostRoot : String) : String :=
  Text.visible <| topic.about ++ "\n\nUsage: " ++ topic.usage ++ "\n" ++ topic.commandSection ++
    topic.optionSection hostRoot

end Topic

def versionText : String := programName ++ " 0.1.0\n"

namespace Refusal

def output (hostRoot : String) : Refusal → String
  | helpWanted topic => topic.text hostRoot
  | versionWanted => versionText
  | _ => ""

def complaint (hostRoot : String) (r : Refusal) : String :=
  match r, r.message? with
  | nothingGiven, _ => Topic.program.text hostRoot
  | _, some message => message ++ "\n\nFor more information, try '--help'.\n"
  | _, none => ""

end Refusal
end Provision.CommandLine
