import TimeServer.CommandLine.Reader

/-! # What the program says of its command line

* `CommandLine.usage` — the arguments that it takes;
* `ArgumentError.message` — why arguments are not carried out.
-/

namespace TimeServer

namespace CommandLine

def programName : String := "simple-utcd"

def version : String := programName ++ " 0.1.0"

def usage : String :=
  String.join [
    "Time Protocol server\n\n",
    s!"Usage: {programName} [OPTIONS] [COMMAND]\n\n",
    "Commands:\n",
    "  start               Run the server (usual)\n",
    "  validate            Check the configuration\n",
    "  init-config <PATH>  Write a configuration file\n",
    "  help [COMMAND]      Print this text\n\n",
    "Options:\n",
    "  -c, --config <FILE>       Configuration file\n",
    "  -l, --listen <ADDRESS>    Address to listen on\n",
    "  -p, --port <PORT>         Port to listen on\n",
    "  -w, --workers <COUNT>     Number of workers\n",
    "      --log-level <LEVEL>   error, warn, info, debug, trace or off\n",
    "  -h, --help                Print this text\n",
    "  -V, --version             Print the version\n"]

end CommandLine

def ArgumentError.message : ArgumentError → String
  | unknownArgument => "unexpected argument"
  | invalidSubcommand => "unrecognized subcommand"
  | invalidValue => "a value is missing or empty"
  | badNumber => "a value is no number in range"
  | missingArgument => "a required argument is missing"
  | conflict => "an option cannot be used twice"
  | unwantedValue => "an option takes no value"
  | helpRequested => "help was asked for"
  | versionRequested => "the version was asked for"

end TimeServer
