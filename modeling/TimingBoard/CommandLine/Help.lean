import TimingBoard.CommandLine.Arguments

namespace TimingBoard.CommandLine

/-! What the command line says about itself. -/

def programName : String := "ptviz"

def versionText : String := programName ++ " 0.1.0\n"

def usageLine : String := "Usage: " ++ programName ++ " [OPTIONS]\n"

def helpText : String :=
  "Live terminal dashboard for processing time trees\n\n" ++ usageLine ++
  "\nOptions:\n" ++
  "  -t, --topic <TOPIC>          Specify the topic name to subscribe to\n" ++
  "  -w, --waiting-sec <SECONDS>  Waiting time for topic discovery [default: 1.0]\n" ++
  "  -d, --source-dir <DIR>       Directory whose *.jsonl files are the available topics [default: .]\n" ++
  "  -i, --interval-ms <MS>       Screen refresh interval in milliseconds [default: 100]\n" ++
  "      --no-total               Do not accumulate or print the total processing time tree\n" ++
  "      --node-name <NAME>       Name of this visualizer instance (default: generated from the process id)\n" ++
  "      --log-file <PATH>        Write logs to this file while the dashboard is running\n" ++
  "  -h, --help                   Print help\n" ++
  "  -V, --version                Print version\n\n" ++
  "KEYS:\n" ++
  "    c    Toggle comment visibility\n" ++
  "    s    Toggle summarized view\n" ++
  "    y    Copy the current view to the clipboard\n" ++
  "    q    Quit and print the report\n" ++
  "    r    Quit, print the report and copy worst cases as JSON\n"

def Stop.text : Stop → String
  | .help => helpText
  | .version => versionText
  | .unknown => "error: unexpected argument found\n\n" ++ usageLine
  | .missingValue => "error: a value is required but none was supplied\n\n" ++ usageLine
  | .malformedValue => "error: invalid value\n\n" ++ usageLine
  | .repeated => "error: an argument cannot be used multiple times\n\n" ++ usageLine
  | .unexpectedValue => "error: unexpected value found\n\n" ++ usageLine

end TimingBoard.CommandLine
