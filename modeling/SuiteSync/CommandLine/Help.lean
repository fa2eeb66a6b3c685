import SuiteSync.CommandLine.Basic

set_option autoImplicit false

namespace SuiteSync.CommandLine

def page (lines : List String) : String := String.join (lines.map fun line => line ++ "\n")

def Name.about : Name → String
  | .sync => "Download upstream tests and rewrite them into the download directory"
  | .adapt => "Rewrite a local copy of an upstream file without downloading"
  | .check => "Validate the config file without downloading"
  | .verify => "Compare the download directory with a fresh rewrite of upstream"

def table (rows : List (String × String)) : List String :=
  let width := (rows.map fun row => row.1.length).foldl max 0
  rows.map fun (term, meaning) => "  " ++ term ++ String.ofList (List.replicate (width - term.length) ' ') ++ "  " ++ meaning

def configMeaning (environment : Option String) : String :=
  "Path to the config file [env: TESTSYNC_CONFIG=" ++ environment.getD "" ++ "] [default: testsync.toml]"

def configRow (environment : Option String) : String × String := ("-c, --config <CONFIG>", configMeaning environment)

def verboseRow : String × String := ("-v, --verbose...", "Enable verbose output (-v for info, -vv for debug)")

def endRows : List (String × String) :=
  [("-q, --quiet", "Suppress all output except errors"), ("-h, --help", "Print help"),
   ("-V, --version", "Print version")]

def parallelRow : String × String := ("-p, --parallel <PARALLEL>", "Number of files fetched concurrently [default: 1]")

def optionRows (environment : Option String) : Option Name → List (String × String)
  | none | some .check => [configRow environment, verboseRow] ++ endRows
  | some .sync =>
      [configRow environment, parallelRow,
       ("    --tag <TAG>", "Upstream tag to sync instead of the configured one"), verboseRow] ++ endRows
  | some .verify =>
      [configRow environment, parallelRow,
       ("    --tag <TAG>", "Upstream tag to compare against (defaults to the synced one)"), verboseRow] ++ endRows
  | some .adapt =>
      [configRow environment,
       ("    --name <NAME>",
        "Upstream file name to use for exclusions and the header (defaults to the file's name)"),
       ("    --tag <TAG>", "Upstream tag named in the header (defaults to the configured one)"), verboseRow,
       ("-o, --output <OUTPUT>", "Write to this path instead of stdout")] ++ endRows

def programAbout : String := "Keep a local copy of an upstream test suite in sync, rewritten for a local harness"

def helpAbout : String := "Print this message or the help of the given subcommand(s)"

def commandUsage : Name → List String
  | .adapt =>
      ["Usage: testsync rewrite [OPTIONS] <FILE>", "", "Arguments:", "  <FILE>  File to rewrite", ""]
  | name => ["Usage: testsync " ++ name.text ++ " [OPTIONS]", ""]

def Page.text (environment : Option String) : Page → String
  | .program =>
      page ([programAbout, "", "Usage: testsync [OPTIONS] [COMMAND]", "", "Commands:"] ++
        table ((Name.all.map fun name => (name.text, name.about)) ++ [("help", helpAbout)]) ++
        ["", "Options:"] ++ table (optionRows environment none))
  | .command name =>
      page ([name.about, ""] ++ commandUsage name ++ ["Options:"] ++ table (optionRows environment (some name)))
  | .help =>
      page [helpAbout, "", "Usage: testsync help [COMMAND]...", "", "Arguments:",
        "  [COMMAND]...  Print help for the subcommand(s)"]

def versionLine : Option Name → String
  | none => "testsync 0.1.0\n"
  | some name => "testsync-" ++ name.text ++ " 0.1.0\n"

end SuiteSync.CommandLine
