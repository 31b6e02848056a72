import AnnotatedSql.Cli.Arguments

/-!
What the program says about itself.
-/
namespace AnnotatedSql.Cli

def versionText : Topic → String
  | .program => "sqltyped 0.1.0\n"
  | .compile => "sqltyped-compile 0.1.0\n"
  | .schema => "sqltyped-schema 0.1.0\n"

def helpLines : Topic → List String
  | .program => [
    "Compile annotated SQL queries into a typed IR",
    "",
    "Usage: sqltyped [OPTIONS] <COMMAND>",
    "",
    "Commands:",
    "  compile  Compile query files against schema definitions",
    "  schema   Display schema information",
    "  parse    Parse SQL and display AST (for debugging)",
    "  help     Print this message or the help of the given subcommand(s)",
    "",
    "Options:",
    "  -v, --verbose...  Enable verbose output (-v debug, -vv trace)",
    "  -q, --quiet       Suppress non-error output",
    "  -h, --help        Print help",
    "  -V, --version     Print version"]
  | .compile => [
    "Compile query files against schema definitions",
    "",
    "Usage: sqltyped compile [OPTIONS] [FILES]...",
    "",
    "Arguments:",
    "  [FILES]...",
    "          Query files to compile (supports glob patterns)",
    "",
    "Options:",
    "  -s, --schema <FILE>",
    "          Schema definition files",
    "",
    "  -v, --verbose...",
    "          Enable verbose output (-v debug, -vv trace)",
    "",
    "  -q, --quiet",
    "          Suppress non-error output",
    "",
    "      --schema-dir <DIR>",
    "          Directory containing schema files",
    "",
    "  -d, --dialect <DIALECT>",
    "          SQL dialect",
    "",
    "  -f, --format <FORMAT>",
    "          Output format",
    "",
    "          Possible values:",
    "          - human: Human-readable output with colors",
    "          - json:  JSON output",
    "",
    "  -c, --config <FILE>",
    "          Configuration file (defaults to sqltyped.toml in this or a parent directory)",
    "",
    "          [env: SQLTYPED_CONFIG=]",
    "",
    "      --positional-parameters <POSITIONAL_PARAMETERS>",
    "          Emit \x60?\x60 placeholders instead of \x60$N\x60",
    "",
    "          [possible values: true, false]",
    "",
    "  -h, --help",
    "          Print help (see a summary with '-h')",
    "",
    "  -V, --version",
    "          Print version"]
  | .schema => [
    "Display schema information",
    "",
    "Usage: sqltyped schema [OPTIONS] <FILES>...",
    "",
    "Arguments:",
    "  <FILES>...  Schema definition files",
    "",
    "Options:",
    "  -d, --dialect <DIALECT>  SQL dialect [default: postgresql]",
    "  -v, --verbose...         Enable verbose output (-v debug, -vv trace)",
    "      --json               Print the catalog as JSON",
    "  -q, --quiet              Suppress non-error output",
    "  -h, --help               Print help",
    "  -V, --version            Print version"]

def helpText (topic : Topic) : String :=
  String.join ((helpLines topic).map (· ++ "\n"))

end AnnotatedSql.Cli
