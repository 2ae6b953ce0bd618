import XmlTemplate.Command.Arguments

/-!
# What the program says about itself

The answers to requests that are not runs, and the texts of usage errors.
-/

namespace XmlTemplate.Command

/-- The name of the program and its version. -/
def versionText : String := "confpp 0.1.0\n"

/-- The description of the command line. -/
def helpText : String := String.intercalate "\n" [
  "Expand preprocessor directives in XML configuration files",
  "",
  "Usage: confpp [OPTIONS] [INPUT]",
  "",
  "Arguments:",
  "  [INPUT]  Input document; `-` or nothing reads standard input",
  "",
  "Options:",
  "  -o, --output <FILE>        Write the result here instead of standard output",
  "  -D, --define <NAME=VALUE>  Predefine a text symbol",
  "      --namespace <URI>      Namespace URI of directive elements [default: urn:confpp:preprocessor]",
  "      --preserve-whitespace  Keep whitespace-only text nodes",
  "      --indent <N>           Indent output by N spaces per level",
  "      --no-declaration       Omit the XML declaration",
  "      --max-depth <N>        [default: 256]",
  "      --max-iterations <N>   [default: 100000]",
  "  -v, --verbose...           Increase log verbosity (-v debug, -vv trace)",
  "  -h, --help                 Print help",
  "  -V, --version              Print version",
  ""]

namespace UsageError

/-- The text of a usage error, empty if a description was asked for. -/
def message : UsageError → String
  | invalidValue => "error: invalid value for an option"
  | missingValue => "error: a value is required for an option"
  | unknownArgument => "error: unexpected argument"
  | repeated => "error: an option cannot be used multiple times"
  | unexpectedValue => "error: unexpected value for an option"
  | help | version => ""

/-- The description that was asked for, if it is not an error. -/
def answer? : UsageError → Option String
  | help => some helpText
  | version => some versionText
  | _ => none

end UsageError

end XmlTemplate.Command
