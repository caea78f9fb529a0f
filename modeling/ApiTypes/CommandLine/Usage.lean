import ApiTypes.CommandLine.Options

/-!
# Usage of the command line

The texts that tell how the program is called.
-/

namespace ApiTypes.CommandLine

def programName : Text := "ts-oas-generator"

def ofLines (lines : List String) : Text :=
  lines.flatMap fun line => Text.ofString line ++ "\n"

def usage : Text :=
  ofLines
    ["usage: ts-oas-generator [-h] (--file SPEC_FILE | --url URL | --stdin)",
      "                        [--auth-user AUTH_USER]",
      "                        [--auth-password AUTH_PASSWORD] [--write OUTPUT_FILE]",
      "                        [--skip-empty-types] [--skip-type-name NAME]",
      "                        [--verbose]"]

/-- The summary with an explanation of each option. -/
def help : Text :=
  usage ++
    ofLines
      ["",
        "Generate TypeScript type declarations from a Swagger 2.0 or OpenAPI 3.0 specification",
        "",
        "options:",
        "  -h, --help            show this help message and exit",
        "  --file SPEC_FILE      The Swagger/OpenAPI file to parse (JSON or YAML)",
        "  --url URL             The URL to the Swagger/OpenAPI file. Must be a URL to",
        "                        a JSON/YAML resource",
        "  --stdin               Read the specification from standard input",
        "  --auth-user AUTH_USER",
        "                        Username for HTTP basic authentication when using",
        "                        --url",
        "  --auth-password AUTH_PASSWORD",
        "                        Password for HTTP basic authentication when using",
        "                        --url",
        "  --write OUTPUT_FILE   The destination file to write to (default: stdout)",
        "  --skip-empty-types    Skip empty types; some linters reject empty object",
        "                        types",
        "  --skip-type-name NAME",
        "                        Skip types with the given name. Useful when the",
        "                        specification shadows implicitly available types. May",
        "                        be given multiple times",
        "  --verbose, -v         Enable verbose output",
        "",
        "Examples:",
        "  ts-oas-generator --file petstore.yaml",
        "  ts-oas-generator --url https://example.com/openapi.json --auth-user me --auth-password secret",
        "  cat spec.json | ts-oas-generator --stdin --skip-empty-types --write types.ts",
        "  ts-oas-generator --file spec.yaml --skip-type-name Date --skip-type-name Error",
        "        "]

/-- The report of arguments that cannot be used. -/
def usageReport (fault : UsageFault) : Text :=
  usage ++ programName ++ ": error: " ++ fault.message ++ "\n"

end ApiTypes.CommandLine
