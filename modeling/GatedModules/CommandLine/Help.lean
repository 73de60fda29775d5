import GatedModules.CommandLine.Invocation

/-!
# Help texts
-/

namespace GatedModules.Page

/-- The name of the program, and of the command if the page is that of one. -/
def title : Page → String
  | .program => "buildplan"
  | .resolve => "buildplan resolve"
  | .modules => "buildplan modules"
  | .samples => "buildplan samples"

/-- The lines that show how a command is called. -/
def usage : Page → List String
  | .program => ["usage: buildplan [-h] [--version] \x7bresolve,modules,samples\x7d ..."]
  | .resolve => [
    "usage: buildplan resolve [-h] [-r REGISTRY | -s SAMPLE] [-t TARGET]",
    "                         [-p PLATFORM] [-a ARCH] [-c CONFIGURATION]",
    "                         [-f FEATURES] [--max-depth MAX_DEPTH]",
    "                         [--format \x7bjson,table\x7d] [-o OUTPUT] [-v]"]
  | .modules => ["usage: buildplan modules [-h] [-r REGISTRY | -s SAMPLE] [-v]"]
  | .samples => ["usage: buildplan samples [-h]"]

def sourceHelp : List String := [
  "  -h, --help            show this help message and exit",
  "  -r REGISTRY, --registry REGISTRY",
  "                        Module registry JSON file or directory of JSON files",
  "  -s SAMPLE, --sample SAMPLE",
  "                        Use a packaged sample project (see `buildplan",
  "                        samples`)"]

/-- The lines that tell about the options, below the usage. -/
def details : Page → List String
  | .program => [
    "buildplan - conditional module dependency resolver",
    "",
    "positional arguments:",
    "  \x7bresolve,modules,samples\x7d",
    "                        Command to run",
    "    resolve             Resolve a target into a build plan",
    "    modules             List the modules of a registry",
    "    samples             List packaged sample projects",
    "",
    "options:",
    "  -h, --help            show this help message and exit",
    "  --version             show program's version number and exit"]
  | .resolve => "options:" :: sourceHelp ++ [
    "  -t TARGET, --target TARGET",
    "                        Target descriptor JSON file (default: the sample's",
    "                        target)",
    "  -p PLATFORM, --platform PLATFORM",
    "                        Target platform, e.g. Win64, Linux, Mac, Android",
    "                        (default: host)",
    "  -a ARCH, --arch ARCH  Target architecture, e.g. x64, arm64 (default: host)",
    "  -c CONFIGURATION, --configuration CONFIGURATION",
    "                        Build configuration: Debug, Development, Shipping,",
    "                        Test (default: Development)",
    "  -f FEATURES, --feature FEATURES",
    "                        Enable a feature flag (repeatable)",
    "  --max-depth MAX_DEPTH",
    "                        Maximum dependency traversal depth (default:",
    "                        $BUILDPLAN_MAX_DEPTH or 256)",
    "  --format \x7bjson,table\x7d",
    "                        Output format when writing to stdout (default: json)",
    "  -o OUTPUT, --output OUTPUT",
    "                        Write the JSON plan to this file instead of stdout",
    "  -v, --verbose         Verbose output"]
  | .modules => "options:" :: sourceHelp ++ ["  -v, --verbose         Verbose output"]
  | .samples => [
    "options:",
    "  -h, --help  show this help message and exit"]

/-- The lines of the help text. -/
def help (page : Page) : List String := page.usage ++ [""] ++ page.details

end GatedModules.Page
