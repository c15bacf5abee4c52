/-
Hints for the user: what to try after an error with a known wording.
-/

import Tabulation.Pattern.Parser

namespace Tabulation.Cli

/-- The hint for an error message, or the empty text. -/
def hintFor (message : String) : String :=
  if Pattern.matchesText "(could not|cannot) load program" message then
    if Pattern.matchesText "named files must be \\.go files: -(\\w)" message then
      "all command line flags should be before the packages to analyze"
    else if Pattern.matchesText "invalid program|could not unmarshal program" message then
      "check the program file: every class, method and instruction must be well formed"
    else
      "make sure the path or URL leads to a program file, or that the patterns match Go packages"
  else if Pattern.matchesText "no entry point to analyze" message then
    "name the entry points with --entry, or define a main method or a source in the config"
  else ""

end Tabulation.Cli
