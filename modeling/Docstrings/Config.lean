/-
Docstrings/Config.lean

What one extraction is asked to do: which file to read, which file to write, and
how much to tell about it.
-/
import Docstrings.Files.Path
import Docstrings.Text.Quoted

namespace Docstrings

/-- The request for one extraction. -/
structure Config where
  /-- The file to extract docstrings from. -/
  filePath : Path
  /-- The file to save the report in. -/
  outputFile : Path
  /-- Whether to tell more about the work than usual. -/
  verbose : Bool
  deriving DecidableEq

/-- The configuration on one line, with its paths quoted. -/
def Config.description (c : Config) : String :=
  "ExtractConfig \x7b file_path: " ++ Text.quoted c.filePath
    ++ ", output_file: " ++ Text.quoted c.outputFile
    ++ ", verbose: " ++ (if c.verbose then "true" else "false") ++ " \x7d"

end Docstrings
