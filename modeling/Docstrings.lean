import Docstrings.Main
import Docstrings.Proofs.Scan.Pairing
import Docstrings.Proofs.Scan.Image
import Docstrings.Proofs.Scan.Composition
import Docstrings.Proofs.Scan.Layout
import Docstrings.Proofs.Markdown.Rescan
import Docstrings.Proofs.Markdown.Fences
import Docstrings.Proofs.Extraction.Series
import Docstrings.Proofs.Extraction.Provenance
import Docstrings.Proofs.Extraction.Scanning
import Docstrings.Proofs.Program.Endings
import Docstrings.Proofs.Program.Verbosity
import Docstrings.Proofs.CommandLine.Requests
import Docstrings.Proofs.CommandLine.Requirement
import Docstrings.Proofs.Log.Thresholds
import Docstrings.Proofs.Files.Entries
import Docstrings.Proofs.Scan.Extent
import Docstrings.Proofs.Extraction.Saving
import Docstrings.Proofs.Extraction.Independence
import Docstrings.Proofs.Extraction.Account
import Docstrings.Proofs.Text.Quoted
import Docstrings.Proofs.Extraction.Description
