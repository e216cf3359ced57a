import RunnableDocs.Main
import RunnableDocs.Proofs.Text.Lines
import RunnableDocs.Proofs.Text.Search
import RunnableDocs.Proofs.Declaration
import RunnableDocs.Proofs.Extraction
import RunnableDocs.Proofs.Coverage
import RunnableDocs.Proofs.Enclosure
import RunnableDocs.Proofs.Indentation
import RunnableDocs.Proofs.SourceLines
import RunnableDocs.Proofs.Batch
import RunnableDocs.Proofs.Layout
import RunnableDocs.Proofs.RoundTrip
import RunnableDocs.Proofs.Verbatim
import RunnableDocs.Proofs.ParseFault
import RunnableDocs.Proofs.Failing
import RunnableDocs.Proofs.Dispatch
import RunnableDocs.Proofs.Place
import RunnableDocs.Proofs.Tree
import RunnableDocs.Proofs.Entering
import RunnableDocs.Proofs.Sparing
import RunnableDocs.Proofs.Guards
import RunnableDocs.Proofs.Cut
import RunnableDocs.Proofs.WholeText
import RunnableDocs.Proofs.Section
import RunnableDocs.Proofs.Alike
import RunnableDocs.Proofs.Surroundings
import RunnableDocs.Proofs.LineEndings
import RunnableDocs.Proofs.Child
import RunnableDocs.Proofs.FileNames
import RunnableDocs.Proofs.MaximalRuns
import RunnableDocs.Proofs.Groups
import RunnableDocs.Proofs.ExitCode
import RunnableDocs.Proofs.Loading
import RunnableDocs.Proofs.Stopping
import RunnableDocs.Proofs.Endings
import RunnableDocs.Proofs.LongestMatch
import RunnableDocs.Proofs.MoreExtensions
import RunnableDocs.Proofs.Telling
import RunnableDocs.Proofs.Moving
import RunnableDocs.Proofs.DocFileSearch
import RunnableDocs.Proofs.Acceptance
import RunnableDocs.Proofs.Text.Trim
import RunnableDocs.Proofs.Verification
