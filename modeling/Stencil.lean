import Stencil.Main
import Stencil.Modifier.Description
import Stencil.Proofs.Template.EscapeUnits
import Stencil.Proofs.Template.KeywordGrammar
import Stencil.Proofs.Template.SinglePass
import Stencil.Proofs.Template.EscapeRoundTrip
import Stencil.Proofs.Regex.Reading
import Stencil.Proofs.Template.KeywordReading
import Stencil.Proofs.Regex.Denotation
import Stencil.Proofs.Regex.Compiling
import Stencil.Proofs.Regex.Meaning
import Stencil.Proofs.Regex.Closure
import Stencil.Proofs.Regex.Searching
import Stencil.Proofs.Template.KeywordSearch
import Stencil.Proofs.Modifier.Changes
import Stencil.Proofs.Modifier.Nesting
import Stencil.Proofs.Template.Chains
import Stencil.Proofs.Template.Concatenation
import Stencil.Proofs.Template.WriteLog
import Stencil.Proofs.Modifier.Finishing
import Stencil.Proofs.Data.FiniteMap
import Stencil.Proofs.Modifier.Writes
import Stencil.Proofs.Unicode.Uppercase
import Stencil.Proofs.Template.EntryPoints
import Stencil.Proofs.Template.Folding
import Stencil.Proofs.CommandLine.Inputs
import Stencil.Proofs.Unicode.Lowercase
import Stencil.Proofs.Modifier.ListedNames
import Stencil.Proofs.Files.Access
import Stencil.Proofs.Template.Renaming
import Stencil.Proofs.Template.TableContents
import Stencil.Proofs.Template.Merging
import Stencil.Proofs.CommandLine.Reading
import Stencil.Proofs.CommandLine.WithoutOutput
import Stencil.Proofs.CommandLine.Precedence
import Stencil.Proofs.CommandLine.Settings
import Stencil.Proofs.CommandLine.AllOrNothing
import Stencil.Proofs.Template.Validation
import Stencil.Proofs.Text.CssName
import Stencil.Proofs.Modifier.LineLimit
import Stencil.Proofs.Modifier.Truncation
import Stencil.Proofs.Modifier.Composites
import Stencil.Proofs.Modifier.PassingThrough
import Stencil.Proofs.Modifier.Stripping
import Stencil.Proofs.Text.FormEncoding
import Stencil.Proofs.Modifier.DateFormats
import Stencil.Proofs.Template.KeyCase
import Stencil.Proofs.Text.SentenceStarts
import Stencil.Proofs.Modifier.IntegerArithmetic
import Stencil.Proofs.Value.ComputedNumbers
import Stencil.Proofs.Modifier.IntegerComparison
import Stencil.Proofs.Template.SplitParts
import Stencil.Proofs.CommandLine.Settings
