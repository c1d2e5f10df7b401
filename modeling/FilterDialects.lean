import FilterDialects.Dialect.Json
import FilterDialects.Engine.Operation
import FilterDialects.Proofs.ArgumentList.Language
import FilterDialects.Proofs.Conversion.Expansion
import FilterDialects.Proofs.Conversion.RedirectPriority
import FilterDialects.Proofs.Conversion.RedirectToAdg
import FilterDialects.Proofs.Conversion.ResourceNames
import FilterDialects.Proofs.Conversion.RoundTrip
import FilterDialects.Proofs.Conversion.SelectorCheck
import FilterDialects.Proofs.Conversion.SelectorPieces
import FilterDialects.Proofs.Conversion.ToAdg
import FilterDialects.Proofs.Conversion.Validity
import FilterDialects.Proofs.Engine.CheckedNames
import FilterDialects.Proofs.Registry.Collisions
import FilterDialects.Proofs.Scriptlet.Readers
import FilterDialects.Proofs.Scriptlet.Recognition
import FilterDialects.Proofs.Scriptlet.Statements
import FilterDialects.Proofs.Selector.Balance
import FilterDialects.Proofs.Table.Json
import FilterDialects.Proofs.Text.Sentence.Words
