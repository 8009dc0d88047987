import AttributePrinter.Config.Document
import AttributePrinter.Main
import AttributePrinter.Proofs.Writing
import AttributePrinter.Proofs.Replaying
import AttributePrinter.Proofs.Reading
import AttributePrinter.Proofs.Printing
import AttributePrinter.Proofs.Retrieving
import AttributePrinter.Proofs.Ending
import AttributePrinter.Proofs.Fields
import AttributePrinter.Proofs.Overriding
import AttributePrinter.Proofs.Querying
import AttributePrinter.Proofs.Reusing
import AttributePrinter.Proofs.Retaining
import AttributePrinter.Proofs.Locations
import AttributePrinter.Proofs.Remembering
import AttributePrinter.Proofs.Commuting
import AttributePrinter.Proofs.Parsing
import AttributePrinter.Proofs.Loading
import AttributePrinter.Proofs.FinalLinks
import AttributePrinter.Proofs.Rationing
import AttributePrinter.Proofs.WholeTexts
import AttributePrinter.Proofs.Capacities
import AttributePrinter.Proofs.Policies
import AttributePrinter.Proofs.Documents
import AttributePrinter.Proofs.Resuming
import AttributePrinter.Proofs.Silence
import AttributePrinter.Proofs.Arguments
import AttributePrinter.Proofs.Cutting
import AttributePrinter.Proofs.Failing
import AttributePrinter.Proofs.Reporting
