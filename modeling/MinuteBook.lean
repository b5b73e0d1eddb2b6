import MinuteBook.Proofs.Accounting
import MinuteBook.Proofs.BadData
import MinuteBook.Proofs.Catalogue.Defects
import MinuteBook.Proofs.Catalogue.Firsts
import MinuteBook.Proofs.Catalogue.Loaded
import MinuteBook.Proofs.Distinct
import MinuteBook.Proofs.EntityAnswers
import MinuteBook.Proofs.EntityFile
import MinuteBook.Proofs.Failure
import MinuteBook.Proofs.Form.Conditions
import MinuteBook.Proofs.Form.Defaults
import MinuteBook.Proofs.Form.Definition
import MinuteBook.Proofs.Form.Hidden
import MinuteBook.Proofs.Form.OnOrAfter
import MinuteBook.Proofs.Loading
import MinuteBook.Proofs.Markup.Composition
import MinuteBook.Proofs.Markup.Cuts
import MinuteBook.Proofs.Markup.Finished
import MinuteBook.Proofs.Markup.Repair
import MinuteBook.Proofs.Number.Whole
import MinuteBook.Proofs.OwnCounter
import MinuteBook.Proofs.PlainPatterns
import MinuteBook.Proofs.Printing.Amounts
import MinuteBook.Proofs.Printing.Years
import MinuteBook.Proofs.Register.Merging
import MinuteBook.Proofs.ReservedKeys
import MinuteBook.Proofs.SaveOutcome
import MinuteBook.Proofs.Store.Paths
import MinuteBook.Service
