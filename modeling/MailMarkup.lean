import MailMarkup.Assistant
import MailMarkup.Http.Service
import MailMarkup.Launch
import MailMarkup.Main
import MailMarkup.Proofs.BodyLimit
import MailMarkup.Proofs.BrokenLine
import MailMarkup.Proofs.Discovery
import MailMarkup.Proofs.Enclosed
import MailMarkup.Proofs.Fate
import MailMarkup.Proofs.Nesting
import MailMarkup.Proofs.OneLine
import MailMarkup.Proofs.Printed
import MailMarkup.Proofs.Repair
import MailMarkup.Proofs.SkippedLines
import MailMarkup.Proofs.Spelling
import MailMarkup.Proofs.Undecodable
import MailMarkup.Proofs.Unreadable
import MailMarkup.Proofs.AttributeList
import MailMarkup.Proofs.ClosingTag
import MailMarkup.Proofs.RgbFunction
import MailMarkup.Proofs.Tokens
import MailMarkup.Proofs.NameTail
import MailMarkup.Proofs.OpenValue
import MailMarkup.Proofs.Declarations
import MailMarkup.Proofs.BareColor
import MailMarkup.Proofs.FirstBest
import MailMarkup.Proofs.ColorGrammar
import MailMarkup.Proofs.ColorText
import MailMarkup.Proofs.AttributeSite
import MailMarkup.Proofs.NestedColor
import MailMarkup.Proofs.MissingHash
import MailMarkup.Proofs.ReadBack
