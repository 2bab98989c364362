import Dbmail.Auth.AccountGate
import Dbmail.Auth.Cidr
import Dbmail.Imap.Selection
import Dbmail.Imap.StatusLine
import Dbmail.Imap.Namespaces
import Dbmail.Imap.Grants
import Dbmail.Imap.SetAcl
import Dbmail.Imap.BodyFetch
import Dbmail.Imap.PartSpec
import Dbmail.Client.Output
import Dbmail.Mailbox.SearchShape
import Dbmail.Mailbox.StoreCache
import Dbmail.Mailbox.Examine
import Dbmail.Mailbox.Select
import Dbmail.Mailbox.StateCache
import Dbmail.Mailbox.QresyncSelect
import Dbmail.Mailbox.Expunge
import Dbmail.Mailbox.Numbering
import Dbmail.Mailbox.Slices
import Dbmail.Delivery.Isolation
import Dbmail.Delivery.ImplicitKeep
import Dbmail.Delivery.CopyQuota
import Dbmail.Delivery.StoreParts
import Dbmail.Delivery.ShellEscape
import Dbmail.Delivery.ReplyCache
import Dbmail.Delivery.Quota
import Dbmail.Pop3.Framing
import Dbmail.Sieve.Session
import Dbmail.Http.Requests
import Dbmail.Lmtp.Data
import Dbmail.Util.DryRun
