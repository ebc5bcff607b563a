import StaticServer.Interpreter.Operation
import StaticServer.Main
import StaticServer.Program.Trace
import StaticServer.Proofs.CommandLine.Overrides
import StaticServer.Proofs.FileTree.Below
import StaticServer.Proofs.Interpreter.Identity
import StaticServer.Proofs.Program.Ending
import StaticServer.Proofs.Program.LogLevel
import StaticServer.Proofs.Program.Revalidation
import StaticServer.Proofs.Program.Startup
import StaticServer.Proofs.Settings.Agreement
import StaticServer.Proofs.Settings.Numeral
import StaticServer.Proofs.Settings.Port
import StaticServer.Proofs.Settings.Selection
import StaticServer.Proofs.Settings.Writing
import StaticServer.Proofs.Site.Files
import StaticServer.Proofs.Site.Headers
import StaticServer.Proofs.Site.ListingLinks
import StaticServer.Proofs.Site.ListingOrder
import StaticServer.Proofs.Site.ListingPage
import StaticServer.Proofs.Site.Method
import StaticServer.Proofs.Site.Missing
import StaticServer.Proofs.Site.Partial
import StaticServer.Proofs.Site.Return
import StaticServer.Settings.Record
import StaticServer.Text.Markup
