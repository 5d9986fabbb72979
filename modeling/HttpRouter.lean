import HttpRouter.Apps.Orders
import HttpRouter.Apps.Shelves
import HttpRouter.Apps.Site
import HttpRouter.Connection
import HttpRouter.ErrorPage
import HttpRouter.Listener
import HttpRouter.Main
import HttpRouter.Proofs.Decision
import HttpRouter.Proofs.Composition
import HttpRouter.Proofs.Funnel
import HttpRouter.Proofs.NormalForm
import HttpRouter.Proofs.Compilation
import HttpRouter.Proofs.Scopes
import HttpRouter.Proofs.JoinedPaths
import HttpRouter.Proofs.BuilderRuns
import HttpRouter.Proofs.ReverseRouting
import HttpRouter.Proofs.RouteSets
import HttpRouter.Proofs.NamedValues
import HttpRouter.Proofs.Attachments
import HttpRouter.Proofs.Nesting
import HttpRouter.Proofs.Snapshots
import HttpRouter.Proofs.Commitment
import HttpRouter.Proofs.Neutrality
import HttpRouter.Proofs.Grammar
import HttpRouter.Proofs.Extraction
import HttpRouter.Proofs.EscapedSeparators
import HttpRouter.Proofs.Spellings
import HttpRouter.Proofs.ScopeRoutes
import HttpRouter.Proofs.StaticRoutes
import HttpRouter.Proofs.Disjointness
import HttpRouter.Proofs.WellFormedness
import HttpRouter.Proofs.Queries
import HttpRouter.Proofs.EventTrail
import HttpRouter.Proofs.Histories
import HttpRouter.Proofs.Merging
