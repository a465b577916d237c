import RouteAtlas.Data.Fit
import RouteAtlas.Files.Disk
import RouteAtlas.Main
import RouteAtlas.Snapshot.Text
import RouteAtlas.Proofs.OpenApi.FirstWins
import RouteAtlas.Proofs.Text.Matches
import RouteAtlas.Proofs.Endpoint.Grouping
import RouteAtlas.Proofs.Inventory.Agreement
import RouteAtlas.Proofs.Params.Template
import RouteAtlas.Proofs.Inventory.Uniqueness
import RouteAtlas.Proofs.Params.BlockComment
import RouteAtlas.Proofs.Params.LineComment
import RouteAtlas.Proofs.Params.Access
import RouteAtlas.Proofs.Params.CommentedReads
import RouteAtlas.Proofs.Registry.Token
import RouteAtlas.Proofs.Registry.EscapedPattern
import RouteAtlas.Proofs.Docs.Installing
import RouteAtlas.Proofs.Registry.Mounting
import RouteAtlas.Proofs.Inventory.Reordering
import RouteAtlas.Proofs.Endpoint.Growth
import RouteAtlas.Proofs.Endpoint.StableGrouping
import RouteAtlas.Proofs.Endpoint.Enumeration
import RouteAtlas.Proofs.OpenApi.Declared
import RouteAtlas.Proofs.Inventory.Growth
import RouteAtlas.Proofs.Params.Placeholder
import RouteAtlas.Proofs.Inventory.PathParameters
import RouteAtlas.Proofs.Docs.Reserved
import RouteAtlas.Proofs.Inventory.SelfExclusion
import RouteAtlas.Proofs.Endpoint.Verbs
import RouteAtlas.Proofs.Endpoint.Reads
import RouteAtlas.Proofs.Inventory.SharedNames
import RouteAtlas.Proofs.Inventory.Links
import RouteAtlas.Proofs.Docs.Session
import RouteAtlas.Proofs.Sitemap.Page
import RouteAtlas.Proofs.Snapshot.RoundTrip
import RouteAtlas.Proofs.OpenApi.RoundTrip
import RouteAtlas.Proofs.Text.Finds
import RouteAtlas.Proofs.Params.CountedReads
import RouteAtlas.Proofs.Params.HandlerForm
import RouteAtlas.Proofs.Params.Layout
import RouteAtlas.Proofs.OpenApi.FirstOperation
import RouteAtlas.Proofs.Inventory.DeclaredOnce
import RouteAtlas.Proofs.Inventory.HandlerReads
import RouteAtlas.Proofs.Docs.Fragment
import RouteAtlas.Proofs.Params.LineCuts
import RouteAtlas.Proofs.Endpoint.Separators
import RouteAtlas.Proofs.Text.LetterCase
import RouteAtlas.Proofs.Inventory.VerbCase
