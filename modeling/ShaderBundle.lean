import ShaderBundle.Bundle.Basic
import ShaderBundle.Diagnostic
import ShaderBundle.Text.Quoted
import ShaderBundle.Proofs.Bundle.Completeness
import ShaderBundle.Proofs.Bundle.Requests
import ShaderBundle.Proofs.Catalog.Content
import ShaderBundle.Proofs.Catalog.States
import ShaderBundle.Proofs.Diagnostic.Relocation
import ShaderBundle.Proofs.Flat.Coverage
import ShaderBundle.Proofs.Flat.Locality
import ShaderBundle.Proofs.Flat.Marked
import ShaderBundle.Proofs.Flat.Order
import ShaderBundle.Proofs.Flat.Origins
import ShaderBundle.Proofs.Library.Crawl
import ShaderBundle.Proofs.Library.Cycle
import ShaderBundle.Proofs.RenderState.Written
import ShaderBundle.Proofs.Text.Lines
import ShaderBundle.Proofs.Path.Joining
import ShaderBundle.Proofs.Catalog.Resolution
import ShaderBundle.Proofs.Library.Starts
import ShaderBundle.Proofs.Bundle.Acceptance
import ShaderBundle.Proofs.Diagnostic.Log
import ShaderBundle.Proofs.Diagnostic.Naming
import ShaderBundle.Proofs.Catalog.Presence
import ShaderBundle.Proofs.RenderState.Joined
import ShaderBundle.Proofs.RenderState.Targets
import ShaderBundle.Proofs.SourceFile.IncludeLines
import ShaderBundle.Proofs.Flat.Verbatim
import ShaderBundle.Proofs.Bundle.Folders
import ShaderBundle.Proofs.PassArray.SlotNames
import ShaderBundle.Proofs.Bundle.Dimensions
import ShaderBundle.Proofs.Flat.Runs
import ShaderBundle.Proofs.Library.BreadthFirst
import ShaderBundle.Proofs.Library.Rounds
import ShaderBundle.Proofs.Flat.Rounds
