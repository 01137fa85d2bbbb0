import ShaderBindings.Main
import ShaderBindings.Upload.Session
import ShaderBindings.Proofs.Batch.Accounting
import ShaderBindings.Proofs.Batch.Independence
import ShaderBindings.Proofs.Batch.ListingOrder
import ShaderBindings.Proofs.Batch.Partners
import ShaderBindings.Proofs.Batch.Prompt
import ShaderBindings.Proofs.Batch.ReadingOrder
import ShaderBindings.Proofs.Declaration.Passage
import ShaderBindings.Proofs.Generation.Hosted
import ShaderBindings.Proofs.Generation.LogOrder
import ShaderBindings.Proofs.Generation.Strict
import ShaderBindings.Proofs.Generation.Sums
import ShaderBindings.Proofs.Interface.FirstWarning
import ShaderBindings.Proofs.MethodName.CamelCase
import ShaderBindings.Proofs.MethodName.Earliest
import ShaderBindings.Proofs.Options.Groups
import ShaderBindings.Proofs.ShaderPair.Halves
import ShaderBindings.Proofs.Upload.Members
import ShaderBindings.Proofs.Upload.Routing
