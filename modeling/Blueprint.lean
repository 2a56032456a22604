import Blueprint.Build.Run
import Blueprint.Config.Load
import Blueprint.Error.Details
import Blueprint.Proofs.Build.DefaultStrategy
import Blueprint.Proofs.Build.Ignored
import Blueprint.Proofs.Build.Override
import Blueprint.Proofs.Build.Routing
import Blueprint.Proofs.Registry.Ascent
import Blueprint.Proofs.Registry.Certified
import Blueprint.Proofs.Registry.FailedCompile
import Blueprint.Proofs.Registry.Order
import Blueprint.Proofs.Registry.Precedence
import Blueprint.Proofs.Registry.SelfAssociation
import Blueprint.Proofs.Registry.Stage
import Blueprint.Proofs.Registry.Kin
import Blueprint.Proofs.Registry.CompileState
import Blueprint.Proofs.Build.Session
import Blueprint.Proofs.Registry.Permission
import Blueprint.Proofs.Dedup
import Blueprint.Proofs.Registry.Tables
import Blueprint.Proofs.Attribute.Edits
import Blueprint.Proofs.Registry.Arrangement
import Blueprint.Proofs.Build.Stub
import Blueprint.Proofs.Build.StubId
import Blueprint.Proofs.Build.Isolation
import Blueprint.Proofs.Build.ModelClass
import Blueprint.Proofs.Config.Failure
import Blueprint.Proofs.Build.Depth
import Blueprint.Proofs.Build.Values
import Blueprint.Proofs.Merge
import Blueprint.Proofs.Config.Usable
import Blueprint.Proofs.Config.Variables
import Blueprint.Proofs.Config.Coercion
import Blueprint.Proofs.Registry.Expansion
import Blueprint.Proofs.Config.Setting
import Blueprint.Proofs.File
import Blueprint.Proofs.Build.Bundled
import Blueprint.Proofs.Build.Clash
import Blueprint.Proofs.Registry.Lookup
import Blueprint.Proofs.Name.Spelling
import Blueprint.Proofs.Config.Path
