import PathAccess.Main
import PathAccess.Scheme.Registry
import PathAccess.Proofs.Community
import PathAccess.Proofs.Glob.Compilation
import PathAccess.Proofs.Permission.Grammar
import PathAccess.Proofs.Permission.Making
import PathAccess.Proofs.Permission.WrittenConstraints
import PathAccess.Proofs.Scheme.Forms
import PathAccess.Proofs.Scheme.Labels
import PathAccess.Proofs.Permission.WrittenForm
import PathAccess.Proofs.Holdings.Single
import PathAccess.Proofs.Scheme.Restoration
import PathAccess.Proofs.Privileges.Numbers
import PathAccess.Proofs.Glob.Segments
import PathAccess.Proofs.Glob.Containment
import PathAccess.Proofs.Permission.DelegationSafety
import PathAccess.Proofs.Scheme.History
import PathAccess.Proofs.Scheme.Replacement
import PathAccess.Proofs.Holdings.Reflexivity
import PathAccess.Proofs.Holdings.Indifference
import PathAccess.Proofs.Agreement
import PathAccess.Proofs.Permission.Sealing
import PathAccess.Proofs.Holdings.Sealing
import PathAccess.Proofs.Scheme.UnsetSections
import PathAccess.Proofs.CommandLine.Verdicts
import PathAccess.Proofs.Holdings.Sessions
import PathAccess.Proofs.Scheme.Acceptance
import PathAccess.Proofs.Permission.Constraints
import PathAccess.Proofs.Holdings.CrossProduct
import PathAccess.Proofs.Scheme.Naming
import PathAccess.Proofs.Scheme.KnownPart
import PathAccess.Proofs.Scheme.EntryPoints
import PathAccess.Proofs.Holdings.Batches
import PathAccess.Proofs.Privileges.Union
import PathAccess.Proofs.Privileges.Legibility
import PathAccess.Proofs.Privileges.Numerals
import PathAccess.Proofs.Glob.Openness
import PathAccess.Proofs.Glob.Overlap
import PathAccess.Proofs.Validity
import PathAccess.Proofs.Scheme.GrantMask
import PathAccess.Proofs.Glob.NormalForm
import PathAccess.Proofs.Permission.ConstraintForms
import PathAccess.Permission.Operation
