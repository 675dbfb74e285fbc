import StructLang.Analysis
import StructLang.Diagnostic.Excerpt
import StructLang.Tree.Agreement
import StructLang.Tree.Build
import StructLang.Tree.Walk
import StructLang.Proofs.Run
import StructLang.Proofs.Symbols
import StructLang.Proofs.Resolution
import StructLang.Proofs.Sizes
import StructLang.Proofs.Traversal
import StructLang.Proofs.Outcome
import StructLang.Proofs.Halting
import StructLang.Proofs.Idents
import StructLang.Proofs.Adequacy
import StructLang.Proofs.Checking
import StructLang.Proofs.Analysis
import StructLang.Proofs.Faults
import StructLang.Proofs.Parts
import StructLang.Proofs.Visibility
import StructLang.Proofs.Verdict
import StructLang.Proofs.Statics
import StructLang.Proofs.Meanings
import StructLang.Proofs.Accepted
import StructLang.Proofs.WellTyped
import StructLang.Proofs.Acceptance
import StructLang.Proofs.Variation
import StructLang.Proofs.Filling
import StructLang.Proofs.Readiness
import StructLang.Proofs.Fading
import StructLang.Proofs.Sessions
import StructLang.Proofs.Functions
import StructLang.Proofs.Unbound
import StructLang.Proofs.Causes
import StructLang.Proofs.AllBound
import StructLang.Proofs.Relabeling
import StructLang.Proofs.Transport
import StructLang.Proofs.Uniqueness
import StructLang.Proofs.Lockstep
import StructLang.Proofs.TransportTyping
import StructLang.Proofs.Equivariance
import StructLang.Proofs.Declared
import StructLang.Proofs.Passes
import StructLang.Proofs.Handles
import StructLang.Proofs.Extension
import StructLang.Proofs.Isolation
import StructLang.Proofs.Successive
import StructLang.Proofs.Reporting
import StructLang.Proofs.Selections
import StructLang.Proofs.Resting
import StructLang.Proofs.Reanalysis
import StructLang.Proofs.Inspections
import StructLang.Proofs.Equations
import StructLang.Proofs.ErrorOperands
import StructLang.Proofs.Signatures
import StructLang.Proofs.Overflow
import StructLang.Proofs.Caret
import StructLang.Proofs.FaultPoints
import StructLang.Proofs.Stopping
import StructLang.Proofs.Scopes
import StructLang.Proofs.Mentions
import StructLang.Proofs.Chains
import StructLang.Proofs.Correspondence
import StructLang.Proofs.Precedence
import StructLang.Proofs.Nesting
import StructLang.Proofs.DeclaredTypes
import StructLang.Proofs.History
import StructLang.Proofs.StructNames
import StructLang.Proofs.Outline
import StructLang.Proofs.Agreement
import StructLang.Proofs.Listing
import StructLang.Proofs.Accounts
import StructLang.Proofs.Logging
import StructLang.Proofs.Pages
