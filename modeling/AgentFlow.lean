import AgentFlow.Logging.Percent
import AgentFlow.Logging.Registry
import AgentFlow.Main
import AgentFlow.Statement.Codec
import AgentFlow.Workflow.Encode
import AgentFlow.Proofs.Linear.Acceptance
import AgentFlow.Proofs.Run.Refinement
import AgentFlow.Proofs.Expr.References
import AgentFlow.Proofs.Run.Assigned
import AgentFlow.Proofs.Linear.Secure
import AgentFlow.Proofs.Layout.ReadBack
import AgentFlow.Proofs.Symbol.History
import AgentFlow.Proofs.Run.Returning
import AgentFlow.Proofs.Statement.Nested
import AgentFlow.Proofs.Schema.Distinct
import AgentFlow.Proofs.Linear.Machine
import AgentFlow.Proofs.Module.Annotated
import AgentFlow.Proofs.Module.Numbers
import AgentFlow.Proofs.Emit.Signatures
import AgentFlow.Proofs.Expr.Lexemes
import AgentFlow.Proofs.Expr.Quotation
