import PluginLisp.CommandLine
import PluginLisp.Main
import PluginLisp.Proofs.AtomPrinting
import PluginLisp.Proofs.CallsByName
import PluginLisp.Proofs.CodeAsData
import PluginLisp.Proofs.Combinators
import PluginLisp.Proofs.Data.Comparison
import PluginLisp.Proofs.Data.Equality
import PluginLisp.Proofs.Data.Integers
import PluginLisp.Proofs.Data.Printing
import PluginLisp.Proofs.DataAsCode
import PluginLisp.Proofs.Decimal.Arithmetic
import PluginLisp.Proofs.Decimal.Obtainable
import PluginLisp.Proofs.Decimal.Remainder
import PluginLisp.Proofs.Decimal.Rounding
import PluginLisp.Proofs.Decimal.Spelling
import PluginLisp.Proofs.Decimal.Sums
import PluginLisp.Proofs.ErrorDecoration
import PluginLisp.Proofs.Formatting
import PluginLisp.Proofs.JsonRoundTrip
import PluginLisp.Proofs.MacroExpansion
import PluginLisp.Proofs.ModuleDefinition
import PluginLisp.Proofs.ParameterBinding
import PluginLisp.Proofs.PendingCalls
import PluginLisp.Proofs.Plugin.Lifecycle
import PluginLisp.Proofs.Plugin.LoadingOrder
import PluginLisp.Proofs.Plugin.Ownership
import PluginLisp.Proofs.Plugin.Rollback
import PluginLisp.Proofs.Quasiquotation
import PluginLisp.Proofs.ScopeIsolation
import PluginLisp.Proofs.Scoping
import PluginLisp.Proofs.Sharing.Counting
import PluginLisp.Proofs.Sharing.Delivery
import PluginLisp.Proofs.Sharing.FreshSymbols
import PluginLisp.Proofs.Sharing.Rendezvous
import PluginLisp.Proofs.Sharing.Updates
import PluginLisp.Proofs.SplitAndJoin
import PluginLisp.Proofs.StableSorting
import PluginLisp.Proofs.Syntax.Faults
import PluginLisp.Proofs.Syntax.Layout
import PluginLisp.Proofs.Syntax.TextLiterals
import PluginLisp.Proofs.Syntax.Unfinished
import PluginLisp.Proofs.Syntax.Words
import PluginLisp.Proofs.TablesAsMaps
import PluginLisp.Proofs.TailCalls
import PluginLisp.Proofs.TailPositions
import PluginLisp.Proofs.Tracing
import PluginLisp.Proofs.ValuePassing
