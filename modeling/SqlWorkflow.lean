import SqlWorkflow.Command.Outcome
import SqlWorkflow.Compile
import SqlWorkflow.GraphJson
import SqlWorkflow.Main
import SqlWorkflow.Plan
import SqlWorkflow.Project
import SqlWorkflow.Proofs.Dag.Reachability
import SqlWorkflow.Proofs.Dag.Cycles
import SqlWorkflow.Proofs.Dag.CyclePath
import SqlWorkflow.Proofs.Dag.Order
import SqlWorkflow.Proofs.Graph.Actions
import SqlWorkflow.Proofs.Graph.Dependence
import SqlWorkflow.Proofs.Selection.Names
import SqlWorkflow.Proofs.Selection.Chosen
import SqlWorkflow.Proofs.Graph.Errors
import SqlWorkflow.Proofs.Graph.Messages
import SqlWorkflow.Proofs.Graph.Disabled
import SqlWorkflow.Proofs.Plan
import SqlWorkflow.Proofs.Graph.CycleErrors
import SqlWorkflow.Proofs.Graph.Attribution
import SqlWorkflow.Proofs.Graph.Changed
import SqlWorkflow.Proofs.Definition.BlockText
import SqlWorkflow.Proofs.Definition.Layout
import SqlWorkflow.Proofs.NameTable
import SqlWorkflow.Proofs.Template.Agreement
import SqlWorkflow.Proofs.Graph.Rearranged
import SqlWorkflow.Proofs.Synthesis
import SqlWorkflow.Proofs.Compile.Files
import SqlWorkflow.Proofs.Compile.FileOrder
import SqlWorkflow.Proofs.Compile.Isolation
import SqlWorkflow.Proofs.Graph.Suffix
import SqlWorkflow.Proofs.AssertionsOff
import SqlWorkflow.Proofs.Yaml.Passes
import SqlWorkflow.Proofs.Yaml.Pieces
import SqlWorkflow.Proofs.Yaml.Flow
import SqlWorkflow.Proofs.Definition.BlockEnd
import SqlWorkflow.Proofs.Definition.Alike
import SqlWorkflow.Proofs.Definition.ConfigText
import SqlWorkflow.Proofs.Graph.Ownership
import SqlWorkflow.Proofs.Hermeticity
import SqlWorkflow.Proofs.Compile.Missing
import SqlWorkflow.Proofs.Selection.OwnName
import SqlWorkflow.Proofs.Project.Resolution
import SqlWorkflow.Proofs.Compile.Assertions
import SqlWorkflow.Proofs.GraphJson
import SqlWorkflow.Proofs.Graph.Faithful
import SqlWorkflow.Proofs.FullRefresh
import SqlWorkflow.Proofs.Commands
import SqlWorkflow.Proofs.Dag.Calls
import SqlWorkflow.Proofs.Dag.Components
import SqlWorkflow.Proofs.NameIndex
import SqlWorkflow.Proofs.Compile.Statements
import SqlWorkflow.Proofs.ConfigBlock.UnknownKeys
import SqlWorkflow.Proofs.Overrides
import SqlWorkflow.Proofs.Statements
import SqlWorkflow.Proofs.Template.Environment
import SqlWorkflow.Proofs.Compile.References
import SqlWorkflow.Proofs.Settings.Layers
import SqlWorkflow.Proofs.Settings.Variables
import SqlWorkflow.Proofs.Quoting.Identifiers
import SqlWorkflow.Proofs.Quoting.BackQuotes
import SqlWorkflow.Proofs.Dag.Closure
import SqlWorkflow.Proofs.Dag.Numbers
import SqlWorkflow.Proofs.Project.Discovery
import SqlWorkflow.Proofs.Hermeticity.Monotone
import SqlWorkflow.Proofs.RowConditions
