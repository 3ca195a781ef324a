import ModuleGraph.Disk.Change
import ModuleGraph.Main
import ModuleGraph.Proofs.Build.Contents
import ModuleGraph.Proofs.Build.Dynamic
import ModuleGraph.Proofs.Build.Fallback
import ModuleGraph.Proofs.Build.Graphs
import ModuleGraph.Proofs.Build.Identity
import ModuleGraph.Proofs.Build.Policies
import ModuleGraph.Proofs.Build.Stack
import ModuleGraph.Proofs.Command.AllClear
import ModuleGraph.Proofs.Command.Refusal
import ModuleGraph.Proofs.Graph.Index
import ModuleGraph.Proofs.Session.Course
import ModuleGraph.Proofs.Path.Bytes
import ModuleGraph.Proofs.Report.Recovery
import ModuleGraph.Proofs.Resolver.FirstMatch
import ModuleGraph.Proofs.Resolver.Respelling
