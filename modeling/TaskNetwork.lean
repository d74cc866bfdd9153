import TaskNetwork.Main
import TaskNetwork.Summary.Codec
import TaskNetwork.Proofs.CommandLine.Agreement
import TaskNetwork.Proofs.CommandLine.Effects
import TaskNetwork.Proofs.CommandLine.Quiet
import TaskNetwork.Proofs.Dispatch.Agreement
import TaskNetwork.Proofs.Document.DepthLimit
import TaskNetwork.Proofs.Document.Merging
import TaskNetwork.Proofs.Document.Nesting
import TaskNetwork.Proofs.Domain.Building
import TaskNetwork.Proofs.Domain.OrderIndependence
import TaskNetwork.Proofs.Fault.Containment
import TaskNetwork.Proofs.Fault.NonFinite
import TaskNetwork.Proofs.Fault.Summary
import TaskNetwork.Proofs.Problem.Extension
import TaskNetwork.Proofs.Requirement.Declared
import TaskNetwork.Proofs.Symbol.History
import TaskNetwork.Proofs.Requirement.Exercised
import TaskNetwork.Proofs.Dispatch.Partition
import TaskNetwork.Proofs.Expression.BoundVariables
import TaskNetwork.Proofs.Expression.Truth
import TaskNetwork.Proofs.Summary.Fields
import TaskNetwork.Proofs.Summary.Grammar
import TaskNetwork.Proofs.Summary.RoundTrip
import TaskNetwork.Proofs.Task.Survival
import TaskNetwork.Proofs.Document.Attachable
