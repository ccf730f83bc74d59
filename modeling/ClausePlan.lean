import ClausePlan.Json.Printer
import ClausePlan.Json.Reader
import ClausePlan.Text
import ClausePlan.ScalarFunction
import ClausePlan.Relation
import ClausePlan.Field.Json
import ClausePlan.Settings
import ClausePlan.Clause
import ClausePlan.Context
import ClausePlan.OrderedMap
import ClausePlan.Plan.Json
import ClausePlan.Plan.Description
import ClausePlan.Proofs.OrderedMap
import ClausePlan.Proofs.Steps
import ClausePlan.Proofs.Walk
import ClausePlan.Proofs.PlanOfStops
import ClausePlan.Proofs.Preorder
import ClausePlan.Proofs.Record
import ClausePlan.Proofs.Conditions
import ClausePlan.Proofs.Query
import ClausePlan.Proofs.Scope
import ClausePlan.Proofs.Session
import ClausePlan.Proofs.Sources
import ClausePlan.Proofs.Chains
import ClausePlan.Proofs.Places
import ClausePlan.Proofs.Frame
import ClausePlan.Proofs.Branches
import ClausePlan.Proofs.Expansion
import ClausePlan.Proofs.Renaming
import ClausePlan.Proofs.Shallow
import ClausePlan.Proofs.Decoding
import ClausePlan.Proofs.Faults
import ClausePlan.Proofs.Correlation
import ClausePlan.Proofs.DepthBound
import ClausePlan.Proofs.FirstFault
import ClausePlan.Proofs.TableNames
import ClausePlan.Proofs.Checking
import ClausePlan.Proofs.Nodewise
import ClausePlan.Proofs.Assembly
import ClausePlan.Proofs.Siblings
import ClausePlan.Proofs.Evaluation
import ClausePlan.Proofs.Numbering
import ClausePlan.Proofs.Collisions
import ClausePlan.Proofs.JsonForms
import ClausePlan.Proofs.Overlay
import ClausePlan.Proofs.Folding
