import BlockStates.Bundled
import BlockStates.Main
import BlockStates.File.Tree
import BlockStates.Proofs.CheckRuns
import BlockStates.Proofs.Fitness
import BlockStates.Proofs.Validity
import BlockStates.Proofs.AcceptedLayout
import BlockStates.Proofs.EmissionLocality
import BlockStates.Proofs.BuiltCatalogs
import BlockStates.Proofs.Resolution
import BlockStates.Proofs.AssignmentOrder
import BlockStates.Proofs.CatalogReading
import BlockStates.Proofs.OutputModes
import BlockStates.Proofs.CatalogGrowth
import BlockStates.Proofs.FirstDefect
import BlockStates.Proofs.NameAlgebra
import BlockStates.Proofs.RepeatedBlocks
import BlockStates.Proofs.ExtraMembers
import BlockStates.Proofs.Lexical.Literals
import BlockStates.Proofs.Lexical.Unit
import BlockStates.Proofs.Code.Unit
import BlockStates.Proofs.GeneratedNames
import BlockStates.Proofs.LookupExactness
import BlockStates.Proofs.TableAgreement
import BlockStates.Proofs.StateIdentifiers
import BlockStates.Proofs.StateNames
import BlockStates.Proofs.BlockShapes
import BlockStates.Proofs.DroppedStates
import BlockStates.Proofs.UnitLayout
