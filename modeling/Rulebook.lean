import Rulebook.Config.Settings
import Rulebook.Proofs.Codec
import Rulebook.Proofs.Frames
import Rulebook.Proofs.Nesting
import Rulebook.Proofs.Rereading
import Rulebook.Proofs.SharedStore
import Rulebook.Proofs.StoredRules
import Rulebook.Proofs.Accounting
import Rulebook.Proofs.Responses
import Rulebook.Proofs.Observing
import Rulebook.Proofs.LastWrites
import Rulebook.Proofs.ListedRules
import Rulebook.Proofs.LastLayers
import Rulebook.Proofs.Explanations
import Rulebook.Proofs.FieldReads
import Rulebook.Proofs.CompleteTrace
import Rulebook.Proofs.Tracing
import Rulebook.Proofs.Rounding
import Rulebook.Proofs.FieldOrder
import Rulebook.Proofs.NumberReading
import Rulebook.Proofs.NumberOrder
import Rulebook.Proofs.NodeEncodings
import Rulebook.Proofs.Parentheses
import Rulebook.Proofs.Rendering
import Rulebook.Proofs.FaultyNodes
import Rulebook.Proofs.NormalForms
import Rulebook.Proofs.Cutting
import Rulebook.Proofs.PlaceFrames
import Rulebook.Proofs.Positions
import Rulebook.Proofs.TextVariables
