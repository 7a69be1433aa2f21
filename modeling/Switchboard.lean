import Switchboard.Main
import Switchboard.Proofs.AddressScan
import Switchboard.Proofs.RegistrationOrder
import Switchboard.Proofs.TemplateDispatch
import Switchboard.Proofs.PrefixMap
import Switchboard.Proofs.HeaderLayout
import Switchboard.Proofs.TemplateRemoval
import Switchboard.Proofs.TemplateRoll
import Switchboard.Proofs.Counters
import Switchboard.Proofs.Reload
import Switchboard.Proofs.Segments
import Switchboard.Proofs.Shape
import Switchboard.Proofs.Spelling
import Switchboard.Proofs.Routing
import Switchboard.Proofs.Demands
import Switchboard.Proofs.Conflicts
import Switchboard.Proofs.PathMatching
import Switchboard.Proofs.OwnText
import Switchboard.Proofs.TemplateSyntax
import Switchboard.Proofs.ShortestCut
import Switchboard.Proofs.Renaming
import Switchboard.Proofs.Building
import Switchboard.Proofs.PairCheck
import Switchboard.Proofs.BasePath
import Switchboard.Proofs.BoundNames
import Switchboard.Proofs.Positions
import Switchboard.Proofs.Checking
import Switchboard.Proofs.Pruning
import Switchboard.Proofs.WrittenNames
