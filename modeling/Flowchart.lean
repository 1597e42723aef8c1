import Flowchart.Logging
import Flowchart.Main
import Flowchart.Proofs.Brackets
import Flowchart.Proofs.ClassLines
import Flowchart.Proofs.Commands
import Flowchart.Proofs.Connecting
import Flowchart.Proofs.Copies
import Flowchart.Proofs.Cycles
import Flowchart.Proofs.DirectiveRuns
import Flowchart.Proofs.DrawnNames
import Flowchart.Proofs.InPlace
import Flowchart.Proofs.MachineIds
import Flowchart.Proofs.MachineTags
import Flowchart.Proofs.Numbering
import Flowchart.Proofs.Rerender
import Flowchart.Proofs.Slugs
import Flowchart.Proofs.StateWords
import Flowchart.Proofs.StyleLines
import Flowchart.Proofs.StyleText
import Flowchart.Proofs.TableSpelling
