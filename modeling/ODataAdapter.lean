import ODataAdapter.Main
import ODataAdapter.Command.FileTree
import ODataAdapter.Proofs.Filter.Acceptance
import ODataAdapter.Proofs.Filter.Positions
import ODataAdapter.Proofs.Backend.Composition
import ODataAdapter.Proofs.Backend.Nesting
import ODataAdapter.Proofs.Backend.Rereading
import ODataAdapter.Proofs.Backend.Independence
import ODataAdapter.Proofs.Backend.Depth
import ODataAdapter.Proofs.Backend.Content
import ODataAdapter.Proofs.Backend.Ordering
import ODataAdapter.Proofs.Json.Rereading
import ODataAdapter.Proofs.Mapping.Collisions
import ODataAdapter.Proofs.Mapping.Payloads
import ODataAdapter.Proofs.Exchange.HandingOver
import ODataAdapter.Proofs.Command.HandOver
import ODataAdapter.Proofs.Command.Precedence
import ODataAdapter.Proofs.Command.Shadowing
import ODataAdapter.Proofs.Command.Steps
import ODataAdapter.Proofs.Order.Positions
import ODataAdapter.Proofs.Order.Chains
