import Mandate.Core.Reordering
import Mandate.Core.Arithmetic
import Mandate.Gate.Agreement
import Mandate.Ledger.Retries
import Mandate.Ledger.Bindings
import Mandate.Kernel.SingleUse
import Mandate.Custody.Process
import Mandate.Perp.Lane
import Mandate.Registry.FailClosed
import Mandate.Portfolio.SingleUse
import Mandate.Settlement.OneAtATime
import Mandate.Settlement.Broadcast
import Mandate.Settlement.Forward
import Mandate.Jev.Circuit
import Mandate.Authoring.Drafts
import Mandate.Authoring.NoAmendment
import Mandate.Authoring.Reallocation
import Mandate.Gate.Arithmetic
import Mandate.Ledger.Trie
import Mandate.Evm.Custody
import Mandate.Kernel.Independence
import Mandate.Control.Limits
import Mandate.Control.Tightening
import Mandate.Evm.Payloads
import Mandate.Allocation.Allocator
import Mandate.Authoring.Replan
