import Portkeeper.Main
import Portkeeper.Registry.Calls
import Portkeeper.Proofs.Host.Sockets
import Portkeeper.Proofs.Address.Numerals
import Portkeeper.Proofs.Address.Ports
import Portkeeper.Proofs.Host.Collection
import Portkeeper.Proofs.Host.SocketFiles
import Portkeeper.Proofs.Registry.Answering
import Portkeeper.Proofs.Registry.Shutdown
import Portkeeper.Proofs.Registry.Abandoning
import Portkeeper.Proofs.Registry.Refusing
import Portkeeper.Proofs.Registry.Exclusive
import Portkeeper.Proofs.Address.Fixpoint
import Portkeeper.Proofs.Registry.Repeating
import Portkeeper.Proofs.Registry.Literal
import Portkeeper.Proofs.Registry.LocalPaths
import Portkeeper.Proofs.Api.Membership
import Portkeeper.Proofs.Api.DualStack
import Portkeeper.Proofs.Registry.Guarding
import Portkeeper.Proofs.Registry.Idling
import Portkeeper.Proofs.Registry.Reporting
import Portkeeper.Proofs.Address.Targets
import Portkeeper.Proofs.Api.Agreement
import Portkeeper.Proofs.Registry.Withstanding
import Portkeeper.Proofs.Host.MakingWay
import Portkeeper.Proofs.Registry.Hearing
import Portkeeper.Proofs.Registry.Draining
import Portkeeper.Proofs.Address.Returning
import Portkeeper.Proofs.Registry.Offences
import Portkeeper.Proofs.Host.Environment
import Portkeeper.Proofs.Registry.Landing
