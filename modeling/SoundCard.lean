import SoundCard.Main
import SoundCard.Proofs.Conservation
import SoundCard.Proofs.Likeness
import SoundCard.Proofs.Resumption
import SoundCard.Proofs.Exchange
import SoundCard.Proofs.Budgets
import SoundCard.Proofs.Isolation
import SoundCard.Proofs.Commutation
import SoundCard.Proofs.Pace
import SoundCard.Proofs.Speaking
import SoundCard.Proofs.Interruption
import SoundCard.Proofs.Pausing
import SoundCard.Proofs.Chronicle
import SoundCard.Proofs.ByteMap
import SoundCard.Proofs.Throughput
import SoundCard.Proofs.Edges
import SoundCard.Proofs.Bus
import SoundCard.Proofs.Alternation
import SoundCard.Proofs.Elision
import SoundCard.Proofs.Retention
import SoundCard.Proofs.RoundTrip
