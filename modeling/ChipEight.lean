import ChipEight.Main
import ChipEight.Machine.Dump
import ChipEight.Proofs.Alike
import ChipEight.Proofs.Effects
import ChipEight.Proofs.Encoding
import ChipEight.Proofs.Guarded
import ChipEight.Proofs.History
import ChipEight.Proofs.KeyWait
import ChipEight.Proofs.MatchedReturn
import ChipEight.Proofs.Nesting
import ChipEight.Proofs.Reachable
import ChipEight.Proofs.TwelveBits
import ChipEight.Proofs.Drawing
import ChipEight.Proofs.Independence
import ChipEight.Proofs.Reset
import ChipEight.Proofs.Conversation
import ChipEight.Proofs.LoopProtocol
import ChipEight.Proofs.Forms
import ChipEight.Proofs.Footprint
import ChipEight.Proofs.Punctuality
import ChipEight.Proofs.Timers
import ChipEight.Proofs.FramePace
import ChipEight.Proofs.RandomStream
import ChipEight.Proofs.CompleteListing
import ChipEight.Proofs.AsListed
import ChipEight.Proofs.KeyHistory
import ChipEight.Proofs.KeySources
import ChipEight.Proofs.Torus
import ChipEight.Proofs.Dumps
import ChipEight.Proofs.Arithmetic
import ChipEight.Proofs.Compositing
import ChipEight.Proofs.LowMemory
import ChipEight.Proofs.Backlog
import ChipEight.Proofs.LimitedPage
import ChipEight.Proofs.Words
import ChipEight.Proofs.Assembly
import ChipEight.Proofs.MnemonicColumn
import ChipEight.Proofs.LetterCase
import ChipEight.Proofs.DecimalDigits
import ChipEight.Proofs.RateAccuracy
import ChipEight.Proofs.QuotedText
import ChipEight.Proofs.KeyGrammar
import ChipEight.Proofs.MemoryDump
