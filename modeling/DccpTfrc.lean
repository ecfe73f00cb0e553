import DccpTfrc.Arith
import DccpTfrc.RxHist
import DccpTfrc.LossDetect
import DccpTfrc.LossModel
import DccpTfrc.LossSpec
import DccpTfrc.RttSample
import DccpTfrc.Receiver
import DccpTfrc.Safety
import DccpTfrc.Refinement
import DccpTfrc.RunRefinement
import DccpTfrc.Tracked
import DccpTfrc.Completeness
import DccpTfrc.Options
import DccpTfrc.ParseOptions
import DccpTfrc.InsertOptions
import DccpTfrc.OptionsRoundTrip
import DccpTfrc.Seqno
import DccpTfrc.Input
import DccpTfrc.Connection
import DccpTfrc.Replies
import DccpTfrc.SeqWindow
import DccpTfrc.TxHist
