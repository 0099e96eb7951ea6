import Scaffold.Main
import Scaffold.Proofs.Acceptance
import Scaffold.Proofs.Aftermath
import Scaffold.Proofs.Answers
import Scaffold.Proofs.Below
import Scaffold.Proofs.ClassText
import Scaffold.Proofs.ClosedOutput
import Scaffold.Proofs.DryRun
import Scaffold.Proofs.Effect
import Scaffold.Proofs.EntityJson
import Scaffold.Proofs.EntryIds
import Scaffold.Proofs.Footprint
import Scaffold.Proofs.Independence
import Scaffold.Proofs.LetterCase
import Scaffold.Proofs.LogRecord
import Scaffold.Proofs.Mirror
import Scaffold.Proofs.Overwriting
import Scaffold.Proofs.ReadBack
import Scaffold.Proofs.Scan
import Scaffold.Proofs.TornLog
import Scaffold.Proofs.Unlogged
import Scaffold.Proofs.Validation
import Scaffold.Proofs.Words
