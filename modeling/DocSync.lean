import DocSync.Main
import DocSync.Editor.Basic
import DocSync.Fixture.Notation
import DocSync.Server.Schedule
import DocSync.Store.Operation
import DocSync.Proofs.Text.Addressing
import DocSync.Proofs.Editor.Address
import DocSync.Proofs.Server.Step
import DocSync.Proofs.Session.Run
import DocSync.Proofs.Editor.Agreement
import DocSync.Proofs.Session.Answers
import DocSync.Proofs.Session.Erasure
import DocSync.Proofs.Session.Handshake
import DocSync.Proofs.Session.Latch
import DocSync.Proofs.Store.Independence
import DocSync.Proofs.Store.Observers
import DocSync.Proofs.Store.Versions
import DocSync.Proofs.Text.Encoding
import DocSync.Proofs.Text.Resolution
import DocSync.Proofs.Text.Correspondence
import DocSync.Proofs.Text.Splice
import DocSync.Proofs.Server.Isolation
import DocSync.Proofs.Text.Bounds
import DocSync.Proofs.Text.Shift
import DocSync.Proofs.Text.Simultaneous
import DocSync.Proofs.Text.Undo
import DocSync.Proofs.Store.Batches
import DocSync.Proofs.Wire.RoundTrip
import DocSync.Proofs.Config.LastWord
import DocSync.Proofs.Fixture.RoundTrip
import DocSync.Proofs.Text.LineTable
import DocSync.Proofs.Fixture.Addresses
