import CbrAudio.Log.File
import CbrAudio.Log.Journal
import CbrAudio.Packetizer.Operation
import CbrAudio.Proofs.Atomicity
import CbrAudio.Proofs.Blocks
import CbrAudio.Proofs.Breaks
import CbrAudio.Proofs.Buffer
import CbrAudio.Proofs.Detour
import CbrAudio.Proofs.Fragments
import CbrAudio.Proofs.HeaderFields
import CbrAudio.Proofs.Marks
import CbrAudio.Proofs.Numbering
import CbrAudio.Proofs.Optimum
import CbrAudio.Proofs.Overlay
import CbrAudio.Proofs.Relayout
import CbrAudio.Proofs.Reparse
import CbrAudio.Proofs.Reports
import CbrAudio.Proofs.Restart
import CbrAudio.Proofs.Resumption
import CbrAudio.Proofs.Shortfall
import CbrAudio.Proofs.Slicing
import CbrAudio.Proofs.Stamps
import CbrAudio.Rtp.Session
import CbrAudio.Settings.Source
