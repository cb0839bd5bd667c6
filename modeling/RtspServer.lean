import RtspServer.Control.Conversation
import RtspServer.Control.Flight
import RtspServer.Control.Service
import RtspServer.Jpeg.Depacketizer
import RtspServer.Main
import RtspServer.Proofs.Standing
import RtspServer.Proofs.Answering
import RtspServer.Proofs.Change
import RtspServer.Proofs.Entry
import RtspServer.Proofs.Naming
import RtspServer.Proofs.Outlets
import RtspServer.Proofs.Inbox
import RtspServer.Proofs.Emptying
import RtspServer.Proofs.Ownership
import RtspServer.Proofs.Silence
import RtspServer.Proofs.Handover
import RtspServer.Proofs.Carriage
import RtspServer.Proofs.Continuity
import RtspServer.Proofs.Utf8
import RtspServer.Proofs.Rendering
import RtspServer.Proofs.Cutting
import RtspServer.Proofs.HeadLines
import RtspServer.Proofs.Draft
import RtspServer.Proofs.Item
import RtspServer.Proofs.HeadEnd
import RtspServer.Proofs.BodyStart
import RtspServer.Proofs.Pipeline
import RtspServer.Proofs.Arena
import RtspServer.Proofs.Echo
import RtspServer.Proofs.OneLine
import RtspServer.Proofs.Rewriting
import RtspServer.Proofs.Reply
import RtspServer.Proofs.Literal
import RtspServer.Proofs.Advertised
import RtspServer.Proofs.Splitting
import RtspServer.Proofs.Admission
import RtspServer.Proofs.Alike
import RtspServer.Proofs.Isolation
import RtspServer.Proofs.Flight
import RtspServer.Proofs.Overlap
import RtspServer.Proofs.Landing
import RtspServer.Proofs.Attempt
import RtspServer.Proofs.Reporting
import RtspServer.Proofs.Accounting
import RtspServer.Proofs.Keepalive
import RtspServer.Proofs.Tally
import RtspServer.Proofs.Anatomy
import RtspServer.Proofs.Grammar
import RtspServer.Proofs.Places
import RtspServer.Proofs.Fragments
import RtspServer.Proofs.Reassembly
import RtspServer.Proofs.Offer
import RtspServer.Proofs.Ports
import RtspServer.Proofs.Probing
import RtspServer.Proofs.Tenure
import RtspServer.Proofs.Negotiation
import RtspServer.Proofs.Addressing
import RtspServer.Proofs.BodyLength
import RtspServer.Proofs.Base64
import RtspServer.Proofs.Password
import RtspServer.Proofs.Parameters
import RtspServer.Proofs.Signature
import RtspServer.Proofs.PacketFormats
import RtspServer.Proofs.Edits
import RtspServer.Proofs.HeadLimit
import RtspServer.Proofs.Framing
