import ShaderPreview.Main
import ShaderPreview.Session.Rehearsal
import ShaderPreview.Proofs.Session.Course
import ShaderPreview.Proofs.Session.Launch
import ShaderPreview.Proofs.Session.Ledger
import ShaderPreview.Proofs.Session.Run
import ShaderPreview.Proofs.Session.Accounts
import ShaderPreview.Proofs.Session.Consistency
import ShaderPreview.Proofs.Session.Retirement
import ShaderPreview.Proofs.Session.Plan
import ShaderPreview.Proofs.Diagnostic.Harmless
import ShaderPreview.Proofs.Session.Verdict
import ShaderPreview.Proofs.Check.Verdict
import ShaderPreview.Proofs.Session.VertexStage
import ShaderPreview.Proofs.Check.Agreement
import ShaderPreview.Proofs.Session.Frames
import ShaderPreview.Proofs.Session.Canvas
import ShaderPreview.Proofs.Session.Fullscreen
import ShaderPreview.Proofs.Session.Transitions
import ShaderPreview.Proofs.Window.Slots
import ShaderPreview.Proofs.Window.Closing
import ShaderPreview.Proofs.Session.Readiness
import ShaderPreview.Proofs.Graphics.Screen
import ShaderPreview.Proofs.Shader.Location
import ShaderPreview.Proofs.Diagnostic.Record
import ShaderPreview.Proofs.Diagnostic.Offset
import ShaderPreview.Proofs.Graphics.Attribution
import ShaderPreview.Proofs.Diagnostic.Clean
import ShaderPreview.Proofs.Mesh.Flattening
import ShaderPreview.Proofs.Diagnostic.Transcript
import ShaderPreview.Proofs.Diagnostic.Label
import ShaderPreview.Proofs.Diagnostic.Stopped
import ShaderPreview.Proofs.Diagnostic.Declined
import ShaderPreview.Proofs.Graphics.Asked
import ShaderPreview.Proofs.Graphics.Noted
import ShaderPreview.Proofs.Window.Watching
import ShaderPreview.Proofs.Window.Due
import ShaderPreview.Proofs.Graphics.Sharing
import ShaderPreview.Proofs.Graphics.Target
import ShaderPreview.Proofs.Graphics.Identity
import ShaderPreview.Proofs.Preview.Admissible
import ShaderPreview.Proofs.Manifest.Resolution
import ShaderPreview.Proofs.CommandLine.Written
import ShaderPreview.Proofs.Shader.Partition
import ShaderPreview.Proofs.Session.Header
