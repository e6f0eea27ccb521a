import ShaderPreview.Diagnostic.Basic
import ShaderPreview.Graphics.Object

/-!
# Calls to the graphics system

Calls to the graphics system with their results, and the log lines between them. A fallible call
carries its error, if any.
-/

namespace ShaderPreview

/-- Structured log line. -/
structure Report where
  severity : Severity
  message : String
  fields : List (String × String)
  deriving DecidableEq, Repr

namespace Graphics

inductive DeviceCall where
  | configure (surface : Surface) (configuration : SurfaceConfiguration)
  | pushErrorScope (filter : ErrorFilter)
  | popErrorScope (error : Option String)
  | createShader (shader : ShaderObject)
  | createBuffer (buffer : Buffer)
  | createTexture (texture : Texture)
  | createSampler (sampler : Sampler)
  | createBindGroupLayout (layout : BindGroupLayout)
  | createBindGroup (group : BindGroup)
  | createPipelineLayout (layout : PipelineLayout)
  | createRenderPipeline (pipeline : RenderPipeline)
  | writeBuffer (buffer : Buffer) (offset : Nat) (contents : List UInt8)
  | createEncoder (label : String)
  /-- The clear colour is given in tenths. -/
  | beginPass (label : String) (surface : Surface) (colour : List Nat) (stored depth : Bool)
  | setPipeline (pipeline : RenderPipeline)
  | setBindGroup (index : Nat) (group : BindGroup) (offsets : List Nat)
  | setVertexBuffer (slot : Nat) (buffer : Buffer)
  /-- One instance, starting at vertex 0. -/
  | draw (vertexCount : Nat)
  | endPass
  | finish
  | submit
  deriving DecidableEq, Repr

inductive Call where
  | createInstance
  | createSurface (error : Option String)
  | requestAdapter (options : AdapterOptions) (surface : Option Surface) (error : Option String)
  | requestDevice (descriptor : DeviceDescriptor) (error : Option String)
  | capabilities (surface : Surface) (offered : SurfaceCapabilities)
  | device (device : Device) (call : DeviceCall)
  | nextImage (surface : Surface) (fault : Option SurfaceFault)
  | present (surface : Surface)
  | report (report : Report)
  deriving DecidableEq, Repr

end Graphics

end ShaderPreview
