import ShaderPreview.Proofs.Graphics.Attribution
import ShaderPreview.Proofs.Graphics.Noted
import ShaderPreview.Proofs.Session.Fullscreen
import ShaderPreview.Proofs.Session.History

/-!
# Channels and bindings

The image of a channel is uploaded, its texture is stored by channel, binding slots are computed
from the populated channels, and resources are looked up by slot. The header numbers its variables
independently. Both numberings agree, and each channel variable is bound to the image of its channel
(SPEC_FULL.md, section 4.5).
-/

namespace ShaderPreview.Graphics

variable {frontEnd : FrontEnd} {H : FrameHost}

/-! ### Slots -/

/-- Binding indices for the populated channels. -/
def bindingNumbers (populated : PerChannel Bool) : List Nat :=
  [0, 1, 2] ++ (List.finRange channelCount).flatMap fun channel =>
    if populated channel then [3 + 2 * channel.val, 4 + 2 * channel.val] else []

section

variable {populated : PerChannel Bool}

theorem slots_numbers (populated : PerChannel Bool) :
    (bindingSlots populated).map (·.binding) = bindingNumbers populated := by
  rw [bindingSlots, List.map_append, List.map_flatMap, bindingNumbers]
  refine congrArg (fun channels => [0, 1, 2] ++ List.flatMap channels (List.finRange channelCount))
    (funext fun channel => ?_)
  cases populated channel <;> rfl

theorem channel_numbers {channel : Fin channelCount} {number : Nat}
    (h : number ∈ if populated channel then [3 + 2 * channel.val, 4 + 2 * channel.val] else []) :
    number = 3 + 2 * channel.val ∨ number = 4 + 2 * channel.val := by
  cases hpopulated : populated channel with
  | false =>
    rw [hpopulated] at h
    cases h
  | true =>
    rw [hpopulated, if_pos rfl] at h
    simpa only [List.mem_cons, List.not_mem_nil, or_false] using h

theorem bindingNumbers_ascending (populated : PerChannel Bool) :
    (bindingNumbers populated).Pairwise (· < ·) := by
  refine List.pairwise_append.2 ⟨by decide, List.pairwise_flatMap.2 ⟨fun channel _ => ?_, ?_⟩, ?_⟩
  · cases populated channel with
    | false => exact List.Pairwise.nil
    | true => exact List.pairwise_pair.2 (by omega)
  · refine (List.pairwise_lt_finRange channelCount).imp fun {first second} hlt number hnumber => ?_
    intro other hother
    have hchannels : first.val < second.val := hlt
    have hfirst := channel_numbers hnumber
    have hsecond := channel_numbers hother
    omega
  · intro number hnumber other hother
    obtain ⟨channel, _, hchannel⟩ := List.mem_flatMap.1 hother
    have hlater := channel_numbers hchannel
    have hearly : ∀ number ∈ [0, 1, 2], number ≤ 2 := by decide
    have hbound := hearly number hnumber
    omega

end

/-! ### Resources for slots -/

def Resource.type : Resource → BindingType
  | .buffer _ => .uniformBuffer false none
  | .view _ => .texture true .d2 false
  | .sampler _ => .sampler .filtering

/-- The resource at this binding, and no other. -/
def BindGroup.Has (group : BindGroup) (number : Nat) (resource : Resource) : Prop :=
  ∀ other, (number, other) ∈ group.entries ↔ other = resource

theorem BindGroup.has_of_mem {group : BindGroup} {number : Nat} {resource : Resource}
    (h : (group.entries.map Prod.fst).Pairwise (· < ·))
    (hmem : (number, resource) ∈ group.entries) : group.Has number resource := by
  have hless := List.pairwise_iff_getElem.1 (List.pairwise_map.1 h)
  refine fun other => ⟨fun hother => ?_, fun heq => heq ▸ hmem⟩
  obtain ⟨i, hi, hresource⟩ := List.getElem_of_mem hmem
  obtain ⟨j, hj, hentry⟩ := List.getElem_of_mem hother
  obtain hij | rfl | hji := Nat.lt_trichotomy i j
  · have hnumbers := hless i j hi hj hij
    rw [hresource, hentry] at hnumbers
    exact absurd hnumbers (Nat.lt_irrefl number)
  · exact (Prod.mk.inj (hentry.symm.trans hresource)).2
  · have hnumbers := hless j i hj hi hji
    rw [hresource, hentry] at hnumbers
    exact absurd hnumbers (Nat.lt_irrefl number)

section

variable {uniforms : Uniforms} {textures : PerChannel (Option ChannelTexture)}

theorem textureOf_channel (textures : PerChannel (Option ChannelTexture))
    (channel : Fin channelCount) : textureOf? textures channel.val = textures channel :=
  dif_pos channel.isLt

theorem mem_groupEntries {slots : List BindingSlot} {slot : BindingSlot} {resource : Resource}
    (hslot : slot ∈ slots) (h : resourceFor? uniforms textures slot.kind = some resource) :
    (slot.binding, resource) ∈ groupEntries uniforms textures slots := by
  refine List.mem_filterMap.2 ⟨slot, hslot, ?_⟩
  rw [h]
  rfl

theorem slot_resource {slot : BindingSlot}
    (h : slot ∈ bindingSlots (PerChannel.occupancy textures)) :
    ∃ resource, resourceFor? uniforms textures slot.kind = some resource ∧
      resource.type = slot.kind.type := by
  obtain huniform | hchannel := List.mem_append.1 h
  · simp only [List.mem_cons, List.not_mem_nil, or_false] at huniform
    obtain rfl | rfl | rfl := huniform <;> exact ⟨_, rfl, rfl⟩
  · obtain ⟨channel, _, hslot⟩ := List.mem_flatMap.1 hchannel
    cases htexture : textures channel with
    | none => simp [PerChannel.occupancy, htexture] at hslot
    | some texture =>
      have hkept := (textureOf_channel textures channel).trans htexture
      simp only [PerChannel.occupancy, htexture, Option.isSome_some, if_true, channelSlots,
        List.mem_cons, List.not_mem_nil, or_false] at hslot
      obtain rfl | rfl := hslot
      · exact ⟨.view texture.texture, by simp only [resourceFor?, hkept, Option.map_some], rfl⟩
      · exact ⟨.sampler texture.sampler, by simp only [resourceFor?, hkept, Option.map_some], rfl⟩

theorem groupEntries_slots {slots : List BindingSlot} (h : ∀ slot ∈ slots, ∃ resource,
      resourceFor? uniforms textures slot.kind = some resource ∧
        resource.type = slot.kind.type) :
    (groupEntries uniforms textures slots).map
        (fun entry => ⟨entry.1, [.vertex, .fragment], entry.2.type, none⟩) =
      slots.map BindingSlot.entry := by
  induction slots with
  | nil => rfl
  | cons slot slots ih =>
    obtain ⟨⟨resource, hresource, htype⟩, hslots⟩ := List.forall_mem_cons.1 h
    have hfirst : groupEntries uniforms textures (slot :: slots) =
        (slot.binding, resource) :: groupEntries uniforms textures slots := by
      rw [groupEntries, List.filterMap_cons, hresource]
      rfl
    rw [hfirst, List.map_cons, List.map_cons, ih hslots, htype, BindingSlot.entry]

variable {canvas : CanvasSize} {resources : BoundResources}

theorem BoundResources.Fresh.typed (h : resources.Fresh canvas textures) :
    resources.layout.entries = resources.group.entries.map fun entry =>
      ⟨entry.1, [.vertex, .fragment], entry.2.type, none⟩ := by
  rw [h.layout, h.group, h.slots]
  exact (groupEntries_slots fun _ hslot => slot_resource hslot).symm

theorem BoundResources.Fresh.laidOut (h : resources.Fresh canvas textures) :
    resources.layout.entries.map (·.binding) =
      bindingNumbers (PerChannel.occupancy textures) := by
  rw [h.layout, List.map_map, h.slots]
  exact slots_numbers _

theorem BoundResources.Fresh.numbers (h : resources.Fresh canvas textures) :
    resources.group.entries.map Prod.fst = bindingNumbers (PerChannel.occupancy textures) := by
  rw [← h.laidOut, h.typed, List.map_map]
  rfl

theorem BoundResources.Fresh.has (h : resources.Fresh canvas textures) {slot : BindingSlot}
    {resource : Resource} (hslot : slot ∈ bindingSlots (PerChannel.occupancy textures))
    (hresource : resourceFor? resources.uniforms textures slot.kind = some resource) :
    resources.group.Has slot.binding resource := by
  have hascending := bindingNumbers_ascending (PerChannel.occupancy textures)
  refine BindGroup.has_of_mem (h.numbers ▸ hascending) ?_
  rw [h.group, h.slots]
  exact mem_groupEntries hslot hresource

end

/-! ### Names in the header -/

/-- The header declares the variable, and its name and its binding are unique. -/
structure Declares (textured : Bool) (declared : HeaderVariable) : Prop where
  line : ∃ above below, header textured = above ++ declared.declaration ++ below
  only {other : HeaderVariable} : other ∈ headerVariables textured →
    (other.name = declared.name ↔ other.binding = declared.binding)

theorem headerVariables_apart : ∀ textured, ∀ first ∈ headerVariables textured,
    ∀ second ∈ headerVariables textured,
      (first.name = second.name ↔ first.binding = second.binding) := by
  decide +kernel

theorem declares_of_mem {textured : Bool} {declared : HeaderVariable}
    (h : declared ∈ headerVariables textured) : Declares textured declared := by
  refine ⟨?_, fun hother => headerVariables_apart textured _ hother _ h⟩
  obtain ⟨above, below, hsplit⟩ := List.append_of_mem h
  refine ⟨"\n" ++ String.join (above.map (·.declaration)),
    String.join (below.map (·.declaration)), ?_⟩
  rw [header, hsplit, List.map_append, List.map_cons, String.join_append, String.join_cons,
    String.append_assoc, String.append_assoc]

/-- The header declares a variable, and the group binds this resource to it. -/
structure BoundAsDeclared (textured : Bool) (group : BindGroup) (declared : HeaderVariable)
    (resource : Resource) : Prop where
  declares : Declares textured declared
  has : group.Has declared.binding resource

/-! ### What is created -/

section

variable {before after : (backend frontEnd).State} {events : List (Event (backend frontEnd))}

end

/-! ### Stages -/

section

variable {B : Backend} {request : RenderRequest} {before after : B.State}
  {events : List (Event B)} {outcome : Except Stop (Assembly B)} {state : LoopState}

end

/-! ### Attempts -/

/-- Resources bound in an attempt. Layout and group have the same ascending indices, two for each
populated channel the shader samples. The variables of the header are bound to the uniform buffers,
and those of a channel to the texture with its image and to its sampler. -/
structure BoundByHeader (request : RenderRequest) (events : List (Event (backend frontEnd)))
    (resources : BoundResources) : Prop where
  compiled : ∃ compilation, .compile (compose request.source (needsTextures request.source))
    "user shader" compilation ∈ events
  created : ∃ device, ∀ call ∈ resources.creations, .note (.device device call) ∈ events
  grouped : resources.group.layout = resources.layout
  numbers : resources.group.entries.map Prod.fst = bindingNumbers request.textured
  laidOut : resources.layout.entries.map (·.binding) = bindingNumbers request.textured
  ascending : (bindingNumbers request.textured).Pairwise (· < ·)
  typed : resources.layout.entries = resources.group.entries.map fun entry =>
    ⟨entry.1, [.vertex, .fragment], entry.2.type, none⟩
  fresh : resources.uniforms.Fresh request.canvas
  resolution : BoundAsDeclared (needsTextures request.source) resources.group
    ⟨0, "<uniform>", "iResolution", "vec3<f32>"⟩ (.buffer resources.uniforms.resolution)
  time : BoundAsDeclared (needsTextures request.source) resources.group
    ⟨1, "<uniform>", "iTime", "f32"⟩ (.buffer resources.uniforms.time)
  pointer : BoundAsDeclared (needsTextures request.source) resources.group
    ⟨2, "<uniform>", "iMouse", "vec4<f32>"⟩ (.buffer resources.uniforms.pointer)
  channel (channel : Fin channelCount) (image : ChannelImage) :
    needsTextures request.source = true → request.channels channel = some image →
    ∃ loaded : ChannelTexture, .loadTexture channel image (.ok loaded) ∈ events ∧
      (∃ device, .note (.device device (.createTexture loaded.texture)) ∈ events ∧
        .note (.device device (.createSampler loaded.sampler)) ∈ events) ∧
      loaded.texture.image = image ∧
      BoundAsDeclared true resources.group
        ⟨3 + 2 * channel.val, "", s!"iChannel{channel.val}", "texture_2d<f32>"⟩
        (.view loaded.texture) ∧
      BoundAsDeclared true resources.group
        ⟨4 + 2 * channel.val, "", s!"iChannel{channel.val}Sampler", "sampler"⟩
        (.sampler loaded.sampler)

theorem BoundByHeader.among {request : RenderRequest}
    {events later : List (Event (backend frontEnd))} {resources : BoundResources}
    (h : BoundByHeader request events resources)
    (hlater : ∀ event ∈ events, event ∈ later) : BoundByHeader request later resources := by
  obtain ⟨compilation, hcompile⟩ := h.compiled
  obtain ⟨device, hcreated⟩ := h.created
  refine { h with
    compiled := ⟨compilation, hlater _ hcompile⟩
    created := ⟨device, fun call hcall => hlater _ (hcreated call hcall)⟩
    channel := fun channel image htextured himage => ?_ }
  obtain ⟨loaded, hload, ⟨maker, htexture, hsampler⟩, hbindings⟩ :=
    h.channel channel image htextured himage
  exact ⟨loaded, hlater _ hload, ⟨maker, hlater _ htexture, hlater _ hsampler⟩, hbindings⟩

section

variable {request : RenderRequest} {canvas : CanvasSize}
  {textures : PerChannel (Option ChannelTexture)} {result : Except Failure BoundResources}

end

end ShaderPreview.Graphics
