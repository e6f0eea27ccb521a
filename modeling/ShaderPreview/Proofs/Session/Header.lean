import ShaderPreview.Check.Report
import ShaderPreview.Proofs.Graphics.Identity
import ShaderPreview.Proofs.Shader.Reference
import ShaderPreview.Proofs.Text.Written

/-!
# Choice of the header

Classification, check and attempt choose the header by the same search for texture names. Sampler
names are not searched for.
-/

namespace ShaderPreview

open Graphics Text

/-- The identifier occurs in the source as a whole word. -/
def Mentions (source identifier : String) : Prop := WholeWord identifier.toList source.toList

def HeaderVariable.IsTexture (declared : HeaderVariable) : Prop :=
  declared.type = "texture_2d<f32>"

instance (declared : HeaderVariable) : Decidable declared.IsTexture :=
  inferInstanceAs (Decidable (declared.type = _))

theorem texture_named : ∀ texture ∈ headerVariables true, texture.IsTexture →
    texture.name.toList ∈ channelDigits.map textureName := by
  decide +kernel

theorem named_texture : ∀ name ∈ channelDigits.map textureName,
    ∃ texture ∈ headerVariables true, texture.IsTexture ∧ texture.name.toList = name := by
  decide +kernel

theorem needsTextures_mentions {source : String} : needsTextures source = true ↔
    ∃ texture ∈ headerVariables true, texture.IsTexture ∧ Mentions source texture.name := by
  rw [needsTextures_iff]
  constructor
  · rintro ⟨digit, hdigit, hfound⟩
    obtain ⟨texture, htexture, htype, hname⟩ := named_texture _ (List.mem_map_of_mem hdigit)
    rw [← hname] at hfound
    exact ⟨texture, htexture, htype, hfound⟩
  · rintro ⟨texture, htexture, htype, hmentioned⟩
    obtain ⟨digit, hdigit, hname⟩ := List.mem_map.1 (texture_named texture htexture htype)
    exact ⟨digit, hdigit, hname ▸ hmentioned⟩

/-! ### What the header declares -/

theorem toList_declaration (declared : HeaderVariable) : declared.declaration.toList =
    "@group(0) @binding(".toList ++ decimal declared.binding ++ ") var".toList ++
      declared.space.toList ++ " ".toList ++ declared.name.toList ++ ": ".toList ++
      declared.type.toList ++ ";\n".toList := by
  change (toString "@group(0) @binding(" ++ toString declared.binding ++ ") var" ++
    declared.space ++ " " ++ declared.name ++ ": " ++ declared.type ++ ";\n").toList = _
  simp only [String.toList_append, toList_toString]
  rfl

theorem channel_letter : ∀ declared ∈ headerVariables true, declared ∉ headerVariables false →
    'C' ∈ declared.name.toList := by
  decide +kernel

theorem uniform_letter : ∀ declared ∈ headerVariables false, 'C' ∉ declared.space.toList ∧
    'C' ∉ declared.name.toList ∧ 'C' ∉ declared.type.toList := by
  decide +kernel

theorem absent_letter : 'C' ∉ (header false).toList := by
  rw [header, String.toList_append, List.mem_append, String.toList_join, List.mem_flatMap]
  rintro (hbefore | ⟨line, hline, hletter⟩)
  · exact absurd hbefore (by decide)
  · obtain ⟨declared, hdeclared, rfl⟩ := List.mem_map.1 hline
    obtain ⟨hspace, hname, htype⟩ := uniform_letter declared hdeclared
    have hbinding : 'C' ∉ decimal declared.binding := fun hc =>
      absurd (decimal_ascii _ _ hc) (by decide)
    have hfixed : 'C' ∉ "@group(0) @binding(".toList ∧ 'C' ∉ ") var".toList ∧
        'C' ∉ " ".toList ∧ 'C' ∉ ": ".toList ∧ 'C' ∉ ";\n".toList := by decide
    rw [toList_declaration] at hletter
    simp only [List.mem_append, hspace, hname, htype, hbinding, hfixed, or_false] at hletter

theorem declares_iff {declared : HeaderVariable} (hfull : declared ∈ headerVariables true)
    (hminimal : declared ∉ headerVariables false) {textured : Bool} :
    Declares textured declared ↔ textured = true := by
  constructor
  · intro h
    obtain ⟨above, below, hline⟩ := h.line
    cases textured with
    | true => rfl
    | false =>
      have hletter : 'C' ∈ (header false).toList := by
        rw [hline, String.toList_append, String.toList_append, toList_declaration]
        simp only [List.mem_append, channel_letter declared hfull hminimal, true_or, or_true]
      exact absurd hletter absent_letter
  · rintro rfl
    exact declares_of_mem hfull

/-! ### Who reads the source -/

/-- Classification, check and attempt all use the same header: the front end classifies the composed
source, the check diagnoses it unless the classification rejects it, and an attempt compiles it. -/
structure ReadBelow (frontEnd : FrontEnd) (source : String) (textured : Bool) : Prop where
  classified : frontEnd.classify source =
    match frontEnd.parse (compose source textured).text with
    | .error complaint => .unparsed (compose source textured) complaint
    | .ok parsed => .ofEntryPoints (frontEnd.entryPoints parsed)
  checked (path : Path) : (frontEnd.check path source).errors =
    if (frontEnd.classify source).isRenderable then frontEnd.diagnose (compose source textured)
    else Diagnostic.normalize (frontEnd.classify source).complaint 0
  reported (path : Path) : (frontEnd.check path source).kind = (frontEnd.classify source).kind ∧
    (frontEnd.check path source).entryPoints = (frontEnd.classify source).entryPoints ∧
    (frontEnd.check path source).warnings = (frontEnd.classify source).warnings
  compiled {B : Backend} {H : FrameHost} (loop : RenderLoop B H) (request : RenderRequest)
      (now : Nat) : request.source = source →
    ∃ events, (loop.start frontEnd request now).trace = loop.retire.trace ++ events ∧
      ∀ other result, .compile other "user shader" result ∈ events →
        other = compose source textured

section

variable (frontEnd : FrontEnd) (source : String)

theorem start_compiles {B : Backend} {H : FrameHost} (loop : RenderLoop B H)
    (request : RenderRequest) (now : Nat) :
    ∃ events, (loop.start frontEnd request now).trace = loop.retire.trace ++ events ∧
      ∀ other result, .compile other "user shader" result ∈ events →
        other = compose request.source (needsTextures request.source) := by
  obtain ⟨turn, events, hturn, htrace, hends⟩ := loop.start_ends frontEnd request now
  refine ⟨turn ++ events, htrace, fun other result hcompile => ?_⟩
  have hplanned := (ends_calls hturn hends).2.subset (mem_calls hcompile rfl)
  by_cases hkind : (frontEnd.classify request.source).kind = .fragmentOnly <;>
    simpa [RenderRequest.plan, RenderRequest.stageCalls, compileCalls, RenderRequest.bindCalls,
      hkind] using hplanned

theorem readBelow_needsTextures : ReadBelow frontEnd source (needsTextures source) where
  classified := rfl
  checked _ := rfl
  reported _ := ⟨rfl, rfl, rfl⟩
  compiled loop request now hsource := hsource ▸ start_compiles frontEnd loop request now

end

/-- For a source that mentions a variable of the full header: if it is a texture, the full header is
used; if it is a sampler, the full header is used exactly if some texture is mentioned too.
Classification, check and attempt agree on the header. -/
theorem header_follows_textures (frontEnd : FrontEnd) {source : String} {declared : HeaderVariable}
    (hfull : declared ∈ headerVariables true) (hminimal : declared ∉ headerVariables false)
    (hmentioned : Mentions source declared.name) :
    (declared.IsTexture → needsTextures source = true) ∧
    (needsTextures source = true ↔
      ∃ texture ∈ headerVariables true, texture.IsTexture ∧ Mentions source texture.name) ∧
    (Declares (needsTextures source) declared ↔ needsTextures source = true) ∧
    ReadBelow frontEnd source (needsTextures source) := by
  refine ⟨fun htexture => ?_, needsTextures_mentions, declares_iff hfull hminimal,
    readBelow_needsTextures frontEnd source⟩
  exact needsTextures_mentions.2 ⟨declared, hfull, htexture, hmentioned⟩

/-- The sampler of a channel is declared if the source mentions its texture. A source that uses the
sampler with a texture of its own gets no declaration. -/
theorem header_follows_textures_sampler :
    let sampler : HeaderVariable := ⟨8, "", "iChannel2Sampler", "sampler"⟩
    let beside := "textureSample(iChannel2, iChannel2Sampler, uv)"
    let alone := "textureSample(noise, iChannel2Sampler, uv)"
    (Mentions beside sampler.name ∧ Declares (needsTextures beside) sampler) ∧
      (Mentions alone sampler.name ∧ needsTextures alone = false ∧
        ¬ Declares (needsTextures alone) sampler) := by
  intro sampler beside alone
  have hfull : sampler ∈ headerVariables true := by decide +kernel
  have hminimal : sampler ∉ headerVariables false := by decide +kernel
  have hbeside : Mentions beside sampler.name :=
    ⟨"textureSample(iChannel2, ".toList, ", uv)".toList, by decide +kernel⟩
  have halone : Mentions alone sampler.name :=
    ⟨"textureSample(noise, ".toList, ", uv)".toList, by decide +kernel⟩
  have hasked : needsTextures beside = true := by decide +kernel
  have hnot : needsTextures alone = false := by decide +kernel
  obtain ⟨_, _, hdeclared, _⟩ :=
    header_follows_textures Wgsl.frontEnd hfull hminimal hbeside
  obtain ⟨_, _, hundeclared, _⟩ :=
    header_follows_textures Wgsl.frontEnd hfull hminimal halone
  refine ⟨⟨hbeside, hdeclared.2 hasked⟩, halone, hnot, fun h => ?_⟩
  rw [hundeclared.1 h] at hnot
  cases hnot

end ShaderPreview
